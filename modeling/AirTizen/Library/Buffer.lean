import Mathlib.Data.List.Basic
import Mathlib.Data.UInt
import Mathlib.Tactic.Ring

/-!
# Buffers with checked access

A buffer is the list of its cells.  Loads and stores outside of it fail, so a
program over these operations that succeeds has stayed inside.  Numbers are laid
out in network byte order.
-/

universe u

namespace Buffer

variable {Cell : Type u}

/-- `buffer[index]`. -/
def load (buffer : List Cell) (index : Nat) : Option Cell := buffer[index]?

/-- The source side of `memcpy(_, buffer+index, count)`. -/
def loadMany (buffer : List Cell) (index count : Nat) : Option (List Cell) :=
  if index + count ≤ buffer.length then some ((buffer.drop index).take count) else none

/-- The target side of `memcpy(buffer+index, cells, _)`. -/
def store (buffer : List Cell) (index : Nat) (cells : List Cell) : Option (List Cell) :=
  if index + cells.length ≤ buffer.length then
    some (buffer.take index ++ cells ++ buffer.drop (index + cells.length))
  else none

theorem load_append (front back : List Cell) (offset : Nat) :
    load (front ++ back) (front.length + offset) = back[offset]? := by
  rw [load, List.getElem?_append_right (Nat.le_add_right _ _), Nat.add_sub_cancel_left]

theorem loadMany_append (front back : List Cell) {count : Nat} (inside : count ≤ back.length) :
    loadMany (front ++ back) front.length count = some (back.take count) := by
  have fits : front.length + count ≤ (front ++ back).length := by
    rw [List.length_append]
    exact Nat.add_le_add_left inside _
  rw [loadMany, if_pos fits, List.drop_left]

theorem loadMany_rest (front back : List Cell) {index : Nat} (inside : index ≤ front.length) :
    loadMany (front ++ back) index (front.length - index) = some (front.drop index) := by
  have fits : index + (front.length - index) ≤ (front ++ back).length := by
    rw [List.length_append]
    omega
  rw [loadMany, if_pos fits, List.drop_append_of_le_length inside,
    List.take_left' List.length_drop]

theorem loadMany_length {buffer cells : List Cell} {index count : Nat}
    (loaded : loadMany buffer index count = some cells) : cells.length = count := by
  unfold loadMany at loaded
  split at loaded
  next inside =>
    cases loaded
    rw [List.length_take, List.length_drop]
    omega
  · cases loaded

theorem loadMany_inside {buffer cells : List Cell} {index count : Nat}
    (loaded : loadMany buffer index count = some cells) : index + count ≤ buffer.length := by
  unfold loadMany at loaded
  split at loaded
  · assumption
  · cases loaded

theorem store_append (front back cells : List Cell) (inside : cells.length ≤ back.length) :
    store (front ++ back) front.length cells =
      some (front ++ (cells ++ back.drop cells.length)) := by
  have fits : front.length + cells.length ≤ (front ++ back).length := by
    rw [List.length_append]
    exact Nat.add_le_add_left inside _
  rw [store, if_pos fits, List.take_left, List.drop_append, List.append_assoc,
    List.drop_of_length_le (Nat.le_add_right _ _), List.nil_append, Nat.add_sub_cancel_left]

end Buffer

/-! ## Network byte order -/

namespace Octets

/-- The number in so many bytes, the most significant one first. -/
def ofNat : Nat → Nat → List UInt8
  | 0, _ => []
  | width + 1, number => UInt8.ofNat (number / 256 ^ width) :: ofNat width number

def toNat : List UInt8 → Nat
  | [] => 0
  | byte :: rest => byte.toNat * 256 ^ rest.length + toNat rest

@[simp]
theorem length_ofNat (width number : Nat) : (ofNat width number).length = width := by
  induction width with
  | zero => rfl
  | succ width inductionHypothesis => simp [ofNat, inductionHypothesis]

theorem toNat_lt (bytes : List UInt8) : toNat bytes < 256 ^ bytes.length := by
  induction bytes with
  | nil => exact Nat.one_pos
  | cons byte rest inductionHypothesis =>
      have small : byte.toNat + 1 ≤ 256 := byte.toNat_lt
      rw [toNat, List.length_cons, Nat.pow_succ']
      calc byte.toNat * 256 ^ rest.length + toNat rest
          < byte.toNat * 256 ^ rest.length + 256 ^ rest.length := by
            exact Nat.add_lt_add_left inductionHypothesis _
        _ = (byte.toNat + 1) * 256 ^ rest.length := by ring
        _ ≤ 256 * 256 ^ rest.length := Nat.mul_le_mul_right _ small

theorem toNat_ofNat (width number : Nat) : toNat (ofNat width number) = number % 256 ^ width := by
  induction width with
  | zero => simp [ofNat, toNat, Nat.mod_one]
  | succ width inductionHypothesis =>
      have digit : (UInt8.ofNat (number / 256 ^ width)).toNat = number / 256 ^ width % 256 := by
        simp
      rw [ofNat, toNat, inductionHypothesis, length_ofNat, digit, Nat.pow_succ, Nat.mod_mul]
      ring

theorem ofNat_mod (width number : Nat) : ofNat width (number % 256 ^ width) = ofNat width number := by
  induction width generalizing number with
  | zero => rfl
  | succ width inductionHypothesis =>
      have low : number % 256 ^ (width + 1) % 256 ^ width = number % 256 ^ width := by
        rw [Nat.pow_succ]
        exact Nat.mod_mul_right_mod number _ 256
      have digit : number % 256 ^ (width + 1) / 256 ^ width = number / 256 ^ width % 256 := by
        rw [Nat.pow_succ, Nat.mod_mul_right_div_self]
      rw [ofNat, ofNat, digit, ← inductionHypothesis (number % 256 ^ (width + 1)), low,
        inductionHypothesis]
      congr 1
      apply UInt8.toNat_inj.mp
      simp

theorem ofNat_toNat (bytes : List UInt8) : ofNat bytes.length (toNat bytes) = bytes := by
  induction bytes with
  | nil => rfl
  | cons byte rest inductionHypothesis =>
      have positive : 0 < 256 ^ rest.length := Nat.pow_pos (by decide)
      have high : (byte.toNat * 256 ^ rest.length + toNat rest) / 256 ^ rest.length =
          byte.toNat := by
        rw [Nat.mul_comm, Nat.mul_add_div positive, Nat.div_eq_of_lt (toNat_lt rest),
          Nat.add_zero]
      have low : (byte.toNat * 256 ^ rest.length + toNat rest) % 256 ^ rest.length =
          toNat rest := by
        rw [Nat.mul_comm, Nat.mul_add_mod, Nat.mod_eq_of_lt (toNat_lt rest)]
      rw [List.length_cons, ofNat, toNat, high, ← ofNat_mod, low, inductionHypothesis]
      congr 1
      apply UInt8.toNat_inj.mp
      simp

end Octets

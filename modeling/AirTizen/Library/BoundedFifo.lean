import AirTizen.Library.RetainedLog

/-!
# Bounded queues and circular buffers

A bounded queue takes what fits at its end and gives away what it holds from
its front.  A circular buffer is an array that holds `count` values from the
position `start` on, around its end.
-/

universe u

@[ext]
structure BoundedFifo (capacity : Nat) (α : Type u) where
  held : List α
  bounded : held.length ≤ capacity

namespace BoundedFifo

variable {α : Type u} {capacity : Nat}

def empty : BoundedFifo capacity α := ⟨[], Nat.zero_le _⟩

/-- As many of the values as there is room for. -/
def accepted (fifo : BoundedFifo capacity α) (values : List α) : List α :=
  values.take (capacity - fifo.held.length)

def offer (fifo : BoundedFifo capacity α) (values : List α) : BoundedFifo capacity α where
  held := fifo.held ++ fifo.accepted values
  bounded := by
    have := fifo.bounded
    simp only [accepted, List.length_append, List.length_take]
    omega

def front (fifo : BoundedFifo capacity α) (wanted : Nat) : List α := fifo.held.take wanted

def dropFront (fifo : BoundedFifo capacity α) (wanted : Nat) : BoundedFifo capacity α where
  held := fifo.held.drop wanted
  bounded := (List.drop_sublist _ _).length_le.trans fifo.bounded

theorem front_append_dropFront (fifo : BoundedFifo capacity α) (wanted : Nat) :
    fifo.front wanted ++ (fifo.dropFront wanted).held = fifo.held :=
  List.take_append_drop _ _

end BoundedFifo

namespace Circular

open SlotRing

variable {α : Type u} {size : Nat} [NeZero size]

def contents (cells : Fin size → α) (start count : Nat) : List α :=
  (List.range count).map fun offset => cells (index size (start + offset))

def fill (cells : Fin size → α) (position : Nat) (value : Nat → α) (count : Nat) : Fin size → α :=
  (List.range count).foldl
    (fun cells offset => Function.update cells (index size (position + offset)) (value offset))
    cells

@[simp]
theorem contents_length (cells : Fin size → α) (start count : Nat) :
    (contents cells start count).length = count := by
  simp [contents]

theorem contents_mod (cells : Fin size → α) (start count : Nat) :
    contents cells (start % size) count = contents cells start count := by
  unfold contents
  apply List.map_congr_left
  intro offset _
  congr 1
  rw [index_eq_iff, Nat.mod_add_mod]

theorem fill_succ (cells : Fin size → α) (position : Nat) (value : Nat → α) (count : Nat) :
    fill cells position value (count + 1) =
      Function.update (fill cells position value count) (index size (position + count))
        (value count) := by
  simp [fill, List.range_succ]

/-- Values written behind the others lie behind them, as long as they fit. -/
theorem contents_fill (cells : Fin size → α) (start count : Nat) (value : Nat → α) (added : Nat)
    (fits : count + added ≤ size) :
    contents (fill cells (start + count) value added) start (count + added) =
      contents cells start count ++ (List.range added).map value := by
  induction added with
  | zero => simp [fill]
  | succ added inductionHypothesis =>
      have before := inductionHypothesis (by omega)
      have elsewhere : ∀ offset < count + added,
          index size (start + offset) ≠ index size (start + count + added) := by
        intro offset earlier same
        rw [index_eq_iff] at same
        have divides := (Nat.modEq_iff_dvd' (by omega)).mp same
        have reaches := Nat.le_of_dvd (by omega) divides
        omega
      rw [List.range_succ, List.map_append, List.map_singleton, ← List.append_assoc, ← before,
        ← Nat.add_assoc, fill_succ]
      unfold contents
      rw [List.range_succ, List.map_append, List.map_singleton]
      congr 1
      · apply List.map_congr_left
        intro offset membership
        exact Function.update_of_ne (elsewhere offset (List.mem_range.mp membership)) _ _
      · rw [← Nat.add_assoc, Function.update_self]

theorem contents_take (cells : Fin size → α) (start : Nat) {wanted count : Nat}
    (held : wanted ≤ count) :
    (contents cells start count).take wanted = contents cells start wanted := by
  unfold contents
  rw [← List.map_take, List.take_range, Nat.min_eq_left held]

theorem contents_drop (cells : Fin size → α) (start : Nat) {dropped count : Nat}
    (held : dropped ≤ count) :
    (contents cells start count).drop dropped = contents cells (start + dropped) (count - dropped) := by
  apply List.ext_getElem?
  intro offset
  by_cases inside : dropped + offset < count
  · have behind : offset < count - dropped := by omega
    simp [contents, behind, Nat.add_assoc]
  · have beyond : ¬ offset < count - dropped := by omega
    simp [contents, beyond]

end Circular

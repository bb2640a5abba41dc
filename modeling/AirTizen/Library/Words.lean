import Mathlib.Data.UInt
import Mathlib.Tactic.IntervalCases
import AirTizen.Library.Text

/-!
# Bytes in words

Four bytes make a word, the most significant one first.  Exclusive or, masks and
rotations of words are what they do to the bytes.
-/

universe u v

namespace Words

/-- Four of a kind: the bytes of a word, or the words of a block. -/
structure Quad (α : Type u) where
  at0 : α
  at1 : α
  at2 : α
  at3 : α
  deriving DecidableEq, Repr

namespace Quad

variable {α : Type u} {β : Type v}

@[ext]
theorem ext {left right : Quad α} (same0 : left.at0 = right.at0) (same1 : left.at1 = right.at1)
    (same2 : left.at2 = right.at2) (same3 : left.at3 = right.at3) : left = right := by
  cases left
  cases right
  rw [Quad.mk.injEq]
  exact ⟨same0, same1, same2, same3⟩

def map (f : α → β) (quad : Quad α) : Quad β :=
  ⟨f quad.at0, f quad.at1, f quad.at2, f quad.at3⟩

def ofFn (f : Nat → α) : Quad α := ⟨f 0, f 1, f 2, f 3⟩

def toList (quad : Quad α) : List α := [quad.at0, quad.at1, quad.at2, quad.at3]

instance [XorOp α] : XorOp (Quad α) where
  xor left right :=
    ⟨left.at0 ^^^ right.at0, left.at1 ^^^ right.at1, left.at2 ^^^ right.at2,
      left.at3 ^^^ right.at3⟩

@[simp]
theorem xor_mk [XorOp α] (left0 left1 left2 left3 right0 right1 right2 right3 : α) :
    (⟨left0, left1, left2, left3⟩ : Quad α) ^^^ ⟨right0, right1, right2, right3⟩ =
      ⟨left0 ^^^ right0, left1 ^^^ right1, left2 ^^^ right2, left3 ^^^ right3⟩ := rfl

@[simp]
theorem map_mk (f : α → β) (first second third fourth : α) :
    map f ⟨first, second, third, fourth⟩ = ⟨f first, f second, f third, f fourth⟩ := rfl

@[simp]
theorem length_toList (quad : Quad α) : quad.toList.length = 4 := rfl

@[simp]
theorem map_ofFn (f : α → β) (g : Nat → α) : (ofFn g).map f = ofFn fun index => f (g index) :=
  rfl

theorem map_map {γ : Type*} (f : α → β) (g : β → γ) (quad : Quad α) :
    (quad.map f).map g = quad.map fun value => g (f value) := rfl

theorem xor_cancel [XorOp α] (cancel : ∀ value key : α, value ^^^ key ^^^ key = value)
    (quad key : Quad α) : quad ^^^ key ^^^ key = quad := by
  cases quad
  cases key
  simp only [xor_mk, cancel]

theorem map_xor [XorOp α] [XorOp β] {f : α → β}
    (additive : ∀ left right, f (left ^^^ right) = f left ^^^ f right) (left right : Quad α) :
    (left ^^^ right).map f = left.map f ^^^ right.map f := by
  cases left
  cases right
  simp only [xor_mk, map_mk, additive]

end Quad

/-! ## Words and their bytes -/

def word (bytes : Quad UInt8) : UInt32 :=
  bytes.at0.toUInt32 <<< 24 ||| bytes.at1.toUInt32 <<< 16 ||| bytes.at2.toUInt32 <<< 8 |||
    bytes.at3.toUInt32

/-- The bytes of a word, the most significant one first. -/
def octets (word : UInt32) : Quad UInt8 :=
  ⟨(word >>> 24).toUInt8, (word >>> 16).toUInt8, (word >>> 8).toUInt8, word.toUInt8⟩

@[simp]
theorem octets_word (bytes : Quad UInt8) : octets (word bytes) = bytes := by
  obtain ⟨first, second, third, fourth⟩ := bytes
  simp only [octets, word, Quad.mk.injEq, ← UInt8.toBitVec_inj]
  refine ⟨?_, ?_, ?_, ?_⟩
  all_goals
    apply BitVec.eq_of_getLsbD_eq
    intro index small
    simp [small] <;> grind

theorem octets_injective {first second : UInt32} (same : octets first = octets second) :
    first = second := by
  simp only [octets, Quad.mk.injEq, ← UInt8.toBitVec_inj] at same
  obtain ⟨same0, same1, same2, same3⟩ := same
  apply UInt32.toBitVec_inj.mp
  apply BitVec.eq_of_getLsbD_eq
  intro index small
  have bit0 := congrArg (BitVec.getLsbD · (index - 24)) same0
  have bit1 := congrArg (BitVec.getLsbD · (index - 16)) same1
  have bit2 := congrArg (BitVec.getLsbD · (index - 8)) same2
  have bit3 := congrArg (BitVec.getLsbD · index) same3
  simp at bit0 bit1 bit2 bit3
  grind

@[simp]
theorem word_octets (value : UInt32) : word (octets value) = value :=
  octets_injective (octets_word _)

theorem octets_xor (left right : UInt32) :
    octets (left ^^^ right) = octets left ^^^ octets right := by
  simp [octets, UInt32.shiftRight_xor]

theorem octets_and (left right : UInt32) :
    octets (left &&& right) =
      ⟨(octets left).at0 &&& (octets right).at0, (octets left).at1 &&& (octets right).at1,
        (octets left).at2 &&& (octets right).at2, (octets left).at3 &&& (octets right).at3⟩ := by
  simp [octets, UInt32.shiftRight_and]

def rotate (bytes : Quad UInt8) : Quad UInt8 := ⟨bytes.at3, bytes.at0, bytes.at1, bytes.at2⟩

theorem octets_rotate (value : UInt32) :
    octets (value <<< 24 ||| value >>> 8) = rotate (octets value) := by
  simp only [octets, rotate, Quad.mk.injEq, ← UInt8.toBitVec_inj]
  refine ⟨?_, ?_, ?_, ?_⟩
  all_goals
    apply BitVec.eq_of_getLsbD_eq
    intro index small
    simp [small] <;> grind

theorem octets_rotate_twice (value : UInt32) :
    octets (value <<< 16 ||| value >>> 16) = rotate (rotate (octets value)) := by
  simp only [octets, rotate, Quad.mk.injEq, ← UInt8.toBitVec_inj]
  refine ⟨?_, ?_, ?_, ?_⟩
  all_goals
    apply BitVec.eq_of_getLsbD_eq
    intro index small
    simp [small] <;> grind

theorem octets_rotate_left (value : UInt32) :
    octets (value <<< 8 ||| value >>> 24) = rotate (rotate (rotate (octets value))) := by
  simp only [octets, rotate, Quad.mk.injEq, ← UInt8.toBitVec_inj]
  refine ⟨?_, ?_, ?_, ?_⟩
  all_goals
    apply BitVec.eq_of_getLsbD_eq
    intro index small
    simp [small] <;> grind

theorem octets_double (value : UInt32) :
    octets (value + value &&& 0xfefefefe) = (octets value).map fun byte : UInt8 => byte <<< 1 := by
  have shifted : value + value = value <<< 1 := by
    apply UInt32.toBitVec_inj.mp
    apply BitVec.eq_of_toNat_eq
    simp [Nat.shiftLeft_eq]
    omega
  rw [shifted, octets_and]
  simp only [octets, Quad.map_mk, Quad.mk.injEq, ← UInt8.toBitVec_inj]
  refine ⟨?_, ?_, ?_, ?_⟩
  all_goals
    apply BitVec.eq_of_getLsbD_eq
    intro index small
    interval_cases index
    all_goals simp

theorem high_bits (value : UInt32) :
    value &&& 0x80808080 =
      word ((octets value).map fun byte => if byte.toBitVec.msb then 0x80 else 0) := by
  have masked : ∀ byte : UInt8, byte &&& 0x80 = if byte.toBitVec.msb then (0x80 : UInt8) else 0 :=
    CText.forall_byte (by decide +kernel)
  apply octets_injective
  rw [octets_and, octets_word]
  simp only [Quad.map, ← masked]
  rfl

/-! ## Blocks -/

open CText

def block (data : Bytes) : Quad (Quad UInt8) :=
  Quad.ofFn fun column => Quad.ofFn fun row => data.getD (4 * column + row) 0

def bytes (block : Quad (Quad UInt8)) : Bytes := block.toList.flatMap Quad.toList

@[simp]
theorem length_bytes (block : Quad (Quad UInt8)) : (bytes block).length = 16 := rfl

@[simp]
theorem block_bytes_append (first : Quad (Quad UInt8)) (rest : Bytes) :
    block (bytes first ++ rest) = first := rfl

theorem block_bytes (first : Quad (Quad UInt8)) : block (bytes first) = first := rfl

theorem bytes_block {data : Bytes} (sized : data.length = 16) : bytes (block data) = data := by
  apply List.ext_getElem
  · rw [length_bytes, sized]
  · intro index inside _
    rw [length_bytes] at inside
    interval_cases index
    all_goals simp [bytes, block, Quad.ofFn, Quad.toList, sized]

theorem block_append {data : Bytes} (sized : data.length = 16) (rest : Bytes) :
    block (data ++ rest) = block data := by
  rw [← bytes_block sized, block_bytes_append, block_bytes]

def blocks (data : Bytes) : List (Quad (Quad UInt8)) :=
  (List.range (data.length / 16)).map fun index => block (data.drop (16 * index))

theorem blocks_short {data : Bytes} (short : data.length < 16) : blocks data = [] := by
  rw [blocks, Nat.div_eq_of_lt short]
  rfl

theorem blocks_append {data : Bytes} (sized : data.length = 16) (rest : Bytes) :
    blocks (data ++ rest) = block data :: blocks rest := by
  have count : (data ++ rest).length / 16 = rest.length / 16 + 1 := by
    rw [List.length_append, sized, Nat.add_div_left _ (by decide)]
  rw [blocks, blocks, count, List.range_succ_eq_map, List.map_cons, List.map_map]
  congr 1
  · exact block_append sized rest
  · apply List.map_congr_left
    intro index _
    dsimp only [Function.comp_apply]
    rw [Nat.mul_succ, Nat.add_comm, ← List.drop_drop, ← sized, List.drop_left]

theorem blocks_flatMap (written : List (Quad (Quad UInt8))) :
    blocks (written.flatMap bytes) = written := by
  induction written with
  | nil => rfl
  | cons first rest inductionHypothesis =>
      rw [List.flatMap_cons, blocks_append (length_bytes first), inductionHypothesis, block_bytes]

theorem flatMap_blocks (data : Bytes) :
    (blocks data).flatMap bytes = data.take (data.length / 16 * 16) := by
  induction data using WellFounded.induction (measure List.length).wf with
  | _ data inductionHypothesis =>
      by_cases short : data.length < 16
      · rw [blocks_short short, Nat.div_eq_of_lt short]
        rfl
      · have sized : (data.take 16).length = 16 :=
          List.length_take_of_le (Nat.not_lt.mp short)
        have shorter : (data.drop 16).length < data.length := by
          rw [List.length_drop]
          omega
        have count : data.length / 16 * 16 = 16 + (data.drop 16).length / 16 * 16 := by
          rw [List.length_drop]
          omega
        conv_lhs => rw [← List.take_append_drop 16 data]
        rw [blocks_append sized, List.flatMap_cons, bytes_block sized,
          inductionHypothesis _ shorter, count, List.take_add]

end Words

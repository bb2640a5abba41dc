import Mathlib.Data.List.Basic
import Mathlib.Logic.Function.Iterate
import AirTizen.Library.Text

/-!
# Key streams

A counter makes blocks of bytes, and the bytes of one block after the other are combined
with a text.  How the text is cut into pieces does not matter, whether a piece ends at
the end of a block or inside of it.
-/

universe u

namespace KeyStream

open CText

/-- Blocks of one size, made from a counter that goes on after every block. -/
structure Source (Counter : Type u) where
  width : Nat
  positive : 0 < width
  block : Counter → Bytes
  advance : Counter → Counter

variable {Counter : Type u}

def Source.byteAt (source : Source Counter) (start : Counter) (index : Nat) : UInt8 :=
  (source.block (source.advance^[index / source.width] start)).getD (index % source.width) 0

def Source.combine (source : Source Counter) (start : Counter) (used : Nat) (text : Bytes) :
    Bytes :=
  text.mapIdx fun index byte => byte ^^^ source.byteAt start (used + index)

@[simp]
theorem Source.length_combine (source : Source Counter) (start : Counter) (used : Nat)
    (text : Bytes) : (source.combine start used text).length = text.length :=
  List.length_mapIdx

theorem Source.combine_cons (source : Source Counter) (start : Counter) (used : Nat)
    (byte : UInt8) (text : Bytes) :
    source.combine start used (byte :: text) =
      (byte ^^^ source.byteAt start used) :: source.combine start (used + 1) text := by
  rw [combine, combine, List.mapIdx_cons, Nat.add_zero]
  congr 2
  funext index other
  rw [Nat.add_right_comm, Nat.add_assoc]

theorem Source.combine_append (source : Source Counter) (start : Counter) (used : Nat)
    (before after : Bytes) :
    source.combine start used (before ++ after) =
      source.combine start used before ++
        source.combine start (used + before.length) after := by
  induction before generalizing used with
  | nil => rfl
  | cons byte rest inductionHypothesis =>
      rw [List.cons_append, combine_cons, combine_cons, inductionHypothesis,
        List.length_cons, List.cons_append, Nat.add_assoc, Nat.add_comm 1]

/-! ## The generator -/

/-- The next counter, and the block in use with the bytes that are left of it. -/
structure Generator (Counter : Type u) where
  counter : Counter
  block : Bytes
  available : Nat

def Generator.refill (source : Source Counter) (generator : Generator Counter) :
    Generator Counter :=
  if generator.available = 0 then
    { counter := source.advance generator.counter
      block := source.block generator.counter
      available := source.width }
  else generator

def Generator.current (source : Source Counter) (generator : Generator Counter) : UInt8 :=
  generator.block.getD (source.width - generator.available) 0

def Generator.drop (generator : Generator Counter) : Generator Counter :=
  { generator with available := generator.available - 1 }

def Generator.apply (source : Source Counter) :
    Generator Counter → Bytes → Bytes × Generator Counter
  | generator, [] => ([], generator)
  | generator, byte :: rest =>
      let generator := generator.refill source
      let (combined, after) := apply source generator.drop rest
      ((byte ^^^ generator.current source) :: combined, after)

theorem Generator.apply_append (source : Source Counter) (generator : Generator Counter)
    (before after : Bytes) :
    generator.apply source (before ++ after) =
      ((generator.apply source before).1 ++
          ((generator.apply source before).2.apply source after).1,
        ((generator.apply source before).2.apply source after).2) := by
  induction before generalizing generator with
  | nil => rfl
  | cons byte rest inductionHypothesis =>
      dsimp only [List.cons_append, Generator.apply]
      rw [inductionHypothesis]

theorem Generator.refill_refill (source : Source Counter) (generator : Generator Counter) :
    (generator.refill source).refill source = generator.refill source := by
  by_cases empty : generator.available = 0
  · have filled : (generator.refill source).available ≠ 0 := by
      rw [refill, if_pos empty]
      exact Nat.ne_of_gt source.positive
    rw [refill, if_neg filled]
  · rw [refill, refill, if_neg empty, if_neg empty]

theorem Generator.apply_refill (source : Source Counter) (generator : Generator Counter)
    {text : Bytes} (some : text ≠ []) :
    (generator.refill source).apply source text = generator.apply source text := by
  cases text with
  | nil => exact absurd rfl some
  | cons byte rest =>
      dsimp only [Generator.apply]
      rw [refill_refill]

theorem Generator.apply_within (source : Source Counter) {generator : Generator Counter}
    {text : Bytes} (within : text.length ≤ generator.available)
    (sized : generator.available ≤ source.width) :
    generator.apply source text =
      (text.mapIdx fun index byte =>
          byte ^^^ generator.block.getD (source.width - generator.available + index) 0,
        { generator with available := generator.available - text.length }) := by
  induction text generalizing generator with
  | nil => rfl
  | cons byte rest inductionHypothesis =>
      rw [List.length_cons] at within
      have left : ¬ generator.available = 0 := by omega
      have next := @inductionHypothesis generator.drop (Nat.le_sub_of_add_le within)
        (Nat.le_trans (Nat.sub_le _ _) sized)
      dsimp only [Generator.apply]
      rw [refill, if_neg left, next, List.mapIdx_cons, List.length_cons]
      dsimp only [Generator.drop, current]
      have offset : ∀ index, source.width - (generator.available - 1) + index =
          source.width - generator.available + (index + 1) := by omega
      simp only [offset, Nat.add_zero, Nat.sub_sub, Nat.add_comm 1]

/-- A block of zeros shows the next block of the stream. -/
theorem Generator.apply_zeros {source : Source Counter} {generator : Generator Counter}
    (empty : generator.available = 0)
    (sized : (source.block generator.counter).length = source.width) :
    generator.apply source (List.replicate source.width 0) =
      (source.block generator.counter,
        { counter := source.advance generator.counter
          block := source.block generator.counter
          available := 0 }) := by
  have some : List.replicate source.width (0 : UInt8) ≠ [] := fun none =>
    Nat.ne_of_gt source.positive (by simpa using congrArg List.length none)
  have filled : generator.refill source =
      { counter := source.advance generator.counter
        block := source.block generator.counter
        available := source.width } := if_pos empty
  have within : (List.replicate source.width (0 : UInt8)).length ≤ source.width :=
    Nat.le_of_eq List.length_replicate
  have whole := @apply_within _ source (generator.refill source) _
    (by rw [filled]; exact within) (by rw [filled])
  rw [apply_refill source generator some, filled] at whole
  rw [whole]
  refine Prod.ext (List.ext_getElem ?_ ?_) ?_
  · rw [List.length_mapIdx, List.length_replicate, sized]
  · intro index _ inside
    dsimp only
    rw [List.getElem_mapIdx, List.getElem_replicate, UInt8.zero_xor, Nat.sub_self, Nat.zero_add,
      List.getD_eq_getElem?_getD, List.getElem?_eq_getElem inside, Option.getD_some]
  · dsimp only
    rw [List.length_replicate, Nat.sub_self]

structure Generator.At (source : Source Counter) (start : Counter) (used : Nat)
    (generator : Generator Counter) : Prop where
  counter : generator.counter =
    source.advance^[(used + generator.available) / source.width] start
  available : generator.available < source.width
  whole : source.width ∣ used + generator.available
  block : 0 < generator.available →
    generator.block = source.block (source.advance^[used / source.width] start)

variable {source : Source Counter} {start : Counter} {used : Nat} {generator : Generator Counter}

theorem Generator.at_start (empty : generator.available = 0) :
    generator.At source generator.counter 0 where
  counter := by rw [empty, Nat.zero_div]; rfl
  available := by rw [empty]; exact source.positive
  whole := by rw [empty]; exact Nat.dvd_zero _
  block := fun left => absurd empty (Nat.ne_of_gt left)

theorem Generator.At.current (reached : generator.At source start used) :
    (generator.refill source).current source = source.byteAt start used := by
  have positive := source.positive
  obtain ⟨counter, small, ⟨blocks, whole⟩, block⟩ := reached
  unfold refill Generator.current Source.byteAt
  split
  next empty =>
    rw [empty, Nat.add_zero] at whole counter
    rw [Nat.sub_self, whole, Nat.mul_mod_right, counter, whole]
  next left =>
    have left : 0 < generator.available := Nat.pos_of_ne_zero left
    rw [block left]
    congr 1
    have behind : used = source.width * (blocks - 1) + (source.width - generator.available) := by
      obtain _ | blocks := blocks
      · omega
      · rw [Nat.mul_succ] at whole
        rw [Nat.succ_sub_one]
        omega
    rw [behind, Nat.mul_add_mod, Nat.mod_eq_of_lt (by omega)]

/-- Taking a byte goes on by one. -/
theorem Generator.At.drop (reached : generator.At source start used) :
    (generator.refill source).drop.At source start (used + 1) := by
  have positive := source.positive
  obtain ⟨counter, small, ⟨blocks, whole⟩, block⟩ := reached
  unfold refill Generator.drop
  split
  next empty =>
    rw [empty, Nat.add_zero] at whole counter
    have total : used + 1 + (source.width - 1) = source.width * (blocks + 1) := by
      rw [Nat.mul_succ]
      omega
    refine ⟨?_, Nat.sub_lt positive Nat.one_pos, ⟨blocks + 1, total⟩, fun left => ?_⟩
    · dsimp only
      rw [total, Nat.mul_div_cancel_left _ positive, Function.iterate_succ_apply', counter, whole,
        Nat.mul_div_cancel_left _ positive]
    · dsimp only at left ⊢
      have same : (used + 1) / source.width = used / source.width := by
        rw [whole, Nat.mul_div_cancel_left _ positive, Nat.mul_add_div positive,
          Nat.div_eq_of_lt (by omega), Nat.add_zero]
      rw [same, counter]
  next left =>
    have left : 0 < generator.available := Nat.pos_of_ne_zero left
    have total : used + 1 + (generator.available - 1) = used + generator.available := by omega
    refine ⟨?_, by dsimp only; omega, ⟨blocks, total.trans whole⟩, fun remaining => ?_⟩
    · dsimp only
      rw [total, counter]
    · dsimp only at remaining ⊢
      have same : (used + 1) / source.width = used / source.width := by
        obtain _ | blocks := blocks
        · omega
        · rw [Nat.mul_succ] at whole
          rw [show used = source.width * blocks + (source.width - generator.available) by omega,
            Nat.add_assoc, Nat.mul_add_div positive, Nat.mul_add_div positive,
            Nat.div_eq_of_lt (by omega), Nat.div_eq_of_lt (by omega)]
      rw [same, block left]

theorem Generator.At.apply (reached : generator.At source start used) (text : Bytes) :
    (generator.apply source text).1 = source.combine start used text ∧
      (generator.apply source text).2.At source start (used + text.length) := by
  induction text generalizing generator used with
  | nil => exact ⟨rfl, reached⟩
  | cons byte rest inductionHypothesis =>
      obtain ⟨combined, after⟩ := inductionHypothesis reached.drop
      dsimp only [Generator.apply]
      refine ⟨?_, ?_⟩
      · rw [combined, reached.current, Source.combine_cons]
      · rw [List.length_cons, Nat.add_comm rest.length, ← Nat.add_assoc]
        exact after

/-! ## Pieces -/

def Generator.applyAll (source : Source Counter) :
    Generator Counter → List Bytes → List Bytes × Generator Counter
  | generator, [] => ([], generator)
  | generator, piece :: rest =>
      let (combined, generator) := generator.apply source piece
      let (pieces, generator) := applyAll source generator rest
      (combined :: pieces, generator)

theorem Generator.At.applyAll (reached : generator.At source start used) (pieces : List Bytes) :
    (generator.applyAll source pieces).1.flatten = source.combine start used pieces.flatten ∧
      (generator.applyAll source pieces).2.At source start (used + pieces.flatten.length) := by
  induction pieces generalizing generator used with
  | nil => exact ⟨rfl, reached⟩
  | cons piece rest inductionHypothesis =>
      obtain ⟨combined, next⟩ := reached.apply piece
      obtain ⟨others, after⟩ := inductionHypothesis next
      dsimp only [Generator.applyAll]
      refine ⟨?_, ?_⟩
      · rw [List.flatten_cons, List.flatten_cons, others, combined, Source.combine_append]
      · rw [List.flatten_cons, List.length_append, ← Nat.add_assoc]
        exact after

end KeyStream

import AirTizen.Library.Buffer

/-!
# Nested items behind tag and length

A sequence of items, each a tag of four bytes, a big-endian length of four bytes
and a payload, that fills its bytes.  The payload of a container is such a sequence
in turn, down to a given number of levels.
-/

namespace TagLength

structure Leaf where
  tag : List UInt8
  payload : List UInt8
  deriving DecidableEq

def itemWire (tag payload : List UInt8) : List UInt8 := tag ++ (Octets.ofNat 4 payload.length ++ payload)

/-- The bytes are a sequence of items with at most so many levels of containers, and
these leaves in the order of the document. -/
inductive Sequence (container : List UInt8 → Bool) : Nat → List UInt8 → List Leaf → Prop
  | done {levels : Nat} : Sequence container levels [] []
  | leaf {levels : Nat} {tag payload rest : List UInt8} {leaves : List Leaf}
      (size : tag.length = 4) (small : payload.length < 2 ^ 32) (plain : container tag = false)
      (later : Sequence container levels rest leaves) :
      Sequence container levels (itemWire tag payload ++ rest) (⟨tag, payload⟩ :: leaves)
  | nested {levels : Nat} {tag payload rest : List UInt8} {inner leaves : List Leaf}
      (size : tag.length = 4) (small : payload.length < 2 ^ 32) (holds : container tag = true)
      (content : Sequence container levels payload inner)
      (later : Sequence container (levels + 1) rest leaves) :
      Sequence container (levels + 1) (itemWire tag payload ++ rest) (inner ++ leaves)

/-! ## One item -/

theorem length_itemWire {tag : List UInt8} (size : tag.length = 4) (payload : List UInt8) :
    (itemWire tag payload).length = 8 + payload.length := by
  rw [itemWire, List.length_append, List.length_append, Octets.length_ofNat, size]
  omega

theorem toNat_length {number : Nat} (small : number < 2 ^ 32) :
    Octets.toNat (Octets.ofNat 4 number) = number := by
  have power : 2 ^ 32 = 256 ^ 4 := by decide
  rw [Octets.toNat_ofNat, Nat.mod_eq_of_lt (power ▸ small)]

theorem itemWire_inj {tag payload rest otherTag otherPayload otherRest : List UInt8}
    (size : tag.length = 4) (small : payload.length < 2 ^ 32)
    (otherSize : otherTag.length = 4) (otherSmall : otherPayload.length < 2 ^ 32)
    (same : itemWire tag payload ++ rest = itemWire otherTag otherPayload ++ otherRest) :
    tag = otherTag ∧ payload = otherPayload ∧ rest = otherRest := by
  rw [itemWire, itemWire, List.append_assoc, List.append_assoc, List.append_assoc,
    List.append_assoc] at same
  obtain ⟨tags, same⟩ := List.append_inj same (size.trans otherSize.symm)
  obtain ⟨lengths, same⟩ := List.append_inj same (by rw [Octets.length_ofNat, Octets.length_ofNat])
  have numbers : payload.length = otherPayload.length := by
    have numbers := congrArg Octets.toNat lengths
    rwa [toNat_length small, toNat_length otherSmall] at numbers
  obtain ⟨payloads, rests⟩ := List.append_inj same numbers
  exact ⟨tags, payloads, rests⟩

def lengthField (bytes : List UInt8) : Nat := Octets.toNat ((bytes.drop 4).take 4)

theorem lengthField_lt (bytes : List UInt8) : lengthField bytes < 2 ^ 32 := by
  have number := Octets.toNat_lt ((bytes.drop 4).take 4)
  have size : ((bytes.drop 4).take 4).length ≤ 4 := List.length_take_le _ _
  exact number.trans_le (Nat.pow_le_pow_right (by decide) size)

theorem lengthField_itemWire {tag payload : List UInt8} (size : tag.length = 4)
    (small : payload.length < 2 ^ 32) (rest : List UInt8) :
    lengthField (itemWire tag payload ++ rest) = payload.length := by
  have number : (Octets.ofNat 4 payload.length).length = 4 := Octets.length_ofNat _ _
  rw [lengthField, itemWire, List.append_assoc, List.drop_left' size, List.append_assoc,
    List.take_left' number, toNat_length small]

theorem exists_item {bytes : List UInt8} (long : 8 ≤ bytes.length)
    (inside : lengthField bytes ≤ bytes.length - 8) :
    ∃ tag payload rest, tag.length = 4 ∧ payload.length < 2 ^ 32 ∧
      bytes = itemWire tag payload ++ rest := by
  have size : (bytes.take 4).length = 4 := by
    rw [List.length_take]
    omega
  have number : ((bytes.drop 4).take 4).length = 4 := by
    rw [List.length_take, List.length_drop]
    omega
  have payload : ((bytes.drop 8).take (lengthField bytes)).length = lengthField bytes := by
    rw [List.length_take, List.length_drop]
    omega
  have field : Octets.ofNat 4 (lengthField bytes) = (bytes.drop 4).take 4 := by
    have digits := Octets.ofNat_toNat ((bytes.drop 4).take 4)
    rwa [number] at digits
  have middle : (bytes.drop 4).drop 4 = bytes.drop 8 := by rw [List.drop_drop]
  refine ⟨bytes.take 4, (bytes.drop 8).take (lengthField bytes),
    (bytes.drop 8).drop (lengthField bytes), size, ?_, ?_⟩
  · rw [payload]
    exact lengthField_lt bytes
  · rw [itemWire, payload, field, List.append_assoc, List.append_assoc, List.take_append_drop,
      ← middle, List.take_append_drop, List.take_append_drop]

/-! ## Sequences -/

variable {container : List UInt8 → Bool} {levels : Nat} {leaves : List Leaf}

theorem sequence_nil : Sequence container levels [] leaves ↔ leaves = [] := by
  constructor
  · intro sequence
    generalize none : ([] : List UInt8) = bytes at sequence
    cases sequence with
    | done => rfl
    | @leaf _ tag payload rest _ size _ _ _ | @nested _ tag payload rest _ _ size _ _ _ _ =>
        have length := congrArg List.length none
        rw [List.length_append, length_itemWire size, List.length_nil] at length
        omega
  · rintro rfl
    exact .done

theorem Sequence.header {bytes : List UInt8} (sequence : Sequence container levels bytes leaves)
    (some_ : bytes ≠ []) : 8 ≤ bytes.length ∧ lengthField bytes ≤ bytes.length - 8 := by
  cases sequence with
  | done => exact absurd rfl some_
  | @leaf _ tag payload rest _ size small _ _ | @nested _ tag payload rest _ _ size small _ _ _ =>
      rw [lengthField_itemWire size small, List.length_append, length_itemWire size]
      omega

/-- The first item and the others. -/
theorem sequence_item {tag payload rest : List UInt8} (size : tag.length = 4)
    (small : payload.length < 2 ^ 32) :
    Sequence container levels (itemWire tag payload ++ rest) leaves ↔
      (container tag = false ∧ ∃ later, leaves = ⟨tag, payload⟩ :: later ∧
        Sequence container levels rest later) ∨
      (container tag = true ∧ ∃ fewer inner later, levels = fewer + 1 ∧ leaves = inner ++ later ∧
        Sequence container fewer payload inner ∧ Sequence container levels rest later) := by
  constructor
  · intro sequence
    generalize whole : itemWire tag payload ++ rest = bytes at sequence
    cases sequence with
    | done =>
        have length := congrArg List.length whole
        rw [List.length_append, length_itemWire size, List.length_nil] at length
        omega
    | leaf otherSize otherSmall plain later =>
        obtain ⟨rfl, rfl, rfl⟩ := itemWire_inj size small otherSize otherSmall whole
        exact .inl ⟨plain, _, rfl, later⟩
    | nested otherSize otherSmall holds content later =>
        obtain ⟨rfl, rfl, rfl⟩ := itemWire_inj size small otherSize otherSmall whole
        exact .inr ⟨holds, _, _, _, rfl, rfl, content, later⟩
  · rintro (⟨plain, later, rfl, sequence⟩ | ⟨holds, fewer, inner, later, rfl, rfl, content, rest⟩)
    · exact .leaf size small plain sequence
    · exact .nested size small holds content rest

/-- The leaves of a sequence are determined by its bytes. -/
theorem Sequence.unique {bytes : List UInt8} {others : List Leaf}
    (sequence : Sequence container levels bytes leaves)
    (also : Sequence container levels bytes others) : others = leaves := by
  induction sequence generalizing others with
  | done => exact sequence_nil.mp also
  | leaf size small plain later inductionHypothesis =>
      rcases (sequence_item size small).mp also with
        ⟨_, more, rfl, rest⟩ | ⟨holds, _, _, _, _, _, _, _⟩
      · rw [inductionHypothesis rest]
      · rw [plain] at holds
        cases holds
  | nested size small holds content later contentHypothesis laterHypothesis =>
      rcases (sequence_item size small).mp also with
        ⟨plain, _, _, _⟩ | ⟨_, fewer, inner, more, same, rfl, first, rest⟩
      · rw [holds] at plain
        cases plain
      · obtain rfl := Nat.succ.inj same
        rw [contentHypothesis first, laterHypothesis rest]

end TagLength

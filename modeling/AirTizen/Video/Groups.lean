import AirTizen.Video.Immutability

/-!
# Listed groups are complete

A playlist checks only its first group.  The stored numbers are one interval
that ends at `latest`, so every later listed group is complete as well, and its
segment can be gathered.
-/

namespace AirTizen.Video

open CText

theorem mem_numbers {first last number : Nat} :
    number ∈ numbers first last ↔ first ≤ number ∧ number ≤ last := by
  simp only [numbers, List.mem_range'_1]
  omega

theorem slotOf_eq_iff {first second : Nat} :
    slotOf first = slotOf second ↔ first % partCount = second % partCount := by
  rw [slotOf, slotOf, Fin.ext_iff]
  rfl

/-- Fewer than a ring's worth of consecutive numbers have different slots. -/
theorem nodup_map_slotOf {first last : Nat} (short : last + 1 - first ≤ partCount) :
    ((numbers first last).map slotOf).Nodup := by
  refine List.Nodup.map_on ?_ List.nodup_range'
  intro number inRange other otherInRange same
  rw [mem_numbers] at inRange otherInRange
  rw [slotOf_eq_iff] at same
  unfold partCount at same short
  omega

namespace Stored

variable {store : Store} {log : RetainedLog Fragment}

theorem sum_size_le (stored : Stored store log) {wanted : List Nat}
    (distinct : (wanted.map slotOf).Nodup) :
    (wanted.map fun number => (store.parts (slotOf number)).size).sum ≤ store.totalSize := by
  have slots : (wanted.map fun number => (store.parts (slotOf number)).size).sum =
      ((wanted.map slotOf).map fun slot => (store.parts slot).size).sum := by
    rw [List.map_map]
    rfl
  rw [slots, ← List.sum_toFinset _ distinct, stored.total]
  exact Finset.sum_le_sum_of_subset (Finset.subset_univ _)

theorem gatherParts_some (stored : Stored store log) {wanted : List Nat} {size : Nat}
    (retained : ∀ number ∈ wanted, (log.read number).isSome = true)
    (fits : size + (wanted.map fun number => (store.parts (slotOf number)).size).sum ≤
      totalLimit) :
    gatherParts store wanted size =
      some (wanted.map fun number => copySource false number store) := by
  induction wanted generalizing size with
  | nil => rfl
  | cons number rest inductionHypothesis =>
      obtain ⟨fragment, found⟩ := Option.isSome_iff_exists.mp
        (retained number List.mem_cons_self)
      have part := stored.part_of_read found
      simp only [List.map_cons, List.sum_cons, part] at fits
      have tail := @inductionHypothesis (size + fragment.bytes.length)
        (fun other membership => retained other (List.mem_cons_of_mem _ membership))
        (by omega)
      have room : ¬ totalLimit - size < fragment.bytes.length := by omega
      simp only [gatherParts, part, ne_eq, not_true_eq_false, false_or, if_neg room, tail,
        List.take_length, Option.map_some, List.map_cons, stored.copySource_eq, found,
        Option.getD_some]

/-- The check of a group succeeds exactly when its fragments are retained. -/
theorem groupValid_iff (stored : Stored store log) (group : Nat) :
    groupValid store group = true ↔
      ∀ number ∈ numbers (groupFirst group) (groupLast group),
        (log.read number).isSome = true := by
  unfold groupValid
  rw [List.all_eq_true]
  refine forall₂_congr fun number _ => ?_
  rw [Bool.and_eq_true, decide_eq_true_eq]
  constructor
  · rintro ⟨stamped, held⟩
    obtain ⟨data, equality⟩ := Option.isSome_iff_exists.mp held
    have found := (stored.part_found equality).2
    rw [stamped] at found
    rw [found]
    rfl
  · intro retained
    obtain ⟨fragment, found⟩ := Option.isSome_iff_exists.mp retained
    rw [stored.part_of_read found]
    exact ⟨rfl, rfl⟩

end Stored

theorem initData_of_listedGroups {store : Store} {groups : List Nat}
    (listed : listedGroups store = some groups) : ∃ initData, store.initData = some initData := by
  unfold listedGroups at listed
  split at listed
  · cases listed
  next published =>
    rw [not_or] at published
    cases held : store.initData with
    | none => simp [held] at published
    | some initData => exact ⟨initData, rfl⟩

namespace Represents

variable {store : Store} {stream : Stream}

/-- The listed groups are consecutive, at least one, and all complete. -/
theorem listedGroups_spec (represents : Represents store stream) {groups : List Nat}
    (listed : listedGroups store = some groups) :
    ∃ first count, groups = List.range' first count ∧ 0 < count ∧ count ≤ 6 ∧
      (∀ group ∈ groups, groupLast group ≤ stream.log.latest ∧
        ∀ number ∈ numbers (groupFirst group) (groupLast group),
          (stream.log.read number).isSome = true) := by
  unfold listedGroups at listed
  split at listed
  · cases listed
  split at listed
  · cases listed
  next groupsExist =>
    simp only at listed
    split at listed
    · cases listed
    next first found =>
      have valid := List.find?_some found
      have bounds := mem_numbers.mp (List.mem_of_find?_eq_some found)
      rw [represents.stored.groupValid_iff] at valid
      have oldest := valid (groupFirst first) (mem_numbers.mpr
        ⟨le_rfl, by unfold groupLast hlsGroup; omega⟩)
      rw [RetainedLog.read_isSome_iff] at oldest
      refine ⟨first, _, (Option.some.inj listed).symm, ?_, ?_, ?_⟩
      · omega
      · split at bounds <;> omega
      · intro group membership
        rw [← Option.some.inj listed, mem_numbers] at membership
        have latest := represents.latest
        have newest : groupLast group ≤ stream.log.latest := by
          unfold groupLast groupFirst hlsGroup at *
          omega
        refine ⟨newest, fun number inGroup => ?_⟩
        rw [mem_numbers] at inGroup
        rw [RetainedLog.read_isSome_iff]
        have later : groupFirst first ≤ groupFirst group := by
          unfold groupFirst hlsGroup
          omega
        omega

theorem generation_lt (represents : Represents store stream) :
    store.state.generation < 2 ^ 32 := by
  rw [represents.generation]
  exact Nat.mod_lt _ (by norm_num)

theorem copy_retained (represents : Represents store stream) {number : Nat}
    (retained : (stream.log.read number).isSome = true) :
    copySource false number store ≠ [] ∧ Video.copy true false number store =
      (some (copySource false number store), store.state.generation) := by
  obtain ⟨fragment, found⟩ := Option.isSome_iff_exists.mp retained
  have member := List.mem_of_getElem? ((stream.log.read_eq_some_iff _ _).mp found).2
  have nonempty := (represents.packed fragment member).1
  have source : copySource false number store = fragment.bytes := by
    simp [represents.stored.copySource_eq, found]
  rw [source]
  exact ⟨nonempty, by simp [Video.copy, source, nonempty]⟩

theorem segment_length_le (represents : Represents store stream) {wanted : List Nat}
    (complete : ∀ number ∈ wanted, (stream.log.read number).isSome = true)
    (distinct : (wanted.map slotOf).Nodup) :
    (wanted.map fun number => copySource false number store).flatten.length ≤ totalLimit := by
  have sizes : ∀ number ∈ wanted, (copySource false number store).length =
      (store.parts (slotOf number)).size := by
    intro number membership
    obtain ⟨fragment, found⟩ := Option.isSome_iff_exists.mp (complete number membership)
    simp [represents.stored.copySource_eq, found, represents.stored.part_of_read found]
  have total := represents.stored.sum_size_le distinct
  have bounded := represents.bounded
  have lengths : wanted.map (List.length ∘ fun number => copySource false number store) =
      wanted.map fun number => (store.parts (slotOf number)).size :=
    List.map_congr_left sizes
  rw [List.length_flatten, List.map_map, lengths]
  omega

theorem nodup_group (group : Nat) :
    ((numbers (groupFirst group) (groupLast group)).map slotOf).Nodup :=
  nodup_map_slotOf (by unfold groupLast groupFirst hlsGroup partCount; omega)

/-- The segment of a complete group is the concatenation of its fragments. -/
theorem hlsSegment_eq (represents : Represents store stream) {group : Nat}
    (newest : groupLast group ≤ stream.log.latest)
    (complete : ∀ number ∈ numbers (groupFirst group) (groupLast group),
      (stream.log.read number).isSome = true) :
    hlsSegment true store.state.generation (groupFirst group) (groupLast group) store =
      some ((numbers (groupFirst group) (groupLast group)).map
        fun number => copySource false number store).flatten := by
  have shape : ¬(groupFirst group = 0 ∨ groupLast group < groupFirst group ∨
      groupLast group - groupFirst group ≠ hlsGroup - 1 ∨
      (groupFirst group - 1) % hlsGroup ≠ 0) := by
    unfold groupLast groupFirst hlsGroup
    omega
  have current : ¬(store.state.generation ≠ store.state.generation ∨
      store.state.latest < groupLast group) := by
    rw [represents.latest]
    omega
  have fits : 0 + ((numbers (groupFirst group) (groupLast group)).map fun number =>
      (store.parts (slotOf number)).size).sum ≤ totalLimit := by
    have total := represents.stored.sum_size_le (nodup_group group)
    have bounded := represents.bounded
    omega
  have gathered := represents.stored.gatherParts_some complete fits
  rw [hlsSegment, if_neg shape, if_neg current, gathered]
  rfl

end Represents

end AirTizen.Video

import AirTizen.Video.Refinement

/-!
# The window of stored fragments

Players rely on one fact about the video store: between `start` and `latest`
every fragment can be copied.
-/

namespace AirTizen.Video

open CText

def Store.holds (store : Store) (slot : Fin partCount) : Bool :=
  (store.parts slot).data.isSome

/-- The ring of parts, as every player relies on it. -/
structure WindowInvariant (store : Store) : Prop where
  /-- The stored sequence numbers form one interval that ends at `latest`. -/
  interval : ∃ low, 0 < low ∧ ∀ number,
    (∃ slot, store.holds slot = true ∧ (store.parts slot).seq = number) ↔
      low ≤ number ∧ number ≤ store.state.latest
  placed : ∀ slot, store.holds slot = true → slot = slotOf (store.parts slot).seq
  sizes : ∀ slot, (store.parts slot).size = ((store.parts slot).data.getD []).length
  total : store.totalSize = ∑ slot with store.holds slot = true, (store.parts slot).size
  bounded : store.totalSize ≤ totalLimit
  latest : store.state.latest = store.sequence
  newest : 0 < store.state.latest →
    ∃ slot, store.holds slot = true ∧ (store.parts slot).seq = store.state.latest
  available : store.state.available = true ↔
    ∃ slot, store.holds slot = true ∧ (store.parts slot).key = true
  start : store.state.available = true →
    (∃ slot, store.holds slot = true ∧ (store.parts slot).key = true ∧
      (store.parts slot).seq = store.state.start) ∧
    ∀ slot, store.holds slot = true → (store.parts slot).key = true →
      (store.parts slot).seq ≤ store.state.start
  copied : (snapshot store).available = true →
    ∀ number, (snapshot store).start ≤ number → number ≤ (snapshot store).latest →
      ∃ data, data ≠ [] ∧ copy true false number store = (some data, store.state.generation)

namespace Stored

variable {store : Store} {log : RetainedLog Fragment}

theorem exists_slot_iff (stored : Stored store log) (number : Nat) :
    (∃ slot, store.holds slot = true ∧ (store.parts slot).seq = number) ↔
      log.mark ≤ number ∧ number ≤ log.latest := by
  constructor
  · rintro ⟨slot, held, rfl⟩
    exact ((stored.isSome_iff slot).mp held).2
  · intro bounds
    obtain ⟨fragment, found⟩ := Option.isSome_iff_exists.mp ((log.read_isSome_iff _).mpr bounds)
    refine ⟨slotOf number, ?_, ?_⟩
    · simp [Store.holds, stored.part_of_read found]
    · rw [stored.part_of_read found]

theorem copySource_eq (stored : Stored store log) (number : Nat) :
    copySource false number store = ((log.read number).map Fragment.bytes).getD [] := by
  cases found : log.read number with
  | some fragment =>
      simp [copySource, stored.part_of_read found]
  | none =>
      simp only [copySource, Bool.false_eq_true, if_false, Option.map_none, Option.getD_none]
      cases held : (store.parts (slotOf number)).data with
      | none => rfl
      | some data =>
          by_cases stamped : (store.parts (slotOf number)).seq = number
          · have retained := (stored.part_found held).2
            rw [stamped, found] at retained
            cases retained
          · simp [stamped]

end Stored

namespace Counted

variable {store : Store} {stream : Stream}

theorem start_spec (counted : Counted store stream) :
    (∀ slot, store.holds slot = true → (store.parts slot).key = true →
      (store.parts slot).seq ≤ store.state.start) ∧
    (store.state.start ≠ 0 → ∃ slot, store.holds slot = true ∧
      (store.parts slot).key = true ∧ (store.parts slot).seq = store.state.start) := by
  rw [counted.start, latestKey]
  constructor
  · intro slot held key
    have chosen : ((store.parts slot).data.isSome && (store.parts slot).key) = true := by
      rw [Bool.and_eq_true]
      exact ⟨held, key⟩
    exact @Scan.key_le_greatest _
      (fun slot => (store.parts slot).data.isSome && (store.parts slot).key)
      (fun slot => (store.parts slot).seq) _ slot (List.mem_finRange slot) chosen
  · intro positive
    obtain ⟨slot, _, chosen, number⟩ := Scan.greatest_attained positive
    rw [Bool.and_eq_true] at chosen
    exact ⟨slot, chosen.1, chosen.2, number⟩

theorem available_iff (counted : Counted store stream) :
    store.state.available = true ↔ store.state.start ≠ 0 := by
  rw [counted.available, counted.start, decide_eq_true_eq]

end Counted

theorem Represents.window {store : Store} {stream : Stream}
    (represents : Represents store stream) : WindowInvariant store := by
  have stored := represents.stored
  have start := represents.start_spec
  have available : store.state.available = true ↔
      ∃ slot, store.holds slot = true ∧ (store.parts slot).key = true := by
    rw [represents.available_iff]
    constructor
    · intro positive
      obtain ⟨slot, held, key, _⟩ := start.2 positive
      exact ⟨slot, held, key⟩
    · rintro ⟨slot, held, key⟩
      have above := start.1 slot held key
      have bounds := ((stored.isSome_iff slot).mp held).2
      have positive := stream.log.mark_pos
      omega
  exact
    { interval := by
        refine ⟨stream.log.mark, stream.log.mark_pos, fun number => ?_⟩
        rw [represents.latest]
        exact stored.exists_slot_iff number
      placed := fun slot held => ((stored.isSome_iff slot).mp held).1.symm
      sizes := stored.sizes
      total := by
        rw [stored.total, Finset.sum_filter]
        refine Finset.sum_congr rfl fun slot _ => ?_
        split
        · rfl
        next vacant =>
          rw [stored.sizes, Option.not_isSome_iff_eq_none.mp vacant]
          rfl
      bounded := represents.bounded
      latest := represents.latest.trans represents.sequence.symm
      newest := by
        intro positive
        rw [represents.latest] at positive ⊢
        refine (stored.exists_slot_iff _).mpr ⟨represents.newest ?_, le_rfl⟩
        exact List.ne_nil_of_length_pos positive
      available := available
      start := fun isAvailable => ⟨start.2 (represents.available_iff.mp isAvailable), start.1⟩
      copied := by
        intro isAvailable number above below
        obtain ⟨slot, held, _, first⟩ := start.2 (represents.available_iff.mp isAvailable)
        have bounds := ((stored.isSome_iff slot).mp held).2
        rw [first] at bounds
        have latest := represents.latest
        obtain ⟨fragment, found⟩ := Option.isSome_iff_exists.mp
          ((stream.log.read_isSome_iff number).mpr
            ⟨bounds.1.trans above, latest ▸ below⟩)
        have member := List.mem_of_getElem? ((stream.log.read_eq_some_iff _ _).mp found).2
        have nonempty := (represents.packed fragment member).1
        refine ⟨fragment.bytes, nonempty, ?_⟩
        simp [copy, stored.copySource_eq, found, nonempty] }

/-- Whatever is called, and whatever libav answers, the ring keeps its window. -/
theorem window_invariant (calls : List Call) : WindowInvariant (after calls) := by
  obtain ⟨stream, represents⟩ := represents_after calls
  exact represents.window

end AirTizen.Video

import AirTizen.Video.Window

/-!
# What the store published so far

The bytes that a generation had to offer at some instant of a run, and the key
fragments that were its newest one at some instant.
-/

namespace AirTizen.Video

open CText

/-- How often the calls changed the generation; the counter of the store wraps. -/
def restarts (calls : List Call) : Nat :=
  Machine.changes step (fun store => store.state.generation) Store.initial calls

def Published (calls : List Call) (generation : Nat) (init : Bool) (number : Nat)
    (data : Bytes) : Prop :=
  ∃ early, early <+: calls ∧ restarts early = generation ∧
    copySource init number (after early) = data ∧ data ≠ []

/-- At some instant of the generation `state.start` named this key fragment. -/
def Offered (calls : List Call) (generation start : Nat) : Prop :=
  ∃ early, early <+: calls ∧ restarts early = generation ∧
    (after early).state.available = true ∧ (after early).state.start = start ∧
    ∃ slot, (after early).holds slot = true ∧ ((after early).parts slot).key = true ∧
      ((after early).parts slot).seq = start

/-- No fragment number reaches `2 ^ 53`. -/
def Short (calls : List Call) : Prop :=
  ∀ early, early <+: calls → (after early).state.latest < 2 ^ 53

theorem restarts_le {early calls : List Call} (before : early <+: calls) :
    restarts early ≤ restarts calls := by
  obtain ⟨late, rfl⟩ := before
  rw [restarts, restarts, Machine.changes_append]
  exact Nat.le_add_right _ _

theorem Represents.latest_le {store : Store} {stream : Stream}
    (represents : Represents store stream) (calls : List Call) :
    (Machine.run Video.step store calls).state.latest ≤ stream.log.latest + calls.length := by
  induction calls generalizing store stream with
  | nil => exact represents.latest.le
  | cons call rest inductionHypothesis =>
      obtain ⟨next, advanced, reached⟩ := represents.step call
      have later := inductionHypothesis reached
      have published : next.log.latest ≤ stream.log.latest + 1 := by
        cases advanced with
        | idle => exact Nat.le_succ _
        | restart config => exact Nat.zero_le _
        | publish initData fragment log once appended raised =>
            simp only [RetainedLog.latest, appended, List.length_append, List.length_singleton]
            exact Nat.le_refl _
      rw [Machine.run_cons, List.length_cons]
      omega

/-- It takes `2 ^ 53` calls to reach the number `2 ^ 53`. -/
theorem short_of_length {calls : List Call} (few : calls.length < 2 ^ 53) : Short calls := by
  intro early earlier
  have reached := Represents.initial.latest_le early
  have bound := earlier.length_le
  have none : (Stream.fresh 0 none).log.latest = 0 := rfl
  rw [none, Nat.zero_add] at reached
  exact (reached.trans bound).trans_lt few

theorem generation_after {calls : List Call} (unwrapped : restarts calls < 2 ^ 32) :
    (after calls).state.generation = restarts calls := by
  obtain ⟨stream, _, represents, counted⟩ := Represents.initial.run calls
  have wrapped := represents.generation
  simp only [Stream.fresh, Nat.zero_add] at counted
  rw [counted] at wrapped
  exact wrapped.trans (Nat.mod_eq_of_lt unwrapped)

theorem number_bounds {calls : List Call} {number : Nat}
    (copied : copySource false number (after calls) ≠ []) :
    0 < number ∧ number ≤ (after calls).state.latest := by
  obtain ⟨stream, represents⟩ := represents_after calls
  rw [represents.stored.copySource_eq] at copied
  cases found : stream.log.read number with
  | none =>
      rw [found] at copied
      exact absurd rfl copied
  | some fragment =>
      have bounds := RetainedLog.bounds_of_read found
      rw [represents.latest]
      exact ⟨stream.log.mark_pos.trans_le bounds.1, bounds.2⟩

namespace Published

variable {calls : List Call} {generation number : Nat} {init : Bool} {data : Bytes}

theorem mono {more : List Call} (published : Published calls generation init number data)
    (before : calls <+: more) : Published more generation init number data := by
  obtain ⟨early, earlier, rest⟩ := published
  exact ⟨early, earlier.trans before, rest⟩

theorem of_copy {allocated : Bool} (unwrapped : restarts calls < 2 ^ 32)
    (found : (copy allocated init number (after calls)).1 = some data) :
    Published calls (copy allocated init number (after calls)).2 init number data := by
  refine ⟨calls, List.prefix_rfl, (generation_after unwrapped).symm, ?_⟩
  simp only [copy] at found
  split at found
  · cases found
  next some =>
    cases found
    exact ⟨rfl, fun nothing => some (.inl nothing)⟩

theorem number_lt (published : Published calls generation false number data)
    (short : Short calls) : number < 2 ^ 53 := by
  obtain ⟨early, earlier, _, rfl, nonempty⟩ := published
  exact (number_bounds nonempty).2.trans_lt (short early earlier)

theorem generation_lt (published : Published calls generation init number data)
    (unwrapped : restarts calls < 2 ^ 32) : generation < 2 ^ 32 := by
  obtain ⟨early, earlier, rfl, _⟩ := published
  exact (restarts_le earlier).trans_lt unwrapped

end Published

namespace Offered

variable {calls : List Call} {generation start : Nat}

theorem mono {more : List Call} (offered : Offered calls generation start)
    (before : calls <+: more) : Offered more generation start := by
  obtain ⟨early, earlier, rest⟩ := offered
  exact ⟨early, earlier.trans before, rest⟩

theorem of_snapshot (unwrapped : restarts calls < 2 ^ 32)
    (available : (snapshot (after calls)).available = true) :
    Offered calls (snapshot (after calls)).generation (snapshot (after calls)).start := by
  refine ⟨calls, List.prefix_rfl, (generation_after unwrapped).symm, available, rfl, ?_⟩
  exact ((window_invariant calls).start available).1

theorem start_lt (offered : Offered calls generation start) (short : Short calls) :
    start < 2 ^ 53 := by
  obtain ⟨early, earlier, _, _, _, slot, held, _, rfl⟩ := offered
  obtain ⟨stream, represents⟩ := represents_after early
  have bounds := ((represents.stored.isSome_iff slot).mp held).2
  have below := short early earlier
  rw [represents.latest] at below
  exact bounds.2.trans_lt below

theorem generation_lt (offered : Offered calls generation start)
    (unwrapped : restarts calls < 2 ^ 32) : generation < 2 ^ 32 := by
  obtain ⟨early, earlier, rfl, _⟩ := offered
  exact (restarts_le earlier).trans_lt unwrapped

end Offered

end AirTizen.Video

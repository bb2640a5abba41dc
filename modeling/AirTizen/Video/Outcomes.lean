import AirTizen.Video.Packing

/-!
# How a frame can end

`airtizen_video_frame` appends one fragment, waits for a key frame, refuses the
frame, or empties the store.  Nothing in between is left behind, and the muxer
exists from the first fragment until something empties the store.
-/

namespace AirTizen.Video

open CText Machine

def Store.fragment (store : Store) (number : Nat) : Option Fragment :=
  if (store.parts (slotOf number)).seq = number then (store.parts (slotOf number)).fragment
  else none

/-- One fragment was appended, and only the oldest ones were dropped. -/
structure Appended (run : FrameRun) (data : Bytes) (pts : Nat) (before after : Store) : Prop where
  latest : after.state.latest = before.state.latest + 1
  generation : after.state.generation = before.state.generation
  config : after.config = before.config
  mux : after.mux = true
  initData : before.mux = true → after.initData = before.initData
  pending : after.pending = []
  firstPts : after.firstPts = if before.havePts then before.firstPts else pts
  lastPts : after.havePts = true ∧ after.lastPts = pts
  packed : run.packed ≠ []
  fragments : ∃ mark, ∀ number, after.fragment number =
    if number = before.state.latest + 1 then
      some ⟨run.packed, pts - after.firstPts, naluType 5 data⟩
    else if mark ≤ number then before.fragment number
    else none

/-- Nothing of the stream is left, and the next generation has begun. -/
structure Emptied (before after : Store) : Prop where
  mux : after.mux = false
  config : after.config = none
  initData : after.initData = none
  pending : after.pending = []
  totalSize : after.totalSize = 0
  parts : ∀ slot, after.parts slot = {}
  sequence : after.sequence = 0
  havePts : after.havePts = false
  writeFailed : after.writeFailed = false
  state : after.state = { generation := (before.state.generation + 1) % 2 ^ 32 }

/-- The frame is not looked at: bad arguments, no configuration, or a time stamp
that is not later than the last one. -/
def Unacceptable (data : Bytes) (pts : Nat) (store : Store) : Prop :=
  (data = [] ∨ partLimit < data.length ∨ int64Max < pts) ∨ store.config = none ∨
    (store.havePts = true ∧ pts ≤ store.lastPts)

inductive FrameOutcome where
  | appended
  | waiting
  | refused
  | emptied

def FrameOutcome.answer : FrameOutcome → Int
  | appended => 1
  | waiting => 0
  | refused | emptied => -1

def FrameOutcome.Holds (run : FrameRun) (data : Bytes) (pts : Nat) (store : Store)
    (result : Int × Store) : FrameOutcome → Prop
  | appended => result.1 = 1 ∧ Appended run data pts store result.2
  | waiting =>
      result = (0, store) ∧ store.config ≠ none ∧ store.mux = false ∧ naluType 5 data = false
  | refused => result = (-1, store) ∧ Unacceptable data pts store
  | emptied => result.1 = -1 ∧ Emptied store result.2

def Empties (store : Store) (call : Call) : Prop :=
  (step store call).state.generation ≠ store.state.generation

def Configures (store : Store) : Call → Prop
  | .configure allocated data => (configure allocated data store).1 = 0
  | .frame _ _ _ | .reset => False

/-- A frame was appended, and no call behind it was of the other kind. -/
def AppendedSince (other : Store → Call → Prop) (calls : List Call) : Prop :=
  ∃ early run data pts late, calls = early ++ .frame run data pts :: late ∧
    (frame run data pts (after early)).1 = 1 ∧
    Guarded step (fun store call => ¬ other store call)
      (after (early ++ [.frame run data pts])) late

/-! ## One call -/

theorem Stored.fragment {store : Store} {log : RetainedLog Fragment} (stored : Stored store log)
    (number : Nat) : store.fragment number = log.read number := by
  unfold Store.fragment
  cases read : log.read number with
  | some fragment =>
      rw [stored.part_of_read read]
      simp [Part.fragment]
  | none =>
      split
      next own =>
        cases held : (store.parts (slotOf number)).data with
        | none => simp [Part.fragment, held]
        | some bytes =>
            obtain ⟨_, found⟩ := stored.part_found held
            rw [own, read] at found
            cases found
      · rfl

theorem emptied_restart {store broken : Store}
    (current : broken.state.generation = store.state.generation) :
    Emptied store (restart broken) where
  mux := rfl
  config := rfl
  initData := rfl
  pending := rfl
  totalSize := rfl
  parts _ := rfl
  sequence := rfl
  havePts := rfl
  writeFailed := rfl
  state := by
    rw [← current]
    rfl

theorem publishPart_firstPts (key : Bool) (pts : Nat) (packed : Bytes) (store : Store) :
    (publishPart key pts packed store).firstPts =
        (if store.havePts then store.firstPts else pts) ∧
      (publishPart key pts packed store).pending = [] := by
  obtain ⟨parts, totalSize, evicted⟩ := evict_eq partCount (storePart key pts
    { stampFrame pts store with pending := packed, writeFailed := false })
  rw [publishPart, evicted]
  exact ⟨rfl, rfl⟩

section Frame

variable {store : Store} {stream : Stream} {run : FrameRun} {data : Bytes} {pts : Nat}

/-- What is published is one fragment behind those that are still there. -/
theorem Counted.appended (counted : Counted store stream) (mux : store.mux = true)
    (fresh : ¬(store.havePts = true ∧ pts ≤ store.lastPts)) (inRange : pts ≤ int64Max)
    (nonempty : run.packed ≠ []) (fits : run.packed.length ≤ partLimit) :
    Appended run data pts store (Video.publishPart (naluType 5 data) pts run.packed store) := by
  obtain ⟨sameMux, config, initData⟩ := publishPart_frame (naluType 5 data) pts run.packed store
  obtain ⟨havePts, lastPts, latest⟩ := publishPart_clock (naluType 5 data) pts run.packed store
  obtain ⟨firstPts, pending⟩ := publishPart_firstPts (naluType 5 data) pts run.packed store
  obtain ⟨log, entries, raised, published⟩ :=
    counted.publishPart (naluType 5 data) fresh inRange nonempty fits none
  have length : log.latest = stream.log.latest + 1 := by
    simp [RetainedLog.latest, entries]
  have newest : log.mark ≤ stream.log.latest + 1 := by
    rw [← length]
    apply published.newest
    simp [entries]
  exact
    { latest := by
        rw [latest, counted.sequence, counted.latest, Nat.mod_eq_of_lt counted.latest_lt]
      generation := published.generation.trans counted.generation.symm
      config := config
      mux := sameMux.trans mux
      initData := fun _ => initData
      pending := pending
      firstPts := firstPts
      lastPts := ⟨havePts, lastPts⟩
      packed := nonempty
      fragments := by
        refine ⟨log.mark, fun number => ?_⟩
        rw [published.stored.fragment, counted.stored.fragment, counted.latest, firstPts]
        have positive := log.mark_pos
        unfold RetainedLog.read
        simp only [entries]
        by_cases new : number = stream.log.latest + 1
        · rw [if_pos new, new, if_pos newest, Nat.add_sub_cancel]
          exact List.getElem?_concat_length
        · rw [if_neg new]
          by_cases retained : log.mark ≤ number
          · have old : stream.log.mark ≤ number := raised.trans retained
            rw [if_pos retained, if_pos retained, if_pos old]
            by_cases known : number ≤ stream.log.latest
            · rw [List.getElem?_append_left]
              unfold RetainedLog.latest at known
              omega
            · unfold RetainedLog.latest at known new
              rw [List.getElem?_eq_none, List.getElem?_eq_none]
              · omega
              · simp only [List.length_append, List.length_singleton]
                omega
          · rw [if_neg retained, if_neg retained] }

theorem Counted.packFrame (counted : Counted store stream) (mux : store.mux = true)
    (fresh : ¬(store.havePts = true ∧ pts ≤ store.lastPts)) (inRange : pts ≤ int64Max) :
    ((Video.packFrame run (naluType 5 data) pts store).1 = 1 ∧
      Appended run data pts store (Video.packFrame run (naluType 5 data) pts store).2) ∨
    ((Video.packFrame run (naluType 5 data) pts store).1 = -1 ∧
      Emptied store (Video.packFrame run (naluType 5 data) pts store).2) := by
  have pending : store.pending.length ≤ partLimit := by simp [counted.pending]
  rcases packFrame_cases run (naluType 5 data) pts store pending with
    ⟨timed, stale, _⟩ |
      ⟨_, ⟨broken, generation, result⟩ | ⟨packed, written, fits, exactly, result⟩⟩
  · exact absurd ⟨timed, stale⟩ fresh
  · rw [result]
    exact .inr ⟨rfl, emptied_restart generation⟩
  · rw [counted.pending, List.nil_append] at exactly
    change packed = run.packed at exactly
    subst exactly
    rw [result]
    exact .inl ⟨rfl, counted.appended mux fresh inRange written fits⟩

/-- A frame ends in one of the four ways. -/
theorem Represents.outcome (represents : Represents store stream) :
    ∃ outcome : FrameOutcome, outcome.Holds run data pts store (Video.frame run data pts store) := by
  by_cases bad : data = [] ∨ partLimit < data.length ∨ int64Max < pts
  · refine ⟨.refused, ?_, .inl bad⟩
    rw [Video.frame, if_pos bad]
  have inRange : pts ≤ int64Max := by
    by_contra large
    exact bad (.inr (.inr (Nat.lt_of_not_le large)))
  by_cases configured : store.config = none
  · refine ⟨.refused, ?_, .inr (.inl configured)⟩
    rw [Video.frame, if_neg bad]
    exact if_pos configured
  cases mux : store.mux with
  | true =>
      have packs : Video.frame run data pts store = Video.packFrame run (naluType 5 data) pts store := by
        simp [Video.frame, bad, configured, mux]
      rw [packs]
      by_cases stale : store.havePts = true ∧ pts ≤ store.lastPts
      · refine ⟨.refused, ?_, .inr (.inr stale)⟩
        unfold Video.packFrame
        exact if_pos stale
      · rcases represents.toCounted.packFrame mux stale inRange with appended | emptied
        · exact ⟨.appended, appended⟩
        · exact ⟨.emptied, emptied⟩
  | false =>
      have empty : stream.log.entries = [] := by
        by_contra published
        have present := represents.mux.mpr published
        simp [mux] at present
      have untimed : store.havePts = false := by
        rw [← Bool.not_eq_true, represents.havePts]
        exact not_not_intro empty
      cases key : naluType 5 data with
      | false =>
          refine ⟨.waiting, ?_, configured, mux, key⟩
          simp [Video.frame, bad, configured, mux, key]
      | true =>
          rcases initializeMuxer_cases run.initialized store (by simp [represents.pending]) with
            failed | ⟨initData, width, height, nonempty, fits, opened⟩
          · refine ⟨.emptied, ?_⟩
            have result : Video.frame run data pts store = (-1, restart store) := by
              simp [Video.frame, bad, configured, mux, key, failed]
            rw [result]
            exact ⟨rfl, emptied_restart rfl⟩
          · have counted := represents.toCounted.initialized initData width height
            have result := @Counted.packFrame _ _ run data pts counted rfl
              (by simp [untimed]) inRange
            have packs : Video.frame run data pts store = Video.packFrame run (naluType 5 data) pts
                { store with
                  mux := true, initData := some initData, pending := [], writeFailed := false
                  state := { store.state with width, height } } := by
              simp [Video.frame, bad, configured, mux, key, opened]
            rw [packs]
            rcases result with ⟨one, appended⟩ | ⟨failed, emptied⟩
            · refine ⟨.appended, one, { appended with initData := ?_ }⟩
              intro present
              simp [mux] at present
            · exact ⟨.emptied, failed, { emptied with }⟩

theorem FrameOutcome.Holds.answered {outcome : FrameOutcome} {result : Int × Store}
    (holds : outcome.Holds run data pts store result) : result.1 = outcome.answer := by
  cases outcome with
  | appended => exact holds.1
  | waiting => exact congrArg Prod.fst holds.1
  | refused => exact congrArg Prod.fst holds.1
  | emptied => exact holds.1

theorem FrameOutcome.not_both {result : Int × Store}
    (refused : FrameOutcome.refused.Holds run data pts store result)
    (emptied : FrameOutcome.emptied.Holds run data pts store result) : False := by
  have next := congrArg State.generation emptied.2.state
  rw [refused.1] at next
  simp only at next
  omega

theorem FrameOutcome.Holds.unique {first second : FrameOutcome} {result : Int × Store}
    (one : first.Holds run data pts store result)
    (other : second.Holds run data pts store result) : first = second := by
  have same : first.answer = second.answer := one.answered.symm.trans other.answered
  cases first with
  | appended => cases second with
    | appended => rfl
    | waiting | refused | emptied => exact absurd same (by decide)
  | waiting => cases second with
    | waiting => rfl
    | appended | refused | emptied => exact absurd same (by decide)
  | refused => cases second with
    | refused => rfl
    | emptied => exact (FrameOutcome.not_both one other).elim
    | appended | waiting => exact absurd same (by decide)
  | emptied => cases second with
    | emptied => rfl
    | refused => exact (FrameOutcome.not_both other one).elim
    | appended | waiting => exact absurd same (by decide)

end Frame

/-! ## The muxer over a run -/

theorem empties_of_restart {store next : Store} {call : Call}
    (result : (step store call).state.generation = (next.state.generation + 1) % 2 ^ 32)
    (same : next.state.generation = store.state.generation) : Empties store call := by
  unfold Empties
  rw [result, same]
  omega

/-- The call is a frame that appends a fragment. -/
def Appends (store : Store) (call : Call) : Prop :=
  ∃ run data pts, call = .frame run data pts ∧ (frame run data pts store).1 = 1

theorem mux_restarted {store : Store} {call : Call} (none : (step store call).mux = false)
    (empties : Empties store call) (unappended : ¬ Appends store call) :
    (step store call).mux = true ↔ Appends store call ∨ (store.mux = true ∧ ¬ Empties store call) := by
  rw [none]
  refine iff_of_false (by decide) ?_
  rintro (appends | ⟨-, kept⟩)
  · exact unappended appends
  · exact kept empties

theorem mux_unchanged {store : Store} {call : Call} (same : step store call = store)
    (unappended : ¬ Appends store call) :
    (step store call).mux = true ↔ Appends store call ∨ (store.mux = true ∧ ¬ Empties store call) := by
  have kept : ¬ Empties store call := fun empties => empties (by rw [same])
  rw [same]
  constructor
  · exact fun present => .inr ⟨present, kept⟩
  · rintro (appends | ⟨present, -⟩)
    · exact absurd appends unappended
    · exact present

/-- A call makes the muxer with its first fragment, and loses it with the generation. -/
theorem Represents.mux_step {store : Store} {stream : Stream}
    (represents : Represents store stream) (call : Call) :
    (Video.step store call).mux = true ↔
      Appends store call ∨ (store.mux = true ∧ ¬ Empties store call) := by
  cases call with
  | configure allocated data =>
      have unappended : ¬ Appends store (.configure allocated data) := by
        rintro ⟨run, data, pts, called, -⟩
        cases called
      by_cases bad : data.length < 8 ∨ 65536 < data.length ∨ !naluType 7 data ∨ !naluType 8 data
      · apply mux_unchanged _ unappended
        change (Video.configure allocated data store).2 = store
        rw [Video.configure, if_pos bad]
      · have result : (Video.configure allocated data store).2.mux = false ∧
            (Video.configure allocated data store).2.state.generation =
              (store.state.generation + 1) % 2 ^ 32 := by
          rw [Video.configure, if_neg bad]
          cases allocated with
          | true => exact ⟨rfl, rfl⟩
          | false => exact ⟨rfl, rfl⟩
        exact mux_restarted result.1 (empties_of_restart result.2 rfl) unappended
  | reset =>
      apply mux_restarted rfl (empties_of_restart rfl rfl)
      rintro ⟨run, data, pts, called, -⟩
      cases called
  | frame run data pts =>
      obtain ⟨outcome, holds⟩ := @Represents.outcome store stream run data pts represents
      have answered := holds.answered
      have appends_iff : Appends store (.frame run data pts) ↔ outcome.answer = 1 := by
        rw [← answered]
        constructor
        · rintro ⟨_, _, _, ⟨⟩, one⟩
          exact one
        · exact fun one => ⟨run, data, pts, rfl, one⟩
      cases outcome with
      | appended => exact iff_of_true holds.2.mux (.inl (appends_iff.mpr rfl))
      | waiting | refused =>
          refine @mux_unchanged store (.frame run data pts) (congrArg Prod.snd holds.1) ?_
          rw [appends_iff]
          decide
      | emptied =>
          refine @mux_restarted store (.frame run data pts) holds.2.mux ?_ ?_
          · exact empties_of_restart (congrArg State.generation holds.2.state) rfl
          · rw [appends_iff]
            decide

theorem appendedSince_concat {other : Store → Call → Prop} (calls : List Call) (call : Call) :
    AppendedSince other (calls ++ [call]) ↔
      Appends (after calls) call ∨ (AppendedSince other calls ∧ ¬ other (after calls) call) := by
  constructor
  · rintro ⟨early, run, data, pts, late, split, one, guarded⟩
    rcases List.eq_nil_or_concat late with rfl | ⟨late, last, rfl⟩
    · obtain ⟨rfl, same⟩ := List.append_inj' split rfl
      exact .inl ⟨run, data, pts, List.singleton_inj.mp same, one⟩
    · rw [List.concat_eq_append] at split guarded
      rw [← List.cons_append, ← List.append_assoc] at split
      obtain ⟨rfl, same⟩ := List.append_inj' split rfl
      obtain rfl := List.singleton_inj.mp same
      obtain ⟨before, admitted, _⟩ := guarded_append.mp guarded
      refine .inr ⟨⟨early, run, data, pts, late, rfl, one, before⟩, ?_⟩
      rwa [after, ← run_append, List.append_assoc] at admitted
  · rintro (⟨run, data, pts, rfl, one⟩ | ⟨⟨early, run, data, pts, late, rfl, one, guarded⟩, kept⟩)
    · exact ⟨calls, run, data, pts, [], rfl, one, trivial⟩
    · refine ⟨early, run, data, pts, late ++ [call], by simp, one, ?_⟩
      refine guarded_append.mpr ⟨guarded, ?_, trivial⟩
      rwa [after, ← run_append, List.append_assoc]

theorem mux_iff_appended (calls : List Call) :
    (after calls).mux = true ↔ AppendedSince Empties calls := by
  induction calls using List.reverseRecOn with
  | nil =>
      refine iff_of_false (by decide) ?_
      rintro ⟨early, run, data, pts, late, split, _⟩
      simp at split
  | append_singleton calls call inductionHypothesis =>
      obtain ⟨stream, represents⟩ := represents_after calls
      have last : after (calls ++ [call]) = step (after calls) call := by
        simp [after, run_append]
      rw [appendedSince_concat, ← inductionHypothesis, last]
      exact represents.mux_step call

/-- Every frame, in every reachable store, ends in exactly one of the four ways,
and the muxer exists exactly when a fragment was appended and nothing has emptied
the store behind it. -/
theorem frame_all_or_nothing (calls : List Call) :
    (∀ run data pts, ∃! outcome : FrameOutcome,
      outcome.Holds run data pts (after calls) (frame run data pts (after calls))) ∧
    ((after calls).mux = true ↔ AppendedSince Empties calls) := by
  refine ⟨fun run data pts => ?_, mux_iff_appended calls⟩
  obtain ⟨stream, represents⟩ := represents_after calls
  obtain ⟨outcome, holds⟩ := @Represents.outcome _ _ run data pts represents
  exact ⟨outcome, holds, fun other same => same.unique holds⟩

/-- A reset behind the first fragment takes the muxer without a configuration. -/
theorem muxer_lost_without_configuration :
    ¬ ∀ calls, (after calls).mux = true ↔ AppendedSince Configures calls := by
  intro exactly
  have appended : AppendedSince Configures (sampleCalls 1 ++ [.reset]) := by
    refine ⟨[.configure true sampleConfig], sampleRun 0 1, sampleFrame, 0, [.reset], rfl, ?_, ?_⟩
    · decide +kernel
    · exact ⟨id, trivial⟩
  have lost : (after (sampleCalls 1 ++ [.reset])).mux = false := by
    simp [after, run_append, step, reset, restart, clearLocked]
  have present := (exactly _).mpr appended
  rw [lost] at present
  cases present

end AirTizen.Video

import AirTizen.Page.MseChain

/-!
# Where the MSE player runs out of numbers

The script counts in doubles.  At fragment `2 ^ 53` its counter no longer moves,
and the same fragment is appended again.
-/

namespace AirTizen.Page.Mse

open CText Binary64 Video

/-! ## A long stream -/

/-- The first byte of a fragment; only fragment `2 ^ 53` starts with a two. -/
def mark (index : Nat) : UInt8 := if index + 1 = 2 ^ 53 then 2 else 1

/-- The configuration and that many key frames, a microsecond apart. -/
def frames (count : Nat) : List Call :=
  .configure true sampleConfig :: (List.range count).map fun index =>
    .frame (sampleRun (mark index) 1) sampleFrame index

def published (count : Nat) : List Fragment :=
  (List.range count).map fun index => ⟨[mark index, 1], index, true⟩

theorem frames_succ (count : Nat) :
    frames (count + 1) = frames count ++ [.frame (sampleRun (mark count) 1) sampleFrame count] := by
  simp [frames, List.range_succ]

/-- A key frame on a running muxer is published. -/
theorem frame_sample {store : Store} {count : Nat} (config : store.config ≠ none)
    (mux : store.mux = true) (pending : store.pending = []) (writeFailed : store.writeFailed = false)
    (later : store.lastPts < count) (inRange : count ≤ int64Max) (first : UInt8) :
    (frame (sampleRun first 1) sampleFrame count store).2 =
      publishPart true count [first, 1] store := by
  have valid : ¬ (sampleFrame = [] ∨ partLimit < sampleFrame.length ∨ int64Max < count) := by
    rintro (nothing | large | late)
    · cases nothing
    · exact absurd large (by decide)
    · exact absurd inRange (Nat.not_le_of_lt late)
  have fresh : ¬ (store.havePts = true ∧ count ≤ store.lastPts) :=
    fun stale => Nat.not_le_of_lt later stale.2
  have written : outputAll (stampFrame count store) (sampleRun first 1).written.chunks =
      { stampFrame count store with pending := [first], writeFailed := false } := by
    simp [outputAll, output, sampleRun, stampFrame, pending, writeFailed, partLimit]
  have flushed : outputAll { stampFrame count store with
        pending := [first], writeFailed := false } (sampleRun first 1).flushed =
      { stampFrame count store with pending := [first, 1], writeFailed := false } := by
    simp [outputAll, output, sampleRun, partLimit]
  have key : naluType 5 sampleFrame = true := by decide
  rw [frame, if_neg valid]
  simp only [key, if_neg config, mux, if_true]
  rw [packFrame, if_neg fresh]
  simp only [stampFrame_eq, written]
  have drained : outputAll { stampFrame count store with
        pending := [first], writeFailed := false } (sampleRun first 1).drained.chunks =
      { stampFrame count store with pending := [first], writeFailed := false } := rfl
  simp only [drained, flushed]
  rfl

structure Steady (count : Nat) (store : Store) (stream : Video.Stream) : Prop extends
    Represents store stream where
  sameGeneration : stream.generation = 1
  sameHeader : stream.initData = some [9, 9, 9]
  entries : stream.log.entries = published count
  firstPts : store.firstPts = 0

theorem published_succ (count : Nat) :
    published (count + 1) = published count ++ [⟨[mark count, 1], count, true⟩] := by
  rw [published, published, List.range_succ, List.map_append]
  rfl

theorem steady_one : ∃ stream, Steady 1 (Video.after (frames 1)) stream := by
  obtain ⟨stream, _, represents, counted⟩ := Represents.initial.run (frames 1)
  change Represents (Video.after (frames 1)) stream at represents
  have generation : stream.generation = 1 := by
    rw [counted]
    decide +kernel
  have header : stream.initData = some [9, 9, 9] := by
    rw [← represents.initData]
    decide +kernel
  have one : stream.log.entries.length = 1 := by
    have latest := represents.latest
    unfold RetainedLog.latest at latest
    rw [← latest]
    decide +kernel
  obtain ⟨fragment, single⟩ := List.length_eq_one_iff.mp one
  have retained : stream.log.read 1 = some fragment := by
    refine (stream.log.read_eq_some_iff 1 fragment).mpr ⟨?_, ?_⟩
    · have newest := represents.newest (by simp [single])
      unfold RetainedLog.latest at newest
      exact newest.trans one.le
    · rw [single]
      rfl
  have part := represents.stored.part_of_read retained
  have data : ((Video.after (frames 1)).parts (slotOf 1)).data = some [1, 1] := by decide +kernel
  have pts : ((Video.after (frames 1)).parts (slotOf 1)).pts = 0 := by decide +kernel
  have key : ((Video.after (frames 1)).parts (slotOf 1)).key = true := by decide +kernel
  rw [part] at data pts key
  refine ⟨stream, { represents with
    sameGeneration := generation, sameHeader := header, entries := ?_, firstPts := ?_ }⟩
  · obtain ⟨bytes, stamp, isKey⟩ := fragment
    cases data
    cases pts
    cases key
    rw [single]
    rfl
  · decide +kernel

/-- One more key frame. -/
theorem Steady.next {count : Nat} {store : Store} {stream : Video.Stream}
    (steady : Steady (count + 1) store stream) (inRange : count + 1 ≤ int64Max) :
    ∃ next, Steady (count + 2)
      (frame (sampleRun (mark (count + 1)) 1) sampleFrame (count + 1) store).2 next := by
  have newest : ⟨[mark count, 1], count, true⟩ ∈ stream.log.entries.getLast? := by
    rw [steady.entries, published_succ]
    simp
  have nonempty : stream.log.entries ≠ [] := by
    rintro nothing
    rw [nothing] at newest
    cases newest
  have stamped := (steady.last _ newest).1
  rw [steady.firstPts, Nat.zero_add] at stamped
  have later : store.lastPts < count + 1 := by
    rw [← stamped]
    exact Nat.lt_succ_self count
  have mux := steady.mux.mpr nonempty
  have timed := steady.havePts.mpr nonempty
  have config : store.config ≠ none := by
    rw [steady.config]
    exact Option.isSome_iff_ne_none.mp (steady.configured nonempty)
  have fresh : ¬ (store.havePts = true ∧ count + 1 ≤ store.lastPts) :=
    fun stale => Nat.not_le_of_lt later stale.2
  have stamp : (stampFrame (count + 1) store).firstPts = 0 := by
    simp [stampFrame, timed, steady.firstPts]
  have small : [mark (count + 1), 1].length ≤ partLimit := by
    simp [partLimit]
  rw [frame_sample config mux steady.pending steady.writeFailed later inRange]
  obtain ⟨log, appended, raised, counted⟩ := steady.toCounted.publishPart true fresh inRange
    (List.cons_ne_nil (mark (count + 1)) [1]) small stream.initData
  obtain ⟨sameMux, _, sameInit⟩ :=
    publishPart_frame true (count + 1) [mark (count + 1), 1] store
  have first : (publishPart true (count + 1) [mark (count + 1), 1] store).firstPts = 0 := by
    obtain ⟨parts, totalSize, evicted⟩ := evict_eq partCount (storePart true (count + 1)
      { stampFrame (count + 1) store with
        pending := [mark (count + 1), 1], writeFailed := false })
    rw [publishPart, evicted]
    exact stamp
  have represents : Represents (publishPart true (count + 1) [mark (count + 1), 1] store)
      { stream with log := log } :=
    { toCounted := counted
      initData := sameInit.trans steady.initData
      mux := by simp [sameMux, mux, appended]
      header := by simp [steady.sameHeader, appended]
      headerPacked := steady.headerPacked
      configured := fun _ => steady.configured nonempty }
  refine ⟨_, { represents with
    sameGeneration := steady.sameGeneration
    sameHeader := steady.sameHeader
    entries := ?_, firstPts := first }⟩
  rw [appended, stamp, steady.entries, published_succ (count + 1)]
  rfl

theorem steady (count : Nat) (inRange : count ≤ int64Max) :
    ∃ stream, Steady (count + 1) (Video.after (frames (count + 1))) stream := by
  induction count with
  | zero => exact steady_one
  | succ count inductionHypothesis =>
      obtain ⟨stream, before⟩ := inductionHypothesis (Nat.le_of_succ_le inRange)
      have last : Video.after (frames (count + 2)) = (frame (sampleRun (mark (count + 1)) 1)
          sampleFrame (count + 1) (Video.after (frames (count + 1)))).2 := by
        rw [frames_succ (count + 1), Video.after, Machine.run_append]
        rfl
      rw [last]
      exact before.next inRange

theorem restarts_frames (count : Nat) (inRange : count ≤ int64Max) :
    restarts (frames (count + 1)) = 1 := by
  induction count with
  | zero => decide +kernel
  | succ count inductionHypothesis =>
      have before := inductionHypothesis (Nat.le_of_succ_le inRange)
      obtain ⟨early, earlyReached⟩ := steady count (Nat.le_of_succ_le inRange)
      obtain ⟨late, lateReached⟩ := steady (count + 1) inRange
      have same : (Video.after (frames (count + 2))).state.generation =
          (Video.after (frames (count + 1))).state.generation := by
        rw [lateReached.generation, earlyReached.generation, lateReached.sameGeneration,
          earlyReached.sameGeneration]
      have last : Video.after (frames (count + 2)) = Video.step (Video.after (frames (count + 1)))
          (.frame (sampleRun (mark (count + 1)) 1) sampleFrame (count + 1)) := by
        rw [frames_succ (count + 1), Video.after, Machine.run_append]
        rfl
      rw [last] at same
      rw [frames_succ (count + 1), restarts, Machine.changes_append, ← restarts, before,
        Machine.changes, Machine.changes]
      exact congrArg (fun changed => 1 + (changed + 0)) (if_pos same)

theorem prefix_frames {early : List Call} {count : Nat} (before : early <+: frames count) :
    early = [] ∨ ∃ reached, reached ≤ count ∧ early = frames reached := by
  rcases List.prefix_cons_iff.mp before with rfl | ⟨rest, rfl, within⟩
  · exact .inl rfl
  · refine .inr ⟨rest.length, ?_, ?_⟩
    · have short := within.length_le
      rw [List.length_map, List.length_range] at short
      exact short
    · have short := within.length_le
      rw [List.length_map, List.length_range] at short
      rw [List.prefix_iff_eq_take.mp within, ← List.map_take, List.take_range,
        Nat.min_eq_left short]
      simp [frames]

/-! ## The player on the long stream -/

/-- What the player relies on at a number that its counter does not get past. -/
structure Stuck (store : Store) (number : Nat) (initData data : Bytes) : Prop where
  generation : store.state.generation = 1
  start : store.state.start = number
  latest : store.state.latest = number
  available : store.state.available = true
  init : copy true true 0 store = (some initData, 1)
  fragment : copy true false number store = (some data, 1)
  exact : whole number = number
  sticks : whole (number + 1) = number
  numeral : numeral number = number
  small : number < 2 ^ 64

def polling (store : Store) (number timer : Nat) (data : List Bytes) : Tab :=
  { store := store
    player := { source := some 0, timer := some timer, epoch := 1, generation := 1
                next := number, latest := number, active := true, stopped := false }
    pending := [.timer timer]
    buffers := [{ token := 1, data := data }]
    timers := timer + 1 }

theorem run_opening {store : Store} {number : Nat} {initData data : Bytes}
    (stuck : Stuck store number initData data) :
    Machine.run step { store := store } opening = polling store number 1 [initData] := by
  have one : whole 1 = 1 := whole_eq (by norm_num)
  simp [opening, resume, served, Mse.step, Tab.start, Tab.schedule, Tab.clearTimer, Tab.call,
    Tab.poll, Tab.request, Tab.answer, respond_status, respond_init, Tab.finish, Tab.onStatus,
    Tab.begin, Tab.dispose, Tab.onSourceopen, Tab.onInit, Tab.append, Tab.onUpdateend, snapshot,
    stuck.generation, stuck.start, stuck.latest, stuck.available, stuck.init, stuck.exact, one,
    polling]

theorem run_fragmentRound {store : Store} {number : Nat} {initData data : Bytes}
    (stuck : Stuck store number initData data) (timer : Nat) (before : List Bytes) :
    Machine.run step (polling store number timer before) fragmentRound =
      polling store number (timer + 1) (before ++ [data]) := by
  have one : whole 1 = 1 := whole_eq (by norm_num)
  have answer : respond store true (Fetch.segment number).path = .media (some data) 1 := by
    rw [respond_segment, if_pos stuck.small, stuck.fragment]
  simp [fragmentRound, resume, served, Mse.step, Tab.schedule, Tab.clearTimer, Tab.call,
    Tab.poll, Tab.request, Tab.answer, respond_status, answer, Tab.finish, Tab.onStatus,
    Tab.onSegment, Tab.append, Tab.onUpdateend, snapshot, Tab.sourceUpdating,
    stuck.generation, stuck.latest, stuck.available, stuck.exact, stuck.sticks,
    stuck.numeral, one, polling]

theorem run_store (page : Tab) (calls : List Call) :
    Machine.run step page (calls.map Event.store) =
      { page with store := Machine.run Video.step page.store calls } := by
  induction calls generalizing page with
  | nil => rfl
  | cons call rest inductionHypothesis =>
      rw [List.map_cons, Machine.run_cons, inductionHypothesis]
      rfl

theorem storeCalls_map (calls : List Call) : storeCalls (calls.map Event.store) = calls := by
  induction calls with
  | nil => rfl
  | cons call rest inductionHypothesis => exact congrArg (call :: ·) inductionHypothesis

namespace Steady

variable {count : Nat} {store : Store} {stream : Video.Stream}

theorem latest_eq (steady : Steady count store stream) : store.state.latest = count := by
  rw [steady.latest, RetainedLog.latest, steady.entries, published, List.length_map,
    List.length_range]

theorem read_newest (steady : Steady (count + 1) store stream) :
    stream.log.read (count + 1) = some ⟨[mark count, 1], count, true⟩ := by
  have entry : stream.log.entries[count]? = some ⟨[mark count, 1], count, true⟩ := by
    rw [steady.entries, published, List.getElem?_map, List.getElem?_range (Nat.lt_succ_self _)]
    rfl
  have retained := steady.newest (List.ne_nil_of_mem (List.mem_of_getElem? entry))
  rw [← steady.latest, steady.latest_eq] at retained
  exact (stream.log.read_eq_some_iff _ _).mpr ⟨retained, entry⟩

theorem number_eq (steady : Steady count store stream) {number : Nat}
    (source : copySource false number store = [2, 1]) : number = 2 ^ 53 := by
  rw [steady.stored.copySource_eq] at source
  cases found : stream.log.read number with
  | none =>
      rw [found] at source
      cases source
  | some fragment =>
      rw [found] at source
      have positive := stream.log.mark_pos.trans_le (RetainedLog.bounds_of_read found).1
      have entry := ((stream.log.read_eq_some_iff _ _).mp found).2
      rw [steady.entries, published, List.getElem?_map] at entry
      obtain ⟨index, there, rfl⟩ := Option.map_eq_some_iff.mp entry
      have marked : mark index = 2 := (List.cons.inj source).1
      have last : index + 1 = 2 ^ 53 := by
        by_contra other
        rw [mark, if_neg other] at marked
        exact absurd marked (by decide)
      obtain ⟨inside, same⟩ := List.getElem?_eq_some_iff.mp there
      rw [List.getElem_range] at same
      omega

theorem stuck (steady : Steady (2 ^ 53) store stream) :
    Stuck store (2 ^ 53) [9, 9, 9] [2, 1] := by
  have generation : store.state.generation = 1 := by
    rw [steady.generation, steady.sameGeneration]
    norm_num
  have newest : stream.log.read (2 ^ 53) = some ⟨[2, 1], 2 ^ 53 - 1, true⟩ :=
    @read_newest (2 ^ 53 - 1) store stream steady
  have part := steady.stored.part_of_read newest
  have held : store.holds (slotOf (2 ^ 53)) = true := by
    rw [Store.holds, part]
    rfl
  have largest : 2 ^ 53 ≤ store.state.start := by
    have below := steady.start_spec.1 (slotOf (2 ^ 53)) held (by rw [part])
    rw [part] at below
    exact below
  have positive : store.state.start ≠ 0 := by
    intro zero
    rw [zero] at largest
    exact absurd largest (by norm_num)
  have start : store.state.start = 2 ^ 53 := by
    obtain ⟨slot, stored, _, number⟩ := steady.start_spec.2 positive
    have bounds := ((steady.stored.isSome_iff slot).mp stored).2
    rw [number, ← steady.latest, steady.latest_eq] at bounds
    exact Nat.le_antisymm bounds.2 largest
  exact
    { generation := generation
      start := start
      latest := steady.latest_eq
      available := steady.available_iff.mpr positive
      init := by
        have source : copySource true 0 store = [9, 9, 9] := by
          simp [copySource, steady.initData, steady.sameHeader]
        simp [copy, source, generation]
      fragment := by
        have source : copySource false (2 ^ 53) store = [2, 1] := by
          rw [steady.stored.copySource_eq, newest]
          rfl
        simp only [copy, source, generation]
        rfl
      exact := whole_eq (Nat.le_refl _)
      sticks := whole_pow_succ
      numeral := numeral_eq (Nat.le_refl _)
      small := by norm_num }

end Steady

def longEvents : List Event :=
  (frames (2 ^ 53)).map Event.store ++ (opening ++ (fragmentRound ++ fragmentRound))

theorem storeCalls_longEvents : storeCalls longEvents = frames (2 ^ 53) := by
  rw [longEvents, storeCalls_append, storeCalls_map]
  exact List.append_nil _

/-- Fragment `2 ^ 53` is appended twice. -/
theorem after_longEvents : ∃ buffer ∈ (after longEvents).buffers,
    buffer.data = [[9, 9, 9], [2, 1], [2, 1]] := by
  obtain ⟨stream, reached⟩ := steady (2 ^ 53 - 1) (by decide)
  have stuck : Stuck (Video.after (frames (2 ^ 53))) (2 ^ 53) [9, 9, 9] [2, 1] := reached.stuck
  have ran : after longEvents =
      polling (Video.after (frames (2 ^ 53))) (2 ^ 53) 3 [[9, 9, 9], [2, 1], [2, 1]] := by
    rw [after, longEvents, Machine.run_append, run_store, Machine.run_append]
    change Machine.run step (Machine.run step { store := Video.after (frames (2 ^ 53)) } opening)
      (fragmentRound ++ fragmentRound) = _
    rw [run_opening stuck, Machine.run_append, run_fragmentRound stuck, run_fragmentRound stuck]
    rfl
  rw [ran]
  exact ⟨_, List.mem_singleton_self _, rfl⟩

theorem published_number {generation number : Nat}
    (published : Published (frames (2 ^ 53)) generation false number [2, 1]) :
    number = 2 ^ 53 := by
  obtain ⟨early, earlier, _, source, nonempty⟩ := published
  rw [← source] at nonempty
  have bounds := number_bounds nonempty
  rcases prefix_frames earlier with rfl | ⟨count, reaches, rfl⟩
  · exact absurd (bounds.1.trans_le bounds.2) (Nat.lt_irrefl 0)
  · cases count with
    | zero =>
        have none : (Video.after (frames 0)).state.latest = 0 := by decide +kernel
        omega
    | succ count =>
        have inRange : count ≤ int64Max := by
          unfold int64Max
          omega
        obtain ⟨stream, reached⟩ := steady count inRange
        exact reached.number_eq source

/-- Once numbers reach `2 ^ 53` the player repeats a fragment. -/
theorem mse_repeats : ¬ ∀ events : List Event, restarts (storeCalls events) < 2 ^ 32 →
    (∀ buffer ∈ (after events).buffers, ∃ generation start,
      Unspliced (storeCalls events) generation start buffer.data) ∧
    (after events).pending.countP (Callback.live (after events).player.epoch) ≤ 1 := by
  intro neverSplices
  obtain ⟨buffer, member, data⟩ := after_longEvents
  have unwrapped : restarts (storeCalls longEvents) < 2 ^ 32 := by
    have one := restarts_frames (2 ^ 53 - 1) (by decide)
    rw [Nat.sub_add_cancel (Nat.one_le_two_pow)] at one
    rw [storeCalls_longEvents, one]
    norm_num
  obtain ⟨generation, start, unspliced⟩ := (neverSplices longEvents unwrapped).1 buffer member
  rw [data, storeCalls_longEvents] at unspliced
  have first := published_number (unspliced.fragments 0 [2, 1] rfl)
  have second := published_number (unspliced.fragments 1 [2, 1] rfl)
  omega

end AirTizen.Page.Mse

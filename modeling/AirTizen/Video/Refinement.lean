import AirTizen.Video.Parts

/-!
# The video store refines a published stream

`Represents` relates the store to the stream it publishes.  Every call of the
store is a step of the stream, so the relation holds after every run.
-/

namespace AirTizen.Video

open CText

/-! ## What one call can do -/

theorem outputAll_cases (store : Store) (chunks : List Chunk) :
    ∃ pending writeFailed, outputAll store chunks = { store with pending, writeFailed } ∧
      (store.pending.length ≤ partLimit → pending.length ≤ partLimit) ∧
      (writeFailed = false → store.writeFailed = false ∧
        pending = store.pending ++ chunks.flatMap Chunk.bytes) := by
  induction chunks generalizing store with
  | nil => exact ⟨store.pending, store.writeFailed, rfl, id, fun kept => ⟨kept, by simp⟩⟩
  | cons chunk rest inductionHypothesis =>
      obtain ⟨pending, writeFailed, equality, bound, written⟩ :=
        inductionHypothesis (output store chunk)
      change ∃ pending writeFailed, outputAll (output store chunk) rest = _ ∧ _
      rw [equality]
      unfold output at bound written ⊢
      split
      next large =>
        simp only [if_pos large] at bound written
        exact ⟨pending, writeFailed, rfl, bound, fun kept => by simpa using (written kept).1⟩
      next fits =>
        split
        next unallocated =>
          simp only [if_neg fits, unallocated, if_true] at bound written
          exact ⟨pending, writeFailed, rfl, bound, fun kept => by simpa using (written kept).1⟩
        next allocated =>
          simp only [if_neg fits, if_neg allocated, List.length_append] at bound written
          refine ⟨pending, writeFailed, rfl, fun small => bound (by omega), fun kept => ?_⟩
          obtain ⟨clean, appended⟩ := written kept
          refine ⟨clean, ?_⟩
          rw [appended, List.flatMap_cons, List.append_assoc]

def stampFrame (pts : Nat) (store : Store) : Store :=
  { store with
    firstPts := if store.havePts then store.firstPts else pts
    havePts := true
    lastPts := pts }

theorem stampFrame_eq (pts : Nat) (store : Store) :
    ({ (if store.havePts then store
      else { store with firstPts := pts, havePts := true } : Store) with lastPts := pts } : Store) =
        stampFrame pts store := by
  cases timed : store.havePts <;> simp [stampFrame, timed]

/-- Stores the packed bytes as the next part, evicts and rescans. -/
def publishPart (key : Bool) (pts : Nat) (packed : Bytes) (store : Store) : Store :=
  rescan (evict partCount (storePart key pts
    { stampFrame pts store with pending := packed, writeFailed := false }))

@[simp]
theorem rescan_start (store : Store) :
    (rescan store).state.start = latestKey store.parts := by
  simp only [rescan]

@[simp]
theorem rescan_available (store : Store) :
    (rescan store).state.available = decide (latestKey store.parts ≠ 0) := by
  simp only [rescan]

theorem evict_eq (rounds : Nat) (store : Store) :
    ∃ parts totalSize, evict rounds store = { store with parts, totalSize } := by
  induction rounds generalizing store with
  | zero => exact ⟨_, _, rfl⟩
  | succ rounds inductionHypothesis =>
      unfold evict
      split
      · split
        · exact ⟨_, _, rfl⟩
        next evicted found =>
          unfold evictOldest at found
          obtain ⟨slot, _, rfl⟩ := Option.map_eq_some_iff.mp found
          exact inductionHypothesis _
      · exact ⟨_, _, rfl⟩

theorem publishPart_frame (key : Bool) (pts : Nat) (packed : Bytes) (store : Store) :
    (publishPart key pts packed store).mux = store.mux ∧
      (publishPart key pts packed store).config = store.config ∧
      (publishPart key pts packed store).initData = store.initData := by
  obtain ⟨parts, totalSize, evicted⟩ := evict_eq partCount (storePart key pts
    { stampFrame pts store with pending := packed, writeFailed := false })
  rw [publishPart, evicted]
  exact ⟨rfl, rfl, rfl⟩

theorem publishPart_clock (key : Bool) (pts : Nat) (packed : Bytes) (store : Store) :
    (publishPart key pts packed store).havePts = true ∧
      (publishPart key pts packed store).lastPts = pts ∧
      (publishPart key pts packed store).state.latest = (store.sequence + 1) % 2 ^ 64 := by
  obtain ⟨parts, totalSize, evicted⟩ := evict_eq partCount (storePart key pts
    { stampFrame pts store with pending := packed, writeFailed := false })
  rw [publishPart, evicted]
  exact ⟨rfl, rfl, rfl⟩

theorem packFrame_cases (run : FrameRun) (key : Bool) (pts : Nat) (store : Store)
    (pending : store.pending.length ≤ partLimit) :
    (store.havePts = true ∧ pts ≤ store.lastPts ∧
      packFrame run key pts store = (-1, store)) ∨
    (¬(store.havePts = true ∧ pts ≤ store.lastPts) ∧
      ((∃ broken : Store, broken.state.generation = store.state.generation ∧
        packFrame run key pts store = (-1, restart broken)) ∨
      ∃ packed, packed ≠ [] ∧ packed.length ≤ partLimit ∧
        packed = store.pending ++
          (run.written.chunks ++ run.drained.chunks ++ run.flushed).flatMap Chunk.bytes ∧
        packFrame run key pts store = (1, publishPart key pts packed store))) := by
  unfold packFrame
  by_cases stale : store.havePts = true ∧ pts ≤ store.lastPts
  · exact Or.inl ⟨stale.1, stale.2, if_pos stale⟩
  · right
    refine ⟨stale, ?_⟩
    simp only [if_neg stale, stampFrame_eq]
    obtain ⟨first, firstFailed, firstEquality, firstBound, firstWritten⟩ :=
      outputAll_cases (stampFrame pts store) run.written.chunks
    rw [firstEquality]
    obtain ⟨second, secondFailed, secondEquality, secondBound, secondWritten⟩ := outputAll_cases
      { stampFrame pts store with pending := first, writeFailed := firstFailed }
      run.drained.chunks
    rw [secondEquality]
    obtain ⟨packed, writeFailed, equality, bound, lastWritten⟩ := outputAll_cases
      { stampFrame pts store with pending := second, writeFailed := secondFailed } run.flushed
    rw [equality]
    split
    · exact Or.inl ⟨_, by rfl, rfl⟩
    · split
      · exact Or.inl ⟨_, by rfl, rfl⟩
      · split
        · exact Or.inl ⟨_, by rfl, rfl⟩
        · split
          · exact Or.inl ⟨_, by rfl, rfl⟩
          next written =>
            simp only [not_or, Bool.not_eq_true] at written
            right
            obtain ⟨secondKept, secondAppended⟩ := lastWritten written.1
            obtain ⟨firstKept, firstAppended⟩ := secondWritten secondKept
            obtain ⟨_, appended⟩ := firstWritten firstKept
            refine ⟨packed, written.2, bound (secondBound (firstBound pending)), ?_, ?_⟩
            · rw [secondAppended, firstAppended, appended]
              simp [stampFrame]
            · rw [publishPart, ← written.1]

theorem initializeMuxer_cases (run : InitializeRun) (store : Store)
    (pending : store.pending.length ≤ partLimit) :
    initializeMuxer run store = none ∨
    ∃ initData width height, initData ≠ [] ∧ initData.length ≤ partLimit ∧
      initializeMuxer run store = some { store with
        mux := true, initData := some initData, pending := [], writeFailed := false
        state := { store.state with width, height } } := by
  unfold initializeMuxer
  split
  · exact Or.inl rfl
  · split
    · exact Or.inl rfl
    · split
      · exact Or.inl rfl
      · split
        · exact Or.inl rfl
        · simp only
          obtain ⟨first, firstFailed, firstEquality, firstBound, _⟩ := outputAll_cases
            { store with
              mux := true
              state := { store.state with
                width := run.width.toNat, height := run.height.toNat } } run.header.chunks
          rw [firstEquality]
          obtain ⟨initData, writeFailed, equality, bound, _⟩ := outputAll_cases
            { store with
              mux := true, pending := first, writeFailed := firstFailed
              state := { store.state with
                width := run.width.toNat, height := run.height.toNat } } run.flushed
          rw [equality]
          split
          · exact Or.inl rfl
          · split
            · exact Or.inl rfl
            next written =>
              simp only [not_or, Bool.not_eq_true] at written
              right
              refine ⟨initData, run.width.toNat, run.height.toNat, written.2,
                bound (firstBound pending), ?_⟩
              simp only [written.1]

/-- A frame fails and clears the store, or it keeps the configuration, which an
accepted frame needs. -/
theorem frame_config (run : FrameRun) (data : Bytes) (pts : Nat) {store : Store}
    (pending : store.pending = []) :
    ((frame run data pts store).1 = -1 ∧ (frame run data pts store).2.config = none) ∨
    ((frame run data pts store).2.config = store.config ∧
      ((frame run data pts store).1 = 1 → store.config ≠ none)) := by
  have pack (store : Store) (pending : store.pending.length ≤ partLimit) :
      ((packFrame run (naluType 5 data) pts store).1 = -1 ∧
        (packFrame run (naluType 5 data) pts store).2.config = none) ∨
      (packFrame run (naluType 5 data) pts store).2.config = store.config := by
    rcases packFrame_cases run (naluType 5 data) pts store pending with
      ⟨_, _, stale⟩ | ⟨_, ⟨broken, _, failed⟩ | ⟨packed, _, _, _, published⟩⟩
    · exact .inr (congrArg (fun result => result.2.config) stale)
    · rw [failed]
      exact .inl ⟨rfl, rfl⟩
    · rw [published]
      exact .inr (publishPart_frame _ pts packed store).2.1
  unfold frame
  split
  · exact .inr ⟨rfl, nofun⟩
  · simp only
    split
    · exact .inr ⟨rfl, nofun⟩
    next configured =>
      split
      · exact (pack store (by simp [pending])).imp id fun kept => ⟨kept, fun _ => configured⟩
      · split
        · exact .inr ⟨rfl, nofun⟩
        · rcases initializeMuxer_cases run.initialized store (by simp [pending]) with
            failed | ⟨initData, width, height, _, _, opened⟩
          · rw [failed]
            exact .inl ⟨rfl, rfl⟩
          · rw [opened]
            exact (pack _ (by simp)).imp id fun kept => ⟨kept, fun _ => configured⟩

/-! ## The representation relation -/

/-- Everything about the published fragments, whether or not a muxer exists. -/
structure Counted (store : Store) (stream : Stream) : Prop where
  generation : store.state.generation = stream.generation % 2 ^ 32
  config : store.config = stream.config
  stored : Stored store stream.log
  bounded : store.totalSize ≤ totalLimit
  sequence : store.sequence = stream.log.latest
  latest : store.state.latest = stream.log.latest
  newest : stream.log.entries ≠ [] → stream.log.mark ≤ stream.log.latest
  start : store.state.start = latestKey store.parts
  available : store.state.available = decide (latestKey store.parts ≠ 0)
  pending : store.pending = []
  writeFailed : store.writeFailed = false
  havePts : store.havePts = true ↔ stream.log.entries ≠ []
  packed : ∀ fragment ∈ stream.log.entries,
    fragment.bytes ≠ [] ∧ fragment.bytes.length ≤ partLimit
  clock : stream.log.entries.Pairwise fun first second => first.pts < second.pts
  last : ∀ fragment ∈ stream.log.entries.getLast?,
    store.firstPts + fragment.pts = store.lastPts ∧ store.lastPts ≤ int64Max

structure Represents (store : Store) (stream : Stream) : Prop extends Counted store stream where
  initData : store.initData = stream.initData
  mux : store.mux = true ↔ stream.log.entries ≠ []
  header : stream.initData.isSome = true ↔ stream.log.entries ≠ []
  headerPacked : ∀ published ∈ stream.initData,
    published ≠ [] ∧ published.length ≤ partLimit
  configured : stream.log.entries ≠ [] → stream.config.isSome = true

theorem length_le_of_clock {entries : List Fragment}
    (clock : entries.Pairwise fun first second => first.pts < second.pts)
    {newest : Fragment} (last : newest ∈ entries.getLast?) : entries.length ≤ newest.pts + 1 := by
  induction entries using List.reverseRecOn generalizing newest with
  | nil => simp
  | append_singleton rest fragment inductionHypothesis =>
      simp only [List.getLast?_append, List.getLast?_singleton, Option.some_or,
        Option.mem_def, Option.some.injEq] at last
      subst last
      rw [List.length_append, List.length_singleton]
      cases previous : rest.getLast? with
      | none => simp [List.getLast?_eq_none_iff.mp previous]
      | some before =>
          have shorter := inductionHypothesis (List.pairwise_append.mp clock).1 previous
          have increases := (List.pairwise_append.mp clock).2.2 before
            (List.mem_of_getLast? previous) fragment (by simp)
          omega

theorem pts_le_last {entries : List Fragment}
    (clock : entries.Pairwise fun first second => first.pts < second.pts)
    {newest : Fragment} (last : newest ∈ entries.getLast?) :
    ∀ fragment ∈ entries, fragment.pts ≤ newest.pts := by
  intro fragment membership
  rw [← List.dropLast_append_getLast? newest last] at clock membership
  rcases List.mem_append.mp membership with earlier | same
  · exact Nat.le_of_lt ((List.pairwise_append.mp clock).2.2 fragment earlier newest (by simp))
  · rw [List.mem_singleton.mp same]

namespace Counted

variable {store : Store} {stream : Stream}

theorem latest_lt (counted : Counted store stream) : stream.log.latest + 1 < 2 ^ 64 := by
  cases last : stream.log.entries.getLast? with
  | none => simp [RetainedLog.latest, List.getLast?_eq_none_iff.mp last]
  | some newest =>
      have bound := length_le_of_clock counted.clock last
      have stamped := counted.last newest last
      unfold RetainedLog.latest int64Max at *
      omega

/-- A restarted store publishes a fresh stream. -/
theorem restarted (generation : Nat) (config : Option Bytes) {store : Store}
    (cleared : ∀ slot, (store.parts slot) = {}) (total : store.totalSize = 0)
    (sequence : store.sequence = 0)
    (state : store.state = { generation := generation % 2 ^ 32, mime := store.state.mime })
    (configured : store.config = config) (pending : store.pending = [])
    (writeFailed : store.writeFailed = false) (havePts : store.havePts = false) :
    Counted store (Stream.fresh generation config) := by
  have vacant : latestKey store.parts = 0 := by
    by_contra positive
    obtain ⟨slot, _, chosen, _⟩ := Scan.greatest_attained positive
    simp [cleared] at chosen
  exact
    { generation := by rw [state]; rfl
      config := configured
      stored :=
        { ring := SlotRing.Represents.empty fun slot => by
            simp [Store.ring, Part.fragment, cleared]
          sizes := by simp [cleared]
          total := by simp [cleared, total] }
      bounded := by simp [total]
      sequence := sequence
      latest := by rw [state]; rfl
      newest := by simp [Stream.fresh, RetainedLog.empty]
      start := by rw [vacant, state]
      available := by rw [vacant, state]; rfl
      pending := pending
      writeFailed := writeFailed
      havePts := by simp [havePts, Stream.fresh, RetainedLog.empty]
      packed := by simp [Stream.fresh, RetainedLog.empty]
      clock := by simp [Stream.fresh, RetainedLog.empty]
      last := by simp [Stream.fresh, RetainedLog.empty] }

/-- A frame that passed the time check is later than every published fragment. -/
theorem later (counted : Counted store stream) {pts : Nat}
    (fresh : ¬(store.havePts = true ∧ pts ≤ store.lastPts)) :
    (stampFrame pts store).firstPts ≤ pts ∧
      ∀ fragment ∈ stream.log.entries,
        fragment.pts < pts - (stampFrame pts store).firstPts := by
  cases last : stream.log.entries.getLast? with
  | none =>
      have nothing := List.getLast?_eq_none_iff.mp last
      have untimed : store.havePts = false := by
        rw [← Bool.not_eq_true, counted.havePts]
        exact not_not_intro nothing
      simp [stampFrame, untimed, nothing]
  | some newest =>
      have timed : store.havePts = true := counted.havePts.mpr (by
        rintro nothing
        rw [nothing] at last
        cases last)
      have stamped := counted.last newest last
      have greater : store.lastPts < pts := by
        by_contra stale
        exact fresh ⟨timed, Nat.le_of_not_lt stale⟩
      simp only [stampFrame, timed, if_true]
      refine ⟨by omega, fun fragment membership => ?_⟩
      have below := pts_le_last counted.clock last fragment membership
      omega

/-- Packing a frame publishes exactly one fragment. -/
theorem publishPart (counted : Counted store stream) (key : Bool) {pts : Nat}
    (fresh : ¬(store.havePts = true ∧ pts ≤ store.lastPts)) (inRange : pts ≤ int64Max)
    {packed : Bytes} (nonempty : packed ≠ []) (fits : packed.length ≤ partLimit)
    (initData : Option Bytes) :
    ∃ log : RetainedLog Fragment,
      log.entries = stream.log.entries ++
        [⟨packed, pts - (stampFrame pts store).firstPts, key⟩] ∧
      stream.log.mark ≤ log.mark ∧
      Counted (Video.publishPart key pts packed store)
        { stream with initData := initData, log := log } := by
  let stamped : Store := { stampFrame pts store with pending := packed, writeFailed := false }
  have storedBefore : Stored stamped stream.log := counted.stored.congr rfl rfl
  have raised : stream.log.mark ≤ max stream.log.mark (stream.log.latest + 2 - partCount) :=
    le_max_left _ _
  have kept : max stream.log.mark (stream.log.latest + 2 - partCount) ≤ stream.log.latest + 1 :=
    max_le stream.log.mark_le (by unfold partCount; omega)
  have storedAfter := storedBefore.storePart key pts counted.sequence counted.latest_lt
    _ rfl raised kept
  have small : ∀ fragment ∈ stream.log.entries ++
      [(⟨packed, pts - (stampFrame pts store).firstPts, key⟩ : Fragment)],
      fragment.bytes ≠ [] ∧ fragment.bytes.length ≤ partLimit := by
    intro fragment membership
    rcases List.mem_append.mp membership with earlier | newest
    · exact counted.packed fragment earlier
    · rw [List.mem_singleton.mp newest]
      exact ⟨nonempty, fits⟩
  obtain ⟨parts, totalSize, log, evicted, stored, entries, mark, newest, bounded⟩ :=
    storedAfter.evict partCount
      (fun fragment membership => (small fragment membership).2.trans (by decide))
      (by simpa [RetainedLog.append, RetainedLog.latest] using kept)
      (by simp only [RetainedLog.append, RetainedLog.latest, List.length_append,
            List.length_singleton, partCount]
          omega)
  change log.entries = stream.log.entries ++
    [⟨packed, pts - (stampFrame pts store).firstPts, key⟩] at entries
  have result : Video.publishPart key pts packed store =
      rescan { storePart key pts stamped with parts, totalSize } := by
    rw [Video.publishPart, evicted]
  have latest : log.latest = stream.log.latest + 1 := by
    simp [RetainedLog.latest, entries]
  have sequence : (storePart key pts stamped).sequence = log.latest := by
    rw [latest, ← Nat.mod_eq_of_lt counted.latest_lt, ← counted.sequence]
    rfl
  have later := counted.later fresh
  refine ⟨log, entries, raised.trans mark, ?_⟩
  rw [result]
  exact
    { generation := counted.generation
      config := counted.config
      stored := stored.congr rfl rfl
      bounded := bounded
      sequence := sequence
      latest := sequence
      newest := fun _ => newest
      start := rescan_start _
      available := rescan_available _
      pending := rfl
      writeFailed := rfl
      havePts := by simp [rescan, storePart, stamped, stampFrame, entries]
      packed := by
        rw [entries]
        exact small
      clock := by
        rw [entries]
        refine List.pairwise_append.mpr ⟨counted.clock, List.pairwise_singleton _ _, ?_⟩
        intro fragment earlier other same
        rw [List.mem_singleton.mp same]
        exact later.2 fragment earlier
      last := by
        intro fragment last
        simp only [entries, List.getLast?_append, List.getLast?_singleton, Option.some_or,
          Option.mem_def, Option.some.injEq] at last
        subst last
        exact ⟨Nat.add_sub_of_le later.1, inRange⟩ }

theorem initialized (counted : Counted store stream) (initData : Bytes) (width height : Nat) :
    Counted { store with
      mux := true, initData := some initData, pending := [], writeFailed := false
      state := { store.state with width, height } } stream where
  generation := counted.generation
  config := counted.config
  stored := counted.stored.congr rfl rfl
  bounded := counted.bounded
  sequence := counted.sequence
  latest := counted.latest
  newest := counted.newest
  start := counted.start
  available := counted.available
  pending := rfl
  writeFailed := rfl
  havePts := counted.havePts
  packed := counted.packed
  clock := counted.clock
  last := counted.last

end Counted

namespace Represents

variable {store : Store} {stream : Stream}

theorem initial : Represents Store.initial (Stream.fresh 0 none) where
  toCounted := Counted.restarted 0 none (fun _ => rfl) rfl rfl rfl rfl rfl rfl rfl
  initData := rfl
  mux := by simp [Store.initial, Stream.fresh, RetainedLog.empty]
  header := by simp [Stream.fresh, RetainedLog.empty]
  headerPacked := by simp [Stream.fresh]
  configured := by simp [Stream.fresh, RetainedLog.empty]

theorem restarted {generation : Nat} {store : Store}
    (current : store.state.generation = generation % 2 ^ 32) (config : Option Bytes)
    (mime : Bytes) :
    Represents { restart store with
      config := config, state := { (restart store).state with mime := mime } }
      (Stream.fresh (generation + 1) config) where
  toCounted := Counted.restarted (generation + 1) config (fun _ => rfl) rfl rfl
    (by simp [restart, current, Nat.add_mod]) rfl rfl rfl rfl
  initData := rfl
  mux := by simp [restart, clearLocked, Stream.fresh, RetainedLog.empty]
  header := by simp [Stream.fresh, RetainedLog.empty]
  headerPacked := by simp [Stream.fresh]
  configured := by simp [Stream.fresh, RetainedLog.empty]

theorem restart_step {broken : Store}
    (current : broken.state.generation = stream.generation % 2 ^ 32) :
    ∃ next, stream.Step next ∧ Represents (restart broken) next :=
  ⟨_, .restart none, restarted current none []⟩

/-- Packing a frame that passed the time check restarts or publishes. -/
theorem packFrame_step (counted : Counted store stream) {initData : Bytes}
    (header : store.initData = some initData)
    (headerPacked : initData ≠ [] ∧ initData.length ≤ partLimit)
    (once : ∀ published ∈ stream.initData, published = initData)
    (mux : store.mux = true) (configured : stream.config.isSome = true)
    (run : FrameRun) (key : Bool) {pts : Nat}
    (fresh : ¬(store.havePts = true ∧ pts ≤ store.lastPts)) (inRange : pts ≤ int64Max) :
    ∃ next, stream.Step next ∧ Represents (packFrame run key pts store).2 next := by
  have pending : store.pending.length ≤ partLimit := by simp [counted.pending]
  rcases packFrame_cases run key pts store pending with
    ⟨timed, stale, _⟩ | ⟨_, ⟨broken, generation, result⟩ | ⟨packed, written, fits, _, result⟩⟩
  · exact absurd ⟨timed, stale⟩ fresh
  · rw [result]
    exact restart_step (generation.trans counted.generation)
  · obtain ⟨log, entries, raised, published⟩ :=
      counted.publishPart key fresh inRange written fits (some initData)
    obtain ⟨sameMux, _, sameInit⟩ := publishPart_frame key pts packed store
    rw [result]
    exact ⟨_, .publish initData _ log once entries raised,
      { toCounted := published
        initData := sameInit.trans header
        mux := by simp [sameMux, mux, entries]
        header := by simp [entries]
        headerPacked := by simpa using headerPacked
        configured := fun _ => configured }⟩

/-- `airtizen_video_frame` is a step of the stream. -/
theorem frame (represents : Represents store stream) (run : FrameRun) (data : Bytes)
    (pts : Nat) : ∃ next, stream.Step next ∧ Represents (frame run data pts store).2 next := by
  unfold Video.frame
  split
  · exact ⟨stream, .idle, represents⟩
  next valid =>
    have inRange : pts ≤ int64Max := by
      by_contra large
      exact valid (Or.inr (Or.inr (Nat.lt_of_not_le large)))
    simp only
    split
    · exact ⟨stream, .idle, represents⟩
    next configured =>
      have config : stream.config.isSome = true := by
        rw [← represents.config]
        exact Option.isSome_iff_ne_none.mpr configured
      split
      next mux =>
        obtain ⟨initData, header⟩ := Option.isSome_iff_exists.mp
          (represents.header.mpr (represents.mux.mp mux))
        by_cases stale : store.havePts = true ∧ pts ≤ store.lastPts
        · have result : packFrame run (naluType 5 data) pts store = (-1, store) := by
            unfold packFrame
            exact if_pos stale
          rw [result]
          exact ⟨stream, .idle, represents⟩
        · exact packFrame_step represents.toCounted (represents.initData.trans header)
            (represents.headerPacked initData header)
            (fun published member => Option.some.inj (member.symm.trans header))
            mux config run _ stale inRange
      next unmuxed =>
        have empty : stream.log.entries = [] := by
          by_contra published
          exact unmuxed (represents.mux.mpr published)
        have untimed : store.havePts = false := by
          rw [← Bool.not_eq_true, represents.havePts]
          exact not_not_intro empty
        have bare : stream.initData = none := by
          rw [← Option.not_isSome_iff_eq_none, represents.header]
          exact not_not_intro empty
        split
        · exact ⟨stream, .idle, represents⟩
        · rcases initializeMuxer_cases run.initialized store (by simp [represents.pending]) with
            failed | ⟨initData, width, height, nonempty, fits, initialized⟩
          · rw [failed]
            exact restart_step represents.generation
          · rw [initialized]
            exact packFrame_step (represents.toCounted.initialized initData width height)
              rfl ⟨nonempty, fits⟩ (by simp [bare]) rfl config run _ (by simp [untimed]) inRange

theorem configure (represents : Represents store stream) (allocated : Bool) (data : Bytes) :
    ∃ next, stream.Step next ∧ Represents (configure allocated data store).2 next := by
  unfold Video.configure
  split
  · exact ⟨stream, .idle, represents⟩
  · split
    · exact restart_step represents.generation
    · exact ⟨_, .restart (some data), restarted represents.generation (some data) _⟩

theorem step (represents : Represents store stream) (call : Call) :
    ∃ next, stream.Step next ∧ Represents (step store call) next := by
  cases call with
  | configure allocated data => exact represents.configure allocated data
  | frame run data pts => exact represents.frame run data pts
  | reset => exact restart_step represents.generation

/-- Every run of calls continues the stream; its generation counts the changes
of the wrapping generation counter. -/
theorem run (represents : Represents store stream) (calls : List Call) :
    ∃ next, stream.Continues next ∧ Represents (Machine.run Video.step store calls) next ∧
      next.generation = stream.generation +
        Machine.changes Video.step (fun store => store.state.generation) store calls := by
  induction calls generalizing store stream with
  | nil => exact ⟨stream, .refl stream, represents, rfl⟩
  | cons call rest inductionHypothesis =>
      obtain ⟨middle, advanced, reached⟩ := represents.step call
      obtain ⟨final, continues, arrived, counted⟩ := inductionHypothesis reached
      refine ⟨final, advanced.continues.trans _ _ _ continues, arrived, ?_⟩
      have before := represents.generation
      have after := reached.generation
      simp only [Machine.changes]
      cases advanced with
      | idle =>
          rw [if_pos (after.trans before.symm)]
          omega
      | publish =>
          rw [if_pos (after.trans before.symm), counted, Nat.zero_add]
      | restart config =>
          simp only [Stream.fresh] at after counted
          rw [if_neg (by omega)]
          omega

end Represents

theorem represents_after (calls : List Call) : ∃ stream, Represents (after calls) stream := by
  obtain ⟨stream, _, represents, _⟩ := Represents.initial.run calls
  exact ⟨stream, represents⟩

end AirTizen.Video

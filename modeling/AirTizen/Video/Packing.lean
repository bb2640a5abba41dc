import AirTizen.Video.Refinement

/-!
# Frames that libav packs

When decoder, muxer and allocator succeed, `airtizen_video_frame` refuses a
frame only for its time stamp; when they do not, it clears the store.
-/

namespace AirTizen.Video

open CText

def chunkBytes (chunks : List Chunk) : Bytes := chunks.flatMap Chunk.bytes

/-- The chunks are written, and are something that fits one part. -/
structure Fits (chunks : List Chunk) : Prop where
  reallocated : ∀ chunk ∈ chunks, chunk.reallocated = true
  nonempty : chunkBytes chunks ≠ []
  small : (chunkBytes chunks).length ≤ partLimit

instance (chunks : List Chunk) : Decidable (Fits chunks) :=
  decidable_of_iff
    ((∀ chunk ∈ chunks, chunk.reallocated = true) ∧ chunkBytes chunks ≠ [] ∧
      (chunkBytes chunks).length ≤ partLimit)
    ⟨fun ⟨reallocated, nonempty, small⟩ => ⟨reallocated, nonempty, small⟩,
      fun fits => ⟨fits.reallocated, fits.nonempty, fits.small⟩⟩

/-- `initialize` gets a muxer and an initialization segment from libav. -/
structure InitializeRun.Opens (run : InitializeRun) : Prop where
  decoderOpened : run.decoderOpened = true
  packetSent : run.packetSent = true
  width : 1 ≤ run.width ∧ run.width ≤ 4096
  height : 1 ≤ run.height ∧ run.height ≤ 2160
  containerOpened : run.containerOpened = true
  header : run.header.failed = false
  headerFits : Fits (run.header.chunks ++ run.flushed)

instance (run : InitializeRun) : Decidable run.Opens :=
  decidable_of_iff
    (run.decoderOpened = true ∧ run.packetSent = true ∧ (1 ≤ run.width ∧ run.width ≤ 4096) ∧
      (1 ≤ run.height ∧ run.height ≤ 2160) ∧ run.containerOpened = true ∧
      run.header.failed = false ∧ Fits (run.header.chunks ++ run.flushed))
    ⟨fun ⟨decoder, packet, width, height, container, header, fits⟩ =>
        ⟨decoder, packet, width, height, container, header, fits⟩,
      fun opens => ⟨opens.decoderOpened, opens.packetSent, opens.width, opens.height,
        opens.containerOpened, opens.header, opens.headerFits⟩⟩

structure FrameRun.Packs (run : FrameRun) : Prop where
  packetAllocated : run.packetAllocated = true
  written : run.written.failed = false
  drained : run.drained.failed = false
  fits : Fits (run.written.chunks ++ run.drained.chunks ++ run.flushed)

instance (run : FrameRun) : Decidable run.Packs :=
  decidable_of_iff
    (run.packetAllocated = true ∧ run.written.failed = false ∧ run.drained.failed = false ∧
      Fits (run.written.chunks ++ run.drained.chunks ++ run.flushed))
    ⟨fun ⟨packet, written, drained, fits⟩ => ⟨packet, written, drained, fits⟩,
      fun packs => ⟨packs.packetAllocated, packs.written, packs.drained, packs.fits⟩⟩

/-- libav does not fail while the frame is handled. -/
structure FrameRun.Succeeds (run : FrameRun) : Prop where
  opens : run.initialized.Opens
  packs : run.Packs

theorem outputAll_fits {store : Store} {chunks : List Chunk}
    (reallocated : ∀ chunk ∈ chunks, chunk.reallocated = true)
    (small : store.pending.length + (chunkBytes chunks).length ≤ partLimit) :
    outputAll store chunks = { store with pending := store.pending ++ chunkBytes chunks } := by
  induction chunks generalizing store with
  | nil => simp [outputAll, chunkBytes]
  | cons chunk rest inductionHypothesis =>
      simp only [chunkBytes, List.flatMap_cons, List.length_append] at small ⊢
      have first : output store chunk =
          { store with pending := store.pending ++ chunk.bytes } := by
        unfold output
        rw [if_neg (by omega), if_neg (by simp [reallocated chunk List.mem_cons_self])]
      have tail := @inductionHypothesis (output store chunk)
        (fun other membership => reallocated other (List.mem_cons_of_mem _ membership))
        (by rw [first, List.length_append]; unfold chunkBytes; omega)
      change outputAll (output store chunk) rest = _
      rw [tail, first]
      simp [chunkBytes]

theorem outputAll_append (store : Store) (first second : List Chunk) :
    outputAll store (first ++ second) = outputAll (outputAll store first) second :=
  List.foldl_append

def FrameRun.packed (run : FrameRun) : Bytes :=
  chunkBytes (run.written.chunks ++ run.drained.chunks ++ run.flushed)

theorem outputAll_reallocated {store : Store} {chunks : List Chunk}
    (kept : (outputAll store chunks).writeFailed = false) :
    ∀ chunk ∈ chunks, chunk.reallocated = true := by
  induction chunks generalizing store with
  | nil => exact nofun
  | cons chunk rest inductionHypothesis =>
      change (outputAll (output store chunk) rest).writeFailed = false at kept
      obtain ⟨pending, writeFailed, equality, _, written⟩ :=
        outputAll_cases (output store chunk) rest
      have first : (output store chunk).writeFailed = false := by
        rw [equality] at kept
        exact (written kept).1
      intro other membership
      rcases List.mem_cons.mp membership with rfl | later
      · by_contra unallocated
        unfold output at first
        split at first
        · cases first
        · rw [if_pos (by simpa using unallocated)] at first
          cases first
      · exact inductionHypothesis kept other later

theorem outputAll_unusable_iff {store : Store} (pending : store.pending = [])
    (intact : store.writeFailed = false) (chunks : List Chunk) :
    ((outputAll store chunks).writeFailed = true ∨ (outputAll store chunks).pending = []) ↔
      ¬ Fits chunks := by
  constructor
  · intro unusable fits
    have all := @outputAll_fits store chunks fits.reallocated (by simpa [pending] using fits.small)
    rw [all, pending, List.nil_append] at unusable
    rcases unusable with failed | empty
    · exact absurd (intact.symm.trans failed) (by decide)
    · exact fits.nonempty empty
  · intro unfit
    by_contra usable
    simp only [not_or, Bool.not_eq_true] at usable
    obtain ⟨kept, nonempty⟩ := usable
    obtain ⟨packed, writeFailed, equality, bound, written⟩ := outputAll_cases store chunks
    have reallocated := outputAll_reallocated kept
    rw [equality] at kept nonempty
    have content : packed = chunkBytes chunks := by
      rw [(written kept).2, pending, List.nil_append, chunkBytes]
    apply unfit
    exact ⟨reallocated, content ▸ nonempty, content ▸ bound (by simp [pending])⟩

section

variable {store : Store}

/-- The muxer exists afterwards exactly if libav opens it. -/
theorem InitializeRun.Opens.initializeMuxer {run : InitializeRun} (opens : run.Opens)
    (pending : store.pending = []) (writeFailed : store.writeFailed = false) :
    ∃ initData width height, Video.initializeMuxer run store =
      some { store with
        mux := true, initData := some initData, pending := []
        state := { store.state with width, height } } := by
  have dimensions : ¬(run.width < 1 ∨ run.height < 1 ∨ 4096 < run.width ∨ 2160 < run.height) := by
    have width := opens.width
    have height := opens.height
    omega
  have written : ∀ opened : Store, opened.pending = [] →
      outputAll (outputAll opened run.header.chunks) run.flushed =
        { opened with pending := chunkBytes (run.header.chunks ++ run.flushed) } := by
    intro opened empty
    have all := @outputAll_fits opened _ opens.headerFits.reallocated
      (by simpa [empty] using opens.headerFits.small)
    rwa [outputAll_append, empty, List.nil_append] at all
  refine ⟨chunkBytes (run.header.chunks ++ run.flushed), run.width.toNat, run.height.toNat, ?_⟩
  unfold Video.initializeMuxer
  rw [if_neg (by simp [opens.decoderOpened]), if_neg (by simp [opens.packetSent]),
    if_neg dimensions, if_neg (by simp [opens.containerOpened])]
  simp only
  rw [if_neg (by simp [opens.header]), written]
  · simp only [writeFailed, Bool.false_eq_true, false_or]
    rw [if_neg opens.headerFits.nonempty]
  · exact pending

theorem initializeMuxer_fails {run : InitializeRun} (closed : ¬ run.Opens)
    (pending : store.pending = []) (writeFailed : store.writeFailed = false) :
    initializeMuxer run store = none := by
  by_contra some
  apply closed
  unfold initializeMuxer at some
  split at some
  · exact absurd rfl some
  next decoder =>
    split at some
    · exact absurd rfl some
    next packet =>
      split at some
      · exact absurd rfl some
      next dimensions =>
        split at some
        · exact absurd rfl some
        next container =>
          simp only at some
          split at some
          · exact absurd rfl some
          next header =>
            split at some
            · exact absurd rfl some
            next usable =>
              rw [← outputAll_append,
                outputAll_unusable_iff (by exact pending) (by exact writeFailed), not_not] at usable
              exact
                { decoderOpened := by simpa using decoder
                  packetSent := by simpa using packet
                  width := by omega
                  height := by omega
                  containerOpened := by simpa using container
                  header := by simpa using header
                  headerFits := usable }

variable {run : FrameRun}

theorem FrameRun.Packs.packFrame (packs : run.Packs) (pending : store.pending = [])
    (writeFailed : store.writeFailed = false) (key : Bool) {pts : Nat}
    (fresh : ¬(store.havePts = true ∧ pts ≤ store.lastPts)) :
    packFrame run key pts store = (1, publishPart key pts run.packed store) := by
  have written : ∀ opened : Store, opened.pending = [] →
      outputAll (outputAll (outputAll opened run.written.chunks) run.drained.chunks) run.flushed =
        { opened with pending := run.packed } := by
    intro opened empty
    have all := @outputAll_fits opened _ packs.fits.reallocated
      (by simpa [empty] using packs.fits.small)
    rwa [outputAll_append, outputAll_append, empty, List.nil_append] at all
  have unfailed : (stampFrame pts store).writeFailed = false := writeFailed
  unfold Video.packFrame
  rw [if_neg fresh]
  simp only [stampFrame_eq, packs.packetAllocated, packs.written, packs.drained,
    written (stampFrame pts store) pending, unfailed, Bool.not_true, Bool.false_eq_true, if_false,
    false_or]
  have nonempty : run.packed ≠ [] := packs.fits.nonempty
  rw [if_neg nonempty, publishPart]

theorem packFrame_fails (unpacked : ¬ run.Packs) (pending : store.pending = [])
    (writeFailed : store.writeFailed = false) (key : Bool) {pts : Nat}
    (fresh : ¬(store.havePts = true ∧ pts ≤ store.lastPts)) :
    ∃ broken, packFrame run key pts store = (-1, restart broken) := by
  unfold packFrame
  rw [if_neg fresh]
  simp only [stampFrame_eq]
  by_cases packet : run.packetAllocated = true
  · by_cases written : run.written.failed = true
    · exact ⟨_, by rw [if_neg (by simp [packet]), if_pos written]⟩
    · by_cases drained : run.drained.failed = true
      · exact ⟨_, by rw [if_neg (by simp [packet]), if_neg written, if_pos drained]⟩
      · have unfit : ¬ Fits (run.written.chunks ++ run.drained.chunks ++ run.flushed) :=
          fun fits => unpacked ⟨packet, by simpa using written, by simpa using drained, fits⟩
        have unusable := (@outputAll_unusable_iff (stampFrame pts store) pending writeFailed
          (run.written.chunks ++ run.drained.chunks ++ run.flushed)).mpr unfit
        rw [outputAll_append, outputAll_append] at unusable
        exact ⟨_, by rw [if_neg (by simp [packet]), if_neg written, if_neg drained,
          if_pos unusable]⟩
  · exact ⟨_, by rw [if_pos (by simpa using packet)]⟩

end

/-! ## One frame -/

/-- A frame of a configured store that is due: the muxer exists or can be made. -/
structure Due (store : Store) (data : Bytes) (pts : Nat) : Prop where
  nonempty : data ≠ []
  small : data.length ≤ partLimit
  inRange : pts ≤ int64Max
  configured : store.config ≠ none
  key : store.mux = true ∨ naluType 5 data = true

variable {store : Store} {stream : Stream} {run : FrameRun} {data : Bytes} {pts : Nat}

theorem frame_valid (nonempty : data ≠ []) (small : data.length ≤ partLimit)
    (inRange : pts ≤ int64Max) : ¬(data = [] ∨ partLimit < data.length ∨ int64Max < pts) := by
  rintro (empty | large | late)
  · exact nonempty empty
  · exact absurd small (not_le.mpr large)
  · exact absurd inRange (not_le.mpr late)

theorem Due.valid (due : Due store data pts) :
    ¬(data = [] ∨ partLimit < data.length ∨ int64Max < pts) :=
  frame_valid due.nonempty due.small due.inRange

theorem frame_stale (due : Due store data pts) (mux : store.mux = true)
    (timed : store.havePts = true) (stale : pts ≤ store.lastPts) :
    frame run data pts store = (-1, store) := by
  simp only [frame, if_neg due.valid, if_neg due.configured, mux, if_true]
  rw [packFrame, if_pos ⟨timed, stale⟩]

/-- A later frame is published. -/
theorem frame_succeeds (represents : Represents store stream) (succeeds : run.Succeeds)
    (due : Due store data pts) (fresh : ¬(store.havePts = true ∧ pts ≤ store.lastPts)) :
    (frame run data pts store).1 = 1 ∧
      (frame run data pts store).2.state.latest = store.state.latest + 1 ∧
      (frame run data pts store).2.mux = true ∧
      (frame run data pts store).2.config = store.config ∧
      (frame run data pts store).2.havePts = true ∧
      (frame run data pts store).2.lastPts = pts := by
  have latest : (store.sequence + 1) % 2 ^ 64 = store.state.latest + 1 := by
    rw [represents.sequence, represents.latest,
      Nat.mod_eq_of_lt represents.toCounted.latest_lt]
  by_cases mux : store.mux = true
  · have result : frame run data pts store =
        (1, publishPart (naluType 5 data) pts run.packed store) := by
      simp only [frame, if_neg due.valid, if_neg due.configured, mux, if_true]
      exact succeeds.packs.packFrame represents.pending represents.writeFailed _ fresh
    obtain ⟨sameMux, sameConfig, _⟩ := publishPart_frame (naluType 5 data) pts run.packed store
    obtain ⟨timed, last, counted⟩ := publishPart_clock (naluType 5 data) pts run.packed store
    rw [result]
    exact ⟨rfl, counted.trans latest, sameMux.trans mux, sameConfig, timed, last⟩
  · have key := due.key.resolve_left mux
    obtain ⟨initData, width, height, initialized⟩ :=
      succeeds.opens.initializeMuxer represents.pending represents.writeFailed
    let opened : Store := { store with
      mux := true, initData := some initData, pending := []
      state := { store.state with width, height } }
    have empty : opened.pending = [] := rfl
    have intact : opened.writeFailed = false := represents.writeFailed
    have result : frame run data pts store =
        (1, publishPart (naluType 5 data) pts run.packed opened) := by
      simp only [frame, if_neg due.valid, if_neg due.configured, if_neg mux, key,
        Bool.not_true, Bool.false_eq_true, if_false, initialized]
      exact succeeds.packs.packFrame empty intact _ fresh
    obtain ⟨sameMux, sameConfig, _⟩ := publishPart_frame (naluType 5 data) pts run.packed opened
    obtain ⟨timed, last, counted⟩ := publishPart_clock (naluType 5 data) pts run.packed opened
    rw [result]
    exact ⟨rfl, counted.trans latest, sameMux, sameConfig, timed, last⟩

/-! ## Frames that clear the store -/

/-- `failed:` is reached: libav opens no muxer for a key frame, or does not pack a
frame that is later than the last one. -/
def Fails (run : FrameRun) (data : Bytes) (pts : Nat) (store : Store) : Prop :=
  data ≠ [] ∧ data.length ≤ partLimit ∧ pts ≤ int64Max ∧ store.config ≠ none ∧
    ((store.mux = false ∧ naluType 5 data = true ∧ ¬ run.initialized.Opens) ∨
      ((store.mux = true ∨ naluType 5 data = true) ∧
        ¬(store.havePts = true ∧ pts ≤ store.lastPts) ∧ ¬ run.Packs))

instance (run : FrameRun) (data : Bytes) (pts : Nat) (store : Store) :
    Decidable (Fails run data pts store) :=
  inferInstanceAs (Decidable (_ ∧ _))

/-- A frame that fails leaves the fresh store of the next generation. -/
theorem Fails.frame (fails : Fails run data pts store) (pending : store.pending = [])
    (writeFailed : store.writeFailed = false) :
    ∃ broken, frame run data pts store = (-1, restart broken) := by
  obtain ⟨nonempty, small, inRange, configured, cause⟩ := fails
  simp only [Video.frame, if_neg (frame_valid nonempty small inRange), if_neg configured]
  rcases cause with ⟨noMux, key, closed⟩ | ⟨due, fresh, unpacked⟩
  · simp only [noMux, key, initializeMuxer_fails closed pending writeFailed]
    exact ⟨store, rfl⟩
  · by_cases mux : store.mux = true
    · rw [if_pos mux]
      exact packFrame_fails unpacked pending writeFailed _ fresh
    · have key := due.resolve_left mux
      simp only [if_neg mux, key, Bool.not_true, Bool.false_eq_true, if_false]
      by_cases opens : run.initialized.Opens
      · obtain ⟨initData, width, height, initialized⟩ :=
          opens.initializeMuxer pending writeFailed
        rw [initialized]
        refine packFrame_fails unpacked ?_ ?_ _ ?_
        · rfl
        · exact writeFailed
        · exact fresh
      · rw [initializeMuxer_fails opens pending writeFailed]
        exact ⟨store, rfl⟩

/-- Every other frame leaves the configuration alone. -/
theorem frame_keeps_config (pending : store.pending = []) (writeFailed : store.writeFailed = false)
    (holds : ¬ Fails run data pts store) :
    (frame run data pts store).2.config = store.config := by
  have pack (opened : Store) (empty : opened.pending = []) (intact : opened.writeFailed = false)
      (same : opened.config = store.config)
      (packs : ¬(opened.havePts = true ∧ pts ≤ opened.lastPts) → run.Packs) :
      (packFrame run (naluType 5 data) pts opened).2.config = store.config := by
    by_cases stale : opened.havePts = true ∧ pts ≤ opened.lastPts
    · rw [packFrame, if_pos stale]
      exact same
    · rw [(packs stale).packFrame empty intact _ stale]
      exact (publishPart_frame _ pts run.packed opened).2.1.trans same
  unfold frame
  split
  · rfl
  next valid =>
    simp only [not_or, not_lt] at valid
    obtain ⟨nonempty, small, inRange⟩ := valid
    simp only
    split
    · rfl
    next configured =>
      have fails (cause) : Fails run data pts store := ⟨nonempty, small, inRange, configured, cause⟩
      split
      next mux =>
        refine pack store pending writeFailed rfl fun fresh => ?_
        by_contra unpacked
        exact holds (fails (.inr ⟨.inl mux, fresh, unpacked⟩))
      next noMux =>
        split
        · rfl
        next key =>
          have key : naluType 5 data = true := by simpa using key
          have opens : run.initialized.Opens := by
            by_contra closed
            exact holds (fails (.inl ⟨by simpa using noMux, key, closed⟩))
          obtain ⟨initData, width, height, initialized⟩ :=
            opens.initializeMuxer pending writeFailed
          rw [initialized]
          refine pack _ rfl writeFailed rfl fun fresh => ?_
          by_contra unpacked
          exact holds (fails (.inr ⟨.inr key, fresh, unpacked⟩))

/-- A frame takes the configuration away exactly if it fails. -/
theorem fails_iff (pending : store.pending = []) (writeFailed : store.writeFailed = false) :
    Fails run data pts store ↔
      store.config ≠ none ∧ (frame run data pts store).2.config = none := by
  constructor
  · intro fails
    obtain ⟨broken, failed⟩ := fails.frame pending writeFailed
    refine ⟨fails.2.2.2.1, ?_⟩
    rw [failed]
    rfl
  · rintro ⟨configured, cleared⟩
    by_contra holds
    exact configured ((frame_keeps_config pending writeFailed holds).symm.trans cleared)

end AirTizen.Video

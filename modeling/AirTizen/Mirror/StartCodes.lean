import AirTizen.Mirror.ParameterSets
import AirTizen.Video.Refinement

/-!
# Start codes that the store finds again

The mirror worker writes start codes over lengths, and `nalu_type` of the store
searches for them at every offset, without knowing where a unit begins.  What it
finds are the units, and what the worker accepts as a configuration is one for the
store as long as it is not too large there.
-/

namespace AirTizen.Mirror

open CText
open Video (naluType codecMime)

/-! ## `nalu_type` -/

variable {wanted : UInt8} {data : Bytes}

theorem naluType_cons (byte : UInt8) (found : naluType wanted data = true) :
    naluType wanted (byte :: data) = true := by
  match data, found with
  | b1 :: b2 :: b3 :: b4 :: b5 :: rest, found =>
      rw [naluType, found, Bool.or_true]

theorem naluType_append (front : Bytes) (found : naluType wanted data = true) :
    naluType wanted (front ++ data) = true := by
  induction front with
  | nil => exact found
  | cons byte front inductionHypothesis => exact naluType_cons byte inductionHypothesis

/-- A unit behind its start code is found, wherever it stands and whatever follows. -/
theorem naluType_started (nal : Nal) (front back : Bytes) :
    naluType nal.type (front ++ (nal.started ++ back)) = true := by
  apply naluType_append
  obtain ⟨payload, nonempty⟩ := nal
  cases payload with
  | nil => exact absurd rfl nonempty
  | cons byte payload =>
      show naluType (byte &&& 31) (0 :: 0 :: 0 :: 1 :: byte :: (payload ++ back)) = true
      rw [naluType]
      simp

theorem exists_startCode (found : naluType wanted data = true) :
    ∃ front byte back, data = front ++ 0 :: 0 :: 1 :: byte :: back ∧ byte &&& 31 = wanted := by
  fun_induction naluType wanted data with
  | case1 b0 b1 b2 b3 b4 rest inductionHypothesis =>
      rcases Bool.or_eq_true_iff.mp found with here | later
      · split at here
        next short =>
          obtain ⟨rfl, rfl, rfl⟩ := short
          exact ⟨[], b3, b4 :: rest, rfl, beq_iff_eq.mp here⟩
        split at here
        next long =>
          obtain ⟨rfl, rfl, rfl, rfl⟩ := long
          exact ⟨[0], b4, rest, rfl, beq_iff_eq.mp here⟩
        cases here
      · obtain ⟨front, byte, back, split_, same⟩ := inductionHypothesis later
        exact ⟨b0 :: front, byte, back, congrArg (b0 :: ·) split_, same⟩
  | case2 => cases found

/-! ## Units -/

/-- Emulation prevention: no unit holds three bytes of a start code. -/
def Prevented (units : List Nal) : Prop := ∀ nal ∈ units, ¬ [0, 0, 1] <:+: nal.payload

theorem started_cases (units : List Nal) : units.flatMap Nal.started = [] ∨
    ∃ tail, units.flatMap Nal.started = 0 :: 0 :: 0 :: 1 :: tail := by
  cases units with
  | nil => exact .inl rfl
  | cons nal rest =>
      refine .inr ⟨nal.payload ++ rest.flatMap Nal.started, ?_⟩
      rw [List.flatMap_cons, Nal.started, List.append_assoc]
      rfl

/-- A start code between the units is one of theirs. -/
theorem unit_of_startCode {units : List Nal} (prevented : Prevented units) {front back : Bytes}
    {byte : UInt8}
    (split_ : units.flatMap Nal.started = front ++ 0 :: 0 :: 1 :: byte :: back) :
    ∃ nal ∈ units, nal.type = byte &&& 31 := by
  induction units generalizing front with
  | nil =>
      rw [List.flatMap_nil] at split_
      exact absurd split_.symm (List.append_ne_nil_of_right_ne_nil _ (List.cons_ne_nil _ _))
  | cons nal rest inductionHypothesis =>
      obtain ⟨clean, later⟩ := List.forall_mem_cons.mp prevented
      have behind : ∀ {front : Bytes},
          rest.flatMap Nal.started = front ++ 0 :: 0 :: 1 :: byte :: back →
            ∃ other ∈ nal :: rest, other.type = byte &&& 31 := by
        intro front found
        obtain ⟨other, membership, same⟩ := inductionHypothesis later found
        exact ⟨other, List.mem_cons_of_mem _ membership, same⟩
      have code : (nal :: rest).flatMap Nal.started =
          0 :: 0 :: 0 :: 1 :: (nal.payload ++ rest.flatMap Nal.started) := by
        rw [List.flatMap_cons, Nal.started, List.append_assoc]
        rfl
      rw [code] at split_
      rcases front with _ | ⟨_, _ | ⟨_, _ | ⟨_, _ | ⟨_, front⟩⟩⟩⟩
      · simp at split_
      · -- the start code of this unit
        simp only [List.cons_append, List.nil_append, List.cons.injEq, true_and] at split_
        refine ⟨nal, List.mem_cons_self, ?_⟩
        obtain ⟨payload, nonempty⟩ := nal
        cases payload with
        | nil => exact absurd rfl nonempty
        | cons first payload =>
            rw [List.cons_append, List.cons.injEq] at split_
            rw [← split_.2.1]
            rfl
      · simp at split_
      · simp at split_
      · simp only [List.cons_append, List.cons.injEq] at split_
        rcases List.append_eq_append_iff.mp split_.2.2.2.2 with
          ⟨between, _, found⟩ | ⟨inside, payload, found⟩
        · exact behind found
        · -- what begins in the payload does not end there, and goes on with a start code
          rcases inside with _ | ⟨_, _ | ⟨_, _ | ⟨_, inside⟩⟩⟩
          · exact @behind [] found.symm
          · simp only [List.cons_append, List.nil_append, List.cons.injEq] at found
            rcases started_cases rest with none | ⟨tail, next⟩
            · rw [none] at found
              cases found.2
            · rw [next] at found
              simp at found
          · simp only [List.cons_append, List.nil_append, List.cons.injEq] at found
            rcases started_cases rest with none | ⟨tail, next⟩
            · rw [none] at found
              cases found.2.2
            · rw [next] at found
              simp at found
          · simp only [List.cons_append, List.cons.injEq] at found
            obtain ⟨rfl, rfl, rfl, _⟩ := found
            exact absurd ⟨front, inside, by rw [payload, List.append_assoc]; rfl⟩ clean

theorem naluType_unit {units : List Nal} {nal : Nal} (membership : nal ∈ units) :
    naluType nal.type (units.flatMap Nal.started) = true := by
  obtain ⟨front, back, rfl⟩ := List.append_of_mem membership
  rw [List.flatMap_append, List.flatMap_cons]
  exact naluType_started nal _ _

theorem naluType_units {units : List Nal} (prevented : Prevented units) :
    naluType wanted (units.flatMap Nal.started) = true ↔ ∃ nal ∈ units, nal.type = wanted := by
  constructor
  · intro found
    obtain ⟨front, byte, back, split_, rfl⟩ := exists_startCode found
    exact unit_of_startCode prevented split_
  · rintro ⟨nal, membership, rfl⟩
    exact naluType_unit membership

/-! ## The flag of a fragment -/

theorem evict_key (rounds : Nat) (store : Video.Store) (slot : Fin Video.partCount) :
    ((Video.evict rounds store).parts slot).key = (store.parts slot).key := by
  induction rounds generalizing store with
  | zero => rfl
  | succ rounds inductionHypothesis =>
      rw [Video.evict]
      split
      · cases evicted : Video.evictOldest store with
        | none => rfl
        | some next =>
            obtain ⟨oldest, _, rfl⟩ := Option.map_eq_some_iff.mp evicted
            simp only [inductionHypothesis]
            by_cases same : slot = oldest
            · rw [same, Function.update_self]
            · rw [Function.update_of_ne same]
      · rfl

def published (key : Bool) (pts : Nat) (store : Video.Store) : Video.Store :=
  Video.rescan (Video.evict Video.partCount (Video.storePart key pts store))

theorem published_key (key : Bool) (pts : Nat) (store : Video.Store) :
    ((published key pts store).parts (Video.slotOf (published key pts store).state.latest)).key =
      key := by
  obtain ⟨parts, totalSize, evicted⟩ :=
    Video.evict_eq Video.partCount (Video.storePart key pts store)
  have latest : (published key pts store).state.latest = (store.sequence + 1) % 2 ^ 64 := by
    rw [published, evicted]
    rfl
  rw [latest]
  show ((Video.evict _ _).parts _).key = key
  rw [evict_key]
  unfold Video.storePart
  simp only [Function.update_self]

theorem packFrame_published {run : Video.FrameRun} {key : Bool} {pts : Nat} {store : Video.Store}
    (accepted : (Video.packFrame run key pts store).1 = 1) :
    ∃ packed, (Video.packFrame run key pts store).2 = published key pts packed := by
  unfold Video.packFrame at accepted ⊢
  by_cases stale : store.havePts = true ∧ pts ≤ store.lastPts
  · rw [if_pos stale] at accepted
    cases accepted
  simp only [if_neg stale, Video.stampFrame_eq] at accepted ⊢
  split at accepted
  · cases accepted
  next allocated =>
  rw [if_neg allocated]
  split at accepted
  · cases accepted
  next written =>
  rw [if_neg written]
  split at accepted
  · cases accepted
  next drained =>
  rw [if_neg drained]
  split at accepted
  · cases accepted
  next flushed =>
  rw [if_neg flushed]
  exact ⟨_, rfl⟩

/-- An accepted frame is flagged by what `nalu_type` finds. -/
theorem frame_published {run : Video.FrameRun} {pts : Nat} {store : Video.Store}
    (accepted : (Video.frame run data pts store).1 = 1) :
    ∃ packed, (Video.frame run data pts store).2 = published (naluType 5 data) pts packed := by
  unfold Video.frame at accepted ⊢
  split at accepted
  · cases accepted
  next valid =>
  rw [if_neg valid]
  simp only at accepted ⊢
  split at accepted
  · cases accepted
  next configured =>
  rw [if_neg configured]
  split at accepted
  next mux =>
    rw [if_pos mux]
    exact packFrame_published accepted
  next fresh =>
  rw [if_neg fresh]
  split at accepted
  · cases accepted
  next key =>
  rw [if_neg key]
  cases initialized : Video.initializeMuxer run.initialized store with
  | none =>
      rw [initialized] at accepted
      cases accepted
  | some opened =>
      rw [initialized] at accepted
      exact packFrame_published accepted

/-- The types of the units of an access unit are what the store finds behind the
conversion, as far as no unit imitates a start code, and at least these in any case;
so a fragment is flagged as a key one for a slice of type 5. -/
theorem key_frames_detected (target : Target) {rounds : Nat} {after : Bytes}
    (small : data.length < 2 ^ 32) (enough : data.length < rounds)
    (accepted : h264FrameInPlace target rounds data = some (0, after)) :
    ∃ units : List Nal, data = units.flatMap (Nal.prefixed 4) ∧
      after = units.flatMap Nal.started ∧
      (∀ wanted, (∃ nal ∈ units, nal.type = wanted) → naluType wanted after = true) ∧
      (Prevented units → ∀ wanted,
        naluType wanted after = true ↔ ∃ nal ∈ units, nal.type = wanted) ∧
      ∀ run pts store, (Video.frame run after pts store).1 = 1 →
        let next := (Video.frame run after pts store).2
        let flagged := (next.parts (Video.slotOf next.state.latest)).key
        ((∃ nal ∈ units, nal.type = 5) → flagged = true) ∧
          (Prevented units → (flagged = true ↔ ∃ nal ∈ units, nal.type = 5)) := by
  rw [h264FrameInPlace_eq target small enough, Option.some.injEq] at accepted
  obtain ⟨result, converted, _⟩ := h264Frame_converts small
  rw [accepted] at result converted
  obtain ⟨units, _, _, split_⟩ := result.mp rfl
  obtain rfl := converted units rfl split_
  have every : ∀ wanted, (∃ nal ∈ units, nal.type = wanted) →
      naluType wanted (units.flatMap Nal.started) = true := by
    rintro wanted ⟨nal, membership, rfl⟩
    exact naluType_unit membership
  refine ⟨units, split_, rfl, every, fun prevented wanted => naluType_units prevented, ?_⟩
  intro run pts store accepted
  obtain ⟨packed, next⟩ := frame_published accepted
  simp only [next, published_key]
  exact ⟨every 5, naluType_units⟩

/-- An access unit with one slice of a key frame. -/
theorem key_frames_detected_slice :
    ∃ units : List Nal, [0, 0, 0, 2, 0x65, 0x11] = units.flatMap (Nal.prefixed 4) ∧
      ∀ wanted, (∃ nal ∈ units, nal.type = wanted) →
        naluType wanted [0, 0, 0, 1, 0x65, 0x11] = true := by
  obtain ⟨units, split_, _, every, _⟩ := @key_frames_detected [0, 0, 0, 2, 0x65, 0x11] .nacl 7
    [0, 0, 0, 1, 0x65, 0x11] (by decide) (by decide) (by decide)
  exact ⟨units, split_, every⟩

/-! ## Configurations -/

/-- The profile of the first set, as `airtizen_video_configure` prints it. -/
def profileMime (set : Bytes) : Bytes :=
  ascii "video/mp4; codecs=\"avc1." ++ hexByte (set.getD 1 0) ++ hexByte (set.getD 2 0) ++
    hexByte (set.getD 3 0) ++ ascii "\""

theorem codecMime_first {set back : Bytes} (long : 4 ≤ set.length)
    (sequence : set.headD 0 &&& 31 = 7) (more : back ≠ []) :
    codecMime (startCode ++ set ++ back) = profileMime set := by
  match set, long, back, more with
  | b4 :: b5 :: b6 :: b7 :: set, _, b8 :: back, _ =>
      cases set with
      | nil =>
          show codecMime (0 :: 0 :: 0 :: 1 :: b4 :: b5 :: b6 :: b7 :: b8 :: back) = _
          rw [codecMime, if_pos ⟨rfl, rfl, rfl, rfl, sequence⟩]
          rfl
      | cons next set =>
          show codecMime (0 :: 0 :: 0 :: 1 :: b4 :: b5 :: b6 :: b7 :: next :: (set ++ b8 :: back)) = _
          rw [codecMime, if_pos ⟨rfl, rfl, rfl, rfl, sequence⟩]
          rfl

theorem annexB_units (record : AvcRecord) :
    record.annexB = (record.sequence ++ record.picture).flatMap Nal.started :=
  List.flatMap_append.symm

theorem annexB_long (record : AvcRecord) : 8 ≤ record.annexB.length := by
  obtain ⟨set, rest, first⟩ := List.exists_cons_of_ne_nil record.some_sequence
  obtain ⟨other, others, second⟩ := List.exists_cons_of_ne_nil record.some_picture
  rw [AvcRecord.annexB, first, second, List.length_append, List.flatMap_cons, List.flatMap_cons,
    List.length_append, List.length_append, Nal.length_started, Nal.length_started]
  omega

/-- The store takes the sets of a record, as far as they are small enough there. -/
theorem configure_annexB (record : AvcRecord) (store : Video.Store) :
    (Video.configure true record.annexB store).1 =
        (if record.annexB.length ≤ 65536 then 0 else -1) ∧
      ∀ set rest, record.sequence = set :: rest → 4 ≤ set.payload.length →
        record.annexB.length ≤ 65536 →
          (Video.configure true record.annexB store).2.state.mime = profileMime set.payload := by
  obtain ⟨set, rest, first⟩ := List.exists_cons_of_ne_nil record.some_sequence
  obtain ⟨other, others, second⟩ := List.exists_cons_of_ne_nil record.some_picture
  have found : ∀ nal ∈ record.sequence ++ record.picture,
      naluType nal.type record.annexB = true := by
    intro nal membership
    rw [annexB_units]
    exact naluType_unit membership
  have setIn : set ∈ record.sequence := by
    rw [first]
    exact List.mem_cons_self
  have otherIn : other ∈ record.picture := by
    rw [second]
    exact List.mem_cons_self
  have seven := found set (List.mem_append_left _ setIn)
  have eight := found other (List.mem_append_right _ otherIn)
  rw [record.sequence_type set setIn] at seven
  rw [record.picture_type other otherIn] at eight
  have long := annexB_long record
  by_cases small : record.annexB.length ≤ 65536
  · have valid : ¬ (record.annexB.length < 8 ∨ 65536 < record.annexB.length ∨
        !naluType 7 record.annexB ∨ !naluType 8 record.annexB) := by
      rw [seven, eight]
      simp only [Bool.not_true, Bool.false_eq_true, or_false]
      omega
    have taken : Video.configure true record.annexB store =
        (0, { Video.restart store with
          config := some record.annexB
          state := { (Video.restart store).state with mime := codecMime record.annexB } }) := by
      rw [Video.configure, if_neg valid]
      rfl
    rw [taken, if_pos small]
    refine ⟨rfl, fun one ones same fits _ => ?_⟩
    rw [first, List.cons.injEq] at same
    obtain ⟨rfl, _⟩ := same
    have code : record.annexB =
        startCode ++ set.payload ++ (rest ++ record.picture).flatMap Nal.started := by
      rw [annexB_units, first, List.cons_append, List.flatMap_cons, Nal.started]
    rw [code]
    refine codecMime_first fits (record.sequence_type set setIn) ?_
    exact started_nonempty (List.append_ne_nil_of_right_ne_nil _ record.some_picture)
  · have large : record.annexB.length < 8 ∨ 65536 < record.annexB.length ∨
        !naluType 7 record.annexB ∨ !naluType 8 record.annexB :=
      .inr (.inl (Nat.lt_of_not_le small))
    rw [Video.configure, if_pos large, if_neg small]
    exact ⟨rfl, fun _ _ _ _ fits => absurd fits small⟩

/-- The store accepts the configurations of the worker whose sets have at most 65536
bytes behind start codes, as do those of at most three sets in a payload of that size,
and tells the profile of the first one. -/
theorem configurations_accepted (target : Target) (data buffer : Bytes) {used : Nat}
    {after : Bytes} (accepted : h264ConfigAt target data buffer = .ok (used, after)) :
    ∃ (record : AvcRecord) (tail : Bytes), data = record.encode ++ tail ∧
      after.take used = record.annexB ∧
      (data.length ≤ 65536 → record.sequence.length + record.picture.length ≤ 3 →
        used ≤ 65536) ∧
      ∀ store, ((Video.configure true (after.take used) store).1 = 0 ↔ used ≤ 65536) ∧
        ∀ set rest, record.sequence = set :: rest → 4 ≤ set.payload.length → used ≤ 65536 →
          (Video.configure true (after.take used) store).2.state.mime =
            profileMime set.payload := by
  obtain ⟨record, tail, split_, fits, rfl, _, rfl⟩ :=
    ((h264Config_exact target data buffer).1 used after).mp accepted
  rw [List.take_left]
  refine ⟨record, tail, split_, rfl, fun limit few => ?_, fun store => ⟨?_, ?_⟩⟩
  · have size := record.length_annexB
    have whole := congrArg List.length split_
    rw [List.length_append] at whole
    omega
  · rw [(configure_annexB record store).1]
    split
    next small => exact iff_of_true rfl small
    next large => exact iff_of_false (by decide) large
  · exact (configure_annexB record store).2

/-- A small record for a buffer with room. -/
theorem configurations_accepted_small :
    ∃ (record : AvcRecord) (tail : Bytes),
      [1, 0x42, 0, 0x1e, 0xff, 0xe1, 0, 4, 0x67, 0x42, 0, 0x1e, 1, 0, 1, 0x68] =
        record.encode ++ tail ∧
      ∀ store, (Video.configure true
        [0, 0, 0, 1, 0x67, 0x42, 0, 0x1e, 0, 0, 0, 1, 0x68] store).1 = 0 := by
  have accepted : h264ConfigAt .nacl
      [1, 0x42, 0, 0x1e, 0xff, 0xe1, 0, 4, 0x67, 0x42, 0, 0x1e, 1, 0, 1, 0x68]
      (List.replicate 15 9) =
        .ok (13, [0, 0, 0, 1, 0x67, 0x42, 0, 0x1e, 0, 0, 0, 1, 0x68, 9, 9]) := by
    rw [h264ConfigAt_eq]
    decide
  obtain ⟨record, tail, split_, _, _, store⟩ := configurations_accepted .nacl _ _ accepted
  exact ⟨record, tail, split_, fun before => (store before).1.mpr (by decide)⟩

/-- A payload of 65536 bytes with three sequence parameter sets and a large picture
parameter set. -/
def largeRecord : AvcRecord where
  profile := [0x42, 0, 0x1e]
  lengthSize := 0xff
  countByte := 0xe3
  sequence := List.replicate 3 ⟨[0x67, 0x42, 0, 0x1e], List.cons_ne_nil _ _⟩
  picture := [⟨0x68 :: List.replicate 65508 0, List.cons_ne_nil _ _⟩]
  profile_length := rfl
  four := by decide
  counted := by decide
  some_sequence := by decide
  some_picture := List.cons_ne_nil _ _
  few_picture := by decide
  sequence_type nal membership := by
    rw [List.eq_of_mem_replicate membership]
    rfl
  picture_type nal membership := by
    rw [List.mem_singleton.mp membership]
    rfl
  small nal membership := by
    rcases List.mem_append.mp membership with first | second
    · rw [List.eq_of_mem_replicate first]
      decide
    · rw [List.mem_singleton.mp second, List.length_cons, List.length_replicate]
      decide

/-- The worker accepts it, and the store does not. -/
theorem large_configuration_refused :
    let data := largeRecord.encode
    data.length = 65536 ∧ (∀ set ∈ largeRecord.sequence.head?, 4 ≤ set.payload.length) ∧
      ∃ used after, h264ConfigAt .nacl data (List.replicate (65536 + 2048) 0) = .ok (used, after) ∧
        ∀ store, (Video.configure true (after.take used) store).1 = -1 := by
  intro data
  have picture : (largeRecord.picture.flatMap (Nal.prefixed 2)).length = 65511 := by
    have cells : largeRecord.picture.flatMap (Nal.prefixed 2) =
        Octets.ofNat 2 _ ++ 0x68 :: List.replicate 65508 0 := List.flatMap_singleton _ _
    rw [cells, List.length_append, Octets.length_ofNat, List.length_cons, List.length_replicate]
  have sequence : (largeRecord.sequence.flatMap (Nal.prefixed 2)).length = 18 := by decide
  have payload : data.length = 65536 := by
    have size := largeRecord.length_encode
    rw [sequence, picture] at size
    exact size
  have sets : largeRecord.sequence.length + largeRecord.picture.length = 4 := rfl
  have large := largeRecord.length_annexB
  rw [sets, payload] at large
  refine ⟨payload, by decide, largeRecord.annexB.length, _,
    ((h264Config_exact .nacl data _).1 _ _).mpr ⟨largeRecord, [], ?_, ?_, rfl, ?_, rfl⟩, ?_⟩
  · rw [List.append_nil]
  · rw [List.length_replicate]
    omega
  · omega
  · intro store
    rw [List.take_left, (configure_annexB largeRecord store).1, if_neg (by omega)]

end AirTizen.Mirror

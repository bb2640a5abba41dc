import AirTizen.Library.Buffer
import AirTizen.Library.PartialWrites
import AirTizen.Audio.Queue
import AirTizen.Status.Document

/-!
# From the decoder to the audio device

`cb_audio_process` scales PCM in a fixed array, chunk by chunk, and hands every
chunk to a device that may take less than it is offered.  Accesses to the array
and to the data are checked.
-/

namespace AirTizen.Audio

open CText Buffer PartialWrites Status

/-! ## The state of the core -/

variable {Gain : Type}

/-- `g_gain`, `g_state` and the ring of log lines. -/
structure Core (Gain : Type) where
  gain : Gain
  state : CoreState
  logs : Logs

/-- `snprintf(array, sizeof(array), "%s", text)`. -/
def printed {limit : Nat} (text : Bytes) : Status.Field (limit + 1) where
  bytes := (cString text).take limit
  short := Nat.lt_succ_of_le (List.length_take_le _ _)
  terminated := fun membership => by
    have nonzero := List.mem_takeWhile_imp (List.mem_of_mem_take membership)
    simp at nonzero

/-- The statics of `airtizen_core.c` before anything has happened. -/
def Core.initial (gain : Gain) : Core Gain where
  gain := gain
  state :=
    { running := false, connected := false, paired := false, sampleRate := 0, audioBytes := 0
      videoFrames := 0, device := printed [], audio := printed [], codec := printed []
      lastError := printed [] }
  logs := { slots := fun _ => printed [], next := 0, count := 0, count_le := Nat.zero_le 32 }

def logCb (time level : Nat) (message : Bytes) (logs : Logs) : Logs :=
  if 6 < level then logs
  else
    { slots := Function.update logs.slots ⟨logs.next % 32, Nat.mod_lt _ (by decide)⟩
        (printed (decimal time ++ ascii " [" ++ decimal level ++ ascii "] " ++ message.take 145))
      next := (logs.next + 1) % 32
      count := if logs.count < 32 then logs.count + 1 else logs.count
      count_le := by
        have bounded := logs.count_le
        split
        · omega
        · exact bounded }

def Core.fail (time : Nat) (error : Bytes) (core : Core Gain) : Core Gain :=
  { core with
    state := { core.state with lastError := printed error, audio := printed (ascii "failed") }
    logs := logCb time 3 error core.logs }

/-! ## `cb_audio_process` -/

structure PcmData where
  data : Option Bytes
  dataLen : Int
  sampleRate : UInt32
  channels : UInt16
  bitsPerSample : UInt16

def PcmData.refused (pcm : PcmData) : Bool :=
  pcm.bitsPerSample != 16 || pcm.channels < 1 || pcm.channels > 2 ||
    pcm.sampleRate < 8000 || pcm.sampleRate > 192000 ||
    pcm.dataLen % (2 * pcm.channels.toNat) != 0

/-- What one `airtizen_audio_write` returns, and the volume that was set meanwhile. -/
structure Call (Gain : Type) where
  result : Int
  volume : Option Gain := none

/-- The calls made so far, and `g_gain`. -/
structure Session (Gain : Type) where
  offers : List (Offer UInt8) := []
  gain : Gain

def Session.write (device : Nat → Call Gain) (cells : Bytes) (session : Session Gain) :
    Int × Session Gain :=
  let call := device session.offers.length
  (call.result,
    { offers := session.offers ++ [⟨cells, call.result⟩]
      gain := call.volume.getD session.gain })

/-- The loop over `written`, and whether it has written the chunk. -/
def writeLoop (device : Nat → Call Gain) (scaled : Bytes) (bytes written : Nat)
    (session : Session Gain) : Option (Bool × Session Gain) :=
  if written < bytes then
    match loadMany scaled written (bytes - written) with
    | none => none
    | some cells =>
        let rc := (session.write device cells).1
        let session := (session.write device cells).2
        if rc ≤ 0 ∨ bytes - written < rc.toNat then some (false, session)
        else writeLoop device scaled bytes (written + rc.toNat) session
  else some (true, session)
termination_by bytes - written

/-- `sizeof(scaled)`. -/
def scaledSize : Nat := 8192

/-- One round of the loop over `i`, for a function that scales a sample. -/
def scaleSample (scale : Sample → Sample) (data : Bytes) (offset : Nat) (scaled : Bytes)
    (i : Nat) : Option Bytes := do
  match ← loadMany data (offset + i * 2) 2 with
  | [first, second] =>
      let sample := scale (first, second)
      store scaled (i * 2) [sample.1, sample.2]
  | _ => none

/-- The loop over `offset`, and whether it has written all of the data. -/
def chunkLoop (scale : Sample → Sample) (device : Nat → Call Gain) (data : Bytes)
    (length offset : Nat) (scaled : Bytes) (session : Session Gain) :
    Option (Bool × Session Gain) :=
  if offset < length then
    let bytes := if length - offset > scaledSize then scaledSize else length - offset
    match (List.range (bytes / 2)).foldlM (scaleSample scale data offset) scaled with
    | none => none
    | some scaled =>
        match writeLoop device scaled bytes 0 session with
        | none => none
        | some (false, session) => some (false, session)
        | some (true, session) =>
            chunkLoop scale device data length (offset + bytes) scaled session
  else some (true, session)
termination_by length - offset
decreasing_by
  have positive : 0 < scaledSize := by decide
  split <;> omega

/-- What a call of `cb_audio_process` meets. -/
structure World (Gain : Type) where
  platform : Platform
  name : Option Bytes
  time : Nat
  /-- The result of `airtizen_audio_open`. -/
  opened : Int
  /-- The calls of `airtizen_audio_write`, in order. -/
  device : Nat → Call Gain
  /-- What is in `scaled` at first. -/
  stack : Bytes

/-- The text of `audio` while sound is played. -/
def playing : Platform → Bytes
  | .nativeClient | .tizen => ascii "playing"
  | .host => ascii "host_stub"

def Core.played (world : World Gain) (pcm : PcmData) (length : Nat) (core : Core Gain) :
    Core Gain :=
  { core with
    state := { core.state with
      connected := true
      device := printed (world.name.getD (ascii "AirPlay device"))
      sampleRate := pcm.sampleRate
      audioBytes := core.state.audioBytes + UInt64.ofNat length
      audio := printed (playing world.platform)
      lastError := printed [] } }

/-- `cb_audio_process`, with the calls it makes. -/
def cbAudioProcess (scale : Gain → Sample → Sample) (world : World Gain) (data : Option PcmData)
    (core : Core Gain) : Option (List (Offer UInt8) × Core Gain) :=
  match data with
  | none => some ([], core)
  | some pcm =>
      match pcm.data with
      | none => some ([], core)
      | some bytes =>
          if pcm.dataLen ≤ 0 then some ([], core)
          else if pcm.refused then some ([], core.fail world.time (ascii "invalid_pcm_format"))
          else if world.opened ≠ 0 then
            some ([], core.fail world.time (ascii "audio_open_failed"))
          else do
            let length := pcm.dataLen.toNat
            let (complete, session) ← chunkLoop (scale core.gain) world.device bytes length 0
              world.stack { gain := core.gain }
            -- the volume may have changed meanwhile
            let core := { core with gain := session.gain }
            some (session.offers,
              if complete then core.played world pcm length
              else core.fail world.time (ascii "audio_write_failed"))

/-! ## The scaled data -/

def scaledPcm (scale : Sample → Sample) : Bytes → Bytes
  | first :: second :: rest =>
      (scale (first, second)).1 :: (scale (first, second)).2 :: scaledPcm scale rest
  | _ => []

theorem scaledPcm_append (scale : Sample → Sample) {count : Nat} {first : Bytes}
    (whole : first.length = 2 * count) (second : Bytes) :
    scaledPcm scale (first ++ second) = scaledPcm scale first ++ scaledPcm scale second := by
  induction count generalizing first with
  | zero => simp [List.length_eq_zero_iff.mp whole, scaledPcm]
  | succ count inductionHypothesis =>
      rcases first with _ | ⟨left, _ | ⟨right, rest⟩⟩
      · simp only [List.length_nil] at whole
        omega
      · simp only [List.length_cons, List.length_nil] at whole
        omega
      · simp only [List.length_cons] at whole
        have later := @inductionHypothesis rest (by omega)
        simp [scaledPcm, later]

theorem length_scaledPcm (scale : Sample → Sample) {count : Nat} {bytes : Bytes}
    (whole : bytes.length = 2 * count) : (scaledPcm scale bytes).length = 2 * count := by
  induction count generalizing bytes with
  | zero => simp [List.length_eq_zero_iff.mp whole, scaledPcm]
  | succ count inductionHypothesis =>
      rcases bytes with _ | ⟨left, _ | ⟨right, rest⟩⟩
      · simp only [List.length_nil] at whole
        omega
      · simp only [List.length_cons, List.length_nil] at whole
        omega
      · simp only [List.length_cons] at whole
        have later := @inductionHypothesis rest (by omega)
        simp only [scaledPcm, List.length_cons, later]
        omega

/-- The loop over `i` scales a chunk into the beginning of the array. -/
theorem scaleSamples_eq (scale : Sample → Sample) {count : Nat} {before chunk after scaled : Bytes}
    (whole : chunk.length = 2 * count) (room : 2 * count ≤ scaled.length) :
    (List.range count).foldlM (scaleSample scale (before ++ (chunk ++ after)) before.length)
        scaled =
      some (scaledPcm scale chunk ++ scaled.drop (2 * count)) := by
  induction count generalizing chunk after with
  | zero => simp [List.length_eq_zero_iff.mp whole, scaledPcm]
  | succ count inductionHypothesis =>
      obtain ⟨init, left, right, rfl, initLength⟩ :
          ∃ init left right, chunk = init ++ [left, right] ∧ init.length = 2 * count := by
        have last : (chunk.drop (2 * count)).length = 2 := by
          rw [List.length_drop]
          omega
        obtain ⟨left, right, pair⟩ := List.length_eq_two.mp last
        refine ⟨chunk.take (2 * count), left, right, ?_, ?_⟩
        · rw [← pair, List.take_append_drop]
        · rw [List.length_take]
          omega
      have earlier := @inductionHypothesis init ([left, right] ++ after) initLength (by omega)
      have loaded : loadMany (before ++ (init ++ ([left, right] ++ after)))
          (before.length + count * 2) 2 = some [left, right] := by
        rw [← List.append_assoc, show before.length + count * 2 = (before ++ init).length by
          rw [List.length_append]; omega]
        exact loadMany_append (before ++ init) ([left, right] ++ after) (by simp)
      have stored := store_append (scaledPcm scale init) (scaled.drop (2 * count))
        [(scale (left, right)).1, (scale (left, right)).2] (by simp; omega)
      rw [length_scaledPcm scale initLength, Nat.mul_comm] at stored
      rw [List.append_assoc, List.range_succ, List.foldlM_append, earlier]
      simp only [Option.bind_eq_bind, Option.bind_some, List.foldlM_cons, List.foldlM_nil,
        scaleSample, loaded]
      have behind : scaled.drop (2 * (count + 1)) = (scaled.drop (count * 2)).drop 2 := by
        rw [List.drop_drop, Nat.mul_add, Nat.mul_comm]
      rw [Nat.mul_comm 2 count, stored, scaledPcm_append scale initLength, behind,
        List.append_assoc]
      rfl

/-! ## Delivery -/

/-- The answers are those of the device, in order. -/
def Answered (device : Nat → Call Gain) (offers : List (Offer UInt8)) : Prop :=
  offers.map Offer.answer = (List.range offers.length).map fun call => (device call).result

theorem Answered.write {device : Nat → Call Gain} {session : Session Gain}
    (answered : Answered device session.offers) (cells : Bytes) :
    Answered device (session.write device cells).2.offers := by
  unfold Answered at answered
  simp only [Answered, Session.write, List.map_append, List.map_cons, List.map_nil, answered,
    List.length_append, List.length_cons, List.length_nil, List.range_succ]

/-- How a loop has left its calls: everything up to here is delivered, or the
last call has failed. -/
inductive Ends (text sent : Bytes) : Bool → List (Offer UInt8) → Prop where
  | complete {offers} (delivered : Sent text sent offers) : Ends text sent true offers
  | failed {offers} (failed : Failed text offers) : Ends text sent false offers

theorem writeLoop_spec {device : Nat → Call Gain} {text before chunk after stale : Bytes}
    {written : Nat} {session : Session Gain} (split : text = before ++ (chunk ++ after))
    (sent : Sent text (before ++ chunk.take written) session.offers)
    (answered : Answered device session.offers) (inside : written ≤ chunk.length) :
    ∃ complete later,
      writeLoop device (chunk ++ stale) chunk.length written session = some (complete, later) ∧
        Ends text (before ++ chunk) complete later.offers ∧ Answered device later.offers := by
  induction rest : chunk.length - written using Nat.strongRecOn generalizing written session with
  | _ size inductionHypothesis =>
      rw [writeLoop]
      by_cases unwritten : written < chunk.length
      · have here : text = before ++ chunk.take written ++ (chunk.drop written ++ after) := by
          rw [split, List.append_assoc, ← List.append_assoc (List.take _ _),
            List.take_append_drop]
        rw [if_pos unwritten, loadMany_rest chunk stale inside]
        by_cases refused : (session.write device (chunk.drop written)).1 ≤ 0 ∨
            chunk.length - written < (session.write device (chunk.drop written)).1.toNat
        · refine ⟨false, _, if_pos refused, .failed (sent.fail here ?_), answered.write _⟩
          rintro ⟨positive, enough⟩
          rw [List.length_drop] at enough
          rcases refused with nothing | tooMuch
          · exact absurd positive (Int.not_lt.mpr nothing)
          · exact absurd enough (Nat.not_le.mpr tooMuch)
        · have valid : Offer.Valid
              ⟨chunk.drop written, (device session.offers.length).result⟩ := by
            obtain ⟨positive, enough⟩ := not_or.mp refused
            refine ⟨Int.not_le.mp positive, ?_⟩
            rw [List.length_drop]
            exact Nat.not_lt.mp enough
          have moved : 0 < (device session.offers.length).result := valid.1
          have enough := valid.2
          simp only [List.length_drop] at enough
          have further := sent.take here valid
          simp only [List.append_assoc, ← List.take_add] at further
          obtain ⟨complete, later, ran, ends, said⟩ := inductionHypothesis _ (by omega) further
            (answered.write (chunk.drop written)) (by omega) rfl
          exact ⟨complete, later, (if_neg refused).trans ran, ends, said⟩
      · have complete : written = chunk.length := by omega
        rw [if_neg unwritten]
        rw [complete, List.take_length] at sent
        exact ⟨true, session, rfl, .complete sent, answered⟩

theorem chunkLoop_spec (scale : Sample → Sample) {device : Nat → Call Gain}
    {before rest stack : Bytes} {first count : Nat} {session : Session Gain}
    (wholeBefore : before.length = 2 * first) (whole : rest.length = 2 * count)
    (size : stack.length = scaledSize)
    (sent : Sent (scaledPcm scale (before ++ rest)) (scaledPcm scale before) session.offers)
    (answered : Answered device session.offers) :
    ∃ complete later,
      chunkLoop scale device (before ++ rest) (before ++ rest).length before.length stack session =
          some (complete, later) ∧
        Ends (scaledPcm scale (before ++ rest)) (scaledPcm scale (before ++ rest)) complete
          later.offers ∧
        Answered device later.offers := by
  induction count using Nat.strongRecOn generalizing before rest stack first session with
  | _ count inductionHypothesis =>
      have total : (before ++ rest).length = before.length + 2 * count := by
        rw [List.length_append, whole]
      rw [chunkLoop]
      by_cases empty : count = 0
      · have nothing : rest = [] := by
          rw [empty] at whole
          exact List.eq_nil_of_length_eq_zero whole
        subst nothing
        rw [List.append_nil] at sent ⊢
        exact ⟨true, session, if_neg (Nat.lt_irrefl _), .complete sent, answered⟩
      · have goesOn : before.length < (before ++ rest).length := by omega
        have bytes_eq : (if (before ++ rest).length - before.length > scaledSize then scaledSize
            else (before ++ rest).length - before.length) = 2 * min 4096 count := by
          unfold scaledSize
          split <;> omega
        obtain ⟨chunk, tail, rfl, chunkLength, tailLength⟩ :
            ∃ chunk tail, rest = chunk ++ tail ∧ chunk.length = 2 * min 4096 count ∧
              tail.length = 2 * (count - 4096) := by
          refine ⟨_, _, (List.take_append_drop (2 * min 4096 count) rest).symm, ?_, ?_⟩
          · rw [List.length_take]
            omega
          · rw [List.length_drop]
            omega
        have room : 2 * min 4096 count ≤ stack.length := by
          rw [size, scaledSize]
          omega
        have split : scaledPcm scale (before ++ (chunk ++ tail)) =
            scaledPcm scale before ++ (scaledPcm scale chunk ++ scaledPcm scale tail) := by
          rw [scaledPcm_append scale wholeBefore, scaledPcm_append scale chunkLength]
        have scaledLength := length_scaledPcm scale chunkLength
        obtain ⟨complete, later, written, ends, said⟩ :=
          @writeLoop_spec _ device _ _ _ _ (stack.drop (2 * min 4096 count)) 0 _ split
            (by simpa using sent) answered (Nat.zero_le _)
        rw [scaledLength] at written
        rw [if_pos goesOn]
        simp only [bytes_eq, Nat.mul_div_cancel_left _ Nat.two_pos,
          scaleSamples_eq scale chunkLength room, written]
        cases ends with
        | failed failed => exact ⟨false, later, rfl, .failed failed, said⟩
        | complete delivered =>
            have position : before.length + 2 * min 4096 count = (before ++ chunk).length := by
              rw [List.length_append, chunkLength]
            have wholeNow : (before ++ chunk).length = 2 * (first + min 4096 count) := by
              rw [List.length_append, wholeBefore, chunkLength]
              omega
            have sizeNow : (scaledPcm scale chunk ++ stack.drop (2 * min 4096 count)).length =
                scaledSize := by
              rw [List.length_append, scaledLength, List.length_drop, size]
              unfold scaledSize at size ⊢
              omega
            rw [← scaledPcm_append scale wholeBefore, ← List.append_assoc] at delivered
            rw [position, ← List.append_assoc]
            exact inductionHypothesis (count - 4096) (by omega) wholeNow tailLength sizeNow
              delivered said

/-! ## The whole call -/

/-- 16-bit PCM of one or two channels, in whole frames. -/
structure ValidPcm (pcm : PcmData) (bytes : Bytes) : Prop where
  data : pcm.data = some bytes
  dataLen : pcm.dataLen = bytes.length
  bits : pcm.bitsPerSample = 16
  channels : pcm.channels = 1 ∨ pcm.channels = 2
  rate : 8000 ≤ pcm.sampleRate ∧ pcm.sampleRate ≤ 192000
  frames : 2 * pcm.channels.toNat ∣ bytes.length

theorem ValidPcm.accepted {pcm : PcmData} {bytes : Bytes} (valid : ValidPcm pcm bytes) :
    pcm.refused = false := by
  have frames : (bytes.length : Int) % (2 * pcm.channels.toNat) = 0 :=
    Int.emod_eq_zero_of_dvd (by exact_mod_cast valid.frames)
  have slow : ¬ pcm.sampleRate < 8000 := UInt32.not_lt.mpr valid.rate.1
  have fast : ¬ pcm.sampleRate > 192000 := UInt32.not_lt.mpr valid.rate.2
  rcases valid.channels with one | two
  · simp_all [PcmData.refused, valid.bits, valid.dataLen]
  · simp_all [PcmData.refused, valid.bits, valid.dataLen]

theorem cbAudioProcess_eq (scale : Gain → Sample → Sample) {world : World Gain} {pcm : PcmData}
    {bytes : Bytes} (core : Core Gain) (valid : ValidPcm pcm bytes) (opened : world.opened = 0)
    (nonempty : bytes ≠ []) :
    cbAudioProcess scale world (some pcm) core =
      (chunkLoop (scale core.gain) world.device bytes bytes.length 0 world.stack
        { gain := core.gain }).map fun (complete, session) =>
          (session.offers,
            if complete then
              ({ core with gain := session.gain } : Core Gain).played world pcm bytes.length
            else
              ({ core with gain := session.gain } : Core Gain).fail world.time
                (ascii "audio_write_failed")) := by
  have positive : ¬ (bytes.length : Int) ≤ 0 := by
    have length := List.length_pos_of_ne_nil nonempty
    omega
  simp only [cbAudioProcess, valid.data, valid.dataLen, valid.accepted, opened, if_neg positive,
    Bool.false_eq_true, if_false, ne_eq, not_true, Int.toNat_natCast]
  exact Option.map_eq_bind.symm

theorem pcm_delivered (scale : Gain → Sample → Sample) {world : World Gain} {pcm : PcmData}
    {bytes : Bytes} (core : Core Gain) (valid : ValidPcm pcm bytes) (opened : world.opened = 0)
    (size : world.stack.length = scaledSize) :
    ∃ offers after, cbAudioProcess scale world (some pcm) core = some (offers, after) ∧
      Answered world.device offers ∧
      InOrder (scaledPcm (scale core.gain) bytes) offers ∧
      (∀ offer ∈ offers.dropLast, offer.Valid) ∧
      ((∀ offer ∈ offers, offer.Valid) →
        accepted offers = scaledPcm (scale core.gain) bytes ∧
          after.state.audioBytes = core.state.audioBytes + UInt64.ofNat bytes.length) ∧
      ((∃ offer ∈ offers, ¬ offer.Valid) →
        after.state.audio.bytes = ascii "failed" ∧
          after.state.lastError.bytes = ascii "audio_write_failed" ∧
          after.state.audioBytes = core.state.audioBytes) := by
  by_cases empty : bytes = []
  · subst empty
    refine ⟨[], core, ?_, rfl, inOrder_nil, ?_, ?_, ?_⟩
    · simp only [cbAudioProcess, valid.data, valid.dataLen]
      rfl
    · intro offer membership
      exact absurd membership List.not_mem_nil
    · intro _
      exact ⟨rfl, (UInt64.add_zero _).symm⟩
    · rintro ⟨offer, membership, _⟩
      exact absurd membership List.not_mem_nil
  · obtain ⟨count, whole⟩ : ∃ count, bytes.length = 2 * count := by
      obtain ⟨frames, total⟩ := valid.frames
      exact ⟨pcm.channels.toNat * frames, by rw [total, Nat.mul_assoc]⟩
    obtain ⟨complete, session, ran, ends, answered⟩ :=
      @chunkLoop_spec _ (scale core.gain) world.device [] bytes world.stack 0 count
        { gain := core.gain } rfl whole size sent_nil rfl
    rw [List.nil_append] at ran ends
    rw [cbAudioProcess_eq scale core valid opened empty]
    simp only [List.length_nil] at ran
    rw [ran]
    refine ⟨_, _, rfl, answered, ?_⟩
    cases ends with
    | complete delivered =>
        refine ⟨delivered.inOrder, fun offer membership =>
          delivered.valid offer (List.mem_of_mem_dropLast membership), ?_, ?_⟩
        · intro _
          exact ⟨delivered.accepted, rfl⟩
        · rintro ⟨offer, membership, invalid⟩
          exact absurd (delivered.valid offer membership) invalid
    | failed failed =>
        refine ⟨failed.inOrder, failed.others, ?_, ?_⟩
        · intro every
          obtain ⟨offer, last, invalid⟩ := failed.last
          exact absurd (every offer (List.mem_of_getLast? last)) invalid
        · intro _
          have failedText : (printed (ascii "failed") : Status.Field 32).bytes = ascii "failed" := by
            decide
          have errorText : (printed (ascii "audio_write_failed") : Status.Field 128).bytes =
              ascii "audio_write_failed" := by decide
          exact ⟨failedText, errorText, rfl⟩

theorem pcm_delivered_bytewise :
    ∃ offers after,
      cbAudioProcess (fun gain sample => (sample.1 * gain, sample.2))
          { platform := .host, name := none, time := 0, opened := 0
            device := fun _ => { result := 1, volume := some 0 }
            stack := List.replicate scaledSize 170 }
          (some ⟨some [1, 0, 2, 0], 4, 44100, 1, 16⟩) (Core.initial (2 : UInt8)) =
        some (offers, after) ∧
      accepted offers <+: [2, 0, 4, 0] := by
  have valid : ValidPcm ⟨some [1, 0, 2, 0], 4, 44100, 1, 16⟩ [1, 0, 2, 0] :=
    ⟨rfl, rfl, rfl, .inl rfl, ⟨by decide, by decide⟩, by decide⟩
  obtain ⟨offers, after, ran, _, inOrder, _⟩ :=
    @pcm_delivered UInt8 (fun gain sample => (sample.1 * gain, sample.2))
      { platform := .host, name := none, time := 0, opened := 0
        device := fun _ => { result := 1, volume := some 0 }
        stack := List.replicate scaledSize 170 } _ _ (Core.initial 2) valid rfl
      List.length_replicate
  exact ⟨offers, after, ran, inOrder.accepted_isPrefix⟩

end AirTizen.Audio

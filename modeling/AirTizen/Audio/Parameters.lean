import AirTizen.Audio.Decoders

/-!
# The negotiated audio parameters

`airtizen_audio_parameters.h`, which the guard and the SETUP handler call on the
same dictionary.  What it accepts, the decoders can be created for.
-/

namespace AirTizen.Audio

open CText

/-! ## Dictionaries -/

inductive PlistType where
  | boolean
  | uint
  | real
  | string
  | array
  | dict
  | date
  | data
  | key
  | uid
  | none
  deriving DecidableEq

structure PlistNode where
  type : PlistType
  intval : UInt64

/-- What `plist_dict_get_item` finds, where `none` is a null pointer. -/
abbrev Dictionary := Bytes → Option PlistNode

/-- An optional key: absent it leaves the value, and `none` is its refusal. -/
def uintItem (stream : Dictionary) (key : Bytes) (value : UInt64) : Option UInt64 :=
  match stream key with
  | none => some value
  | some node => if node.type ≠ .uint then none else some node.intval

/-! ## `airtizen_audio_parameters` -/

structure AudioParameters where
  ct : UInt32
  frames : UInt32
  rate : UInt32
  channels : UInt32
  deriving DecidableEq

def formatCodec (format : UInt64) : Option (UInt64 × UInt64) :=
  if format = (1 : UInt64) <<< 18 then some (2, 44100)
  else if format = (1 : UInt64) <<< 20 then some (2, 48000)
  else if format = (1 : UInt64) <<< 22 then some (4, 44100)
  else if format = (1 : UInt64) <<< 23 then some (4, 48000)
  else if format = (1 : UInt64) <<< 24 then some (8, 44100)
  else none

/-- The part about `ct` and `audioFormat`: the codec, the rate and the format. -/
def streamCodec (stream : Dictionary) : Option (UInt64 × UInt64 × UInt64) := do
  let ct ← uintItem stream (ascii "ct") 8
  let explicitCt := (stream (ascii "ct")).isSome
  match stream (ascii "audioFormat") with
  | none => some (ct, 44100, 0)
  | some node =>
      if node.type ≠ .uint then none
      else
        match formatCodec node.intval with
        | none => none
        | some (formatCt, rate) =>
            if explicitCt ∧ ct ≠ formatCt then none else some (formatCt, rate, node.intval)

def unsupported (ct frames rate channels : UInt64) : Bool :=
  (ct != 2 && ct != 4 && ct != 8) || frames == 0 || 4096 < frames ||
    (rate != 44100 && rate != 48000) || channels == 0 || 2 < channels ||
    (ct == 8 && (frames != 480 || rate != 44100 || channels != 2)) ||
    (ct == 4 && (frames != 1024 || channels != 2))

def audioParameters (stream : Dictionary) : Option AudioParameters := do
  let (ct, rate, format) ← streamCodec stream
  let frames ← uintItem stream (ascii "spf") (if ct = 2 then 352 else if ct = 4 then 1024 else 480)
  let requested ← uintItem stream (ascii "sr") rate
  if format ≠ 0 ∧ requested ≠ rate then none
  else
    let channels ← uintItem stream (ascii "ch") 2
    if format ≠ 0 ∧ channels ≠ 2 then none
    else if unsupported ct frames requested channels then none
    else
      some
        { ct := ct.toUInt32, frames := frames.toUInt32, rate := requested.toUInt32,
          channels := channels.toUInt32 }

/-! ## The callers -/

/-- The end of `airtizen_validate_request` for the only stream of a SETUP, when that
is not a mirror. -/
def validAudioStream (rtp : Option RaopRtp) (stream : Dictionary) : Bool :=
  let streamType : UInt64 :=
    match stream (ascii "type") with
    | none => 0
    | some node => if node.type = .uint then node.intval else 0
  streamType == 96 && rtp.isSome && (audioParameters stream).isSome

/-- The SETUP of an audio stream, where `none` closes the connection. -/
def setupAudio (library : Avcodec) (rtp : RaopRtp) (stream : Dictionary) : Option RaopRtp :=
  match audioParameters stream with
  | none => none
  | some parameters =>
      let (result, rtp) :=
        rtpConfigureAudio library rtp parameters.ct parameters.frames parameters.rate
          parameters.channels
      if result ≠ 0 then none else some rtp

/-! ## The formats -/

inductive AudioFormat where
  | alac44100
  | alac48000
  | aacLc44100
  | aacLc48000
  | aacEld44100
  deriving DecidableEq

namespace AudioFormat

def bit : AudioFormat → Nat
  | alac44100 => 18
  | alac48000 => 20
  | aacLc44100 => 22
  | aacLc48000 => 23
  | aacEld44100 => 24

def ct : AudioFormat → Nat
  | alac44100 | alac48000 => 2
  | aacLc44100 | aacLc48000 => 4
  | aacEld44100 => 8

def rate : AudioFormat → Nat
  | alac44100 | aacLc44100 | aacEld44100 => 44100
  | alac48000 | aacLc48000 => 48000

end AudioFormat

theorem formatCodec_eq_some {format ct rate : UInt64}
    (known : formatCodec format = some (ct, rate)) :
    ∃ audioFormat : AudioFormat,
      format.toNat = 2 ^ audioFormat.bit ∧ ct.toNat = audioFormat.ct ∧
        rate.toNat = audioFormat.rate := by
  unfold formatCodec at known
  split_ifs at known with alac44100 alac48000 aacLc44100 aacLc48000 aacEld44100
  all_goals cases known
  · exact ⟨.alac44100, by rw [alac44100]; decide, by decide, by decide⟩
  · exact ⟨.alac48000, by rw [alac48000]; decide, by decide, by decide⟩
  · exact ⟨.aacLc44100, by rw [aacLc44100]; decide, by decide, by decide⟩
  · exact ⟨.aacLc48000, by rw [aacLc48000]; decide, by decide, by decide⟩
  · exact ⟨.aacEld44100, by rw [aacEld44100]; decide, by decide, by decide⟩

/-! ## What is accepted -/

section

variable {stream : Dictionary}

/-- The value of a key, where it is present, is this one. -/
def Carries (stream : Dictionary) (key : Bytes) (value : Nat) : Prop :=
  ∀ node, stream key = some node → node.type = .uint ∧ node.intval.toNat = value

theorem uintItem_carries {key : Bytes} {value result : UInt64}
    (read : uintItem stream key value = some result) : Carries stream key result.toNat := by
  intro node present
  simp only [uintItem, present] at read
  split_ifs at read with uint
  cases read
  exact ⟨not_not.mp uint, rfl⟩

/-- With a format present, the codec and the rate are those of its bit. -/
theorem streamCodec_spec {ct rate format : UInt64}
    (known : streamCodec stream = some (ct, rate, format)) :
    Carries stream (ascii "ct") ct.toNat ∧
      ∀ node, stream (ascii "audioFormat") = some node →
        format ≠ 0 ∧ node.type = .uint ∧ ∃ audioFormat : AudioFormat,
          node.intval.toNat = 2 ^ audioFormat.bit ∧ ct.toNat = audioFormat.ct ∧
            rate.toNat = audioFormat.rate := by
  simp only [streamCodec, Option.bind_eq_bind, Option.bind_eq_some_iff] at known
  obtain ⟨explicit, read, known⟩ := known
  have carried := uintItem_carries read
  cases present : stream (ascii "audioFormat") with
  | none =>
      simp only [present] at known
      cases known
      exact ⟨carried, fun node isNode => by cases isNode⟩
  | some node =>
      simp only [present] at known
      split_ifs at known with uint
      cases codec : formatCodec node.intval with
      | none => simp [codec] at known
      | some pair =>
          obtain ⟨formatCt, formatRate⟩ := pair
          simp only [codec] at known
          split_ifs at known with conflict
          cases known
          obtain ⟨audioFormat, bit, isCt, isRate⟩ := formatCodec_eq_some codec
          refine ⟨?_, ?_⟩
          · intro ctNode ctPresent
            have agree : explicit = ct := by
              by_contra different
              exact conflict ⟨by simp [ctPresent], different⟩
            rw [← agree]
            exact carried ctNode ctPresent
          · rintro other ⟨⟩
            refine ⟨?_, not_not.mp uint, audioFormat, bit, isCt, isRate⟩
            intro zero
            rw [zero] at bit
            exact absurd bit.symm (Nat.two_pow_pos _).ne'

theorem supported_cases {ct frames rate channels : UInt64}
    (supported : unsupported ct frames rate channels = false) :
    (ct = 2 ∧ 1 ≤ frames.toNat ∧ frames.toNat ≤ 4096 ∧ (rate = 44100 ∨ rate = 48000) ∧
        1 ≤ channels.toNat ∧ channels.toNat ≤ 2) ∨
      (ct = 4 ∧ frames = 1024 ∧ (rate = 44100 ∨ rate = 48000) ∧ channels = 2) ∨
      (ct = 8 ∧ frames = 480 ∧ rate = 44100 ∧ channels = 2) := by
  have positive : ∀ number : UInt64, number ≠ 0 → 1 ≤ number.toNat := by
    intro number nonzero
    exact Nat.one_le_iff_ne_zero.mpr fun zero => nonzero (UInt64.toNat_inj.mp zero)
  simp only [unsupported, Bool.or_eq_false_iff, Bool.and_eq_false_iff, bne_eq_false_iff_eq,
    beq_eq_false_iff_ne, decide_eq_false_iff_not, UInt64.not_lt, or_assoc] at supported
  obtain ⟨⟨⟨⟨⟨⟨⟨codec, someFrames⟩, fewFrames⟩, known⟩, someChannels⟩, fewChannels⟩, eld⟩, lc⟩ :=
    supported
  rcases codec with alac | isLc | isEld
  · exact Or.inl ⟨alac, positive _ someFrames, UInt64.le_iff_toNat_le.mp fewFrames, known,
      positive _ someChannels, UInt64.le_iff_toNat_le.mp fewChannels⟩
  · rcases lc with notLc | ⟨frames1024, stereo⟩
    · exact absurd isLc notLc
    · exact Or.inr (Or.inl ⟨isLc, frames1024, known, stereo⟩)
  · rcases eld with notEld | ⟨⟨frames480, rate44100⟩, stereo⟩
    · exact absurd isEld notEld
    · exact Or.inr (Or.inr ⟨isEld, frames480, rate44100, stereo⟩)

theorem audioParameters_cases {parameters : AudioParameters}
    (accepted : audioParameters stream = some parameters) :
    ∃ ct rate format frames requested channels,
      streamCodec stream = some (ct, rate, format) ∧
      Carries stream (ascii "spf") frames.toNat ∧
      Carries stream (ascii "sr") requested.toNat ∧
      Carries stream (ascii "ch") channels.toNat ∧
      (format ≠ 0 → requested = rate ∧ channels = 2) ∧
      unsupported ct frames requested channels = false ∧
      parameters =
        { ct := ct.toUInt32, frames := frames.toUInt32, rate := requested.toUInt32,
          channels := channels.toUInt32 } := by
  simp only [audioParameters, Option.bind_eq_bind, Option.bind_eq_some_iff] at accepted
  obtain ⟨⟨ct, rate, format⟩, known, frames, isFrames, requested, isRate, accepted⟩ := accepted
  split_ifs at accepted with otherRate
  obtain ⟨channels, isChannels, accepted⟩ := Option.bind_eq_some_iff.mp accepted
  split_ifs at accepted with otherChannels refused
  cases accepted
  refine ⟨ct, rate, format, frames, requested, channels, known, uintItem_carries isFrames,
    uintItem_carries isRate, uintItem_carries isChannels, fun present => ?_,
    by simpa using refused, rfl⟩
  exact ⟨by_contra fun other => otherRate ⟨present, other⟩,
    by_contra fun other => otherChannels ⟨present, other⟩⟩

theorem supported_exact {ct frames rate channels : UInt64}
    (supported : unsupported ct frames rate channels = false) :
    ct.toUInt32.toNat = ct.toNat ∧ frames.toUInt32.toNat = frames.toNat ∧
      rate.toUInt32.toNat = rate.toNat ∧ channels.toUInt32.toNat = channels.toNat := by
  have small : ∀ number : UInt64, number.toNat < 2 ^ 32 → number.toUInt32.toNat = number.toNat := by
    intro number below
    rw [UInt64.toNat_toUInt32, Nat.mod_eq_of_lt below]
  have rates : rate = 44100 ∨ rate = 48000 → rate.toNat < 2 ^ 32 := by
    rintro (rfl | rfl) <;> decide
  rcases supported_cases supported with ⟨rfl, -, few, known, -, narrow⟩ | ⟨rfl, rfl, known, rfl⟩ |
    ⟨rfl, rfl, rfl, rfl⟩
  · exact ⟨rfl, small _ (by omega), small _ (rates known), small _ (by omega)⟩
  · exact ⟨rfl, rfl, small _ (rates known), rfl⟩
  · exact ⟨rfl, rfl, rfl, rfl⟩

theorem supported_constructible {ct frames rate channels : UInt64}
    (supported : unsupported ct frames rate channels = false) :
    Constructible ct.toUInt32 frames.toUInt32 rate.toUInt32 channels.toUInt32 := by
  obtain ⟨-, exactFrames, -, exactChannels⟩ := supported_exact supported
  rcases supported_cases supported with
    ⟨rfl, someFrames, fewFrames, known, someChannels, fewChannels⟩ | ⟨rfl, rfl, known, rfl⟩ |
    ⟨rfl, rfl, rfl, rfl⟩
  · refine Or.inl ⟨rfl, alacRejects_eq_false.mpr ?_⟩
    rw [exactFrames, exactChannels]
    refine ⟨?_, someChannels, fewChannels, someFrames, fewFrames⟩
    rcases known with rfl | rfl
    · exact Or.inl rfl
    · exact Or.inr rfl
  · refine Or.inr ⟨Or.inl rfl, aacRejects_eq_false.mpr ⟨rfl, Or.inl ⟨rfl, ?_, rfl⟩⟩⟩
    rcases known with rfl | rfl
    · exact Or.inl rfl
    · exact Or.inr rfl
  · exact Or.inr ⟨Or.inr rfl, aacRejects_eq_false.mpr ⟨rfl, Or.inr ⟨rfl, rfl, rfl⟩⟩⟩

theorem supported_fits {ct frames rate channels : UInt64}
    (supported : unsupported ct frames rate channels = false) :
    frames.toNat * channels.toNat * 2 ≤ audioBufferSize := by
  rcases supported_cases supported with ⟨rfl, -, few, -, -, narrow⟩ | ⟨rfl, rfl, -, rfl⟩ |
    ⟨rfl, rfl, rfl, rfl⟩
  · exact Nat.mul_le_mul_right 2 (Nat.mul_le_mul few narrow)
  · decide
  · decide

theorem setupAudio_isSome {parameters : AudioParameters} {library : Avcodec} {rtp : RaopRtp}
    (accepted : audioParameters stream = some parameters) (idle : rtp.running = false)
    (joined : rtp.joined = true)
    (constructible :
      Constructible parameters.ct parameters.frames parameters.rate parameters.channels) :
    (setupAudio library rtp stream).isSome ↔
      (library.opened (codecContext parameters.ct parameters.frames parameters.rate
        parameters.channels)).isSome := by
  rw [← bufferConfigureAudio_constructible constructible rtp.buffer]
  simp only [setupAudio, accepted, rtpConfigureAudio, idle, joined]
  split_ifs <;> simp_all

theorem setupAudio_configured {parameters : AudioParameters} {library : Avcodec}
    {rtp ready : RaopRtp} (accepted : audioParameters stream = some parameters)
    (ended : setupAudio library rtp stream = some ready) :
    (bufferConfigureAudio library rtp.buffer parameters.ct parameters.frames parameters.rate
        parameters.channels).1 = 0 ∧
      ready.buffer = (bufferConfigureAudio library rtp.buffer parameters.ct parameters.frames
        parameters.rate parameters.channels).2 := by
  simp only [setupAudio, accepted, rtpConfigureAudio] at ended
  split_ifs at ended with free fails
  · cases ended
    exact ⟨not_not.mp fails, rfl⟩
  next kept => exact absurd (by simp) kept

theorem validAudioStream_setup {rtp : RaopRtp} (valid : validAudioStream (some rtp) stream = true)
    (idle : rtp.running = false) (joined : rtp.joined = true) :
    ∃ context, ∀ library : Avcodec,
      (setupAudio library rtp stream).isSome ↔ (library.opened context).isSome := by
  have accepted : (audioParameters stream).isSome = true := by
    simp only [validAudioStream, Bool.and_eq_true] at valid
    exact valid.2
  obtain ⟨parameters, accepted⟩ := Option.isSome_iff_exists.mp accepted
  obtain ⟨_, _, _, _, _, _, -, -, -, -, -, supported, isParameters⟩ :=
    audioParameters_cases accepted
  have constructible :
      Constructible parameters.ct parameters.frames parameters.rate parameters.channels := by
    rw [isParameters]
    exact supported_constructible supported
  exact ⟨_, fun library => setupAudio_isSome accepted idle joined constructible⟩

end

/-- Accepted parameters pass the checks of the constructor that the stream gets, and fit
into the buffer; a format decides the codec, the rate and two channels; and every key that
is present is taken with its whole value. -/
theorem negotiated_decodable {stream : Dictionary} {parameters : AudioParameters}
    (accepted : audioParameters stream = some parameters) :
    Constructible parameters.ct parameters.frames parameters.rate parameters.channels ∧
    (∀ library rtp, rtp.running = false → rtp.joined = true →
      ((setupAudio library rtp stream).isSome ↔
        (library.opened (codecContext parameters.ct parameters.frames parameters.rate
          parameters.channels)).isSome)) ∧
    parameters.frames.toNat * parameters.channels.toNat * 2 ≤ 16384 ∧ audioBufferSize = 16384 ∧
    (∀ library rtp ready, setupAudio library rtp stream = some ready → ∀ received size,
      ready.buffer.decode received size audioBufferSize ≤ audioBufferSize ∧
      ∀ capacity, audioBufferSize ≤ capacity →
        ready.buffer.decode received size capacity =
          ready.buffer.decode received size audioBufferSize) ∧
    (∀ node, stream (ascii "audioFormat") = some node → node.type = .uint ∧
      ∃ format : AudioFormat, node.intval.toNat = 2 ^ format.bit ∧
        parameters.ct.toNat = format.ct ∧ parameters.rate.toNat = format.rate ∧
        parameters.channels = 2) ∧
    Carries stream (ascii "ct") parameters.ct.toNat ∧
    Carries stream (ascii "spf") parameters.frames.toNat ∧
    Carries stream (ascii "sr") parameters.rate.toNat ∧
    Carries stream (ascii "ch") parameters.channels.toNat := by
  obtain ⟨ct, rate, format, frames, requested, channels, known, isFrames, isRate, isChannels, agree,
    supported, rfl⟩ := audioParameters_cases accepted
  obtain ⟨exactCt, exactFrames, exactRate, exactChannels⟩ := supported_exact supported
  obtain ⟨isCt, formats⟩ := streamCodec_spec known
  have constructible := supported_constructible supported
  have fits : frames.toUInt32.toNat * channels.toUInt32.toNat * 2 ≤ audioBufferSize := by
    rw [exactFrames, exactChannels]
    exact supported_fits supported
  refine ⟨constructible,
    fun library rtp idle joined => setupAudio_isSome accepted idle joined constructible,
    fits, rfl, ?_, ?_, ?_, ?_, ?_, ?_⟩
  · intro library rtp ready ended received size
    obtain ⟨configured, isBuffer⟩ := setupAudio_configured accepted ended
    rw [isBuffer]
    exact configured_room constructible fits configured received size
  · intro node present
    obtain ⟨nonzero, uint, audioFormat, bit, ofCt, ofRate⟩ := formats node present
    obtain ⟨sameRate, stereo⟩ := agree nonzero
    refine ⟨uint, audioFormat, bit, exactCt.trans ofCt, ?_, ?_⟩
    · exact exactRate.trans (sameRate ▸ ofRate)
    · rw [stereo]
      rfl
  · rw [exactCt]
    exact isCt
  · rw [exactFrames]
    exact isFrames
  · rw [exactRate]
    exact isRate
  · rw [exactChannels]
    exact isChannels

/-- The largest packets: ALAC in two channels with 4096 frames. -/
def largestPackets : Dictionary := fun key =>
  if key = ascii "ct" then some ⟨.uint, 2⟩
  else if key = ascii "spf" then some ⟨.uint, 4096⟩
  else none

theorem negotiated_decodable_largestPackets :
    audioParameters largestPackets = some ⟨2, 4096, 44100, 2⟩ ∧ Constructible 2 4096 44100 2 ∧
      Carries largestPackets (ascii "spf") 4096 := by
  have accepted : audioParameters largestPackets = some ⟨2, 4096, 44100, 2⟩ := by decide
  have decodable := negotiated_decodable accepted
  exact ⟨accepted, decodable.1, decodable.2.2.2.2.2.2.2.1⟩

end AirTizen.Audio

import AirTizen.Library.Buffer
import AirTizen.Library.Text

/-!
# The decoders behind the audio stream

`airtizen_alac.c` and `airtizen_aac.c`, and `raop_buffer_configure_audio`, which
chooses one of them.  Decoding itself is left to libavcodec: it yields a frame, and
the decoders decide whether that frame is what was negotiated.
-/

namespace AirTizen.Audio

open CText

/-! ## The codec library -/

inductive CodecId where
  | alac
  | aac
  deriving DecidableEq

/-- An `AVCodecContext` before it is opened. -/
structure CodecContext where
  codec : CodecId
  extradata : Bytes
  sampleRate : Int32
  channels : Int32
  deriving DecidableEq

/-- What the calls of libavcodec and of the allocator return. -/
structure Avcodec where
  findDecoder : CodecId → Bool
  calloc : Bool
  allocContext : CodecId → Bool
  allocFrame : Bool
  mallocz : Nat → Bool
  open2 : CodecContext → Int32

/-- `AV_INPUT_BUFFER_PADDING_SIZE`. -/
def inputBufferPadding : Nat := 64

/-- The part that both of the constructors share: all that can fail once the
arguments are checked. -/
def Avcodec.opened (library : Avcodec) (context : CodecContext) : Option CodecContext :=
  if !library.findDecoder context.codec then none
  else if !library.calloc then none
  else if !library.allocContext context.codec || !library.allocFrame then none
  else if !library.mallocz (context.extradata.length + inputBufferPadding) then none
  else if library.open2 context < 0 then none
  else some context

inductive SampleFormat where
  | s16
  | s16p
  | flt
  | fltp
  | other
  deriving DecidableEq

/-- An `AVFrame` that the library has decoded, and whether all of its samples are
finite. -/
structure AVFrame where
  nbSamples : Int32
  nbChannels : Int32
  sampleRate : Int32
  format : SampleFormat
  finite : Bool

/-- `(size_t)frame->nb_samples*d->channels*2`. -/
def AVFrame.bytes (frame : AVFrame) (channels : UInt32) : Nat :=
  (frame.nbSamples.toInt % 2 ^ 64).toNat * channels.toNat * 2 % 2 ^ 64

/-! ## ALAC -/

structure Alac where
  context : CodecContext
  frames : UInt32
  channels : UInt32

def alacRejects (rate channels frames : UInt32) : Bool :=
  (rate != 44100 && rate != 48000) || channels < 1 || 2 < channels || frames < 1 || 4096 < frames

def alacContext (rate channels frames : UInt32) : CodecContext where
  codec := .alac
  extradata := Octets.ofNat 4 36 ++ ascii "alac" ++ List.replicate 4 0 ++
    Octets.ofNat 4 frames.toNat ++ [0, 16, 40, 10, 14, channels.toUInt8, 0, 255] ++
    List.replicate 8 0 ++ Octets.ofNat 4 rate.toNat
  sampleRate := rate.toInt32
  channels := channels.toInt32

def alacCreate (library : Avcodec) (rate channels frames : UInt32) : Option Alac :=
  if alacRejects rate channels frames then none
  else
    match library.opened (alacContext rate channels frames) with
    | none => none
    | some context => some { context := context, frames := frames, channels := channels }

/-- The size that `airtizen_alac_decode` returns, where `received` is what the library
makes of the packet. -/
def alacDecode (decoder : Option Alac) (received : Option AVFrame) (size capacity : Nat) : Nat :=
  match decoder with
  | none => 0
  | some decoder =>
      if size = 0 ∨ 32768 < size then 0
      else
        match received with
        | none => 0
        | some frame =>
            if frame.nbSamples < 1 ∨ decoder.frames < frame.nbSamples.toUInt32 ∨
                frame.nbChannels ≠ decoder.channels.toInt32 ∨
                frame.sampleRate ≠ decoder.context.sampleRate ∨
                (frame.format ≠ .s16 ∧ frame.format ≠ .s16p) then 0
            else if capacity < frame.bytes decoder.channels then 0
            else frame.bytes decoder.channels

/-! ## AAC -/

structure Aac where
  context : CodecContext
  type : UInt32
  rate : UInt32
  channels : UInt32
  frames : UInt32

def aacRejects (type rate channels frames : UInt32) : Bool :=
  channels != 2 || (rate != 44100 && rate != 48000) ||
    if type = 4 then frames != 1024 else type != 8 || rate != 44100 || frames != 480

def aacContext (type rate channels : UInt32) : CodecContext where
  codec := .aac
  extradata :=
    if type = 4 then if rate = 48000 then [0x11, 0x90] else [0x12, 0x10]
    else [0xf8, 0xe8, 0x50, 0]
  sampleRate := rate.toInt32
  channels := channels.toInt32

def aacCreate (library : Avcodec) (type rate channels frames : UInt32) : Option Aac :=
  if aacRejects type rate channels frames then none
  else
    match library.opened (aacContext type rate channels) with
    | none => none
    | some context =>
        some
          { context := context, type := type, rate := rate, channels := channels, frames := frames }

/-- The size that `airtizen_aac_decode` returns. -/
def aacDecode (decoder : Option Aac) (received : Option AVFrame) (size capacity : Nat) : Nat :=
  match decoder with
  | none => 0
  | some decoder =>
      if size = 0 ∨ 32768 < size then 0
      else
        match received with
        | none => 0
        | some frame =>
            if frame.nbSamples ≠ decoder.frames.toInt32 ∨
                frame.nbChannels ≠ decoder.channels.toInt32 ∨
                frame.sampleRate ≠ decoder.rate.toInt32 ∨
                capacity < frame.bytes decoder.channels then 0
            else if frame.format = .s16 ∨ frame.format = .s16p then frame.bytes decoder.channels
            else if frame.format = .fltp ∨ frame.format = .flt then
              if !frame.finite then 0 else frame.bytes decoder.channels
            else 0

/-! ## The buffer of the stream -/

/-- The decoders of a `raop_buffer_t`. -/
structure RaopBuffer where
  alac : Option Alac
  phandle : Option Aac
  codecType : UInt32
  configuredRate : UInt32
  configuredChannels : UInt32

def audioBufferSize : Nat := 4096 * 2 * 2

/-- `raop_buffer_configure_audio`; the flush in front of the change only concerns what
was decoded before. -/
def bufferConfigureAudio (library : Avcodec) (buffer : RaopBuffer)
    (ct frames rate channels : UInt32) : Int × RaopBuffer :=
  let configured (alac : Option Alac) (aac : Option Aac) : RaopBuffer :=
    { alac := alac, phandle := aac, codecType := ct, configuredRate := rate,
      configuredChannels := channels }
  if ct = 2 then
    match alacCreate library rate channels frames with
    | none => (-1, buffer)
    | some alac => (0, configured (some alac) none)
  else if ct = 4 ∨ ct = 8 then
    match aacCreate library ct rate channels frames with
    | none => (-1, buffer)
    | some aac => (0, configured none (some aac))
  else (-1, buffer)

/-- The call of the decoder in `raop_buffer_queue`. -/
def RaopBuffer.decode (buffer : RaopBuffer) (received : Option AVFrame)
    (payloadSize capacity : Nat) : Nat :=
  if buffer.codecType = 2 then alacDecode buffer.alac received payloadSize capacity
  else aacDecode buffer.phandle received payloadSize capacity

/-- The fields of a `raop_rtp_t` that matter here. -/
structure RaopRtp where
  running : Bool
  joined : Bool
  buffer : RaopBuffer

def rtpConfigureAudio (library : Avcodec) (rtp : RaopRtp) (ct frames rate channels : UInt32) :
    Int × RaopRtp :=
  if !rtp.running && rtp.joined then
    let (result, buffer) := bufferConfigureAudio library rtp.buffer ct frames rate channels
    (result, { rtp with buffer := buffer })
  else (-1, rtp)

/-! ## A constructor whose arguments pass -/

section

variable {library : Avcodec} {ct frames rate channels : UInt32}

theorem alacCreate_accepted (accepted : alacRejects rate channels frames = false) :
    alacCreate library rate channels frames =
      (library.opened (alacContext rate channels frames)).map
        fun context => { context := context, frames := frames, channels := channels } := by
  rw [alacCreate, accepted]
  cases library.opened (alacContext rate channels frames) <;> rfl

theorem alacRejects_eq_false :
    alacRejects rate channels frames = false ↔
      (rate = 44100 ∨ rate = 48000) ∧ 1 ≤ channels.toNat ∧ channels.toNat ≤ 2 ∧
        1 ≤ frames.toNat ∧ frames.toNat ≤ 4096 := by
  simp [alacRejects, UInt32.lt_iff_toNat_lt, Nat.one_le_iff_ne_zero, Decidable.or_iff_not_imp_left,
    and_assoc]

theorem aacRejects_eq_false {type : UInt32} :
    aacRejects type rate channels frames = false ↔
      channels = 2 ∧ (type = 4 ∧ (rate = 44100 ∨ rate = 48000) ∧ frames = 1024 ∨
        type = 8 ∧ rate = 44100 ∧ frames = 480) := by
  by_cases lc : type = 4
  · subst lc
    simp [aacRejects, Decidable.or_iff_not_imp_left, and_assoc]
  · simp [aacRejects, lc, Decidable.or_iff_not_imp_left]
    grind

theorem aacCreate_accepted {type : UInt32}
    (accepted : aacRejects type rate channels frames = false) :
    aacCreate library type rate channels frames =
      (library.opened (aacContext type rate channels)).map fun context =>
        { context := context, type := type, rate := rate, channels := channels,
          frames := frames } := by
  rw [aacCreate, accepted]
  cases library.opened (aacContext type rate channels) <;> rfl

/-- The codec has a constructor, and the arguments pass its checks. -/
def Constructible (ct frames rate channels : UInt32) : Prop :=
  (ct = 2 ∧ alacRejects rate channels frames = false) ∨
    ((ct = 4 ∨ ct = 8) ∧ aacRejects ct rate channels frames = false)

instance : Decidable (Constructible ct frames rate channels) :=
  inferInstanceAs (Decidable (_ ∨ _))

def codecContext (ct frames rate channels : UInt32) : CodecContext :=
  if ct = 2 then alacContext rate channels frames else aacContext ct rate channels

theorem bufferConfigureAudio_constructible (constructible : Constructible ct frames rate channels)
    (buffer : RaopBuffer) :
    (bufferConfigureAudio library buffer ct frames rate channels).1 = 0 ↔
      (library.opened (codecContext ct frames rate channels)).isSome := by
  rcases constructible with ⟨rfl, accepted⟩ | ⟨aac, accepted⟩
  · have context : codecContext 2 frames rate channels = alacContext rate channels frames := rfl
    rw [bufferConfigureAudio, alacCreate_accepted accepted, context]
    cases library.opened (alacContext rate channels frames) <;> simp
  · have other : ct ≠ 2 := by
      rintro rfl
      simp at aac
    rw [bufferConfigureAudio, aacCreate_accepted accepted, codecContext, if_neg other, if_neg other,
      if_pos aac]
    cases library.opened (aacContext ct rate channels) <;> simp

end

/-! ## The size of a decoded packet -/

section

variable {room capacity : Nat} {frame : AVFrame} {channels limit : UInt32}

theorem AVFrame.bytes_le (positive : 1 ≤ frame.nbSamples) (short : frame.nbSamples.toUInt32 ≤ limit)
    (small : limit.toNat * channels.toNat * 2 ≤ room) : frame.bytes channels ≤ room := by
  have atLeast : 1 ≤ frame.nbSamples.toInt := Int32.le_iff_toInt_le.mp positive
  have samples : frame.nbSamples.toUInt32.toNat = frame.nbSamples.toInt.toNat :=
    Int32.toNat_toUInt32_of_le (Int32.le_iff_toInt_le.mpr (le_trans (by decide) atLeast))
  have below : frame.nbSamples.toInt < 2 ^ 31 := frame.nbSamples.toInt_lt
  have size : (frame.nbSamples.toInt % 2 ^ 64).toNat ≤ limit.toNat := by
    have limited := UInt32.le_iff_toNat_le.mp short
    omega
  calc frame.bytes channels
      ≤ (frame.nbSamples.toInt % 2 ^ 64).toNat * channels.toNat * 2 := Nat.mod_le _ _
    _ ≤ limit.toNat * channels.toNat * 2 :=
        Nat.mul_le_mul_right 2 (Nat.mul_le_mul_right channels.toNat size)
    _ ≤ room := small

theorem alacDecode_room {decoder : Alac} {received : Option AVFrame} {size : Nat}
    (small : decoder.frames.toNat * decoder.channels.toNat * 2 ≤ room) :
    alacDecode (some decoder) received size room ≤ room ∧
      (room ≤ capacity →
        alacDecode (some decoder) received size capacity =
          alacDecode (some decoder) received size room) := by
  dsimp only [alacDecode]
  split
  · exact ⟨Nat.zero_le _, fun _ => rfl⟩
  cases received with
  | none => exact ⟨Nat.zero_le _, fun _ => rfl⟩
  | some frame =>
      dsimp only
      split
      · exact ⟨Nat.zero_le _, fun _ => rfl⟩
      next wanted =>
        push Not at wanted
        have bytes : frame.bytes decoder.channels ≤ room :=
          AVFrame.bytes_le (Int32.not_lt.mp wanted.1) (UInt32.not_lt.mp wanted.2.1) small
        rw [if_neg (Nat.not_lt.mpr bytes)]
        refine ⟨bytes, fun enough => ?_⟩
        rw [if_neg (Nat.not_lt.mpr (bytes.trans enough))]

theorem aacDecode_room {decoder : Aac} {received : Option AVFrame} {size : Nat}
    (known : decoder.frames = 1024 ∨ decoder.frames = 480)
    (small : decoder.frames.toNat * decoder.channels.toNat * 2 ≤ room) :
    aacDecode (some decoder) received size room ≤ room ∧
      (room ≤ capacity →
        aacDecode (some decoder) received size capacity =
          aacDecode (some decoder) received size room) := by
  dsimp only [aacDecode]
  split
  · exact ⟨Nat.zero_le _, fun _ => rfl⟩
  cases received with
  | none => exact ⟨Nat.zero_le _, fun _ => rfl⟩
  | some frame =>
      dsimp only
      by_cases samples : frame.nbSamples = decoder.frames.toInt32
      · have positive : 1 ≤ frame.nbSamples := by
          rw [samples]
          rcases known with long | short
          · rw [long]
            decide
          · rw [short]
            decide
        have same : frame.nbSamples.toUInt32 = decoder.frames := by
          rw [samples, UInt32.toUInt32_toInt32]
        have bytes : frame.bytes decoder.channels ≤ room :=
          AVFrame.bytes_le positive (UInt32.le_of_eq same) small
        have fits : ∀ space, room ≤ space → ¬ space < frame.bytes decoder.channels :=
          fun space enough => Nat.not_lt.mpr (bytes.trans enough)
        refine ⟨?_, fun enough => ?_⟩
        · split_ifs
          all_goals first | exact bytes | exact Nat.zero_le _
        · simp only [fits capacity enough, fits room (Nat.le_refl room)]
      · simp [samples]

end

/-- What a buffer that has been configured makes of a packet does not depend on the room
for it, once that is enough for the samples of one packet. -/
theorem configured_room {library : Avcodec} {buffer : RaopBuffer} {ct frames rate channels : UInt32}
    {room : Nat} (constructible : Constructible ct frames rate channels)
    (small : frames.toNat * channels.toNat * 2 ≤ room)
    (configured : (bufferConfigureAudio library buffer ct frames rate channels).1 = 0)
    (received : Option AVFrame) (size : Nat) :
    (bufferConfigureAudio library buffer ct frames rate channels).2.decode received size room ≤
        room ∧
      ∀ capacity, room ≤ capacity →
        (bufferConfigureAudio library buffer ct frames rate channels).2.decode received size
            capacity =
          (bufferConfigureAudio library buffer ct frames rate channels).2.decode received size
            room := by
  rcases constructible with ⟨rfl, accepted⟩ | ⟨aac, accepted⟩
  · simp only [bufferConfigureAudio, alacCreate_accepted accepted, if_true] at configured ⊢
    cases opened : library.opened (alacContext rate channels frames) with
    | none => simp [opened] at configured
    | some context =>
        exact ⟨(@alacDecode_room room room _ _ _ small).1,
          fun capacity enough => (@alacDecode_room room capacity _ _ _ small).2 enough⟩
  · have frameSizes : frames = 1024 ∨ frames = 480 := by
      rcases aacRejects_eq_false.mp accepted with ⟨-, ⟨-, -, long⟩ | ⟨-, -, short⟩⟩
      · exact Or.inl long
      · exact Or.inr short
    have other : ct ≠ 2 := by
      rintro rfl
      simp at aac
    simp only [bufferConfigureAudio, aacCreate_accepted accepted, if_neg other, if_pos aac]
      at configured ⊢
    cases opened : library.opened (aacContext ct rate channels) with
    | none => simp [opened] at configured
    | some context =>
        simp only [RaopBuffer.decode, Option.map_some, if_neg other]
        exact ⟨(@aacDecode_room room room _ _ _ frameSizes small).1,
          fun capacity enough => (@aacDecode_room room capacity _ _ _ frameSizes small).2 enough⟩

end AirTizen.Audio

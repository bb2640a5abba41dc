import AirTizen.Audio.JitterWindow
import AirTizen.Audio.Delivery

/-!
# From the sockets to the sound

The rounds of `raop_rtp_thread_udp`: a packet from the control socket is only queued, and
one from the data socket is followed by handing out everything up to the newest number.
Whatever the network does, the frames leave in the order of the sender.
-/

namespace AirTizen.Audio

open CText Buffer

/-! ## Handing out -/

/-- A call of `audio_process`. -/
structure Played where
  pcm : PcmData
  pts : Option UInt32

def StreamFormat.played (format : StreamFormat) (audio : Bytes) : Played where
  pcm :=
    { data := some audio
      dataLen := audio.length
      sampleRate := format.sampleRate
      channels := format.channels
      bitsPerSample := format.bitsPerSample }
  pts := format.pts

theorem StreamBuffer.dequeue_buflen {buffer : StreamBuffer} {format : StreamFormat}
    {noResend : Bool} {taken : Dequeued} (dequeued : buffer.dequeue format noResend = some taken) :
    taken.buffer.buflen.toNat < buffer.buflen.toNat := by
  obtain ⟨rfl, positive⟩ : buffer.takeFirst format = taken ∧ 0 < buffer.buflen := by
    unfold StreamBuffer.dequeue at dequeued
    split_ifs at dequeued with nothing
    exact ⟨Option.some.inj dequeued, by omega⟩
  obtain ⟨first, last, -, -⟩ := buffer.takeFirst_frame format
  have next : (buffer.firstSeqnum + 1).toNat = (buffer.firstSeqnum.toNat + 1) % 2 ^ 16 :=
    UInt16.toNat_add _ _
  simp only [StreamBuffer.buflen, seqnumCmp, SerialNumber.distance, first, last, next,
    Int.bmod_def] at positive ⊢
  omega

/-- The `while` loop over `raop_buffer_dequeue`. -/
def StreamBuffer.drain (buffer : StreamBuffer) (format : StreamFormat) :
    List Played × StreamBuffer :=
  match _dequeued : buffer.dequeue format true with
  | none => ([], buffer)
  | some taken =>
      let (later, final) := taken.buffer.drain taken.format
      (taken.format.played taken.audio :: later, final)
termination_by buffer.buflen.toNat
decreasing_by exact StreamBuffer.dequeue_buflen _dequeued

def noFormat : StreamFormat where
  pts := none
  sampleRate := 0
  channels := 0
  bitsPerSample := 0

/-! ## The rounds of the thread -/

/-- What reaches the buffer: the threads that control the stream flush it and, while it is
stopped, configure it; the sockets bring packets. -/
inductive StreamEvent where
  | configure (library : Avcodec) (ct frames rate channels : UInt32)
  | flush (nextSeq : Int)
  | control (packet : Bytes) (answers : Answers)
  | data (packet : Bytes) (answers : Answers)

/-- `raop_buffer_queue` with the assertion behind it. -/
def StreamBuffer.queued (buffer : StreamBuffer) (answers : Answers) (data : Bytes) :
    Option StreamBuffer :=
  match buffer.queue answers data with
  | none => none
  | some (result, buffer) => if 0 ≤ result then some buffer else none

/-- An event with its calls of `audio_process`; `none` is an access outside of a buffer or a
failed assertion.  `recvfrom` cuts off what `packet` has no room for. -/
def StreamBuffer.handle (buffer : StreamBuffer) : StreamEvent → Option (List Played × StreamBuffer)
  | .configure library ct frames rate channels =>
      some ([], (buffer.configureAudio library ct frames rate channels).2)
  | .flush nextSeq => some ([], buffer.flush nextSeq)
  | .control packet answers =>
      let packet := packet.take raopPacketLen
      if packet.length < 4 then some ([], buffer)
      else
        match load packet 1 with
        | none => none
        | some type =>
            if type &&& ~~~0x80 = 0x56 then
              (buffer.queued answers (packet.drop 4)).map fun buffer => ([], buffer)
            else some ([], buffer)
  | .data packet answers =>
      let packet := packet.take raopPacketLen
      if packet.length < 12 then some ([], buffer)
      else (buffer.queued answers packet).map fun buffer => buffer.drain noFormat

/-- The thread behind an event, unless it has crashed. -/
def streamStep (thread : Option StreamBuffer) (event : StreamEvent) : Option StreamBuffer :=
  thread.bind fun buffer => (buffer.handle event).map Prod.snd

def streamEmit (thread : Option StreamBuffer) (event : StreamEvent) : List Played :=
  (thread.bind fun buffer => buffer.handle event).elim [] Prod.fst

/-! ## Handing out a window -/

def DecodedFrame.played (frame : DecodedFrame) : Played := frame.format.played frame.audio

/-- The calls for the values of a window, the first of them under a format. -/
def playedFrom (format : StreamFormat) : List (Int × Option DecodedFrame) → List Played
  | [] => []
  | (_, none) :: rest => format.played silence :: playedFrom format rest
  | (_, some frame) :: rest => frame.played :: playedFrom frame.format rest

theorem StreamBuffer.drain_some {buffer : StreamBuffer} {format : StreamFormat}
    {taken : Dequeued} (dequeued : buffer.dequeue format true = some taken) :
    buffer.drain format =
      (taken.format.played taken.audio :: (taken.buffer.drain taken.format).1,
        (taken.buffer.drain taken.format).2) := by
  rw [StreamBuffer.drain]
  split
  · next nothing => exact absurd (nothing.symm.trans dequeued) (by simp)
  · next found =>
      cases Option.some.inj (found.symm.trans dequeued)
      rfl

theorem StreamBuffer.drain_taken {buffer : StreamBuffer} {format : StreamFormat}
    {window : ReorderWindow DecodedFrame raopBufferLength} (follows : buffer.Follows window)
    (behind : window.next < window.stop) :
    buffer.drain format =
      ((buffer.takeFirst format).format.played (buffer.takeFirst format).audio ::
          ((buffer.takeFirst format).buffer.drain (buffer.takeFirst format).format).1,
        ((buffer.takeFirst format).buffer.drain (buffer.takeFirst format).format).2) := by
  have length := StreamBuffer.buflen_follows follows
  have started := follows.started
  apply StreamBuffer.drain_some
  rw [StreamBuffer.dequeue, if_neg, if_neg]
  · simp
  · rw [started, length]
    simp
    omega

theorem StreamBuffer.drain_done {buffer : StreamBuffer} {format : StreamFormat}
    (nothing : buffer.dequeue format true = none) : buffer.drain format = ([], buffer) := by
  rw [StreamBuffer.drain]
  split
  · rfl
  · next found => exact absurd (found.symm.trans nothing) (by simp)

/-- The loop hands out everything up to the newest number. -/
theorem StreamBuffer.drain_follows {buffer : StreamBuffer}
    {window : ReorderWindow DecodedFrame raopBufferLength} (format : StreamFormat)
    (follows : buffer.Follows window) :
    (buffer.drain format).1 = playedFrom format window.contents ∧
      (buffer.drain format).2.codec = buffer.codec ∧
      (buffer.drain format).2.Follows (ReorderWindow.empty raopBufferLength window.stop) := by
  generalize size : (window.stop - window.next).toNat = count
  induction count generalizing buffer window format with
  | zero =>
      have done : window.next = window.stop := le_antisymm window.ordered (by omega)
      have nothing : buffer.dequeue format true = none := by
        rw [StreamBuffer.dequeue, if_pos]
        right
        rw [StreamBuffer.buflen_follows follows]
        omega
      rw [StreamBuffer.drain_done nothing, ReorderWindow.contents_empty done]
      refine ⟨rfl, rfl, ?_⟩
      rw [← ReorderWindow.eq_empty done]
      exact follows
  | succ count inductionHypothesis =>
      have behind : window.next < window.stop := by omega
      obtain ⟨moved, handed⟩ := StreamBuffer.takeFirst_follows format follows behind
      have codec := (buffer.takeFirst_frame format).2.2.2
      obtain ⟨later, sameCodec, final⟩ :=
        inductionHypothesis (buffer.takeFirst format).format moved (by
          rw [ReorderWindow.advance_next, ReorderWindow.advance_stop]
          omega)
      rw [StreamBuffer.drain_taken follows behind, ReorderWindow.contents_advance window behind]
      refine ⟨?_, sameCodec.trans codec, final⟩
      dsimp only
      rw [later]
      cases present : window.held window.next with
      | none =>
          rw [present] at handed
          rw [handed.1, handed.2]
          rfl
      | some frame =>
          rw [present] at handed
          rw [handed.1, handed.2]
          rfl

theorem StreamBuffer.drain_waiting {buffer : StreamBuffer} (format : StreamFormat)
    (waiting : buffer.isEmpty = true) : buffer.drain format = ([], buffer) := by
  apply StreamBuffer.drain_done
  exact if_pos (Or.inl waiting)

theorem StreamBuffer.drain_represents {buffer : StreamBuffer}
    {window : Option (ReorderWindow DecodedFrame raopBufferLength)} (format : StreamFormat)
    (represents : buffer.Represents window) :
    (buffer.drain format).1 = playedFrom format (ReorderWindow.emit window .drain) ∧
      (buffer.drain format).2.codec = buffer.codec ∧
      (buffer.drain format).2.Represents
        (ReorderWindow.step raopBufferLength_pos window .drain) := by
  cases window with
  | none =>
      rw [StreamBuffer.drain_waiting format represents.1]
      exact ⟨rfl, rfl, represents⟩
  | some window => exact StreamBuffer.drain_follows format represents

/-! ## The rounds never crash -/

theorem exists_number (window : Option (ReorderWindow DecodedFrame raopBufferLength))
    (seqnum : UInt16) :
    ∃ number : Int, (seqnum.toNat : Int) = number % 2 ^ 16 ∧
      (∀ present, window = some present → present.next - 2 ^ 15 ≤ number) ∧
      ∀ present, window = some present → number < present.next + 2 ^ 15 := by
  have small := seqnum.toNat_lt
  cases window with
  | none =>
      refine ⟨seqnum.toNat, by omega, ?_, ?_⟩
      · intro present absent
        cases absent
      · intro present absent
        cases absent
  | some window =>
      refine ⟨window.next + Int.bmod (seqnum.toNat - window.next) (2 ^ 16), ?_, ?_, ?_⟩
      · rw [Int.bmod_def]
        omega
      · rintro present ⟨⟩
        rw [Int.bmod_def]
        omega
      · rintro present ⟨⟩
        rw [Int.bmod_def]
        omega

theorem StreamBuffer.queued_represents {buffer : StreamBuffer} {number : Int}
    {window : Option (ReorderWindow DecodedFrame raopBufferLength)} (answers : Answers)
    {data : Bytes} (represents : buffer.Represents window) (sequenced : Sequenced data)
    (written : ((sequenceNumber data).toNat : Int) = number % 2 ^ 16)
    (above : ∀ present, window = some present → present.next - 2 ^ 15 ≤ number)
    (below : ∀ present, window = some present → number < present.next + 2 ^ 15) :
    ∃ after, buffer.queued answers data = some after ∧ after.codec = buffer.codec ∧
      after.Represents (ReorderWindow.step raopBufferLength_pos window
        (.arrive number (buffer.codec.frame answers data))) := by
  obtain ⟨result, after, placed, accepted, codec, holds⟩ :=
    StreamBuffer.place_represents answers represents written sequenced.1 above below
  refine ⟨after, ?_, codec, holds⟩
  rw [StreamBuffer.queued, StreamBuffer.queue_eq, if_pos sequenced, placed]
  exact if_pos accepted

def Holds (window : Option (ReorderWindow DecodedFrame raopBufferLength)) (frame : DecodedFrame) :
    Prop :=
  ∃ present number, window = some present ∧ present.held number = some frame

def StreamCodec.Makes (codec : StreamCodec) (frame : DecodedFrame) : Prop :=
  ∃ answers data, codec.frame answers data = some frame

theorem holds_arrive {window : Option (ReorderWindow DecodedFrame raopBufferLength)}
    {number : Int} {value : Option DecodedFrame} {frame : DecodedFrame}
    (holds : Holds (ReorderWindow.step raopBufferLength_pos window (.arrive number value)) frame) :
    Holds window frame ∨ value = some frame := by
  obtain ⟨present, other, reached, held⟩ := holds
  cases window with
  | some window =>
      cases reached
      rcases ReorderWindow.arrive_held held with before | ⟨-, arrived⟩
      · exact Or.inl ⟨window, other, rfl, before⟩
      · exact Or.inr arrived
  | none =>
      cases value with
      | none => cases reached
      | some value =>
          cases reached
          rcases ReorderWindow.arrive_held held with before | ⟨-, arrived⟩
          · cases before
          · exact Or.inr arrived

theorem StreamBuffer.queued_sound {buffer : StreamBuffer}
    {window : Option (ReorderWindow DecodedFrame raopBufferLength)} (answers : Answers)
    (data : Bytes) (represents : buffer.Represents window) :
    ∃ after later, buffer.queued answers data = some after ∧ after.codec = buffer.codec ∧
      after.Represents later ∧
      ∀ frame, Holds later frame → Holds window frame ∨ buffer.codec.Makes frame := by
  by_cases sequenced : Sequenced data
  · obtain ⟨number, written, above, below⟩ := exists_number window (sequenceNumber data)
    obtain ⟨after, queued, codec, represented⟩ :=
      StreamBuffer.queued_represents answers represents sequenced written above below
    refine ⟨after, _, queued, codec, represented, fun frame holds => ?_⟩
    rcases holds_arrive holds with before | arrived
    · exact Or.inl before
    · exact Or.inr ⟨answers, data, arrived⟩
  · refine ⟨buffer, window, ?_, rfl, represents, fun _ holds => Or.inl holds⟩
    rw [StreamBuffer.queued, StreamBuffer.queue_eq, if_neg sequenced]
    rfl

/-- What an event leaves: a buffer that is a window again, with frames of its codec only; and
what it plays was in the window, or has just arrived. -/
structure Handled (buffer : StreamBuffer)
    (window : Option (ReorderWindow DecodedFrame raopBufferLength)) (played : List Played)
    (after : StreamBuffer) (later : Option (ReorderWindow DecodedFrame raopBufferLength))
    (taken : List (Int × Option DecodedFrame)) : Prop where
  represents : after.Represents later
  played : played = playedFrom noFormat taken
  held : ∀ frame, Holds later frame → Holds window frame ∨ buffer.codec.Makes frame
  taken : ∀ number frame, (number, some frame) ∈ taken →
    Holds window frame ∨ buffer.codec.Makes frame
  codec : after.codec = buffer.codec ∨
    later = none ∧ ∃ library ct frames rate channels,
      after.codec.decoders =
        (bufferConfigureAudio library buffer.codec.decoders ct frames rate channels).2

theorem StreamBuffer.configure_handled {buffer : StreamBuffer}
    {window : Option (ReorderWindow DecodedFrame raopBufferLength)} (library : Avcodec)
    (ct frames rate channels : UInt32) (represents : buffer.Represents window) :
    ∃ later, Handled buffer window [] (buffer.configureAudio library ct frames rate channels).2
      later [] := by
  have waits := @StreamBuffer.flush_waits buffer (-1) (Or.inl (by decide))
  have nothing : ∀ frame, ¬ Holds none frame := fun frame holds => by
    obtain ⟨present, number, absent, -⟩ := holds
    cases absent
  dsimp only [StreamBuffer.configureAudio]
  split
  · refine ⟨none, ⟨⟨waits.1, waits.2⟩, rfl, ?_, by simp, Or.inr ⟨rfl, ?_⟩⟩⟩
    · intro frame holds
      exact absurd holds (nothing frame)
    · exact ⟨library, ct, frames, rate, channels, rfl⟩
  · exact ⟨window, ⟨represents, rfl, fun _ holds => Or.inl holds, by simp, Or.inl rfl⟩⟩

theorem StreamBuffer.flush_handled {buffer : StreamBuffer}
    {window : Option (ReorderWindow DecodedFrame raopBufferLength)} (nextSeq : Int)
    (represents : buffer.Represents window) :
    ∃ later, Handled buffer window [] (buffer.flush nextSeq) later [] := by
  by_cases outside : nextSeq < 0 ∨ 0xffff < nextSeq
  · refine ⟨none, ⟨buffer.flush_waits outside, rfl, ?_, by simp,
      Or.inl (buffer.flush_codec nextSeq)⟩⟩
    rintro frame ⟨present, number, absent, -⟩
    cases absent
  · have wrapped : nextSeq % 2 ^ 16 = nextSeq := by omega
    have moved := @StreamBuffer.flush_moves buffer nextSeq window represents
    rw [wrapped] at moved
    refine ⟨_, ⟨moved, rfl, ?_, by simp, Or.inl (buffer.flush_codec nextSeq)⟩⟩
    rintro frame ⟨present, number, started, held⟩
    obtain ⟨_, -, rfl⟩ := Option.map_eq_some_iff.mp started
    cases held

theorem StreamBuffer.drain_handled {buffer after : StreamBuffer}
    {window later : Option (ReorderWindow DecodedFrame raopBufferLength)}
    (codec : after.codec = buffer.codec) (represents : after.Represents later)
    (source : ∀ frame, Holds later frame → Holds window frame ∨ buffer.codec.Makes frame) :
    Handled buffer window (after.drain noFormat).1 (after.drain noFormat).2
      (ReorderWindow.step raopBufferLength_pos later .drain) (ReorderWindow.emit later .drain) := by
  obtain ⟨played, sameCodec, drained⟩ := StreamBuffer.drain_represents noFormat represents
  refine ⟨drained, played, ?_, ?_, Or.inl (sameCodec.trans codec)⟩
  · rintro frame ⟨present, number, started, held⟩
    cases later with
    | none => cases started
    | some window =>
        cases started
        cases held
  · intro number frame member
    cases later with
    | none => exact absurd member List.not_mem_nil
    | some present =>
        have held := (ReorderWindow.mem_contents.mp member).2.2
        exact source frame ⟨present, number, rfl, held.symm⟩

/-- No event crashes the thread. -/
theorem StreamBuffer.handle_sound {buffer : StreamBuffer}
    {window : Option (ReorderWindow DecodedFrame raopBufferLength)} (event : StreamEvent)
    (represents : buffer.Represents window) :
    ∃ played after later taken, buffer.handle event = some (played, after) ∧
      Handled buffer window played after later taken := by
  have unchanged : Handled buffer window [] buffer window [] :=
    ⟨represents, rfl, fun _ holds => Or.inl holds, by simp, Or.inl rfl⟩
  cases event with
  | configure library ct frames rate channels =>
      obtain ⟨later, handled⟩ :=
        StreamBuffer.configure_handled library ct frames rate channels represents
      exact ⟨_, _, later, _, rfl, handled⟩
  | flush nextSeq =>
      obtain ⟨later, handled⟩ := StreamBuffer.flush_handled nextSeq represents
      exact ⟨_, _, later, _, rfl, handled⟩
  | control packet answers =>
      dsimp only [StreamBuffer.handle]
      generalize packet.take raopPacketLen = received
      by_cases short : received.length < 4
      · rw [if_pos short]
        exact ⟨_, _, _, _, rfl, unchanged⟩
      · have type : load received 1 = some received[1] := List.getElem?_eq_getElem (by omega)
        rw [if_neg short, type]
        dsimp only
        split
        · obtain ⟨after, later, queued, codec, holds, source⟩ :=
            StreamBuffer.queued_sound answers (received.drop 4) represents
          rw [queued]
          exact ⟨_, after, later, [], rfl, ⟨holds, rfl, source, by simp, Or.inl codec⟩⟩
        · exact ⟨_, _, _, _, rfl, unchanged⟩
  | data packet answers =>
      dsimp only [StreamBuffer.handle]
      generalize packet.take raopPacketLen = received
      split
      · exact ⟨_, _, _, _, rfl, unchanged⟩
      · obtain ⟨after, later, queued, codec, holds, source⟩ :=
          StreamBuffer.queued_sound answers received represents
        rw [queued]
        exact ⟨_, _, _, _, rfl, StreamBuffer.drain_handled codec holds source⟩

/-- The thread has not crashed, and its buffer is a window. -/
def Sound (thread : Option StreamBuffer) : Prop :=
  ∃ buffer window, thread = some buffer ∧ buffer.Represents window

theorem streamStep_sound (thread : Option StreamBuffer) (event : StreamEvent)
    (sound : Sound thread) : Sound (streamStep thread event) := by
  obtain ⟨buffer, window, rfl, represents⟩ := sound
  obtain ⟨played, after, later, taken, handled, effect⟩ :=
    StreamBuffer.handle_sound event represents
  refine ⟨after, later, ?_, effect.represents⟩
  rw [streamStep, Option.bind_some, handled]
  rfl

theorem bufferInit_sound {library : Avcodec} {allocated : Bool} {cbcDecrypt : Bytes → Bytes}
    {memory : Fin raopBufferLength → { cells : Bytes // cells.length = audioBufferSize }}
    {buffer : StreamBuffer} (made : bufferInit library allocated cbcDecrypt memory = some buffer) :
    Sound (some buffer) := by
  unfold bufferInit at made
  split at made
  · cases made
  · split at made
    · cases made
      exact ⟨_, none, rfl, rfl, fun _ => rfl⟩
    · cases made

/-! ## A stream over the network -/

/-- A packet that arrives: its number counts the packets of the sender, and its header has
the last 16 bits of that.  A packet that is sent again comes through the control socket,
behind a header of its own. -/
structure Delivery where
  number : Int
  data : Bytes
  answers : Answers
  again : Option { header : Bytes // header.length = 4 ∧ header.getD 1 0 &&& ~~~0x80 = 0x56 }
  sequenced : Sequenced data
  numbered : ((sequenceNumber data).toNat : Int) = number % 2 ^ 16
  short : again.isSome = true → data.length + 4 ≤ raopPacketLen

def Delivery.event (delivery : Delivery) : StreamEvent :=
  match delivery.again with
  | none => .data delivery.data delivery.answers
  | some header => .control (header ++ delivery.data) delivery.answers

/-- The frame that the packet is decoded to. -/
def Delivery.frame (codec : StreamCodec) (delivery : Delivery) : Option DecodedFrame :=
  codec.frame delivery.answers delivery.data

def Delivery.windowEvents (codec : StreamCodec) (delivery : Delivery) :
    List (ReorderWindow.Event DecodedFrame) :=
  .arrive delivery.number (delivery.frame codec) ::
    match delivery.again with
    | none => [.drain]
    | some _ => []

/-- Every number is less than a quarter of the field away from the newest one before it. -/
def Near (newest : Int) : List Int → Prop
  | [] => True
  | number :: rest =>
      newest - 2 ^ 14 < number ∧ number < newest + 2 ^ 14 ∧ Near (max newest number) rest

def Tracks (newest : Int) (window : Option (ReorderWindow DecodedFrame raopBufferLength)) : Prop :=
  ∀ present, window = some present → newest - 2 ^ 14 < present.next ∧ present.stop ≤ newest + 1

/-- Numbers near the newest one can be told apart by their fields. -/
theorem Tracks.distance {newest number : Int}
    {window : Option (ReorderWindow DecodedFrame raopBufferLength)}
    (tracks : Tracks newest window) (above : newest - 2 ^ 14 < number)
    (below : number < newest + 2 ^ 14) {present : ReorderWindow DecodedFrame raopBufferLength}
    (started : window = some present) :
    present.next - 2 ^ 15 ≤ number ∧ number < present.next + 2 ^ 15 := by
  have bound := tracks present started
  have ordered := present.ordered
  omega

theorem tracks_arrive {newest number : Int}
    {window : Option (ReorderWindow DecodedFrame raopBufferLength)} {value : Option DecodedFrame}
    (tracks : Tracks newest window) (above : newest - 2 ^ 14 < number) :
    Tracks (max newest number)
      (ReorderWindow.step raopBufferLength_pos window (.arrive number value)) := by
  cases window with
  | none =>
      cases value with
      | none =>
          intro present absent
          cases absent
      | some value =>
          rintro present ⟨⟩
          rw [ReorderWindow.arrive_empty]
          refine ⟨?_, ?_⟩
          · rw [ReorderWindow.insert_next]
            dsimp only [ReorderWindow.empty]
            omega
          · rw [ReorderWindow.insert_stop]
            dsimp only [ReorderWindow.empty]
            omega
  | some window =>
      have before := tracks window rfl
      have ordered := window.ordered
      have size : (raopBufferLength : Int) = 64 := rfl
      rintro present ⟨⟩
      refine ⟨?_, ?_⟩
      · rw [ReorderWindow.arrive_next]
        split
        · omega
        · omega
      · exact le_trans ReorderWindow.arrive_stop_le (by omega)

theorem tracks_drain {newest : Int}
    {window : Option (ReorderWindow DecodedFrame raopBufferLength)}
    (tracks : Tracks newest window) :
    Tracks newest (ReorderWindow.step raopBufferLength_pos window .drain) := by
  cases window with
  | none =>
      intro present absent
      cases absent
  | some window =>
      have before := tracks window rfl
      have ordered := window.ordered
      rintro present ⟨⟩
      dsimp only [ReorderWindow.empty]
      omega

/-- A delivery does to the buffer what it does to the window. -/
theorem Delivery.step_represents {buffer : StreamBuffer}
    {window : Option (ReorderWindow DecodedFrame raopBufferLength)} (delivery : Delivery)
    (represents : buffer.Represents window)
    (above : ∀ present, window = some present → present.next - 2 ^ 15 ≤ delivery.number)
    (below : ∀ present, window = some present → delivery.number < present.next + 2 ^ 15) :
    ∃ after, streamStep (some buffer) delivery.event = some after ∧
      after.codec = buffer.codec ∧
      after.Represents (Machine.run (ReorderWindow.step raopBufferLength_pos) window
        (delivery.windowEvents buffer.codec)) ∧
      streamEmit (some buffer) delivery.event =
        playedFrom noFormat (Machine.outputs (ReorderWindow.step raopBufferLength_pos)
          ReorderWindow.emit window (delivery.windowEvents buffer.codec)) := by
  obtain ⟨queuedBuffer, queued, codec, holds⟩ := StreamBuffer.queued_represents delivery.answers
    represents delivery.sequenced delivery.numbered above below
  have long := delivery.sequenced.1
  cases channel : delivery.again with
  | none =>
      have whole : delivery.data.take raopPacketLen = delivery.data :=
        List.take_of_length_le delivery.sequenced.2.1
      have handled : buffer.handle (.data delivery.data delivery.answers) =
          some (queuedBuffer.drain noFormat) := by
        dsimp only [StreamBuffer.handle]
        rw [whole, if_neg (by omega), queued]
        rfl
      obtain ⟨played, sameCodec, drained⟩ := StreamBuffer.drain_represents noFormat holds
      have event : delivery.event = .data delivery.data delivery.answers := by
        rw [Delivery.event, channel]
      have events : delivery.windowEvents buffer.codec =
          [.arrive delivery.number (delivery.frame buffer.codec), .drain] := by
        rw [Delivery.windowEvents, channel]
      rw [event, events]
      refine ⟨(queuedBuffer.drain noFormat).2, ?_, sameCodec.trans codec, drained, ?_⟩
      · rw [streamStep, Option.bind_some, handled]
        rfl
      · rw [streamEmit, Option.bind_some, handled]
        simp only [Machine.outputs, ReorderWindow.emit, List.nil_append, List.append_nil]
        exact played
  | some header =>
      obtain ⟨header, size, type⟩ := header
      have short := delivery.short (by rw [channel]; rfl)
      have whole : (header ++ delivery.data).take raopPacketLen = header ++ delivery.data := by
        apply List.take_of_length_le
        rw [List.length_append]
        omega
      have loaded : load (header ++ delivery.data) 1 = some (header.getD 1 0) := by
        rw [load, List.getElem?_append_left (by omega), List.getD_eq_getElem?_getD,
          List.getElem?_eq_getElem (by omega)]
        rfl
      have rest : (header ++ delivery.data).drop 4 = delivery.data := List.drop_left' size
      have handled : buffer.handle (.control (header ++ delivery.data) delivery.answers) =
          some ([], queuedBuffer) := by
        dsimp only [StreamBuffer.handle]
        rw [whole, if_neg (by rw [List.length_append]; omega), loaded]
        dsimp only
        rw [if_pos type, rest, queued]
        rfl
      have event : delivery.event = .control (header ++ delivery.data) delivery.answers := by
        rw [Delivery.event, channel]
      have events : delivery.windowEvents buffer.codec =
          [.arrive delivery.number (delivery.frame buffer.codec)] := by
        rw [Delivery.windowEvents, channel]
      rw [event, events]
      refine ⟨queuedBuffer, ?_, codec, holds, ?_⟩
      · rw [streamStep, Option.bind_some, handled]
        rfl
      · rw [streamEmit, Option.bind_some, handled]
        rfl

/-- What is handed out under a number of the sender. -/
def Shown (taken : Int × Option DecodedFrame) (played : Played) : Prop :=
  match taken.2 with
  | none => ∃ format : StreamFormat, played = format.played silence
  | some frame => played = frame.played

theorem shown_playedFrom (format : StreamFormat) (taken : List (Int × Option DecodedFrame)) :
    List.Forall₂ Shown taken (playedFrom format taken) := by
  induction taken generalizing format with
  | nil => exact List.Forall₂.nil
  | cons first rest inductionHypothesis =>
      obtain ⟨number, value⟩ := first
      cases value with
      | none => exact List.Forall₂.cons ⟨format, rfl⟩ (inductionHypothesis format)
      | some frame => exact List.Forall₂.cons rfl (inductionHypothesis frame.format)

/-- What a stream does to the buffer, it does to the window. -/
theorem deliveries_represent {buffer : StreamBuffer}
    {window : Option (ReorderWindow DecodedFrame raopBufferLength)} {newest : Int}
    {deliveries : List Delivery} (represents : buffer.Represents window)
    (tracks : Tracks newest window) (near : Near newest (deliveries.map Delivery.number)) :
    ∃ after, Machine.run streamStep (some buffer) (deliveries.map Delivery.event) = some after ∧
      after.codec = buffer.codec ∧
      after.Represents (Machine.run (ReorderWindow.step raopBufferLength_pos) window
        (deliveries.flatMap (Delivery.windowEvents buffer.codec))) ∧
      Tracks ((deliveries.map Delivery.number).foldl max newest)
        (Machine.run (ReorderWindow.step raopBufferLength_pos) window
          (deliveries.flatMap (Delivery.windowEvents buffer.codec))) ∧
      List.Forall₂ Shown
        (Machine.outputs (ReorderWindow.step raopBufferLength_pos) ReorderWindow.emit window
          (deliveries.flatMap (Delivery.windowEvents buffer.codec)))
        (Machine.outputs streamStep streamEmit (some buffer)
          (deliveries.map Delivery.event)) := by
  induction deliveries generalizing buffer window newest with
  | nil => exact ⟨buffer, rfl, rfl, represents, tracks, List.Forall₂.nil⟩
  | cons delivery rest inductionHypothesis =>
      obtain ⟨above, below, later⟩ := near
      obtain ⟨next, stepped, codec, holds, played⟩ := delivery.step_represents represents
        (fun present started => (tracks.distance above below started).1)
        (fun present started => (tracks.distance above below started).2)
      have tracked : Tracks (max newest delivery.number)
          (Machine.run (ReorderWindow.step raopBufferLength_pos) window
            (delivery.windowEvents buffer.codec)) := by
        have arrived : Tracks (max newest delivery.number)
            (ReorderWindow.step raopBufferLength_pos window
              (.arrive delivery.number (delivery.frame buffer.codec))) :=
          tracks_arrive tracks above
        rw [Delivery.windowEvents, Machine.run_cons]
        split
        · exact tracks_drain arrived
        · exact arrived
      obtain ⟨after, run, sameCodec, final, trackedLater, shown⟩ :=
        inductionHypothesis holds tracked later
      rw [codec] at final trackedLater shown
      refine ⟨after, ?_, sameCodec.trans codec, ?_, ?_, ?_⟩
      · rw [List.map_cons, Machine.run_cons, stepped]
        exact run
      · rw [List.flatMap_cons, Machine.run_append]
        exact final
      · rw [List.flatMap_cons, Machine.run_append]
        exact trackedLater
      · rw [List.flatMap_cons, Machine.outputs_append, List.map_cons, Machine.outputs, stepped,
          played]
        apply List.rel_append
        · apply shown_playedFrom
        · exact shown

/-- Where nothing is held, the stream may go on with any number that has the right field. -/
theorem StreamBuffer.vacant_represents {buffer : StreamBuffer}
    {window : Option (ReorderWindow DecodedFrame raopBufferLength)} {origin : Int}
    (represents : buffer.Represents window) (vacant : buffer.Vacant)
    (due : buffer.isEmpty = false → (buffer.firstSeqnum.toNat : Int) = origin % 2 ^ 16) :
    buffer.Represents
      (if buffer.isEmpty then none else some (ReorderWindow.empty raopBufferLength origin)) := by
  cases window with
  | none =>
      rw [if_pos represents.1]
      exact represents
  | some window =>
      have follows : buffer.Follows window := represents
      have started := follows.started
      have first := due started
      have same := follows.first
      have done : window.next = window.stop := by
        by_contra other
        have ordered := window.ordered
        have behind : window.next < window.stop := lt_of_le_of_ne ordered other
        obtain ⟨frame, newest⟩ := Option.isSome_iff_exists.mp (window.newest behind)
        have short := window.short
        have shown := follows.entries (window.stop - 1) (by omega) (by omega)
        rw [newest] at shown
        exact absurd (vacant _) (by rw [shown.1]; decide)
      have last := follows.last
      rw [started, if_neg (by decide)]
      refine ⟨started, first, ?_, fun number _ _ => vacant _⟩
      rw [last, ← done]
      dsimp only [ReorderWindow.empty]
      omega

theorem tracks_start (buffer : StreamBuffer) (origin : Int) :
    Tracks origin
      (if buffer.isEmpty then none else some (ReorderWindow.empty raopBufferLength origin)) := by
  intro present same
  split at same
  · cases same
  · cases same
    dsimp only [ReorderWindow.empty]
    omega

theorem near_append {newest : Int} {front rest : List Int} (near : Near newest (front ++ rest)) :
    Near newest front := by
  induction front generalizing newest with
  | nil => trivial
  | cons number later inductionHypothesis =>
      exact ⟨near.1, near.2.1, inductionHypothesis near.2.2⟩

theorem arrive_mem {codec : StreamCodec} {deliveries : List Delivery} {number : Int}
    {frame : DecodedFrame}
    (arrived : ReorderWindow.Event.arrive number (some frame) ∈
      deliveries.flatMap (Delivery.windowEvents codec)) :
    ∃ delivery ∈ deliveries, delivery.number = number ∧ delivery.frame codec = some frame := by
  obtain ⟨delivery, member, event⟩ := List.mem_flatMap.mp arrived
  refine ⟨delivery, member, ?_⟩
  rw [Delivery.windowEvents, List.mem_cons] at event
  rcases event with same | drained
  · injection same with sameNumber sameFrame
    exact ⟨sameNumber.symm, sameFrame.symm⟩
  · split at drained
    · simp at drained
    · simp at drained

theorem reached_sound {library : Avcodec} {allocated : Bool} {cbcDecrypt : Bytes → Bytes}
    {memory : Fin raopBufferLength → { cells : Bytes // cells.length = audioBufferSize }}
    {initial : StreamBuffer}
    (made : bufferInit library allocated cbcDecrypt memory = some initial)
    (events : List StreamEvent) : Sound (Machine.run streamStep (some initial) events) :=
  Machine.run_invariant streamStep_sound (bufferInit_sound made) events

/-- From any state in which the buffer holds nothing, however the network reorders, repeats
and loses the packets of a sender: numbers are played in increasing order, each at most once,
either as the frame of a packet with this number or as silence; and there is no silence
for a packet that has arrived and can be decoded. -/
theorem frames_in_order {library : Avcodec} {allocated : Bool} {cbcDecrypt : Bytes → Bytes}
    {memory : Fin raopBufferLength → { cells : Bytes // cells.length = audioBufferSize }}
    {initial buffer : StreamBuffer} {before : List StreamEvent} {deliveries : List Delivery}
    {origin : Int} (made : bufferInit library allocated cbcDecrypt memory = some initial)
    (reached : Machine.run streamStep (some initial) before = some buffer)
    (vacant : buffer.Vacant)
    (due : buffer.isEmpty = false → (buffer.firstSeqnum.toNat : Int) = origin % 2 ^ 16)
    (near : Near origin (deliveries.map Delivery.number)) :
    ∃ taken : List (Int × Option DecodedFrame),
      List.Forall₂ Shown taken
        (Machine.outputs streamStep streamEmit (some buffer) (deliveries.map Delivery.event)) ∧
      (taken.map Prod.fst).Pairwise (· < ·) ∧
      (∀ number frame, (number, some frame) ∈ taken →
        ∃ delivery ∈ deliveries, delivery.number = number ∧
          delivery.frame buffer.codec = some frame) ∧
      ∀ front rest, deliveries = front ++ rest → ∀ delivery ∈ front,
        (delivery.frame buffer.codec).isSome →
          (delivery.number, none) ∉ taken.drop
            (Machine.outputs streamStep streamEmit (some buffer)
              (front.map Delivery.event)).length := by
  obtain ⟨state, window, same, represents⟩ := reached_sound made before
  cases Option.some.inj (reached.symm.trans same)
  have start := StreamBuffer.vacant_represents represents vacant due
  have tracks := tracks_start buffer origin
  have bare : ∀ present : ReorderWindow DecodedFrame raopBufferLength,
      (if buffer.isEmpty then none else some (ReorderWindow.empty raopBufferLength origin)) =
        some present → ∀ number, present.held number = none := by
    intro present same number
    split at same
    · cases same
    · cases same
      rfl
  generalize (if buffer.isEmpty then none
    else some (ReorderWindow.empty raopBufferLength origin)) = first at start tracks bare
  obtain ⟨-, -, -, -, -, shown⟩ := deliveries_represent start tracks near
  refine ⟨_, shown, (ReorderWindow.outputs_ordered raopBufferLength_pos first _).1, ?_, ?_⟩
  · intro number frame member
    rcases ReorderWindow.outputs_source raopBufferLength_pos member with
      ⟨present, started, held⟩ | arrived
    · rw [bare present started number] at held
      cases held
    · exact arrive_mem arrived
  · rintro front rest rfl delivery member decoded
    rw [List.map_append] at near
    obtain ⟨-, -, -, -, -, shownFront⟩ := deliveries_represent start tracks (near_append near)
    rw [← shownFront.length_eq, List.flatMap_append, Machine.outputs_append, List.drop_left]
    obtain ⟨frame, read⟩ := Option.isSome_iff_exists.mp decoded
    have arrived : ReorderWindow.Event.arrive delivery.number (some frame) ∈
        front.flatMap (Delivery.windowEvents buffer.codec) := by
      rw [← read]
      exact List.mem_flatMap.mpr ⟨delivery, member, List.mem_cons_self⟩
    apply ReorderWindow.outputs_settled
    exact ReorderWindow.settled_run raopBufferLength_pos arrived first

end AirTizen.Audio

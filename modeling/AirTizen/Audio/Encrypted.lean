import AirTizen.Audio.Gaps
import AirTizen.Crypto.Rounds

/-!
# The encrypted audio stream

What is played depends only on the headers of the packets and on what their payloads are
decrypted to.  A sender encrypts the whole blocks of every payload on their own and leaves the
rest as it is, so that in whatever order packets arrive, are repeated or are lost, and
whatever the control threads do in between, the receiver with the key plays what a receiver
without any encryption plays of the packets in the clear.
-/

namespace AirTizen.Audio

open CText Buffer

/-! ## The key of a buffer -/

def StreamBuffer.keyed (buffer : StreamBuffer) (decrypt : Bytes → Bytes) : StreamBuffer :=
  { buffer with codec := { buffer.codec with cbcDecrypt := decrypt } }

theorem StreamBuffer.flush_keyed (buffer : StreamBuffer) (decrypt : Bytes → Bytes)
    (nextSeq : Int) :
    (buffer.keyed decrypt).flush nextSeq = (buffer.flush nextSeq).keyed decrypt := by
  dsimp only [StreamBuffer.flush]
  split
  · rfl
  · rfl

theorem StreamBuffer.configureAudio_keyed (library : Avcodec) (buffer : StreamBuffer)
    (decrypt : Bytes → Bytes) (ct frames rate channels : UInt32) :
    ((buffer.keyed decrypt).configureAudio library ct frames rate channels).2 =
      (buffer.configureAudio library ct frames rate channels).2.keyed decrypt := by
  have decoders : (buffer.keyed decrypt).codec.decoders = buffer.codec.decoders := rfl
  dsimp only [StreamBuffer.configureAudio]
  rw [StreamBuffer.flush_keyed, decoders]
  split
  · rfl
  · rfl

theorem StreamBuffer.extend_keyed (buffer : StreamBuffer) (decrypt : Bytes → Bytes)
    (seqnum : UInt16) :
    (buffer.keyed decrypt).extend seqnum = (buffer.extend seqnum).keyed decrypt := by
  have empty : (buffer.keyed decrypt).isEmpty = buffer.isEmpty := rfl
  dsimp only [StreamBuffer.extend]
  rw [empty]
  cases buffer.isEmpty with
  | true =>
      simp only [if_true]
      split
      · rfl
      · rfl
  | false =>
      have last : (buffer.keyed decrypt).lastSeqnum = buffer.lastSeqnum := rfl
      simp only [Bool.false_eq_true, if_false, last]
      split
      · rfl
      · rfl

theorem StreamBuffer.takeFirst_keyed (buffer : StreamBuffer) (decrypt : Bytes → Bytes)
    (format : StreamFormat) :
    (buffer.keyed decrypt).takeFirst format =
      { buffer.takeFirst format with
        buffer := (buffer.takeFirst format).buffer.keyed decrypt } := by
  have entry : (buffer.keyed decrypt).entries (entryIndex (buffer.keyed decrypt).firstSeqnum) =
      buffer.entries (entryIndex buffer.firstSeqnum) := rfl
  dsimp only [StreamBuffer.takeFirst]
  rw [entry]
  split
  · rfl
  · rfl

theorem StreamBuffer.dequeue_keyed (buffer : StreamBuffer) (decrypt : Bytes → Bytes)
    (format : StreamFormat) (noResend : Bool) :
    (buffer.keyed decrypt).dequeue format noResend =
      (buffer.dequeue format noResend).map fun taken =>
        { taken with buffer := taken.buffer.keyed decrypt } := by
  have empty : (buffer.keyed decrypt).isEmpty = buffer.isEmpty := rfl
  have buflen : (buffer.keyed decrypt).buflen = buffer.buflen := rfl
  have entry : (buffer.keyed decrypt).entries (entryIndex (buffer.keyed decrypt).firstSeqnum) =
      buffer.entries (entryIndex buffer.firstSeqnum) := rfl
  unfold StreamBuffer.dequeue
  rw [empty, buflen, entry, StreamBuffer.takeFirst_keyed]
  split
  · rfl
  · split
    · rfl
    · rfl

theorem StreamBuffer.drain_keyed (buffer : StreamBuffer) (decrypt : Bytes → Bytes)
    (format : StreamFormat) :
    (buffer.keyed decrypt).drain format =
      ((buffer.drain format).1, (buffer.drain format).2.keyed decrypt) := by
  generalize size : buffer.buflen.toNat = count
  induction count using Nat.strong_induction_on generalizing buffer format with
  | _ count inductionHypothesis =>
      have dequeue := buffer.dequeue_keyed decrypt format true
      cases found : buffer.dequeue format true with
      | none =>
          rw [found] at dequeue
          rw [StreamBuffer.drain_done found, StreamBuffer.drain_done dequeue]
      | some taken =>
          rw [found] at dequeue
          have fewer := StreamBuffer.dequeue_buflen found
          rw [size] at fewer
          have later := inductionHypothesis _ fewer taken.buffer taken.format rfl
          rw [StreamBuffer.drain_some found, StreamBuffer.drain_some dequeue]
          dsimp only
          rw [later]

/-! ## Packets that are opened alike -/

theorem load_of_take {first second : Bytes} {count index : Nat}
    (front : first.take count = second.take count) (inside : index < count) :
    load first index = load second index := by
  rw [load, load, ← List.getElem?_take_of_lt inside, front, List.getElem?_take_of_lt inside]

theorem take_replaced {data rest : Bytes} {count : Nat}
    (same : rest.length = (data.drop count).length) :
    (data.take count ++ rest).take count = data.take count ∧
      (data.take count ++ rest).drop count = rest := by
  rcases Nat.le_total count data.length with long | short
  · have size : (data.take count).length = count := List.length_take_of_le long
    exact ⟨List.take_left' size, List.drop_left' size⟩
  · have nothing : rest = [] := List.eq_nil_of_length_eq_zero (by
      rw [same, List.length_drop]
      exact Nat.sub_eq_zero_of_le short)
    rw [nothing, List.append_nil, List.take_take, Nat.min_self]
    exact ⟨rfl, List.drop_of_length_le (List.length_take_le _ _)⟩

/-- The first packet opens under the first key as the second one under the second key. -/
structure OpensAlike (first second : Bytes → Bytes) (sent clear : Bytes) : Prop where
  length : sent.length = clear.length
  header : sent.take 12 = clear.take 12
  marker : sent.length = 16 → sent.drop 12 = clear.drop 12
  payload : ∀ decoders, StreamCodec.decrypted ⟨decoders, first⟩ (sent.drop 12) =
    StreamCodec.decrypted ⟨decoders, second⟩ (clear.drop 12)

theorem OpensAlike.refl (decrypt : Bytes → Bytes) (data : Bytes) :
    OpensAlike decrypt decrypt data data :=
  ⟨rfl, rfl, fun _ => rfl, fun _ => rfl⟩

section Alike

variable {first second : Bytes → Bytes} {sent clear : Bytes}

theorem OpensAlike.slice (alike : OpensAlike first second sent clear) {index width : Nat}
    (inside : index + width ≤ 12) :
    (sent.drop index).take width = (clear.drop index).take width := by
  have front (data : Bytes) : (data.drop index).take width =
      ((data.take 12).drop index).take width := by
    rw [List.drop_take, List.take_take, Nat.min_eq_left (by omega)]
  rw [front sent, alike.header, ← front clear]

theorem OpensAlike.field (alike : OpensAlike first second sent clear) {index width : Nat}
    (inside : index + width ≤ 12) : field sent index width = field clear index width := by
  rw [Audio.field, Audio.field, loadMany, loadMany, alike.length, alike.slice inside]

theorem OpensAlike.sequenced (alike : OpensAlike first second sent clear) :
    Sequenced sent ↔ Sequenced clear := by
  have payload : sent.length = 16 → (sent.drop 12 = Audio.marker ↔ clear.drop 12 = Audio.marker) :=
    fun size => by rw [alike.marker size]
  have length := alike.length
  unfold Sequenced
  rw [← length]
  constructor
  · rintro ⟨long, short, other⟩
    exact ⟨long, short, fun both => other ⟨both.1, (payload both.1).mpr both.2⟩⟩
  · rintro ⟨long, short, other⟩
    exact ⟨long, short, fun both => other ⟨both.1, (payload both.1).mp both.2⟩⟩

/-- What is put into the entry of a packet comes from its header and its opened payload. -/
theorem StreamBuffer.enter_alike (buffer : StreamBuffer) (answers : Answers) (seqnum : UInt16)
    (alike : OpensAlike first second sent clear) (long : 12 < clear.length) :
    (buffer.keyed first).enter answers sent seqnum =
      ((buffer.keyed second).enter answers clear seqnum).map
        fun (result, buffer) => (result, buffer.keyed first) := by
  have flags : load clear 0 = some clear[0] := List.getElem?_eq_getElem (by omega)
  have type : load clear 1 = some clear[1] := List.getElem?_eq_getElem (by omega)
  have timestamp := @field_eq clear 4 4 (by omega)
  have ssrc := @field_eq clear 8 4 (by omega)
  have payload := payload_eq long
  have sentFlags := (load_of_take alike.header (by decide)).trans flags
  have sentType := (load_of_take alike.header (by decide)).trans type
  have sentTimestamp := (alike.field (by decide)).trans timestamp
  have sentSsrc := (alike.field (by decide)).trans ssrc
  have sentPayload := @payload_eq sent (alike.length ▸ long)
  have opened : (buffer.keyed first).codec.decrypted (sent.drop 12) =
      (buffer.keyed second).codec.decrypted (clear.drop 12) := alike.payload _
  have fill : (buffer.keyed first).codec.fill = (buffer.keyed second).codec.fill := rfl
  have entries : (buffer.keyed first).entries = (buffer.keyed second).entries := rfl
  unfold StreamBuffer.enter
  simp only [flags, type, timestamp, ssrc, payload, sentFlags, sentType, sentTimestamp, sentSsrc,
    sentPayload, Option.bind_eq_bind, Option.bind_some, opened, fill, entries]
  by_cases allocated : answers.malloc = false
  · rw [if_pos allocated, if_pos allocated]
    rfl
  · rw [if_neg allocated, if_neg allocated]
    cases (buffer.keyed second).codec.fill answers
        ((buffer.keyed second).codec.decrypted (clear.drop 12))
        { (buffer.keyed second).entries (entryIndex seqnum) with
          flags := clear[0]
          type := clear[1]
          seqnum := seqnum
          timestamp := UInt32.ofNat (Octets.toNat ((clear.drop 4).take 4))
          ssrc := UInt32.ofNat (Octets.toNat ((clear.drop 8).take 4))
          available := true } with
    | none => rfl
    | some filled =>
        dsimp only [Option.bind_some]
        by_cases nothing : filled.audioBufferLen = 0
        · rw [if_pos nothing, if_pos nothing]
          rfl
        · rw [if_neg nothing, if_neg nothing]
          exact congrArg (fun extended => some ((1 : Int), extended))
            (StreamBuffer.extend_keyed ((buffer.keyed second).setEntry seqnum filled) first seqnum)

theorem StreamBuffer.place_alike (buffer : StreamBuffer) (answers : Answers) (seqnum : UInt16)
    (alike : OpensAlike first second sent clear) (long : 12 < clear.length) :
    (buffer.keyed first).place answers sent seqnum =
      ((buffer.keyed second).place answers clear seqnum).map
        fun (result, buffer) => (result, buffer.keyed first) := by
  have room (decrypt : Bytes → Bytes) :
      (if seqnumCmp seqnum ((buffer.keyed decrypt).firstSeqnum + UInt16.ofNat raopBufferLength) ≥ 0
        then (buffer.keyed decrypt).flush seqnum.toNat else buffer.keyed decrypt) =
      (if seqnumCmp seqnum (buffer.firstSeqnum + UInt16.ofNat raopBufferLength) ≥ 0
        then buffer.flush seqnum.toNat else buffer).keyed decrypt := by
    rw [StreamBuffer.flush_keyed]
    exact (apply_ite (fun buffer => StreamBuffer.keyed buffer decrypt) _ _ _).symm
  unfold StreamBuffer.place
  by_cases late : buffer.isEmpty = false ∧ seqnumCmp seqnum buffer.firstSeqnum < 0
  · have behind (decrypt : Bytes → Bytes) : (buffer.keyed decrypt).isEmpty = false ∧
        seqnumCmp seqnum (buffer.keyed decrypt).firstSeqnum < 0 := late
    rw [if_pos (behind first), if_pos (behind second)]
    rfl
  · have due (decrypt : Bytes → Bytes) : ¬ ((buffer.keyed decrypt).isEmpty = false ∧
        seqnumCmp seqnum (buffer.keyed decrypt).firstSeqnum < 0) := late
    rw [if_neg (due first), if_neg (due second)]
    dsimp only
    rw [room, room]
    generalize (if seqnumCmp seqnum (buffer.firstSeqnum + UInt16.ofNat raopBufferLength) ≥ 0
        then buffer.flush seqnum.toNat else buffer) = roomy
    have entries (decrypt : Bytes → Bytes) : (roomy.keyed decrypt).entries = roomy.entries := rfl
    rw [entries, entries]
    split
    · rfl
    · exact roomy.enter_alike answers seqnum alike long

theorem StreamBuffer.queue_alike (buffer : StreamBuffer) (answers : Answers)
    (alike : OpensAlike first second sent clear) :
    (buffer.keyed first).queue answers sent =
      ((buffer.keyed second).queue answers clear).map
        fun (result, buffer) => (result, buffer.keyed first) := by
  rw [StreamBuffer.queue_eq, StreamBuffer.queue_eq]
  by_cases sequenced : Sequenced clear
  · have number : sequenceNumber sent = sequenceNumber clear := by
      rw [sequenceNumber, sequenceNumber, alike.slice (by decide)]
    rw [if_pos sequenced, if_pos (alike.sequenced.mpr sequenced), number]
    exact buffer.place_alike answers _ alike sequenced.1
  · rw [if_neg sequenced, if_neg fun other => sequenced (alike.sequenced.mp other)]
    rfl

theorem StreamBuffer.queued_alike (buffer : StreamBuffer) (answers : Answers)
    (alike : OpensAlike first second sent clear) :
    (buffer.keyed first).queued answers sent =
      ((buffer.keyed second).queued answers clear).map fun buffer => buffer.keyed first := by
  unfold StreamBuffer.queued
  rw [buffer.queue_alike answers alike]
  cases (buffer.keyed second).queue answers clear with
  | none => rfl
  | some queued =>
      obtain ⟨result, after⟩ := queued
      dsimp only [Option.map_some]
      split
      · rfl
      · rfl

end Alike

/-! ## Streams that are opened alike -/

/-- Events whose packets are opened alike, as far as `packet` has room for them. -/
inductive StreamEvent.Alike (first second : Bytes → Bytes) : StreamEvent → StreamEvent → Prop
  | configure (library : Avcodec) (ct frames rate channels : UInt32) :
      Alike first second (.configure library ct frames rate channels)
        (.configure library ct frames rate channels)
  | flush (nextSeq : Int) : Alike first second (.flush nextSeq) (.flush nextSeq)
  | control {sent clear : Bytes} (answers : Answers)
      (length : (sent.take raopPacketLen).length = (clear.take raopPacketLen).length)
      (type : load (sent.take raopPacketLen) 1 = load (clear.take raopPacketLen) 1)
      (opens : ∀ type, load (clear.take raopPacketLen) 1 = some type → type &&& ~~~0x80 = 0x56 →
        OpensAlike first second ((sent.take raopPacketLen).drop 4)
          ((clear.take raopPacketLen).drop 4)) :
      Alike first second (.control sent answers) (.control clear answers)
  | data {sent clear : Bytes} (answers : Answers)
      (opens : OpensAlike first second (sent.take raopPacketLen) (clear.take raopPacketLen)) :
      Alike first second (.data sent answers) (.data clear answers)

theorem StreamEvent.Alike.refl (decrypt : Bytes → Bytes) (event : StreamEvent) :
    Alike decrypt decrypt event event := by
  cases event with
  | configure library ct frames rate channels => exact .configure library ct frames rate channels
  | flush nextSeq => exact .flush nextSeq
  | control packet answers => exact .control answers rfl rfl fun _ _ _ => OpensAlike.refl _ _
  | data packet answers => exact .data answers (OpensAlike.refl _ _)

/-- Events that are alike have the same effect on buffers that differ in the key. -/
theorem StreamBuffer.handle_alike (buffer : StreamBuffer) {first second : Bytes → Bytes}
    {sent clear : StreamEvent} (alike : StreamEvent.Alike first second sent clear) :
    (buffer.keyed first).handle sent =
      ((buffer.keyed second).handle clear).map
        fun (played, buffer) => (played, buffer.keyed first) := by
  cases alike with
  | configure library ct frames rate channels =>
      dsimp only [StreamBuffer.handle, Option.map_some]
      rw [StreamBuffer.configureAudio_keyed, StreamBuffer.configureAudio_keyed]
      rfl
  | flush nextSeq =>
      dsimp only [StreamBuffer.handle, Option.map_some]
      rw [StreamBuffer.flush_keyed, StreamBuffer.flush_keyed]
      rfl
  | @control sent clear answers length type opens =>
      dsimp only [StreamBuffer.handle]
      rw [length, type]
      by_cases short : (clear.take raopPacketLen).length < 4
      · rw [if_pos short, if_pos short]
        rfl
      · rw [if_neg short, if_neg short]
        cases found : load (clear.take raopPacketLen) 1 with
        | none => rfl
        | some type =>
            dsimp only
            by_cases resent : type &&& ~~~0x80 = 0x56
            · rw [if_pos resent, if_pos resent,
                buffer.queued_alike answers (opens type found resent)]
              cases (buffer.keyed second).queued answers ((clear.take raopPacketLen).drop 4) with
              | none => rfl
              | some after => rfl
            · rw [if_neg resent, if_neg resent]
              rfl
  | @data sent clear answers opens =>
      dsimp only [StreamBuffer.handle]
      rw [opens.length, buffer.queued_alike answers opens]
      by_cases short : (clear.take raopPacketLen).length < 12
      · rw [if_pos short, if_pos short]
        rfl
      · rw [if_neg short, if_neg short]
        cases (buffer.keyed second).queued answers (clear.take raopPacketLen) with
        | none => rfl
        | some after =>
            dsimp only [Option.map_some]
            rw [StreamBuffer.drain_keyed]

/-- Streams that are alike are played alike. -/
theorem outputs_alike {first second : Bytes → Bytes} {sent clear : List StreamEvent}
    (alike : List.Forall₂ (StreamEvent.Alike first second) sent clear)
    (thread : Option StreamBuffer) :
    Machine.outputs streamStep streamEmit (thread.map fun buffer => buffer.keyed first) sent =
      Machine.outputs streamStep streamEmit (thread.map fun buffer => buffer.keyed second)
        clear := by
  induction alike generalizing thread with
  | nil => rfl
  | @cons sentEvent clearEvent _ _ event _ inductionHypothesis =>
      cases thread with
      | none => exact inductionHypothesis none
      | some buffer =>
          have handled := buffer.handle_alike event
          have own := buffer.handle_alike (StreamEvent.Alike.refl second clearEvent)
          simp only [Machine.outputs, Option.map_some, streamStep, streamEmit, Option.bind_some]
          rw [handled]
          cases found : (buffer.keyed second).handle clearEvent with
          | none => exact inductionHypothesis none
          | some result =>
              obtain ⟨played, after⟩ := result
              rw [found] at own
              have key : after = after.keyed second :=
                congrArg Prod.snd (Option.some.inj own)
              have later := inductionHypothesis (some after)
              dsimp only [Option.map_some] at later
              rw [← key] at later
              exact congrArg (played ++ ·) later

/-! ## What the sender encrypts -/

/-- The blocks that `raop_buffer_queue` decrypts, with the key of its stream. -/
def audioDecrypt (aeskey aesiv : Bytes) (encrypted : Bytes) : Bytes :=
  ((Crypto.Aes.setKey aeskey aesiv .mode128).convertKey.cbcDecrypt encrypted).1

section Sender

variable (aeskey aesiv : Bytes)

def encryptedPayload (payload : Bytes) : Bytes :=
  ((Crypto.Aes.setKey aeskey aesiv .mode128).cbcEncrypt
      (payload.take (payload.length / 16 * 16))).1 ++
    payload.drop (payload.length / 16 * 16)

def encryptedPacket (data : Bytes) : Bytes :=
  data.take 12 ++ encryptedPayload aeskey aesiv (data.drop 12)

/-- The event with the packet as the sender encrypts it; one that is sent again stands behind
four more bytes. -/
def StreamEvent.encrypted : StreamEvent → StreamEvent
  | .control packet answers =>
      .control
        (if packet.getD 1 0 &&& ~~~0x80 = 0x56 then
          packet.take 4 ++ encryptedPacket aeskey aesiv (packet.drop 4)
        else packet)
        answers
  | .data packet answers => .data (encryptedPacket aeskey aesiv packet) answers
  | event => event

theorem length_whole (payload : Bytes) :
    (payload.take (payload.length / 16 * 16)).length = payload.length / 16 * 16 :=
  List.length_take_of_le (Nat.div_mul_le_self _ _)

theorem length_encryptedBlocks (payload : Bytes) :
    ((Crypto.Aes.setKey aeskey aesiv .mode128).cbcEncrypt
      (payload.take (payload.length / 16 * 16))).1.length = payload.length / 16 * 16 := by
  rw [Crypto.Aes.Ctx.length_cbcEncrypt, length_whole, Nat.mul_div_cancel _ (by decide)]

@[simp]
theorem length_encryptedPayload (payload : Bytes) :
    (encryptedPayload aeskey aesiv payload).length = payload.length := by
  rw [encryptedPayload, List.length_append, length_encryptedBlocks, List.length_drop]
  exact Nat.add_sub_of_le (Nat.div_mul_le_self _ _)

@[simp]
theorem length_encryptedPacket (data : Bytes) :
    (encryptedPacket aeskey aesiv data).length = data.length := by
  rw [encryptedPacket, List.length_append, length_encryptedPayload, ← List.length_append,
    List.take_append_drop]

theorem encryptedPayload_short {payload : Bytes} (short : payload.length < 16) :
    encryptedPayload aeskey aesiv payload = payload := by
  have none : payload.length / 16 * 16 = 0 := by
    rw [Nat.div_eq_of_lt short]
  have blocks := length_encryptedBlocks aeskey aesiv payload
  rw [none] at blocks
  rw [encryptedPayload, none, List.eq_nil_of_length_eq_zero blocks]
  rfl

theorem take_encryptedPacket (data : Bytes) :
    (encryptedPacket aeskey aesiv data).take 12 = data.take 12 ∧
      (encryptedPacket aeskey aesiv data).drop 12 =
        encryptedPayload aeskey aesiv (data.drop 12) :=
  take_replaced (length_encryptedPayload aeskey aesiv _)

theorem decrypted_encryptedPayload (decoders : RaopBuffer) (payload : Bytes) :
    StreamCodec.decrypted ⟨decoders, audioDecrypt aeskey aesiv⟩
      (encryptedPayload aeskey aesiv payload) = payload := by
  have blocks := length_encryptedBlocks aeskey aesiv payload
  have inverse := Crypto.Aes.cbcDecrypt_cbcEncrypt aeskey aesiv .mode128
    (payload.take (payload.length / 16 * 16))
  rw [length_whole, Nat.mul_div_cancel _ (by decide), List.take_of_length_le
    (Nat.le_of_eq (length_whole payload))] at inverse
  rw [StreamCodec.decrypted, length_encryptedPayload]
  dsimp only [audioDecrypt]
  rw [encryptedPayload, List.take_left' blocks, List.drop_left' blocks, inverse,
    List.take_append_drop]

theorem encryptedPacket_opens (data : Bytes) :
    OpensAlike (audioDecrypt aeskey aesiv) id (encryptedPacket aeskey aesiv data) data where
  length := length_encryptedPacket aeskey aesiv data
  header := (take_encryptedPacket aeskey aesiv data).1
  marker := fun size => by
    rw [length_encryptedPacket] at size
    rw [(take_encryptedPacket aeskey aesiv data).2, encryptedPayload_short]
    rw [List.length_drop, size]
    decide
  payload := fun decoders => by
    rw [(take_encryptedPacket aeskey aesiv data).2, decrypted_encryptedPayload,
      StreamCodec.decrypted]
    exact (List.take_append_drop _ _).symm

end Sender

/-! ## Sender and receiver -/

def StreamEvent.Fits : StreamEvent → Prop
  | .control packet _ => packet.length ≤ raopPacketLen
  | .data packet _ => packet.length ≤ raopPacketLen
  | _ => True

theorem StreamEvent.encrypted_alike (aeskey aesiv : Bytes) {event : StreamEvent}
    (fits : event.Fits) :
    Alike (audioDecrypt aeskey aesiv) id (event.encrypted aeskey aesiv) event := by
  cases event with
  | configure library ct frames rate channels => exact .configure library ct frames rate channels
  | flush nextSeq => exact .flush nextSeq
  | data packet answers =>
      have whole : packet.take raopPacketLen = packet := List.take_of_length_le fits
      have sent : (encryptedPacket aeskey aesiv packet).take raopPacketLen =
          encryptedPacket aeskey aesiv packet :=
        List.take_of_length_le (by rw [length_encryptedPacket]; exact fits)
      refine .data answers ?_
      rw [whole, sent]
      exact encryptedPacket_opens aeskey aesiv packet
  | control packet answers =>
      have whole : packet.take raopPacketLen = packet := List.take_of_length_le fits
      dsimp only [StreamEvent.encrypted]
      by_cases resent : packet.getD 1 0 &&& ~~~0x80 = 0x56
      · have same := length_encryptedPacket aeskey aesiv (packet.drop 4)
        have long : (packet.take 4 ++ encryptedPacket aeskey aesiv (packet.drop 4)).length =
            packet.length := by
          rw [List.length_append, same, ← List.length_append, List.take_append_drop]
        have sent := List.take_of_length_le (long.trans_le fits)
        rw [if_pos resent]
        refine .control answers ?_ ?_ fun _ _ _ => ?_
        · rw [sent, whole, long]
        · rw [sent, whole]
          exact load_of_take (take_replaced same).1 (by decide)
        · rw [sent, whole, (take_replaced same).2]
          exact encryptedPacket_opens aeskey aesiv (packet.drop 4)
      · rw [if_neg resent]
        refine .control answers rfl rfl fun type found other => absurd ?_ resent
        rw [whole] at found
        rw [List.getD_eq_getElem?_getD, show packet[1]? = some type from found]
        exact other

theorem bufferInit_keyed (library : Avcodec) (allocated : Bool) (first second : Bytes → Bytes)
    (memory : Fin raopBufferLength → { cells : Bytes // cells.length = audioBufferSize }) :
    bufferInit library allocated first memory =
      (bufferInit library allocated second memory).map fun buffer => buffer.keyed first := by
  unfold bufferInit
  split
  · rfl
  · split
    · rfl
    · rfl

/-- However the network reorders, repeats and loses the packets that a sender encrypts, and
whatever the control threads do, the receiver with the key makes the same calls of
`audio_process` as one that decrypts nothing makes for the packets in the clear. -/
theorem encrypted_audio_played (library : Avcodec) (allocated : Bool)
    (memory : Fin raopBufferLength → { cells : Bytes // cells.length = audioBufferSize })
    (aeskey aesiv : Bytes) {events : List StreamEvent} (fits : ∀ event ∈ events, event.Fits) :
    Machine.outputs streamStep streamEmit
        (bufferInit library allocated (audioDecrypt aeskey aesiv) memory)
        (events.map fun event => event.encrypted aeskey aesiv) =
      Machine.outputs streamStep streamEmit (bufferInit library allocated id memory) events := by
  have alike : List.Forall₂ (StreamEvent.Alike (audioDecrypt aeskey aesiv) id)
      (events.map fun event => event.encrypted aeskey aesiv) events := by
    rw [List.forall₂_map_left_iff, List.forall₂_same]
    intro event member
    exact StreamEvent.encrypted_alike aeskey aesiv (fits event member)
  rw [bufferInit_keyed library allocated _ id memory, outputs_alike alike, ← bufferInit_keyed]

def blockEvents : List StreamEvent :=
  [.data ([128, 96, 255, 254] ++ List.replicate 24 7) silentAnswers, .flush 65535]

theorem encrypted_audio_played_block :
    Machine.outputs streamStep streamEmit
        (bufferInit openLibrary true
          (audioDecrypt (List.replicate 16 1) (List.replicate 16 2)) clearMemory)
        (blockEvents.map fun event =>
          event.encrypted (List.replicate 16 1) (List.replicate 16 2)) =
      Machine.outputs streamStep streamEmit (bufferInit openLibrary true id clearMemory)
        blockEvents :=
  encrypted_audio_played openLibrary true clearMemory (List.replicate 16 1) (List.replicate 16 2)
    (by simp [blockEvents, StreamEvent.Fits, raopPacketLen])

end AirTizen.Audio

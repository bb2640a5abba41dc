import AirTizen.Crypto.CounterMode
import AirTizen.Mirror.ClockRestart

/-!
# The encrypted mirror stream

A sender encrypts the access units of a mirror connection, and only these, with one key
stream.  Whatever other packets come in between and wherever the packets end, the
receiver opens them as it would open the packets in the clear.
-/

namespace AirTizen.Crypto

open CText Words
open Mirror (Packet Cipher Delivery Message openPacket openAll)

universe u

/-! ## Packets that pass through a cipher -/

/-- The packets that the worker decrypts: video, and not empty. -/
def Encrypted (packet : Packet) : Prop := packet.type = 0 ∧ packet.size ≠ 0

instance (packet : Packet) : Decidable (Encrypted packet) :=
  inferInstanceAs (Decidable (packet.type = 0 ∧ packet.size ≠ 0))

structure StreamCipher (State : Type u) where
  apply : State → Bytes → Bytes × State
  length_apply : ∀ state text, (apply state text).1.length = text.length

/-- A packet with its payload passed through the cipher, if it is one of the encrypted ones. -/
def StreamCipher.pass {State : Type u} (cipher : StreamCipher State) (state : State)
    (packet : Packet) : Packet × State :=
  if Encrypted packet then
    ({ packet with
        payload := (cipher.apply state packet.payload).1
        payload_length := (cipher.length_apply state packet.payload).trans packet.payload_length },
      (cipher.apply state packet.payload).2)
  else (packet, state)

theorem StreamCipher.encrypted_pass {State : Type u} (cipher : StreamCipher State) (state : State)
    (packet : Packet) : Encrypted (cipher.pass state packet).1 ↔ Encrypted packet := by
  unfold StreamCipher.pass
  split
  · rfl
  · rfl

theorem StreamCipher.pass_header {State : Type u} (cipher : StreamCipher State) (state : State)
    (packet : Packet) : (cipher.pass state packet).1.header = packet.header := by
  unfold StreamCipher.pass
  split
  · rfl
  · rfl

theorem StreamCipher.pass_encrypted {State : Type u} (cipher : StreamCipher State) (state : State)
    {packet : Packet} (encrypted : Encrypted packet) :
    (cipher.pass state packet).1.payload = (cipher.apply state packet.payload).1 ∧
      (cipher.pass state packet).2 = (cipher.apply state packet.payload).2 := by
  rw [StreamCipher.pass, if_pos encrypted]
  exact ⟨rfl, rfl⟩

theorem packet_ext {first second : Packet} (header : first.header = second.header)
    (payload : first.payload = second.payload) : first = second := by
  obtain ⟨firstHeader, firstPayload, _, _⟩ := first
  obtain ⟨secondHeader, secondPayload, _, _⟩ := second
  subst header payload
  rfl

def StreamCipher.passAll {State : Type u} (cipher : StreamCipher State) :
    State → List Delivery → List Delivery
  | _, [] => []
  | state, delivery :: rest =>
      { delivery with packet := (cipher.pass state delivery.packet).1 } ::
        passAll cipher (cipher.pass state delivery.packet).2 rest

/-- The cipher of the mirror session; the sender combines its payloads with the same bytes. -/
def sessionCipher : StreamCipher Cipher where
  apply := Cipher.decrypt
  length_apply := fun _ _ => List.length_mapIdx

theorem MirrorBuffer.length_decrypt (buffer : MirrorBuffer) (input : Bytes) :
    (buffer.decrypt input).1.length = input.length := by
  induction input generalizing buffer with
  | nil => rfl
  | cons byte rest inductionHypothesis =>
      unfold decrypt
      exact congrArg (· + 1) (inductionHypothesis _)

def bufferCipher : StreamCipher MirrorBuffer where
  apply := MirrorBuffer.decrypt
  length_apply := MirrorBuffer.length_decrypt

/-! ## Packets in the clear -/

def clear : Cipher := { keystream := fun _ => 0, used := 0 }

/-- The messages of packets that are not encrypted. -/
def openClear : List Delivery → Option (List Message)
  | [] => some []
  | delivery :: rest =>
      (openPacket delivery.allocated clear delivery.packet).bind fun (message, _) =>
        (openClear rest).map (message :: ·)

theorem clear_decrypt (data : Bytes) : (clear.decrypt data).1 = data := by
  apply List.ext_getElem
  · exact List.length_mapIdx
  · intro index _ inside
    simp only [Cipher.decrypt, List.getElem_mapIdx]
    exact UInt8.xor_zero

theorem openPacket_video (allocated : Bool) (cipher : Cipher) {packet : Packet}
    (encrypted : Encrypted packet) :
    openPacket allocated cipher packet =
      if 2 * 1024 * 1024 < packet.size ∨ allocated = false then none
      else if (Mirror.h264Frame (cipher.decrypt packet.payload).1).1 < 0 then none
      else some (.accessUnit (Mirror.h264Frame (cipher.decrypt packet.payload).1).2 packet.micros,
        (cipher.decrypt packet.payload).2) := by
  obtain ⟨video, nonempty⟩ := encrypted
  have other : ¬ packet.type = 1 := fun configuration => by
    rw [configuration] at video
    cases video
  have large : (2 * 1024 * 1024 < packet.size ∨ packet.type = 1 ∧ 65536 < packet.size) ↔
      2 * 1024 * 1024 < packet.size :=
    ⟨fun either => either.elim id fun small => absurd small.1 other, Or.inl⟩
  unfold openPacket
  rw [if_neg nonempty, if_pos video]
  cases allocated with
  | false => simp
  | true => simp [large]

/-- The worker decrypts first, and then opens what is in the clear. -/
theorem openPacket_eq (allocated : Bool) (cipher : Cipher) (packet : Packet) :
    openPacket allocated cipher packet =
      (openPacket allocated clear (sessionCipher.pass cipher packet).1).map fun opened =>
        (opened.1, (sessionCipher.pass cipher packet).2) := by
  by_cases encrypted : Encrypted packet
  · have header := sessionCipher.pass_header cipher packet
    have payload : (sessionCipher.pass cipher packet).1.payload =
        (cipher.decrypt packet.payload).1 := (sessionCipher.pass_encrypted cipher encrypted).1
    have after : (sessionCipher.pass cipher packet).2 = (cipher.decrypt packet.payload).2 :=
      (sessionCipher.pass_encrypted cipher encrypted).2
    have still := (sessionCipher.encrypted_pass cipher packet).mpr encrypted
    have size : (sessionCipher.pass cipher packet).1.size = packet.size :=
      congrArg (Mirror.littleEndian 4 0) header
    have micros : (sessionCipher.pass cipher packet).1.micros = packet.micros := by
      rw [Packet.micros, header]
      rfl
    rw [openPacket_video allocated cipher encrypted, openPacket_video allocated clear still,
      clear_decrypt, payload, after, size, micros]
    by_cases refused : 2 * 1024 * 1024 < packet.size ∨ allocated = false
    · rw [if_pos refused, if_pos refused]
      rfl
    · rw [if_neg refused, if_neg refused]
      by_cases invalid : (Mirror.h264Frame (cipher.decrypt packet.payload).1).1 < 0
      · rw [if_pos invalid, if_pos invalid]
        rfl
      · rw [if_neg invalid, if_neg invalid]
        rfl
  · have pass : sessionCipher.pass cipher packet = (packet, cipher) := if_neg encrypted
    rw [pass]
    unfold openPacket
    split
    · rfl
    · split
      · rfl
      next some =>
        have other : ¬ packet.type = 0 := fun video => encrypted ⟨video, some⟩
        split
        · rfl
        · split
          · dsimp only
            split
            · rfl
            · rfl
          · rfl

theorem openAll_eq (cipher : Cipher) (deliveries : List Delivery) :
    openAll cipher deliveries = openClear (sessionCipher.passAll cipher deliveries) := by
  induction deliveries generalizing cipher with
  | nil => rfl
  | cons delivery rest inductionHypothesis =>
      unfold openAll StreamCipher.passAll openClear
      rw [openPacket_eq]
      cases openPacket delivery.allocated clear (sessionCipher.pass cipher delivery.packet).1 with
      | none => rfl
      | some opened =>
          dsimp only [Option.map_some, Option.bind_some]
          rw [inductionHypothesis]

/-! ## Sender and receiver -/

theorem decrypt_decrypt (cipher : Cipher) (data : Bytes) :
    (cipher.decrypt (cipher.decrypt data).1).1 = data := by
  apply List.ext_getElem
  · exact (sessionCipher.length_apply _ _).trans (sessionCipher.length_apply _ _)
  · intro index _ inside
    simp only [Cipher.decrypt, List.getElem_mapIdx]
    exact Aes2.xor_cancel _ _

theorem passAll_passAll (cipher : Cipher) (deliveries : List Delivery) :
    sessionCipher.passAll cipher (sessionCipher.passAll cipher deliveries) = deliveries := by
  induction deliveries generalizing cipher with
  | nil => rfl
  | cons delivery rest inductionHypothesis =>
      have twice : sessionCipher.pass cipher (sessionCipher.pass cipher delivery.packet).1 =
          (delivery.packet, (sessionCipher.pass cipher delivery.packet).2) := by
        by_cases encrypted : Encrypted delivery.packet
        · have again := (sessionCipher.encrypted_pass cipher delivery.packet).mpr encrypted
          obtain ⟨payload, after⟩ := sessionCipher.pass_encrypted cipher encrypted
          obtain ⟨payloadAgain, afterAgain⟩ := sessionCipher.pass_encrypted cipher again
          refine Prod.ext (packet_ext ?_ ?_) ?_
          · rw [StreamCipher.pass_header, StreamCipher.pass_header]
          · rw [payloadAgain, payload]
            exact decrypt_decrypt cipher delivery.packet.payload
          · rw [afterAgain, after, payload]
            simp only [sessionCipher, Cipher.decrypt, List.length_mapIdx]
        · have once : sessionCipher.pass cipher delivery.packet = (delivery.packet, cipher) :=
            if_neg encrypted
          rw [once, once]
      unfold StreamCipher.passAll
      dsimp only [StreamCipher.passAll]
      rw [twice, inductionHypothesis]

theorem MirrorBuffer.Represents.passAll {cipher : Cipher} {buffer : MirrorBuffer}
    (represents : buffer.Represents cipher) (deliveries : List Delivery) :
    bufferCipher.passAll buffer deliveries = sessionCipher.passAll cipher deliveries := by
  induction deliveries generalizing cipher buffer with
  | nil => rfl
  | cons delivery rest inductionHypothesis =>
      have step : (bufferCipher.pass buffer delivery.packet).1 =
            (sessionCipher.pass cipher delivery.packet).1 ∧
          (bufferCipher.pass buffer delivery.packet).2.Represents
            (sessionCipher.pass cipher delivery.packet).2 := by
        unfold StreamCipher.pass
        split
        · obtain ⟨same, after⟩ := represents.decrypt delivery.packet.payload
          refine ⟨?_, after⟩
          simp only [bufferCipher, sessionCipher, same]
        · exact ⟨rfl, represents⟩
      unfold StreamCipher.passAll
      rw [step.1, inductionHypothesis step.2]

/-- The stream that the sender and the receiver derive from their secrets. -/
def streamCipher (sha512 : Bytes → Digest) (buffer : MirrorBuffer) (streamConnectionID : Nat) :
    Cipher where
  keystream := keyByte (buffer.streamKey sha512 streamConnectionID).1
    (buffer.streamKey sha512 streamConnectionID).2
  used := 0

/-- Whatever the packets are, the receiver opens what the sender encrypted as it would open
the packets in the clear; the key stream is counted in bytes of video, in spite of where
packets end and what else comes in between. -/
theorem encrypted_stream_opened (sha512 : Bytes → Digest) (buffer : MirrorBuffer)
    (streamConnectionID : Nat) (deliveries : List Delivery) :
    openAll (streamCipher sha512 buffer streamConnectionID)
        (sessionCipher.passAll (streamCipher sha512 buffer streamConnectionID) deliveries) =
      openClear deliveries ∧
    openClear (bufferCipher.passAll (buffer.initAes sha512 streamConnectionID)
        (sessionCipher.passAll (streamCipher sha512 buffer streamConnectionID) deliveries)) =
      openClear deliveries := by
  have represents := buffer.initAes_represents sha512 streamConnectionID
  rw [openAll_eq, represents.passAll]
  exact ⟨congrArg openClear (passAll_passAll _ deliveries),
    congrArg openClear (passAll_passAll _ deliveries)⟩

end AirTizen.Crypto

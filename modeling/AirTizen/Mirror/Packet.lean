import Mathlib.Tactic.NormNum
import AirTizen.Library.Text

/-!
# Mirror packets

The packets of a mirror data connection and the H.264 conversions of their
payloads: `airtizen_h264.c` and the part of `raop_rtp_mirror_thread` that looks
at one packet.
-/

namespace AirTizen.Mirror

open CText

/-! ## H.264 payloads -/

def bigEndian : Bytes → Nat
  | b0 :: b1 :: b2 :: b3 :: _ =>
      b0.toNat * 2 ^ 24 + b1.toNat * 2 ^ 16 + b2.toNat * 2 ^ 8 + b3.toNat
  | _ => 0

def startCode : Bytes := [0, 0, 0, 1]

/-- The first loop of `airtizen_h264_frame`: the buffer is a sequence of units.
Every round takes at least five bytes, so the length of the buffer is enough. -/
def validUnits : Nat → Bytes → Bool
  | _, [] => true
  | 0, _ => false
  | rounds + 1, data =>
      if data.length < 4 then false
      else
        let length := bigEndian data
        if length = 0 ∨ data.length - 4 < length then false
        else validUnits rounds (data.drop (4 + length))

/-- The second loop: every length becomes a start code. -/
def startCodes : Nat → Bytes → Bytes
  | _, [] => []
  | 0, data => data
  | rounds + 1, data =>
      let length := bigEndian data
      startCode ++ (data.drop 4).take length ++ startCodes rounds (data.drop (4 + length))

/-- `airtizen_h264_frame`: the result and the buffer behind it. -/
def h264Frame (data : Bytes) : Int × Bytes :=
  if data.length < 5 then (-1, data)
  else if validUnits data.length data then (0, startCodes data.length data)
  else (-1, data)

def copySets (capacity : Nat) (wanted : UInt8) : Nat → Bytes → Bytes → Option (Bytes × Bytes)
  | 0, rest, out => some (rest, out)
  | count + 1, high :: low :: rest, out =>
      let length := high.toNat * 256 + low.toNat
      if length = 0 ∨ rest.length < length ∨ capacity < out.length + 4 + length ∨
          rest.headD 0 &&& 31 ≠ wanted then none
      else copySets capacity wanted count (rest.drop length)
        (out ++ startCode ++ rest.take length)
  | _ + 1, _, _ => none

/-- `airtizen_h264_config`: the output, empty where the source returns zero. -/
def h264Config (data : Bytes) (capacity : Nat) : Bytes :=
  if data.length < 7 ∨ data.headD 0 ≠ 1 ∨ (data.drop 4).headD 0 &&& 3 ≠ 3 then []
  else
    let count := ((data.drop 5).headD 0 &&& 31).toNat
    if count = 0 then []
    else
      match copySets capacity 7 count (data.drop 6) [] with
      | none => []
      | some ([], _) => []
      | some (count :: rest, out) =>
          if count = 0 then []
          else
            match copySets capacity 8 count.toNat rest out with
            | none => []
            | some (_, out) => out

theorem startCodes_length {rounds : Nat} {data : Bytes} (valid : validUnits rounds data = true) :
    (startCodes rounds data).length = data.length := by
  induction rounds generalizing data with
  | zero =>
      cases data with
      | nil => rfl
      | cons byte rest => cases valid
  | succ rounds inductionHypothesis =>
      cases data with
      | nil => rfl
      | cons byte rest =>
          simp only [validUnits] at valid
          split at valid
          · cases valid
          · split at valid
            · cases valid
            next inside =>
              rw [not_or, not_lt] at inside
              have tail := inductionHypothesis valid
              simp only [startCodes, startCode, List.length_append, List.length_cons,
                List.length_nil, List.length_take, List.length_drop, tail] at inside ⊢
              omega

theorem h264Frame_length (data : Bytes) : (h264Frame data).2.length = data.length := by
  unfold h264Frame
  split
  · rfl
  · split
    next valid => exact startCodes_length valid
    · rfl

/-! ## Packets -/

/-- `byteutils_get_int`, `byteutils_get_short` and `byteutils_get_long` as
unsigned numbers of `width` bytes. -/
def littleEndian (width offset : Nat) (bytes : Bytes) : Nat :=
  ((bytes.drop offset).take width).foldr (fun byte value => byte.toNat + 256 * value) 0

/-- A header and the payload whose size it announces. -/
structure Packet where
  header : Bytes
  payload : Bytes
  header_length : header.length = 128
  payload_length : payload.length = littleEndian 4 0 header

def Packet.size (packet : Packet) : Nat := littleEndian 4 0 packet.header

/-- `byteutils_get_short(header,4)&255`. -/
def Packet.type (packet : Packet) : Nat := littleEndian 2 4 packet.header % 256

def Packet.micros (packet : Packet) : Nat :=
  let ntp := littleEndian 8 8 packet.header
  ntp / 2 ^ 32 * 1000000 + ntp % 2 ^ 32 * 1000000 / 2 ^ 32

/-- The cipher of a session: a key stream and how much of it is used.
`mirror_buffer_decrypt` combines it with the payload and goes on where the last
packet ended. -/
structure Cipher where
  keystream : Nat → UInt8
  used : Nat

def Cipher.decrypt (cipher : Cipher) (data : Bytes) : Bytes × Cipher :=
  (data.mapIdx fun index byte => byte ^^^ cipher.keystream (cipher.used + index),
    { cipher with used := cipher.used + data.length })

inductive Message where
  | configuration (data : Bytes)
  | accessUnit (data : Bytes) (micros : Nat)
  /-- An empty packet or one of another type. -/
  | other
  deriving DecidableEq

/-- The checks of one packet, `none` where the worker leaves its loop.
`allocated` tells whether `malloc` found room for its two buffers. -/
def openPacket (allocated : Bool) (cipher : Cipher) (packet : Packet) :
    Option (Message × Cipher) :=
  if 2 * 1024 * 1024 < packet.size ∨ packet.type = 1 ∧ 65536 < packet.size then none
  else if packet.size = 0 then some (.other, cipher)
  else if !allocated then none
  else if packet.type = 0 then
    let (decoded, cipher) := cipher.decrypt packet.payload
    let (result, decoded) := h264Frame decoded
    if result < 0 then none else some (.accessUnit decoded packet.micros, cipher)
  else if packet.type = 1 then
    let decoded := h264Config packet.payload (packet.size + 2048)
    if decoded = [] then none else some (.configuration decoded, cipher)
  else some (.other, cipher)

/-- An access unit fits the store: it is not empty and at most 2 MiB. -/
theorem accessUnit_bounds {allocated : Bool} {cipher after : Cipher} {packet : Packet}
    {data : Bytes} {micros : Nat}
    (opened : openPacket allocated cipher packet = some (.accessUnit data micros, after)) :
    data ≠ [] ∧ data.length ≤ 2 * 1024 * 1024 ∧ micros = packet.micros := by
  unfold openPacket at opened
  split at opened
  · cases opened
  next sized =>
    split at opened
    · simp at opened
    next nonempty =>
      split at opened
      · cases opened
      · split at opened
        · simp only at opened
          split at opened
          · cases opened
          next valid =>
            simp only [Option.some.injEq, Prod.mk.injEq, Message.accessUnit.injEq] at opened
            obtain ⟨⟨rfl, rfl⟩, _⟩ := opened
            have length := h264Frame_length (cipher.decrypt packet.payload).1
            have payload : (cipher.decrypt packet.payload).1.length = packet.size := by
              simp only [Cipher.decrypt, List.length_mapIdx]
              exact packet.payload_length
            rw [payload] at length
            refine ⟨?_, by omega, rfl⟩
            rintro empty
            rw [empty] at length
            exact nonempty length.symm
        · split at opened
          · simp only at opened
            split at opened <;> simp at opened
          · simp at opened

theorem littleEndian_lt (width offset : Nat) (bytes : Bytes) :
    littleEndian width offset bytes < 256 ^ width := by
  have bound : ∀ digits : Bytes,
      digits.foldr (fun byte value => byte.toNat + 256 * value) 0 < 256 ^ digits.length := by
    intro digits
    induction digits with
    | nil => simp
    | cons byte rest inductionHypothesis =>
        have small := byte.toNat_lt
        rw [List.foldr_cons, List.length_cons, Nat.pow_succ]
        omega
  refine (bound _).trans_le (Nat.pow_le_pow_right (by norm_num) ?_)
  exact List.length_take_le width _

theorem Packet.micros_lt (packet : Packet) : packet.micros < 2 ^ 63 := by
  have bound := littleEndian_lt 8 8 packet.header
  simp only [Packet.micros]
  omega

end AirTizen.Mirror

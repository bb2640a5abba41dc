import AirTizen.Library.ReorderWindow
import AirTizen.Audio.Decoders

/-!
# The buffer behind the audio socket

`raop_buffer.c`: a packet is decoded as soon as it arrives, and waits in one of 64 entries
for the packets in front of it.  Sequence numbers have 16 bits and wrap around.  Accesses
to a packet and to the memory of an entry are checked.
-/

namespace AirTizen.Audio

open CText Buffer

/-! ## The entries -/

abbrev raopBufferLength : Nat := 64

def raopPacketLen : Nat := 32768

/-- `raop_buffer_entry_t`. -/
structure BufferEntry where
  available : Bool
  flags : UInt8
  type : UInt8
  seqnum : UInt16
  timestamp : UInt32
  ssrc : UInt32
  sampleRate : UInt32
  channels : UInt16
  bitsPerSample : UInt16
  audioBufferLen : Nat
  audioBuffer : Bytes
  sized : audioBuffer.length = audioBufferSize

/-- What a packet is decoded with; `cbcDecrypt` is `AES_cbc_decrypt` under `aeskey` and `aesiv`,
which are set up again for every packet. -/
structure StreamCodec where
  decoders : RaopBuffer
  cbcDecrypt : Bytes → Bytes

/-- `raop_buffer_t`. -/
structure StreamBuffer where
  codec : StreamCodec
  isEmpty : Bool
  firstSeqnum : UInt16
  lastSeqnum : UInt16
  entries : Fin raopBufferLength → BufferEntry

/-- An entry of zeros, whose memory nobody has written to. -/
def freshEntry (memory : { cells : Bytes // cells.length = audioBufferSize }) : BufferEntry where
  available := false
  flags := 0
  type := 0
  seqnum := 0
  timestamp := 0
  ssrc := 0
  sampleRate := 0
  channels := 0
  bitsPerSample := 0
  audioBufferLen := 0
  audioBuffer := memory
  sized := memory.property

/-- `raop_buffer_init`, where `allocated` tells whether both allocations succeed. -/
def bufferInit (library : Avcodec) (allocated : Bool) (cbcDecrypt : Bytes → Bytes)
    (memory : Fin raopBufferLength → { cells : Bytes // cells.length = audioBufferSize }) :
    Option StreamBuffer :=
  match aacCreate library 8 44100 2 480 with
  | none => none
  | some aac =>
      if allocated then
        some
          { codec :=
              { decoders :=
                  { alac := none, phandle := some aac, codecType := 8, configuredRate := 44100,
                    configuredChannels := 2 }
                cbcDecrypt := cbcDecrypt }
            isEmpty := true
            firstSeqnum := 0
            lastSeqnum := 0
            entries := fun index => freshEntry (memory index) }
      else none

/-- `seqnum_cmp`: the difference as a `short`. -/
def seqnumCmp (s1 s2 : UInt16) : Int :=
  SerialNumber.distance (2 ^ 16) s1.toNat s2.toNat

/-- `seqnum % RAOP_BUFFER_LENGTH`. -/
def entryIndex (seqnum : UInt16) : Fin raopBufferLength :=
  ⟨seqnum.toNat % raopBufferLength, Nat.mod_lt _ (by decide)⟩

def StreamBuffer.flush (buffer : StreamBuffer) (nextSeq : Int) : StreamBuffer :=
  let cleared (entry : BufferEntry) : BufferEntry :=
    { entry with available := false, audioBufferLen := 0 }
  let buffer := { buffer with entries := fun index => cleared (buffer.entries index) }
  if nextSeq < 0 ∨ 0xffff < nextSeq then { buffer with isEmpty := true }
  else
    { buffer with
      firstSeqnum := UInt16.ofNat nextSeq.toNat
      lastSeqnum := UInt16.ofNat nextSeq.toNat - 1 }

/-- `raop_buffer_configure_audio` with its flush. -/
def StreamBuffer.configureAudio (library : Avcodec) (buffer : StreamBuffer)
    (ct frames rate channels : UInt32) : Int × StreamBuffer :=
  let (result, decoders) :=
    bufferConfigureAudio library buffer.codec.decoders ct frames rate channels
  (result,
    if result = 0 then
      { buffer.flush (-1) with codec := { buffer.codec with decoders := decoders } }
    else buffer)

/-! ## A packet arrives -/

def field (data : Bytes) (index width : Nat) : Option Nat :=
  (loadMany data index width).map Octets.toNat

/-- What `malloc` and the codec library answer while a packet is handled: the frame that
the library makes of the decrypted payload, and the bytes that the decoder copies out of it. -/
structure Answers where
  malloc : Bool
  library : Bytes → Option AVFrame
  samples : Bytes → Nat → UInt8

def StreamCodec.decodedSize (codec : StreamCodec) (answers : Answers) (packetbuf : Bytes) : Nat :=
  codec.decoders.decode (answers.library packetbuf) packetbuf.length audioBufferSize

def StreamCodec.decodedBytes (codec : StreamCodec) (answers : Answers) (packetbuf : Bytes) :
    Bytes :=
  (List.range (codec.decodedSize answers packetbuf)).map (answers.samples packetbuf)

/-- `packetbuf`: all whole blocks decrypted, and the rest as it is. -/
def StreamCodec.decrypted (codec : StreamCodec) (payload : Bytes) : Bytes :=
  codec.cbcDecrypt (payload.take (payload.length / 16 * 16)) ++
    payload.drop (payload.length / 16 * 16)

def StreamBuffer.setEntry (buffer : StreamBuffer) (seqnum : UInt16) (entry : BufferEntry) :
    StreamBuffer :=
  { buffer with entries := Function.update buffer.entries (entryIndex seqnum) entry }

@[simp]
theorem StreamBuffer.setEntry_entries (buffer : StreamBuffer) (seqnum : UInt16)
    (entry : BufferEntry) : (buffer.setEntry seqnum entry).entries =
      Function.update buffer.entries (entryIndex seqnum) entry := rfl

@[simp]
theorem StreamBuffer.setEntry_codec (buffer : StreamBuffer) (seqnum : UInt16)
    (entry : BufferEntry) : (buffer.setEntry seqnum entry).codec = buffer.codec := rfl

@[simp]
theorem StreamBuffer.setEntry_isEmpty (buffer : StreamBuffer) (seqnum : UInt16)
    (entry : BufferEntry) : (buffer.setEntry seqnum entry).isEmpty = buffer.isEmpty := rfl

@[simp]
theorem StreamBuffer.setEntry_firstSeqnum (buffer : StreamBuffer) (seqnum : UInt16)
    (entry : BufferEntry) :
    (buffer.setEntry seqnum entry).firstSeqnum = buffer.firstSeqnum := rfl

@[simp]
theorem StreamBuffer.setEntry_lastSeqnum (buffer : StreamBuffer) (seqnum : UInt16)
    (entry : BufferEntry) : (buffer.setEntry seqnum entry).lastSeqnum = buffer.lastSeqnum := rfl

/-- The end of `raop_buffer_queue`, which updates the two sequence numbers. -/
def StreamBuffer.extend (buffer : StreamBuffer) (seqnum : UInt16) : StreamBuffer :=
  let buffer :=
    if buffer.isEmpty then
      { buffer with firstSeqnum := seqnum, lastSeqnum := seqnum, isEmpty := false }
    else buffer
  if seqnumCmp seqnum buffer.lastSeqnum > 0 then { buffer with lastSeqnum := seqnum } else buffer

/-- The memory of an entry behind the decoder: the front of it is overwritten. -/
def StreamCodec.fill (codec : StreamCodec) (answers : Answers) (packetbuf : Bytes)
    (entry : BufferEntry) : Option BufferEntry :=
  match stored : store entry.audioBuffer 0 (codec.decodedBytes answers packetbuf) with
  | none => none
  | some cells =>
      some
        { entry with
          audioBuffer := cells
          audioBufferLen := codec.decodedSize answers packetbuf
          sampleRate := codec.decoders.configuredRate
          channels := codec.decoders.configuredChannels.toUInt16
          bitsPerSample := 16
          sized := by
            unfold store at stored
            split at stored
            · next inside =>
                cases stored
                rw [← entry.sized]
                simp only [List.length_append, List.length_take, List.length_drop]
                omega
            · cases stored }

/-- `raop_buffer_queue` behind its check for the entry. -/
def StreamBuffer.enter (buffer : StreamBuffer) (answers : Answers) (data : Bytes)
    (seqnum : UInt16) : Option (Int × StreamBuffer) := do
  let entry := buffer.entries (entryIndex seqnum)
  let flags ← load data 0
  let type ← load data 1
  let timestamp ← field data 4 4
  let ssrc ← field data 8 4
  let payload ← loadMany data 12 (data.length - 12)
  let entry :=
    { entry with
      flags := flags
      type := type
      seqnum := seqnum
      timestamp := UInt32.ofNat timestamp
      ssrc := UInt32.ofNat ssrc
      available := true }
  if answers.malloc = false then
    some (0, buffer.setEntry seqnum { entry with available := false })
  else do
    let entry ← buffer.codec.fill answers (buffer.codec.decrypted payload) entry
    if entry.audioBufferLen = 0 then
      some (0, buffer.setEntry seqnum { entry with available := false })
    else
      some (1, (buffer.setEntry seqnum entry).extend seqnum)

/-- `raop_buffer_queue` behind the checks that do not need the buffer. -/
def StreamBuffer.place (buffer : StreamBuffer) (answers : Answers) (data : Bytes)
    (seqnum : UInt16) : Option (Int × StreamBuffer) :=
  if buffer.isEmpty = false ∧ seqnumCmp seqnum buffer.firstSeqnum < 0 then some (0, buffer)
  else
    -- there is always space in the buffer, if necessary for this packet alone
    let buffer :=
      if seqnumCmp seqnum (buffer.firstSeqnum + UInt16.ofNat raopBufferLength) ≥ 0 then
        buffer.flush seqnum.toNat
      else buffer
    let entry := buffer.entries (entryIndex seqnum)
    if entry.available = true ∧ seqnumCmp entry.seqnum seqnum = 0 then some (0, buffer)
    else buffer.enter answers data seqnum

def marker : Bytes := [0x0, 0x68, 0x34, 0x0]

def StreamBuffer.queue (buffer : StreamBuffer) (answers : Answers) (data : Bytes) :
    Option (Int × StreamBuffer) :=
  if data.length ≤ 12 ∨ raopPacketLen < data.length then some (0, buffer)
  else do
    let seqnum ← field data 2 2
    let payload ← if data.length = 16 then loadMany data 12 4 else some []
    if payload = marker then some (0, buffer)
    else buffer.place answers data (UInt16.ofNat seqnum)

/-! ## An entry is handed out -/

/-- The variables that `raop_buffer_dequeue` writes; `pts` has no value at first. -/
structure StreamFormat where
  pts : Option UInt32
  sampleRate : UInt32
  channels : UInt16
  bitsPerSample : UInt16
  deriving DecidableEq

/-- What `raop_buffer_dequeue` returns: `length` bytes of the entry. -/
structure Dequeued where
  audio : Bytes
  format : StreamFormat
  buffer : StreamBuffer

/-- `buflen`, a `short`. -/
def StreamBuffer.buflen (buffer : StreamBuffer) : Int :=
  Int.bmod (seqnumCmp buffer.lastSeqnum buffer.firstSeqnum + 1) (2 ^ 16)

def BufferEntry.silenced (entry : BufferEntry) : BufferEntry :=
  { entry with
    audioBuffer := List.replicate audioBufferSize 0
    sized := List.length_replicate }

/-- The end of `raop_buffer_dequeue`, behind its checks. -/
def StreamBuffer.takeFirst (buffer : StreamBuffer) (format : StreamFormat) : Dequeued :=
  let entry := buffer.entries (entryIndex buffer.firstSeqnum)
  let next := { buffer with firstSeqnum := buffer.firstSeqnum + 1 }
  if entry.available then
    { audio := entry.audioBuffer.take entry.audioBufferLen
      format :=
        { pts := some entry.timestamp, sampleRate := entry.sampleRate,
          channels := entry.channels, bitsPerSample := entry.bitsPerSample }
      buffer := next.setEntry buffer.firstSeqnum
        { entry with available := false, audioBufferLen := 0 } }
  else
    { audio := entry.silenced.audioBuffer
      format := format
      buffer := next.setEntry buffer.firstSeqnum entry.silenced }

theorem StreamBuffer.takeFirst_frame (buffer : StreamBuffer) (format : StreamFormat) :
    (buffer.takeFirst format).buffer.firstSeqnum = buffer.firstSeqnum + 1 ∧
      (buffer.takeFirst format).buffer.lastSeqnum = buffer.lastSeqnum ∧
      (buffer.takeFirst format).buffer.isEmpty = buffer.isEmpty ∧
      (buffer.takeFirst format).buffer.codec = buffer.codec := by
  dsimp only [StreamBuffer.takeFirst]
  split
  · exact ⟨rfl, rfl, rfl, rfl⟩
  · exact ⟨rfl, rfl, rfl, rfl⟩

def StreamBuffer.dequeue (buffer : StreamBuffer) (format : StreamFormat) (noResend : Bool) :
    Option Dequeued :=
  if buffer.isEmpty ∨ buffer.buflen ≤ 0 then none
  -- hope that a resend gets there on time
  else if noResend = false ∧ (buffer.entries (entryIndex buffer.firstSeqnum)).available = false ∧
      buffer.buflen < 4 then none
  else some (buffer.takeFirst format)

end AirTizen.Audio

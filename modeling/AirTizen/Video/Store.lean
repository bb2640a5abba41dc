import Mathlib.Data.Fin.Basic
import Mathlib.Logic.Function.Basic
import AirTizen.Library.Machine
import AirTizen.Library.Scan
import AirTizen.Library.Text

/-!
# The video store

The state behind the mutex of `airtizen_video.c` and the calls that change it.
libav is outside of the model: each call carries a record of what the muxer,
the decoder and the allocator answered while it ran.
-/

namespace AirTizen.Video

open CText

def partLimit : Nat := 2 * 1024 * 1024
def totalLimit : Nat := 24 * 1024 * 1024
abbrev partCount : Nat := 256
def int64Max : Nat := 2 ^ 63 - 1

structure Part where
  data : Option Bytes := none
  size : Nat := 0
  seq : Nat := 0
  pts : Nat := 0
  key : Bool := false

/-- The index of `parts+(seq%PART_COUNT)`. -/
def slotOf (seq : Nat) : Fin partCount := Fin.ofNat partCount seq

/-- `airtizen_video_state`, what a snapshot shows. -/
structure State where
  generation : Nat := 0
  width : Nat := 0
  height : Nat := 0
  latest : Nat := 0
  start : Nat := 0
  available : Bool := false
  mime : Bytes := []
  deriving DecidableEq

structure Store where
  /-- Whether the muxer (and its `AVIOContext`) exists. -/
  mux : Bool := false
  config : Option Bytes := none
  initData : Option Bytes := none
  pending : Bytes := []
  totalSize : Nat := 0
  parts : Fin partCount → Part := fun _ => {}
  state : State := {}
  sequence : Nat := 0
  firstPts : Nat := 0
  lastPts : Nat := 0
  havePts : Bool := false
  writeFailed : Bool := false

/-- The statically zeroed store of a fresh process. -/
def Store.initial : Store := {}

/-! ## What libav does during a call -/

/-- One call of the `output` callback: the bytes, and whether `av_realloc`
found room for them. -/
structure Chunk where
  bytes : Bytes
  reallocated : Bool := true

/-- One libav call that may write: its result and the bytes it put out. -/
structure MuxCall where
  failed : Bool := false
  chunks : List Chunk := []

/-- Everything `initialize` learns from libav. -/
structure InitializeRun where
  /-- Decoder, packet and frame were allocated and the decoder opened. -/
  decoderOpened : Bool := true
  /-- `avcodec_send_packet` accepted configuration and first frame. -/
  packetSent : Bool := true
  width : Int
  height : Int
  /-- Output context, stream, extradata and I/O buffers were allocated. -/
  containerOpened : Bool := true
  header : MuxCall
  flushed : List Chunk := []

/-- Everything `airtizen_video_frame` learns from libav. -/
structure FrameRun where
  initialized : InitializeRun
  packetAllocated : Bool := true
  /-- `av_write_frame(mux,packet)`. -/
  written : MuxCall
  /-- `av_write_frame(mux,NULL)`. -/
  drained : MuxCall := {}
  /-- `avio_flush(io)`. -/
  flushed : List Chunk := []

def output (store : Store) (chunk : Chunk) : Store :=
  if partLimit - store.pending.length < chunk.bytes.length then
    { store with writeFailed := true }
  else if !chunk.reallocated then
    { store with writeFailed := true }
  else
    { store with pending := store.pending ++ chunk.bytes }

def outputAll (store : Store) (chunks : List Chunk) : Store := chunks.foldl output store

/-! ## Annex-B scanning -/

/-- Whether some start code of the buffer is followed by a unit of the type. -/
def naluType (wanted : UInt8) : Bytes → Bool
  | b0 :: b1 :: b2 :: b3 :: b4 :: rest =>
      (if b0 = 0 ∧ b1 = 0 ∧ b2 = 1 then b3 &&& 31 == wanted
        else if b0 = 0 ∧ b1 = 0 ∧ b2 = 0 ∧ b3 = 1 then b4 &&& 31 == wanted
        else false)
        || naluType wanted (b1 :: b2 :: b3 :: b4 :: rest)
  | _ => false

/-- The `mime` text of the first sequence parameter set behind a 4-byte start
code with three profile bytes. -/
def codecMime : Bytes → Bytes
  | b0 :: b1 :: b2 :: b3 :: b4 :: b5 :: b6 :: b7 :: b8 :: rest =>
      if b0 = 0 ∧ b1 = 0 ∧ b2 = 0 ∧ b3 = 1 ∧ b4 &&& 31 = 7 then
        ascii "video/mp4; codecs=\"avc1." ++ hexByte b5 ++ hexByte b6 ++ hexByte b7 ++ ascii "\""
      else codecMime (b1 :: b2 :: b3 :: b4 :: b5 :: b6 :: b7 :: b8 :: rest)
  | _ => []

/-! ## Calls -/

def clearLocked (store : Store) : Store :=
  { firstPts := store.firstPts, lastPts := store.lastPts }

/-- `generation=state.generation+1;clear_locked();state.generation=generation;` -/
def restart (store : Store) : Store :=
  { clearLocked store with state := { generation := (store.state.generation + 1) % 2 ^ 32 } }

def reset (store : Store) : Store := restart store

/-- `airtizen_video_configure`; `allocated` tells whether `av_mallocz` succeeds.
A null pointer is refused like the empty buffer. -/
def configure (allocated : Bool) (data : Bytes) (store : Store) : Int × Store :=
  if data.length < 8 ∨ 65536 < data.length ∨ !naluType 7 data ∨ !naluType 8 data then
    (-1, store)
  else if !allocated then
    (-1, restart store)
  else
    let store := restart store
    (0, { store with config := some data, state := { store.state with mime := codecMime data } })

/-- `initialize`, `none` for its error exits: the caller clears the store then. -/
def initializeMuxer (run : InitializeRun) (store : Store) : Option Store :=
  if !run.decoderOpened then none
  else if !run.packetSent then none
  else if run.width < 1 ∨ run.height < 1 ∨ 4096 < run.width ∨ 2160 < run.height then none
  else if !run.containerOpened then none
  else
    let store := { store with
      mux := true
      state := { store.state with width := run.width.toNat, height := run.height.toNat } }
    let store := outputAll store run.header.chunks
    if run.header.failed then none
    else
      let store := outputAll store run.flushed
      if store.writeFailed ∨ store.pending = [] then none
      else some { store with initData := some store.pending, pending := [] }

/-- One round of the eviction loop: free the stored part with the least number. -/
def evictOldest (store : Store) : Option Store :=
  (Scan.least (fun slot => (store.parts slot).data.isSome)
    (fun slot => (store.parts slot).seq) (List.finRange partCount)).map fun oldest =>
      { store with
        totalSize := store.totalSize - (store.parts oldest).size
        parts := Function.update store.parts oldest
          { store.parts oldest with data := none, size := 0 } }

/-- `while (total_size>TOTAL_LIMIT)`.  Every round empties a slot, so `partCount`
rounds are enough. -/
def evict : Nat → Store → Store
  | 0, store => store
  | rounds + 1, store =>
      if totalLimit < store.totalSize then
        match evictOldest store with
        | none => store
        | some store => evict rounds store
      else store

/-- Largest sequence number of a stored key fragment, zero without one. -/
def latestKey (parts : Fin partCount → Part) : Nat :=
  Scan.greatest (fun slot => (parts slot).data.isSome && (parts slot).key)
    (fun slot => (parts slot).seq) (List.finRange partCount)

/-- Recomputes `state.start` and `state.available`. -/
def rescan (store : Store) : Store :=
  let start := latestKey store.parts
  { store with state := { store.state with start := start, available := decide (start ≠ 0) } }

def storePart (key : Bool) (pts : Nat) (store : Store) : Store :=
  let sequence := (store.sequence + 1) % 2 ^ 64
  let slot := slotOf sequence
  { store with
    sequence := sequence
    totalSize := store.totalSize - (store.parts slot).size + store.pending.length
    parts := Function.update store.parts slot
      { data := some store.pending, size := store.pending.length, seq := sequence,
        pts := pts - store.firstPts, key := key }
    pending := []
    state := { store.state with latest := sequence } }

/-- The part of `airtizen_video_frame` behind the muxer check. -/
def packFrame (run : FrameRun) (key : Bool) (pts : Nat) (store : Store) : Int × Store :=
  if store.havePts ∧ pts ≤ store.lastPts then (-1, store)
  else
    let store := if store.havePts then store else { store with firstPts := pts, havePts := true }
    let store := { store with lastPts := pts }
    if !run.packetAllocated then (-1, restart store)
    else
      let store := outputAll store run.written.chunks
      if run.written.failed then (-1, restart store)
      else
        let store := outputAll store run.drained.chunks
        if run.drained.failed then (-1, restart store)
        else
          let store := outputAll store run.flushed
          if store.writeFailed ∨ store.pending = [] then (-1, restart store)
          else (1, rescan (evict partCount (storePart key pts store)))

def frame (run : FrameRun) (data : Bytes) (pts : Nat) (store : Store) : Int × Store :=
  if data = [] ∨ partLimit < data.length ∨ int64Max < pts then (-1, store)
  else
    let key := naluType 5 data
    if store.config = none then (-1, store)
    else if store.mux then packFrame run key pts store
    else if !key then (0, store)
    else
      match initializeMuxer run.initialized store with
      | none => (-1, restart store)
      | some store => packFrame run key pts store

def snapshot (store : Store) : State := store.state

/-- The bytes a reader is pointed at; empty when there are none. -/
def copySource (init : Bool) (seq : Nat) (store : Store) : Bytes :=
  if init then store.initData.getD []
  else
    let part := store.parts (slotOf seq)
    match part.data with
    | some data => if part.seq = seq then data.take part.size else []
    | none => []

/-- `airtizen_video_copy`: the copied bytes, absent for size zero, and the
generation they belong to.  `allocated` tells whether `malloc` succeeds. -/
def copy (allocated init : Bool) (seq : Nat) (store : Store) : Option Bytes × Nat :=
  let source := copySource init seq store
  (if source = [] ∨ !allocated then none else some source, store.state.generation)

/-! ## Runs -/

/-- A call that may change the store, with what its environment answered. -/
inductive Call where
  | configure (allocated : Bool) (data : Bytes)
  | frame (run : FrameRun) (data : Bytes) (pts : Nat)
  | reset

def step (store : Store) : Call → Store
  | .configure allocated data => (configure allocated data store).2
  | .frame run data pts => (frame run data pts store).2
  | .reset => reset store

/-- The store after the calls, from a fresh process. -/
def after (calls : List Call) : Store := Machine.run step Store.initial calls

/-! ## A small stream -/

/-- Parameter sets of a baseline stream, in Annex-B form. -/
def sampleConfig : Bytes := [0, 0, 0, 1, 0x67, 0x42, 0, 0x1e, 0, 0, 0, 1, 0x68, 0]

def sampleFrame : Bytes := [0, 0, 0, 1, 0x65, 0x11]

/-- libav opens a 320x180 stream and packs every frame into two bytes. -/
def sampleRun (first second : UInt8) : FrameRun where
  initialized := { width := 320, height := 180, header := { chunks := [{ bytes := [9, 9, 9] }] } }
  written := { chunks := [{ bytes := [first] }] }
  flushed := [{ bytes := [second] }]

/-- A configuration and `count` key frames, a thirtieth of a second apart. -/
def sampleCalls (count : Nat) : List Call :=
  .configure true sampleConfig ::
    (List.range count).map fun number =>
      .frame (sampleRun number.toUInt8 1) sampleFrame (number * 33333)

end AirTizen.Video

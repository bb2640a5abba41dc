import AirTizen.Library.Printf
import AirTizen.Media.Playback
import AirTizen.Status.Quote

/-!
# The status document

`airtizen_runtime_status_json` of `airtizen_runtime.c`: the snapshots it takes, the
buffers it quotes their texts into, and the format it prints.
-/

namespace AirTizen.Status

open CText Printf AirTizen.Media

/-! ## Snapshots -/

/-- The text in a `char` array of this size. -/
structure Field (size : Nat) where
  bytes : Bytes
  short : bytes.length < size
  terminated : 0 ∉ bytes

structure CoreState where
  running : Bool
  connected : Bool
  paired : Bool
  sampleRate : UInt32
  audioBytes : UInt64
  videoFrames : UInt64
  device : Field 128
  audio : Field 32
  codec : Field 16
  lastError : Field 128

structure VideoState where
  generation : UInt32
  width : UInt32
  height : UInt32
  latest : UInt64
  start : UInt64
  available : Bool
  mime : Field 80

structure PhotoState where
  generation : UInt32
  width : UInt32
  height : UInt32
  active : Bool
  dissolve : Bool
  ready : Bool
  failed : Bool

structure MetadataState where
  title : Field 256
  artist : Field 256
  album : Field 256
  artwork : UInt32
  progress : UInt32
  total : UInt32

/-- The ring of log lines in `airtizen_core.c`. -/
structure Logs where
  slots : Fin 32 → Field 180
  next : Nat
  count : Nat
  count_le : count ≤ 32

def Logs.lines (logs : Logs) : List Bytes :=
  (List.range logs.count).map fun i =>
    (logs.slots (Fin.ofNat 32 (logs.next + 32 - logs.count + i))).bytes

/-- The globals of `airtizen_runtime.c` with the snapshots taken under its lock. -/
structure State where
  started : Bool
  error : Field 80
  receiverName : Bytes
  mdns : Bool
  uxplayTest : Bool
  core : CoreState
  video : VideoState
  playback : PlaybackState
  photo : PhotoState
  metadata : MetadataState
  logs : Logs

inductive Platform where
  | nativeClient
  | tizen
  | host

def Platform.audioOutput : Platform → Bytes
  | .nativeClient => ascii "nacl"
  | .tizen => ascii "tizen"
  | .host => ascii "host_stub"

/-! ## Logs -/

/-- `quoted` in `airtizen_core_logs_json`. -/
def lineCapacity : Nat := 180 * 6 + 3

/-- The loop over the lines from line `i` on, with `used` bytes written. -/
def logsLoop (capacity used i : Nat) : List Bytes → Bytes
  | [] => []
  | line :: rest =>
      match jsonQuote lineCapacity line with
      | none => []
      | some quoted =>
          if used + quoted.length + 3 > capacity then []
          else
            let piece := (if i = 0 then [] else [44]) ++ quoted
            piece ++ logsLoop capacity (used + piece.length) (i + 1) rest

/-- `airtizen_core_logs_json`, for a capacity of at least three. -/
def logsJson (capacity : Nat) (lines : List Bytes) : Bytes :=
  91 :: logsLoop capacity 1 0 lines ++ [93]

/-! ## The document -/

/-- What a buffer holds behind `airtizen_json_quote`, which empties it when the
text does not fit. -/
def buffer (capacity : Nat) (text : Bytes) : Bytes := (jsonQuote capacity text).getD []

def orElse (text other : Bytes) : Bytes := if text = [] then other else text

namespace State

variable (state : State)

def failed : Bool := !state.error.bytes.isEmpty

def airplay : Bytes :=
  if state.failed then ascii "failed"
  else if state.core.connected then ascii "connected"
  else if state.started then ascii "advertising"
  else ascii "offline"

def lastError : Bytes :=
  if state.failed then state.error.bytes else state.core.lastError.bytes

def audioText : Bytes := orElse state.core.audio.bytes (ascii "closed")

def codecText : Bytes := orElse state.core.codec.bytes (ascii "AAC-ELD")

/-- The calls of `airtizen_json_quote`: the size of the buffer and the text. -/
def quotes : List (Nat × Bytes) :=
  [(1540, state.metadata.title.bytes), (1540, state.metadata.artist.bytes),
    (1540, state.metadata.album.bytes), (12300, state.playback.url),
    (500, state.video.mime.bytes), (300, state.receiverName),
    (800, state.core.device.bytes), (800, state.lastError), (200, state.audioText),
    (128, state.codecText)] ++
  state.logs.lines.map fun line => (lineCapacity, line)

def service : Bytes :=
  if state.started then ascii "running"
  else if state.failed then ascii "failed"
  else ascii "offline"

def profile : Bytes := if state.uxplayTest then ascii "uxplay-test" else ascii "native"

def model : Bytes := if state.uxplayTest then ascii "AppleTV3,2" else ascii "AirTizen1,1"

def featuresTxt : Bytes :=
  if state.uxplayTest then ascii "0x5A7FFEE6,0x0" else ascii "0x4803a383,0x0"

def detail : Bytes :=
  if state.failed then ascii "Receiver startup failed. Open diagnostics."
  else if state.started then ascii "Receiver running. Open AirPlay on your Apple device."
  else ascii "Receiver stopped."

end State

/-- The texts that `%.9g` prints for the doubles of the playback state. -/
structure Doubles where
  fraction : Bytes
  rate : Bytes
  seek : Bytes

def statusFormat : Bytes :=
  ascii "\x7b\"ok\":true,\"service\":\"%s\",\"receiverName\":%s," ++
  ascii "\"discovery\":\x7b\"profile\":\"%s\",\"model\":\"%s\",\"features\":\"%s\"," ++
  ascii "\"implementedFeatures\":\"0x4803a383,0x0\",\"sourceVersion\":\"220.68\"," ++
  ascii "\"experimental\":%s\x7d," ++
  ascii "\"capabilities\":\x7b\"audio\":true,\"mirroring\":true,\"videoStreaming\":true," ++
  ascii "\"photos\":true,\"photoCaching\":true,\"slideshow\":false,\"drm\":false," ++
  ascii "\"productionReady\":false,\"audioOutput\":\"%s\"\x7d," ++
  ascii "\"protocols\":\x7b\"airplay\":\x7b\"enabled\":true,\"state\":\"%s\",\"discoverable\":%s," ++
  ascii "\"connected\":%s,\"device\":%s,\"lastError\":%s\x7d\x7d," ++
  ascii "\"audio\":\x7b\"state\":%s,\"sampleRate\":%u,\"bytesReceived\":%llu\x7d," ++
  ascii "\"video\":\x7b\"available\":%s,\"generation\":%u,\"start\":%llu,\"latest\":%llu," ++
  ascii "\"width\":%u,\"height\":%u,\"mime\":%s,\"framesReceived\":%llu\x7d," ++
  ascii "\"nowPlaying\":\x7b\"title\":%s,\"artist\":%s,\"album\":%s,\"artwork\":%u," ++
  ascii "\"positionSamples\":%u,\"durationSamples\":%u\x7d," ++
  ascii "\"photo\":\x7b\"active\":%s,\"generation\":%u,\"width\":%u,\"height\":%u,\"dissolve\":%s," ++
  ascii "\"ready\":%s,\"failed\":%s\x7d," ++
  ascii "\"playback\":\x7b\"active\":%s,\"generation\":%u,\"command\":%u,\"url\":%s," ++
  ascii "\"fraction\":%.9g,\"rate\":%.9g,\"seek\":%.9g\x7d," ++
  ascii "\"status\":\x7b\"mdns\":\"%s\",\"raop\":\"%s\",\"pair\":\"%s\",\"audio\":%s," ++
  ascii "\"connected\":%s,\"device\":%s,\"codec\":%s,\"rate\":\"%u\",\"buffer\":\"adaptive\"," ++
  ascii "\"detail\":\"%s\",\"lastError\":%s\x7d,\"logs\":%s\x7d"

def flag (value : Bool) : Argument := .string (ascii (if value then "true" else "false"))

def arguments (platform : Platform) (state : State) (doubles : Doubles) : List Argument :=
  let audio := buffer 200 state.audioText
  let device := buffer 800 state.core.device.bytes
  let error := buffer 800 state.lastError
  [.string state.service, .string (buffer 300 state.receiverName),
    .string state.profile, .string state.model, .string state.featuresTxt,
    flag (state.profile == ascii "uxplay-test"),
    .string platform.audioOutput,
    .string state.airplay, flag state.mdns, flag state.core.connected, .string device,
    .string error,
    .string audio, .unsigned state.core.sampleRate.toNat,
    .unsignedLong state.core.audioBytes.toNat,
    flag state.video.available, .unsigned state.video.generation.toNat,
    .unsignedLong state.video.start.toNat, .unsignedLong state.video.latest.toNat,
    .unsigned state.video.width.toNat, .unsigned state.video.height.toNat,
    .string (buffer 500 state.video.mime.bytes), .unsignedLong state.core.videoFrames.toNat,
    .string (buffer 1540 state.metadata.title.bytes),
    .string (buffer 1540 state.metadata.artist.bytes),
    .string (buffer 1540 state.metadata.album.bytes), .unsigned state.metadata.artwork.toNat,
    .unsigned state.metadata.progress.toNat, .unsigned state.metadata.total.toNat,
    flag state.photo.active, .unsigned state.photo.generation.toNat,
    .unsigned state.photo.width.toNat, .unsigned state.photo.height.toNat,
    flag state.photo.dissolve, flag state.photo.ready, flag state.photo.failed,
    flag state.playback.active, .unsigned state.playback.generation,
    .unsigned state.playback.command, .string (buffer 12300 state.playback.url),
    .double doubles.fraction, .double doubles.rate, .double doubles.seek,
    .string (ascii (if state.mdns then "advertising" else "offline")),
    .string (ascii (if state.core.running then "listening" else "offline")),
    .string (ascii (if state.core.paired then "verified" else "idle")), .string audio,
    flag state.core.connected, .string device,
    .string (buffer 128 state.codecText), .unsigned state.core.sampleRate.toNat,
    .string state.detail, .string error, .string (logsJson 10000 state.logs.lines)]

/-- The size of `g_json`. -/
def jsonCapacity : Nat := 32768

def statusJson (platform : Platform) (state : State) (doubles : Doubles) : Option Bytes :=
  (printf (arguments platform state doubles) statusFormat).map fun text =>
    text.take (jsonCapacity - 1)

end AirTizen.Status

import AirTizen.Control.Request

/-!
# Routes of the control server

What `handle_client` reads off a path.  Every route has its own flag, and the
flags are computed one after the other into shared variables.
-/

namespace AirTizen.Control

open CText Binary64 Scanf

structure PlaybackReport where
  generation : Nat := 0
  position : Double := .finite 0
  duration : Double := .finite 0
  ready : Int := 0
  failed : Int := 0
  ended : Int := 0
  deriving DecidableEq

/-- The flags and variables that `handle_client` fills from the path. -/
structure Route where
  playbackReport : Bool := false
  report : PlaybackReport := {}
  artwork : Bool := false
  artworkVersion : Nat := 0
  photo : Bool := false
  photoReport : Bool := false
  photoGeneration : Nat := 0
  photoFailed : Int := 0
  hlsManifest : Bool := false
  hlsSegment : Bool := false
  hlsInit : Bool := false
  hlsGeneration : Nat := 0
  hlsFirst : Nat := 0
  hlsLast : Nat := 0
  mediaInit : Bool := false
  mediaSegment : Bool := false
  mediaSequence : Nat := 0

/-- The variable behind an integer conversion: its new value, or the old one if
the scan did not get there. -/
def unsignedAt (scanned : Scanned) (index : Nat) (old : Nat) : Nat :=
  match scanned.values[index]? with
  | some (.unsigned number) => number
  | _ => old

def signedAt (scanned : Scanned) (index : Nat) (old : Int) : Int :=
  match scanned.values[index]? with
  | some (.signed number) => number
  | _ => old

def doubleAt (scanned : Scanned) (index : Nat) (old : Double) : Double :=
  match scanned.values[index]? with
  | some (.double number) => number
  | _ => old

/-- All conversions succeeded, and `parsed` is where the string ends. -/
def scansWhole (scanned : Scanned) (count : Nat) (path : Bytes) : Bool :=
  scanned.count == count && (path.drop (scanned.parsed.getD 0)).isEmpty

def reportFormat : List Directive :=
  [literal "/playback/report?generation=", [.unsigned 32], literal "&position=", [.double],
    literal "&duration=", [.double], literal "&ready=", [.signed], literal "&failed=",
    [.signed, .position]].flatten

def endedFormat : List Directive := [literal "&ended=", [.signed, .position]].flatten

def artworkFormat : List Directive := [literal "/artwork/", [.unsigned 32, .position]].flatten

def photoFormat : List Directive := [literal "/photo/", [.unsigned 32, .position]].flatten

def photoReportFormat : List Directive :=
  [literal "/photo/report?generation=", [.unsigned 32], literal "&failed=",
    [.signed, .position]].flatten

def hlsSegmentFormat : List Directive :=
  [literal "/video/hls/", [.unsigned 32], literal "/", [.unsigned 64], literal "/",
    [.unsigned 64, .position]].flatten

def hlsInitFormat : List Directive :=
  [literal "/video/hls/", [.unsigned 32], literal "/init", [.position]].flatten

def isFlag (value : Int) : Bool := value == 0 || value == 1

def parseReport (path : Bytes) : Bool × PlaybackReport :=
  if (ascii "/playback/report?").isPrefixOf path then
    let scanned := sscanf reportFormat path
    let rest := path.drop (scanned.parsed.getD 0)
    let tail := sscanf endedFormat rest
    let complete := scanned.count == 5
    let report : PlaybackReport :=
      { generation := unsignedAt scanned 0 0
        position := doubleAt scanned 1 (.finite 0)
        duration := doubleAt scanned 2 (.finite 0)
        ready := signedAt scanned 3 0
        failed := signedAt scanned 4 0
        ended := if complete && !rest.isEmpty then signedAt tail 0 0 else 0 }
    (complete && (rest.isEmpty || scansWhole tail 1 rest) &&
      isFlag report.ready && isFlag report.failed && isFlag report.ended, report)
  else (false, {})

/-- `media_sequence`, when the rest of the path is a number below 2^64. -/
def parseMediaSequence (path : Bytes) : Option Nat :=
  if (ascii "/video/segment/").isPrefixOf path then
    let digits := path.drop 15
    if digits ≠ [] ∧ digits.all isDigit ∧ decimalValue digits < 2 ^ 64 then
      some (decimalValue digits)
    else none
  else none

def parseRoute (path : Bytes) : Route :=
  let report := parseReport path
  let artwork := sscanf artworkFormat path
  let photo := sscanf photoFormat path
  let photoReport := sscanf photoReportFormat path
  let segment := sscanf hlsSegmentFormat path
  let init := sscanf hlsInitFormat path
  let sequence := parseMediaSequence path
  { playbackReport := report.1
    report := report.2
    artwork := scansWhole artwork 1 path
    artworkVersion := unsignedAt artwork 0 0
    photo := scansWhole photo 1 path
    photoReport := scansWhole photoReport 2 path && isFlag (signedAt photoReport 1 0)
    photoGeneration := unsignedAt photoReport 0 (unsignedAt photo 0 0)
    photoFailed := signedAt photoReport 1 0
    hlsManifest := path == ascii "/video/live.m3u8"
    hlsSegment := scansWhole segment 3 path
    hlsInit := scansWhole init 1 path && decide (0 < init.parsed.getD 0)
    hlsGeneration := unsignedAt init 0 (unsignedAt segment 0 0)
    hlsFirst := unsignedAt segment 1 0
    hlsLast := unsignedAt segment 2 0
    mediaInit := path == ascii "/video/init"
    mediaSegment := sequence.isSome
    mediaSequence := sequence.getD 0 }

def isDiscoveryProfile (path : Bytes) : Bool :=
  path == ascii "/discovery/native" || path == ascii "/discovery/uxplay-test"

def Route.known (route : Route) (path : Bytes) : Bool :=
  route.photo || route.photoReport || route.artwork || route.playbackReport || route.mediaInit ||
    route.mediaSegment || route.hlsManifest || route.hlsInit || route.hlsSegment ||
    isDiscoveryProfile path || path == ascii "/status" || path == ascii "/start" ||
    path == ascii "/stop"

end AirTizen.Control

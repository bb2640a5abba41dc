import AirTizen.Library.Binary64
import AirTizen.Video.Store

/-!
# HLS playlists and segments

`airtizen_video_hls_manifest` and `airtizen_video_hls_segment`, which batch the
stored fragments into groups of fifteen.
-/

namespace AirTizen.Video

open CText

def hlsGroup : Nat := 15

def groupFirst (group : Nat) : Nat := group * hlsGroup + 1
def groupLast (group : Nat) : Nat := groupFirst group + hlsGroup - 1

def numbers (first last : Nat) : List Nat := List.range' first (last + 1 - first)

def groupValid (store : Store) (group : Nat) : Bool :=
  (numbers (groupFirst group) (groupLast group)).all fun number =>
    let part := store.parts (slotOf number)
    decide (part.seq = number) && part.data.isSome

/-- `(parts[last].pts+33333-parts[first].pts)/1000000.0`. -/
def groupDuration (store : Store) (group : Nat) : ℚ :=
  let first := store.parts (slotOf (groupFirst group))
  let last := store.parts (slotOf (groupLast group))
  Binary64.div (Binary64.ofNat ((last.pts + 33333 + 2 ^ 64 - first.pts) % 2 ^ 64)) 1000000

/-- `(unsigned)value`.  C leaves the result open when the value does not fit;
the platform then yields some 32-bit number. -/
def unsignedCast (undefinedCast : ℚ → Nat) (value : ℚ) : Nat :=
  if value < 2 ^ 32 then ⌊value⌋.toNat else undefinedCast value % 2 ^ 32

/-- The target duration: the longest group in whole seconds, rounded up. -/
def targetDuration (undefinedCast : ℚ → Nat) (longest : ℚ) : Nat :=
  let target := unsignedCast undefinedCast longest
  if (target : ℚ) < longest then (target + 1) % 2 ^ 32 else target

def authQuery (token : Bytes) : Bytes :=
  if token = [] then [] else ascii "?token=" ++ token

def initPath (generation : Nat) : Bytes :=
  ascii "/video/hls/" ++ decimal generation ++ ascii "/init"

def segmentPath (generation first last : Nat) : Bytes :=
  ascii "/video/hls/" ++ decimal generation ++ ascii "/" ++ decimal first ++ ascii "/" ++
    decimal last

def initUri (generation : Nat) (token : Bytes) : Bytes := initPath generation ++ authQuery token

def segmentUri (generation group : Nat) (token : Bytes) : Bytes :=
  segmentPath generation (groupFirst group) (groupLast group) ++ authQuery token

def manifestHeader (target firstGroup generation : Nat) (token : Bytes) : Bytes :=
  ascii "#EXTM3U\n#EXT-X-VERSION:7\n#EXT-X-TARGETDURATION:" ++ decimal target ++
    ascii "\n#EXT-X-MEDIA-SEQUENCE:" ++ decimal firstGroup ++
    ascii "\n#EXT-X-MAP:URI=\"" ++ initUri generation token ++ ascii "\"\n"

def manifestEntry (duration : ℚ) (generation group : Nat) (token : Bytes) : Bytes :=
  ascii "#EXTINF:" ++ Binary64.fixed6 duration ++ ascii ",\n" ++
    segmentUri generation group token ++ ascii "\n"

/-- The groups a playlist lists, absent when nothing can be listed. -/
def listedGroups (store : Store) : Option (List Nat) :=
  if store.initData.getD [] = [] ∨ store.sequence = 0 then none
  else if store.state.latest / hlsGroup = 0 then none
  else
    let lastGroup := store.state.latest / hlsGroup - 1
    let firstGroup := if 5 < lastGroup then lastGroup - 5 else 0
    -- skip evicted and partial groups; the rest is listed without another check
    match (numbers firstGroup lastGroup).find? (groupValid store) with
    | none => none
    | some firstGroup => some (numbers firstGroup lastGroup)

def longestGroup (store : Store) (groups : List Nat) : ℚ :=
  groups.foldl (fun longest group =>
    if longest < groupDuration store group then groupDuration store group else longest) 1

/-- The texts of the `snprintf` calls that build a playlist. -/
def manifestPieces (undefinedCast : ℚ → Nat) (token : Bytes) (store : Store)
    (groups : List Nat) : List Bytes :=
  manifestHeader (targetDuration undefinedCast (longestGroup store groups))
      (groups.headD 0) store.state.generation token ::
    groups.map fun group =>
      manifestEntry (groupDuration store group) store.state.generation group token

def manifestCapacity : Nat := 8192

def hlsManifest (undefinedCast : ℚ → Nat) (allocated : Bool) (token : Bytes) (store : Store) :
    Option Bytes :=
  match listedGroups store with
  | none => none
  | some groups =>
      let text := Buffer.printAll manifestCapacity (manifestPieces undefinedCast token store groups)
      if text.used < manifestCapacity ∧ allocated then some text.written else none

/-- The parts of a segment; absent once one is missing or the sizes exceed the
store's limit. -/
def gatherParts (store : Store) : List Nat → Nat → Option (List Bytes)
  | [], _ => some []
  | number :: rest, size =>
      let part := store.parts (slotOf number)
      match part.data with
      | none => none
      | some data =>
          if part.seq ≠ number ∨ totalLimit - size < part.size then none
          else (gatherParts store rest (size + part.size)).map (data.take part.size :: ·)

def hlsSegment (allocated : Bool) (generation first last : Nat) (store : Store) : Option Bytes :=
  if first = 0 ∨ last < first ∨ last - first ≠ hlsGroup - 1 ∨ (first - 1) % hlsGroup ≠ 0 then
    none
  else if generation ≠ store.state.generation ∨ store.state.latest < last then none
  else
    match gatherParts store (numbers first last) 0 with
    | none => none
    | some pieces => if allocated then some pieces.flatten else none

end AirTizen.Video

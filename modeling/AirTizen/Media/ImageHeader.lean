import Mathlib.Data.List.TakeWhile
import AirTizen.Library.Buffer
import AirTizen.Media.Photo

/-!
# Exactness of the image header scanner

`dimensions` of `airtizen_photo.c` with every access to the upload checked, and
the formats that it accepts: a PNG signature with its header chunk, or markers of a
JPEG up to a frame header.
-/

namespace AirTizen.Media

open CText Buffer

/-! ## The scan of the upload -/

/-- `be16(p+index)`. -/
def be16At (data : Bytes) (index : Nat) : Option Nat := (loadMany data index 2).map be16

/-- `be32(p+index)`. -/
def be32At (data : Bytes) (index : Nat) : Option Nat := (loadMany data index 4).map be32

def skipFill (data : Bytes) (index : Nat) : Option Nat :=
  if index < data.length then
    match load data index with
    | none => none
    | some byte => if byte = 255 then skipFill data (index + 1) else some index
  else some index
termination_by data.length - index

/-- What the loop does with `at` behind a marker: it ends, or goes on from an index. -/
def takeMarker (data : Bytes) (marker : UInt8) (index : Nat) :
    Option (Except (Option (Nat × Nat)) Nat) := do
  if marker = 217 ∨ marker = 218 then return .error none
  else if marker = 1 ∨ 208 ≤ marker ∧ marker ≤ 215 then return .ok index
  else if data.length < index + 2 then return .error none
  else
    let length ← be16At data index
    if length < 2 ∨ data.length - index < length then return .error none
    else if marker = 192 ∨ marker = 193 ∨ marker = 194 then
      if length < 8 then return .error none
      else if (← load data (index + 2)) ≠ 8 then return .error none
      else return .error (some (← be16At data (index + 5), ← be16At data (index + 3)))
    else return .ok (index + length)

def markerRound (data : Bytes) (index : Nat) : Option (Except (Option (Nat × Nat)) Nat) := do
  if (← load data index) ≠ 255 then return .error none
  else
    let index ← skipFill data (index + 1)
    if index = data.length then return .error none
    else takeMarker data (← load data index) (index + 1)

/-- The loop over markers: width and height in the frame header that is found.  The
outer `none` is an access outside of the upload, or more rounds than given; the
inner one is -1. -/
def markerLoop (data : Bytes) : Nat → Nat → Option (Option (Nat × Nat))
  | 0, _ => none
  | rounds + 1, index =>
      if index < data.length then do
        match ← markerRound data index with
        | .error size => return size
        | .ok index => markerLoop data rounds index
      else some none

def isPng (data : Bytes) : Option Bool := do
  if data.length < 33 then return false
  else if (← loadMany data 0 8) ≠ [137, 80, 78, 71, 13, 10, 26, 10] then return false
  else if (← be32At data 8) ≠ 13 then return false
  else return (← loadMany data 12 4) = ascii "IHDR"

def isJpeg (data : Bytes) : Option Bool := do
  if data.length < 4 then return false
  else if (← load data 0) ≠ 255 then return false
  else return (← load data 1) = 216

/-- The branches of `dimensions`, where the inner `none` is -1. -/
def headerAt (rounds : Nat) (data : Bytes) : Option (Option (Nat × Nat × Bytes)) := do
  match ← isPng data with
  | true => return some (← be32At data 16, ← be32At data 20, ascii "image/png")
  | false =>
      match ← isJpeg data with
      | true =>
          return (← markerLoop data rounds 2).map fun (width, height) =>
            (width, height, ascii "image/jpeg")
      | false => return none

/-- `dimensions`. -/
def dimensionsAt (rounds : Nat) (data : Bytes) : Option (Option (Nat × Nat × Bytes)) :=
  (headerAt rounds data).map fun found =>
    found.filter fun (width, height, _) =>
      !(width == 0 || height == 0 || 8192 < width || 8192 < height || 16000000 < width * height)

/-! ## The formats -/

/-- A field of two bytes with its own size and that of the payload, and the payload. -/
def sized (payload : Bytes) : Bytes := Octets.ofNat 2 (payload.length + 2) ++ payload

def frameHeader (width height : Nat) (components : Bytes) : Bytes :=
  8 :: (Octets.ofNat 2 height ++ (Octets.ofNat 2 width ++ components))

def StartsFrame (marker : UInt8) : Prop := marker = 0xc0 ∨ marker = 0xc1 ∨ marker = 0xc2

def EndsHeader (marker : UInt8) : Prop := marker = 0xd9 ∨ marker = 0xda

def StandsAlone (marker : UInt8) : Prop := marker = 0x01 ∨ 0xd0 ≤ marker ∧ marker ≤ 0xd7

/-- The bytes start with markers, each behind one or more fill bytes, of which the last
starts a frame of 8 bits, this width and this height.  A marker that neither stands
alone nor ends the header is followed by a segment. -/
inductive JpegFrame : Bytes → Nat → Nat → Prop
  | frame {fill : Nat} {marker : UInt8} {width height : Nat} {components rest : Bytes}
      (starts : StartsFrame marker) (wide : width < 2 ^ 16) (high : height < 2 ^ 16)
      (some_ : components ≠ []) (short : components.length + 7 < 2 ^ 16) :
      JpegFrame (List.replicate (fill + 1) 255 ++ marker ::
        (sized (frameHeader width height components) ++ rest)) width height
  | alone {fill : Nat} {marker : UInt8} {width height : Nat} {rest : Bytes}
      (alone : StandsAlone marker) (later : JpegFrame rest width height) :
      JpegFrame (List.replicate (fill + 1) 255 ++ marker :: rest) width height
  | segment {fill : Nat} {marker : UInt8} {width height : Nat} {payload rest : Bytes}
      (notFill : marker ≠ 255) (goesOn : ¬ EndsHeader marker) (notAlone : ¬ StandsAlone marker)
      (notFrame : ¬ StartsFrame marker) (short : payload.length + 2 < 2 ^ 16)
      (later : JpegFrame rest width height) :
      JpegFrame (List.replicate (fill + 1) 255 ++ marker :: (sized payload ++ rest)) width height

/-- The bytes are a PNG of at least 33 bytes that starts with a header chunk, or a
JPEG with a frame header, of this width, height and MIME type. -/
inductive ImageHeader : Bytes → Nat → Nat → Bytes → Prop
  | png {width height : Nat} {rest : Bytes} (wide : width < 2 ^ 32) (high : height < 2 ^ 32)
      (long : 9 ≤ rest.length) :
      ImageHeader ([137, 80, 78, 71, 13, 10, 26, 10] ++ (Octets.ofNat 4 13 ++ (ascii "IHDR" ++
        (Octets.ofNat 4 width ++ (Octets.ofNat 4 height ++ rest))))) width height
        (ascii "image/png")
  | jpeg {width height : Nat} {rest : Bytes} (long : 2 ≤ rest.length)
      (frame : JpegFrame rest width height) :
      ImageHeader (255 :: 216 :: rest) width height (ascii "image/jpeg")

/-! ## Every access is inside of the upload -/

variable {data front rest : Bytes} {index : Nat}

theorem load_offset (layout : data = front ++ rest) (start : front.length = index)
    (offset : Nat) : load data (index + offset) = rest[offset]? := by
  subst start
  rw [layout, load_append]

theorem loadMany_offset (layout : data = front ++ rest) (start : front.length = index)
    {offset count : Nat} (inside : offset + count ≤ rest.length) :
    loadMany data (index + offset) count = some ((rest.drop offset).take count) := by
  have shorter : offset ≤ rest.length := Nat.le_of_add_right_le inside
  have split : data = (front ++ rest.take offset) ++ rest.drop offset := by
    rw [List.append_assoc, List.take_append_drop, layout]
  have length : (front ++ rest.take offset).length = index + offset := by
    rw [List.length_append, List.length_take, Nat.min_eq_left shorter, start]
  rw [split, ← length]
  exact loadMany_append _ _ (by rw [List.length_drop]; omega)

theorem be16_take {bytes : Bytes} (long : 2 ≤ bytes.length) : be16 (bytes.take 2) = be16 bytes := by
  match bytes, long with
  | _ :: _ :: _, _ => rfl

theorem be32_take {bytes : Bytes} (long : 4 ≤ bytes.length) : be32 (bytes.take 4) = be32 bytes := by
  match bytes, long with
  | _ :: _ :: _ :: _ :: _, _ => rfl

theorem be16At_eq (layout : data = front ++ rest) (start : front.length = index) {offset : Nat}
    (inside : offset + 2 ≤ rest.length) :
    be16At data (index + offset) = some (be16 (rest.drop offset)) := by
  rw [be16At, loadMany_offset layout start inside, Option.map_some, be16_take]
  rw [List.length_drop]
  omega

theorem be32At_eq {offset : Nat} (inside : offset + 4 ≤ data.length) :
    be32At data offset = some (be32 (data.drop offset)) := by
  have loaded := @loadMany_offset data [] data 0 rfl rfl offset 4 inside
  rw [Nat.zero_add] at loaded
  rw [be32At, loaded, Option.map_some, be32_take]
  rw [List.length_drop]
  omega

theorem skipFill_eq (layout : data = front ++ rest) (start : front.length = index) :
    skipFill data index = some (index + (rest.takeWhile (· == 255)).length) := by
  have total : data.length = index + rest.length := by rw [layout, List.length_append, start]
  induction rest generalizing front index with
  | nil =>
      have stop : ¬ index < data.length := by simp [total]
      rw [skipFill, if_neg stop]
      rfl
  | cons byte rest inductionHypothesis =>
      have goesOn : index < data.length := by simp [total]
      have loaded := load_offset layout start 0
      rw [Nat.add_zero, List.getElem?_cons_zero] at loaded
      rw [skipFill, if_pos goesOn, loaded]
      by_cases fill : byte = 255
      · have layoutNext : data = (front ++ [byte]) ++ rest := by simp [layout]
        have startNext : (front ++ [byte]).length = index + 1 := by simp [start]
        have later := inductionHypothesis layoutNext startNext (by
          rw [total, List.length_cons]
          omega)
        simp only [fill, if_true, later, List.takeWhile_cons, beq_self_eq_true, List.length_cons]
        congr 1
        omega
      · simp [fill]

theorem jpegSize_nothing {rest : Bytes} (nothing : rest.dropWhile (· == 255) = []) :
    jpegSize (255 :: rest) = none := by
  rw [jpegSize, if_neg (not_not.mpr rfl)]
  split
  next => rfl
  next marker segment scanned =>
    rw [nothing] at scanned
    cases scanned

theorem jpegSize_marker {rest segment : Bytes} {marker : UInt8}
    (scanned : rest.dropWhile (· == 255) = marker :: segment) :
    jpegSize (255 :: rest) =
      if marker = 217 ∨ marker = 218 then none
      else if standaloneMarker marker then jpegSize segment
      else if segment.length < 2 then none
      else if be16 segment < 2 ∨ segment.length < be16 segment then none
      else if frameMarker marker then
        if be16 segment < 8 ∨ segment[2]? ≠ some 8 then none
        else some (be16 (segment.drop 5), be16 (segment.drop 3))
      else jpegSize (segment.drop (be16 segment)) := by
  rw [jpegSize, if_neg (not_not.mpr rfl)]
  split
  next nothing =>
    rw [nothing] at scanned
    cases scanned
  next other behind found =>
    rw [found] at scanned
    cases scanned
    rfl

/-- A marker ends the loop, or takes it to the end of its segment. -/
theorem takeMarker_cases {segment : Bytes} {marker : UInt8}
    (scanned : rest.dropWhile (· == 255) = marker :: segment) (layout : data = front ++ segment)
    (start : front.length = index) :
    takeMarker data marker index = some (.error (jpegSize (255 :: rest))) ∨
      ∃ taken, taken ≤ segment.length ∧ takeMarker data marker index = some (.ok (index + taken)) ∧
        jpegSize (255 :: rest) = jpegSize (segment.drop taken) := by
  have total : data.length = index + segment.length := by rw [layout, List.length_append, start]
  have alone_iff : standaloneMarker marker = true ↔ marker = 1 ∨ 208 ≤ marker ∧ marker ≤ 215 := by
    simp [standaloneMarker]
  have frame_iff : frameMarker marker = true ↔ marker = 192 ∨ marker = 193 ∨ marker = 194 := by
    simp [frameMarker, or_assoc]
  rw [jpegSize_marker scanned, takeMarker]
  by_cases final : marker = 217 ∨ marker = 218
  · rw [if_pos final, if_pos final]
    exact .inl rfl
  rw [if_neg final, if_neg final]
  by_cases alone : marker = 1 ∨ 208 ≤ marker ∧ marker ≤ 215
  · rw [if_pos alone, if_pos (alone_iff.mpr alone)]
    exact .inr ⟨0, Nat.zero_le _, rfl, rfl⟩
  rw [if_neg alone, if_neg (mt alone_iff.mp alone)]
  by_cases cut : segment.length < 2
  · rw [if_pos cut, if_pos (by omega)]
    exact .inl rfl
  have length := @be16At_eq _ _ _ _ layout start 0 (by omega)
  rw [Nat.add_zero, List.drop_zero] at length
  rw [if_neg cut, if_neg (by omega), length]
  have left : data.length - index = segment.length := by omega
  simp only [Option.bind_eq_bind, Option.bind_some, left]
  by_cases short : be16 segment < 2 ∨ segment.length < be16 segment
  · rw [if_pos short, if_pos short]
    exact .inl rfl
  rw [if_neg short, if_neg short]
  by_cases frame : marker = 192 ∨ marker = 193 ∨ marker = 194
  · rw [if_pos frame, if_pos (frame_iff.mpr frame)]
    left
    by_cases low : be16 segment < 8
    · rw [if_pos low, if_pos (.inl low)]
      rfl
    have inside : 2 < segment.length := by omega
    have precision := load_offset layout start 2
    rw [List.getElem?_eq_getElem inside] at precision ⊢
    rw [if_neg low, precision, be16At_eq layout start (by omega),
      be16At_eq layout start (by omega)]
    by_cases eight : segment[2] = 8
    · simp [low, eight]
    · simp [eight]
  · rw [if_neg frame, if_neg (mt frame_iff.mp frame)]
    exact .inr ⟨be16 segment, by omega, rfl, rfl⟩

theorem markerRound_nothing (layout : data = front ++ 255 :: rest) (start : front.length = index)
    (nothing : rest.dropWhile (· == 255) = []) : markerRound data index = some (.error none) := by
  have lead := load_offset layout start 0
  rw [Nat.add_zero, List.getElem?_cons_zero] at lead
  have layoutNext : data = (front ++ [255]) ++ rest := by simp [layout]
  have startNext : (front ++ [255]).length = index + 1 := by simp [start]
  have fill : rest.takeWhile (· == 255) = rest := by
    have pieces := @List.takeWhile_append_dropWhile _ (· == 255) rest
    rwa [nothing, List.append_nil] at pieces
  have ends : index + 1 + rest.length = data.length := by
    rw [layoutNext, List.length_append, startNext]
  simp [markerRound, lead, skipFill_eq layoutNext startNext, fill, ends]

/-- A round takes the marker behind the fill bytes. -/
theorem markerRound_marker {segment : Bytes} {marker : UInt8}
    (layout : data = front ++ 255 :: rest) (start : front.length = index)
    (scanned : rest.dropWhile (· == 255) = marker :: segment) :
    ∃ before, data = before ++ segment ∧
      markerRound data index = takeMarker data marker before.length := by
  have lead := load_offset layout start 0
  rw [Nat.add_zero, List.getElem?_cons_zero] at lead
  have layoutNext : data = (front ++ [255]) ++ rest := by simp [layout]
  have startNext : (front ++ [255]).length = index + 1 := by simp [start]
  have skipped := skipFill_eq layoutNext startNext
  have pieces := @List.takeWhile_append_dropWhile _ (· == 255) rest
  rw [scanned] at pieces
  have layoutMarker : data = (front ++ 255 :: rest.takeWhile (· == 255)) ++ marker :: segment := by
    rw [List.append_assoc, List.cons_append, pieces, layout]
  have startMarker : (front ++ 255 :: rest.takeWhile (· == 255)).length =
      index + 1 + (rest.takeWhile (· == 255)).length := by
    rw [List.length_append, List.length_cons, start]
    omega
  generalize index + 1 + (rest.takeWhile (· == 255)).length = next at skipped startMarker
  have markerAt := load_offset layoutMarker startMarker 0
  rw [Nat.add_zero, List.getElem?_cons_zero] at markerAt
  have inside : next ≠ data.length := by
    rw [layoutMarker, List.length_append, startMarker, List.length_cons]
    omega
  refine ⟨front ++ 255 :: rest.takeWhile (· == 255) ++ [marker], ?_, ?_⟩
  · rw [layoutMarker, List.append_assoc _ [marker], List.singleton_append]
  · rw [List.length_append, startMarker, List.length_singleton]
    simp [markerRound, lead, skipped, inside, markerAt]

/-- A round ends the loop, or leaves fewer bytes with the same frame header. -/
theorem markerRound_cases {byte : UInt8} (layout : data = front ++ byte :: rest)
    (start : front.length = index) :
    markerRound data index = some (.error (jpegSize (byte :: rest))) ∨
      ∃ before behind, data = before ++ behind ∧ behind.length ≤ rest.length ∧
        markerRound data index = some (.ok before.length) ∧
        jpegSize (byte :: rest) = jpegSize behind := by
  by_cases lead : byte = 255
  · subst lead
    cases scanned : rest.dropWhile (· == 255) with
    | nil =>
        left
        rw [markerRound_nothing layout start scanned, jpegSize_nothing scanned]
    | cons marker segment =>
        have shorter := (List.dropWhile_sublist (p := (· == 255)) (l := rest)).length_le
        rw [scanned, List.length_cons] at shorter
        obtain ⟨before, split, round⟩ := markerRound_marker layout start scanned
        rw [round]
        rcases takeMarker_cases scanned split rfl with ended | ⟨taken, most, goesOn, same⟩
        · exact .inl ended
        · refine .inr ⟨before ++ segment.take taken, segment.drop taken, ?_, ?_, ?_, same⟩
          · rw [List.append_assoc, List.take_append_drop, split]
          · rw [List.length_drop]
            omega
          · rw [List.length_append, List.length_take, Nat.min_eq_left most, goesOn]
  · have loaded := load_offset layout start 0
    rw [Nat.add_zero, List.getElem?_cons_zero] at loaded
    left
    rw [jpegSize]
    simp [markerRound, loaded, lead]

theorem markerLoop_eq {rounds : Nat} (layout : data = front ++ rest) (start : front.length = index)
    (enough : rest.length < rounds) : markerLoop data rounds index = some (jpegSize rest) := by
  induction rounds generalizing front rest index with
  | zero => exact absurd enough (Nat.not_lt_zero _)
  | succ rounds inductionHypothesis =>
      have total : data.length = index + rest.length := by rw [layout, List.length_append, start]
      cases rest with
      | nil =>
          have stop : ¬ index < data.length := by simp [total]
          rw [markerLoop, if_neg stop, jpegSize]
      | cons byte rest =>
          have goesOn : index < data.length := by simp [total]
          rw [List.length_cons] at enough
          rw [markerLoop, if_pos goesOn]
          rcases markerRound_cases layout start with
            ended | ⟨before, behind, split, shorter, round, same⟩
          · rw [ended]
            rfl
          · rw [round, same]
            exact inductionHypothesis split rfl (by omega)

theorem isPng_eq (data : Bytes) : isPng data =
    some (decide (33 ≤ data.length ∧ data.take 8 = [137, 80, 78, 71, 13, 10, 26, 10] ∧
      be32 (data.drop 8) = 13 ∧ (data.drop 12).take 4 = ascii "IHDR")) := by
  rw [isPng]
  by_cases short : data.length < 33
  · rw [if_pos short, decide_eq_false (by omega)]
    rfl
  have signature := @loadMany_offset data [] data 0 rfl rfl 0 8 (by omega)
  have chunk := @loadMany_offset data [] data 0 rfl rfl 12 4 (by omega)
  rw [Nat.zero_add] at signature chunk
  rw [if_neg short, signature, be32At_eq (by omega), chunk]
  have long : 33 ≤ data.length := Nat.not_lt.mp short
  simp only [Option.bind_eq_bind, Option.bind_some, List.drop_zero, long, true_and]
  by_cases start : data.take 8 = [137, 80, 78, 71, 13, 10, 26, 10]
  · by_cases size : be32 (data.drop 8) = 13
    · simp [start, size]
    · simp [start, size]
  · simp [start]

theorem isJpeg_eq (data : Bytes) :
    isJpeg data = some (decide (4 ≤ data.length ∧ data.take 2 = [255, 216])) := by
  rw [isJpeg]
  by_cases short : data.length < 4
  · rw [if_pos short, decide_eq_false (by omega)]
    rfl
  match data, Nat.not_lt.mp short with
  | first :: second :: third :: fourth :: rest, _ =>
      by_cases start : first = 255
      · simp [load, start]
      · simp [load, start]

theorem headerAt_eq {rounds : Nat} {data : Bytes} (enough : data.length < rounds) :
    headerAt rounds data = some (header data) := by
  rw [headerAt, header, isPng_eq, isJpeg_eq]
  simp only [Option.bind_eq_bind, Option.bind_some]
  by_cases png : 33 ≤ data.length ∧ data.take 8 = [137, 80, 78, 71, 13, 10, 26, 10] ∧
      be32 (data.drop 8) = 13 ∧ (data.drop 12).take 4 = ascii "IHDR"
  · have long := png.1
    rw [if_pos png, decide_eq_true png, be32At_eq (by omega), be32At_eq (by omega)]
    rfl
  rw [if_neg png, decide_eq_false png]
  by_cases jpeg : 4 ≤ data.length ∧ data.take 2 = [255, 216]
  · have layout := (List.take_append_drop 2 data).symm
    have start : (data.take 2).length = 2 := by
      rw [jpeg.2]
      rfl
    have left : (data.drop 2).length < rounds := by
      rw [List.length_drop]
      omega
    rw [if_pos jpeg, decide_eq_true jpeg]
    simp only [markerLoop_eq layout start left]
    rfl
  · rw [if_neg jpeg, decide_eq_false jpeg]
    rfl

theorem dimensionsAt_eq {rounds : Nat} {data : Bytes} (enough : data.length < rounds) :
    dimensionsAt rounds data = some (dimensions data) := by
  rw [dimensionsAt, headerAt_eq enough, dimensions, Option.map_some]
  congr 2
  funext ⟨width, height, mime⟩
  rw [Bool.eq_iff_iff]
  simp only [Bool.not_eq_true', Bool.or_eq_false_iff, beq_eq_false_iff_ne, decide_eq_false_iff_not,
    Bool.and_eq_true, decide_eq_true_eq]
  omega

/-! ## Exactness -/

theorem be16_eq {bytes : Bytes} (long : 2 ≤ bytes.length) :
    be16 bytes = Octets.toNat (bytes.take 2) := by
  match bytes, long with
  | high :: low :: _, _ => simp [be16, Octets.toNat]

theorem be32_eq {bytes : Bytes} (long : 4 ≤ bytes.length) :
    be32 bytes = Octets.toNat (bytes.take 4) := by
  match bytes, long with
  | b0 :: b1 :: b2 :: b3 :: _, _ => simp [be32, Octets.toNat, Nat.add_assoc]

theorem be16_ofNat {number : Nat} (small : number < 2 ^ 16) (rest : Bytes) :
    be16 (Octets.ofNat 2 number ++ rest) = number := by
  have size : (Octets.ofNat 2 number).length = 2 := Octets.length_ofNat 2 number
  rw [be16_eq (by rw [List.length_append, size]; omega), List.take_left' size,
    Octets.toNat_ofNat]
  exact Nat.mod_eq_of_lt small

theorem be32_ofNat {number : Nat} (small : number < 2 ^ 32) (rest : Bytes) :
    be32 (Octets.ofNat 4 number ++ rest) = number := by
  have size : (Octets.ofNat 4 number).length = 4 := Octets.length_ofNat 4 number
  rw [be32_eq (by rw [List.length_append, size]; omega), List.take_left' size,
    Octets.toNat_ofNat]
  exact Nat.mod_eq_of_lt small

theorem be16_lt (bytes : Bytes) : be16 bytes < 2 ^ 16 := by
  unfold be16
  split
  next high low _ =>
    have highSmall := high.toNat_lt
    have lowSmall := low.toNat_lt
    omega
  · decide

theorem be32_lt (bytes : Bytes) : be32 bytes < 2 ^ 32 := by
  unfold be32
  split
  next b0 b1 b2 b3 _ =>
    have small0 := b0.toNat_lt
    have small1 := b1.toNat_lt
    have small2 := b2.toNat_lt
    have small3 := b3.toNat_lt
    omega
  · decide

theorem ofNat_be16 {bytes : Bytes} (long : 2 ≤ bytes.length) :
    Octets.ofNat 2 (be16 bytes) ++ bytes.drop 2 = bytes := by
  have digits := Octets.ofNat_toNat (bytes.take 2)
  rw [List.length_take, Nat.min_eq_left long, ← be16_eq long] at digits
  rw [digits, List.take_append_drop]

theorem ofNat_be32 {bytes : Bytes} (long : 4 ≤ bytes.length) :
    Octets.ofNat 4 (be32 bytes) ++ bytes.drop 4 = bytes := by
  have digits := Octets.ofNat_toNat (bytes.take 4)
  rw [List.length_take, Nat.min_eq_left long, ← be32_eq long] at digits
  rw [digits, List.take_append_drop]

theorem length_frameHeader (width height : Nat) (components : Bytes) :
    (frameHeader width height components).length = components.length + 5 := by
  simp only [frameHeader, List.length_cons, List.length_append, Octets.length_ofNat]
  omega

theorem length_sized (payload : Bytes) : (sized payload).length = payload.length + 2 := by
  rw [sized, List.length_append, Octets.length_ofNat, Nat.add_comm]

theorem be16_sized {payload : Bytes} (short : payload.length + 2 < 2 ^ 16) (rest : Bytes) :
    be16 (sized payload ++ rest) = payload.length + 2 := by
  rw [sized, List.append_assoc, be16_ofNat short]

theorem exists_sized {bytes : Bytes} (long : 2 ≤ be16 bytes) (inside : be16 bytes ≤ bytes.length) :
    ∃ payload rest, bytes = sized payload ++ rest ∧ be16 bytes = payload.length + 2 ∧
      payload.length + 2 < 2 ^ 16 ∧ bytes.drop (be16 bytes) = rest := by
  have split := ofNat_be16 (long.trans inside)
  have size : ((bytes.drop 2).take (be16 bytes - 2)).length + 2 = be16 bytes := by
    rw [List.length_take, List.length_drop]
    omega
  refine ⟨(bytes.drop 2).take (be16 bytes - 2), (bytes.drop 2).drop (be16 bytes - 2), ?_,
    size.symm, ?_, ?_⟩
  · rw [sized, size, List.append_assoc, List.take_append_drop, split]
  · rw [size]
    exact be16_lt bytes
  · rw [List.drop_drop]
    congr 1
    omega

theorem dropWhile_fill {fill : Nat} {marker : UInt8} (notFill : marker ≠ 255) (rest : Bytes) :
    (List.replicate fill 255 ++ marker :: rest).dropWhile (· == 255) = marker :: rest := by
  rw [List.dropWhile_append_of_pos (by simp), List.dropWhile_cons_of_neg (by simpa using notFill)]

theorem exists_fill {bytes rest : Bytes} {marker : UInt8}
    (scanned : bytes.dropWhile (· == 255) = marker :: rest) :
    marker ≠ 255 ∧ ∃ fill, bytes = List.replicate fill 255 ++ marker :: rest := by
  constructor
  · have stopped := List.head?_dropWhile_not (· == 255) bytes
    simpa [scanned] using stopped
  · have pieces := List.takeWhile_append_dropWhile (p := (· == 255)) (l := bytes)
    have filled : bytes.takeWhile (· == 255) =
        List.replicate (bytes.takeWhile (· == 255)).length 255 := by
      refine List.eq_replicate_of_mem fun byte membership => ?_
      simpa using List.mem_takeWhile_imp membership
    refine ⟨(bytes.takeWhile (· == 255)).length, ?_⟩
    rw [← filled, ← scanned, pieces]

theorem standaloneMarker_iff {marker : UInt8} :
    standaloneMarker marker = true ↔ StandsAlone marker := by
  simp [standaloneMarker, StandsAlone]

theorem frameMarker_iff {marker : UInt8} : frameMarker marker = true ↔ StartsFrame marker := by
  simp [frameMarker, StartsFrame, or_assoc]

theorem StartsFrame.others {marker : UInt8} (starts : StartsFrame marker) :
    marker ≠ 255 ∧ ¬ EndsHeader marker ∧ ¬ StandsAlone marker := by
  unfold EndsHeader StandsAlone
  rcases starts with rfl | rfl | rfl <;> decide

theorem StandsAlone.others {marker : UInt8} (alone : StandsAlone marker) :
    marker ≠ 255 ∧ ¬ EndsHeader marker := by
  unfold EndsHeader
  rcases alone with rfl | ⟨low, high⟩
  · decide
  · refine ⟨?_, ?_⟩
    · rintro rfl
      exact absurd high (by decide)
    · rintro (rfl | rfl)
      · exact absurd high (by decide)
      · exact absurd high (by decide)

section

variable {segment : Bytes} {marker : UInt8}

theorem jpegSize_ends (scanned : rest.dropWhile (· == 255) = marker :: segment)
    (ends : EndsHeader marker) : jpegSize (255 :: rest) = none := by
  have final : marker = 217 ∨ marker = 218 := ends
  rw [jpegSize_marker scanned, if_pos final]

theorem jpegSize_alone (scanned : rest.dropWhile (· == 255) = marker :: segment)
    (alone : StandsAlone marker) : jpegSize (255 :: rest) = jpegSize segment := by
  have goesOn : ¬ (marker = 217 ∨ marker = 218) := alone.others.2
  rw [jpegSize_marker scanned, if_neg goesOn, if_pos (standaloneMarker_iff.mpr alone)]

theorem jpegSize_cut (scanned : rest.dropWhile (· == 255) = marker :: segment)
    (notAlone : ¬ StandsAlone marker)
    (cut : segment.length < 2 ∨ be16 segment < 2 ∨ segment.length < be16 segment) :
    jpegSize (255 :: rest) = none := by
  rw [jpegSize_marker scanned, if_neg (mt standaloneMarker_iff.mp notAlone)]
  by_cases short : segment.length < 2
  · simp only [if_pos short, ite_self]
  · simp only [if_neg short, if_pos (cut.resolve_left short), ite_self]

theorem jpegSize_segment {payload behind : Bytes}
    (scanned : rest.dropWhile (· == 255) = marker :: (sized payload ++ behind))
    (goesOn : ¬ EndsHeader marker) (notAlone : ¬ StandsAlone marker)
    (short : payload.length + 2 < 2 ^ 16) :
    jpegSize (255 :: rest) =
      if frameMarker marker then
        if payload.length < 6 ∨ payload[0]? ≠ some 8 then none
        else some (be16 (payload.drop 3), be16 (payload.drop 1))
      else jpegSize behind := by
  have notFinal : ¬ (marker = 217 ∨ marker = 218) := goesOn
  have size : (sized payload ++ behind).length = payload.length + 2 + behind.length := by
    rw [List.length_append, length_sized]
  have long : ¬ (sized payload ++ behind).length < 2 := by omega
  have inside : ¬ (payload.length + 2 < 2 ∨
      (sized payload ++ behind).length < payload.length + 2) := by
    omega
  rw [jpegSize_marker scanned, if_neg notFinal, if_neg (mt standaloneMarker_iff.mp notAlone),
    if_neg long, be16_sized short, if_neg inside, List.drop_left' (length_sized payload)]
  by_cases frame : frameMarker marker = true
  · rw [if_pos frame, if_pos frame]
    by_cases few : payload.length < 6
    · rw [if_pos (.inl (by omega)), if_pos (.inl few)]
    match payload, Nat.not_lt.mp few with
    | b0 :: b1 :: b2 :: b3 :: b4 :: b5 :: more, enough =>
        have sameLow : ∀ number, number + 2 < 8 ↔ number < 6 := by omega
        simp only [sameLow]
        rfl
  · rw [if_neg frame, if_neg frame]

end

theorem JpegFrame.jpegSize_eq {bytes : Bytes} {width height : Nat}
    (frame : JpegFrame bytes width height) : jpegSize bytes = some (width, height) := by
  induction frame with
  | @frame fill marker width height components rest starts wide high some_ short =>
      obtain ⟨notFill, goesOn, notAlone⟩ := starts.others
      have size := length_frameHeader width height components
      have positive := List.length_pos_of_ne_nil some_
      have enough : ¬ ((frameHeader width height components).length < 6 ∨
          (frameHeader width height components)[0]? ≠ some 8) := by
        have eight : (frameHeader width height components)[0]? = some 8 := rfl
        rintro (few | other)
        · omega
        · exact other eight
      have heightAt : (frameHeader width height components).drop 1 =
          Octets.ofNat 2 height ++ (Octets.ofNat 2 width ++ components) := rfl
      have widthAt : (frameHeader width height components).drop 3 =
          Octets.ofNat 2 width ++ components := rfl
      rw [List.replicate_succ, List.cons_append, jpegSize_segment (dropWhile_fill notFill _) goesOn
        notAlone (by omega), if_pos (frameMarker_iff.mpr starts), if_neg enough, widthAt,
        be16_ofNat wide, heightAt, be16_ofNat high]
  | @alone fill marker width height rest alone later inductionHypothesis =>
      rw [List.replicate_succ, List.cons_append,
        jpegSize_alone (dropWhile_fill alone.others.1 _) alone, inductionHypothesis]
  | @segment fill marker width height payload rest notFill goesOn notAlone notFrame short later
      inductionHypothesis =>
      rw [List.replicate_succ, List.cons_append, jpegSize_segment (dropWhile_fill notFill _) goesOn
        notAlone short, if_neg (mt frameMarker_iff.mp notFrame), inductionHypothesis]

theorem exists_frame {payload : Bytes} (long : 6 ≤ payload.length) (eight : payload[0]? = some 8) :
    ∃ components, components ≠ [] ∧
      payload = frameHeader (be16 (payload.drop 3)) (be16 (payload.drop 1)) components := by
  cases payload with
  | nil => cases eight
  | cons precision fields =>
      obtain rfl : precision = 8 := by simpa using eight
      rw [List.length_cons] at long
      have height := @ofNat_be16 fields (by omega)
      have width := @ofNat_be16 (fields.drop 2) (by rw [List.length_drop]; omega)
      refine ⟨(fields.drop 2).drop 2, ?_, ?_⟩
      · intro nothing
        rw [List.drop_drop, List.drop_eq_nil_iff] at nothing
        omega
      · rw [frameHeader, List.drop_one, List.tail_cons, List.drop_succ_cons, width, height]

theorem jpegFrame_of_jpegSize (bytes : Bytes) {width height : Nat}
    (found : jpegSize bytes = some (width, height)) : JpegFrame bytes width height := by
  induction length : bytes.length using Nat.strong_induction_on generalizing bytes with
  | _ total inductionHypothesis =>
      cases bytes with
      | nil => simp [jpegSize] at found
      | cons byte rest =>
          by_cases lead : byte = 255
          · subst lead
            cases scanned : rest.dropWhile (· == 255) with
            | nil =>
                rw [jpegSize_nothing scanned] at found
                cases found
            | cons marker segment =>
                obtain ⟨notFill, fill, rfl⟩ := exists_fill scanned
                have whole : 255 :: (List.replicate fill 255 ++ marker :: segment) =
                    List.replicate (fill + 1) 255 ++ marker :: segment := rfl
                simp only [List.length_cons, List.length_append] at length
                rw [whole]
                by_cases ends : EndsHeader marker
                · rw [jpegSize_ends scanned ends] at found
                  cases found
                by_cases alone : StandsAlone marker
                · rw [jpegSize_alone scanned alone] at found
                  exact .alone alone (inductionHypothesis segment.length (by omega) _ found rfl)
                by_cases cut : segment.length < 2 ∨ be16 segment < 2 ∨ segment.length < be16 segment
                · rw [jpegSize_cut scanned alone cut] at found
                  cases found
                obtain ⟨payload, behind, rfl, _, short, _⟩ :=
                  @exists_sized segment (by omega) (by omega)
                rw [jpegSize_segment scanned ends alone short] at found
                by_cases frame : StartsFrame marker
                · rw [if_pos (frameMarker_iff.mpr frame)] at found
                  by_cases refused : payload.length < 6 ∨ payload[0]? ≠ some 8
                  · rw [if_pos refused] at found
                    cases found
                  rw [if_neg refused] at found
                  cases found
                  rw [not_or, Nat.not_lt, not_not] at refused
                  obtain ⟨components, some_, fields⟩ := exists_frame refused.1 refused.2
                  have size := congrArg List.length fields
                  rw [length_frameHeader] at size
                  have built := @JpegFrame.frame fill marker _ _ components behind frame
                    (be16_lt (payload.drop 3)) (be16_lt (payload.drop 1)) some_ (by omega)
                  rwa [← fields] at built
                · rw [if_neg (mt frameMarker_iff.mp frame)] at found
                  rw [List.length_append, length_sized] at length
                  exact .segment notFill ends alone frame short
                    (inductionHypothesis behind.length (by omega) _ found rfl)
          · rw [jpegSize, if_pos lead] at found
            cases found

theorem jpegSize_iff {bytes : Bytes} {width height : Nat} :
    jpegSize bytes = some (width, height) ↔ JpegFrame bytes width height :=
  ⟨jpegFrame_of_jpegSize bytes, JpegFrame.jpegSize_eq⟩

theorem header_png {width height : Nat} {rest : Bytes} (wide : width < 2 ^ 32)
    (high : height < 2 ^ 32) (long : 9 ≤ rest.length) :
    header ([137, 80, 78, 71, 13, 10, 26, 10] ++ (Octets.ofNat 4 13 ++ (ascii "IHDR" ++
      (Octets.ofNat 4 width ++ (Octets.ofNat 4 height ++ rest))))) =
        some (width, height, ascii "image/png") := by
  generalize layout : [137, 80, 78, 71, 13, 10, 26, 10] ++ (Octets.ofNat 4 13 ++
    (ascii "IHDR" ++ (Octets.ofNat 4 width ++ (Octets.ofNat 4 height ++ rest)))) = data
  have signature : data.take 8 = [137, 80, 78, 71, 13, 10, 26, 10] := by
    rw [← layout]
    rfl
  have size : be32 (data.drop 8) = 13 := by
    rw [← layout]
    exact be32_ofNat (by decide) _
  have name : (data.drop 12).take 4 = ascii "IHDR" := by
    rw [← layout]
    rfl
  have widthAt : be32 (data.drop 16) = width := by
    rw [← layout]
    exact be32_ofNat wide _
  have heightAt : be32 (data.drop 20) = height := by
    rw [← layout]
    exact be32_ofNat high _
  have total : 33 ≤ data.length := by
    have letters : (ascii "IHDR").length = 4 := rfl
    rw [← layout]
    simp only [List.length_append, List.length_cons, List.length_nil, Octets.length_ofNat, letters]
    omega
  rw [header, if_pos ⟨total, signature, size, name⟩, widthAt, heightAt]

theorem header_iff {data mime : Bytes} {width height : Nat} :
    header data = some (width, height, mime) ↔ ImageHeader data width height mime := by
  constructor
  · intro found
    rw [header] at found
    by_cases png : 33 ≤ data.length ∧ data.take 8 = [137, 80, 78, 71, 13, 10, 26, 10] ∧
        be32 (data.drop 8) = 13 ∧ (data.drop 12).take 4 = ascii "IHDR"
    · rw [if_pos png] at found
      cases found
      obtain ⟨long, signature, size, name⟩ := png
      have sizeAt := @ofNat_be32 (data.drop 8) (by rw [List.length_drop]; omega)
      have widthAt := @ofNat_be32 (data.drop 16) (by rw [List.length_drop]; omega)
      have heightAt := @ofNat_be32 (data.drop 20) (by rw [List.length_drop]; omega)
      have nameAt := List.take_append_drop 4 (data.drop 12)
      rw [List.drop_drop] at sizeAt widthAt heightAt nameAt
      have built := @ImageHeader.png _ _ (data.drop 24) (be32_lt (data.drop 16))
        (be32_lt (data.drop 20)) (by rw [List.length_drop]; omega)
      rwa [heightAt, widthAt, ← name, nameAt, ← size, sizeAt, ← signature,
        List.take_append_drop] at built
    rw [if_neg png] at found
    by_cases jpeg : 4 ≤ data.length ∧ data.take 2 = [255, 216]
    · rw [if_pos jpeg] at found
      obtain ⟨⟨foundWidth, foundHeight⟩, size, same⟩ := Option.map_eq_some_iff.mp found
      cases same
      obtain ⟨long, start⟩ := jpeg
      have built := @ImageHeader.jpeg _ _ (data.drop 2) (by rw [List.length_drop]; omega)
        (jpegSize_iff.mp size)
      have whole : 255 :: 216 :: data.drop 2 = data.take 2 ++ data.drop 2 := by
        rw [start]
        rfl
      rwa [whole, List.take_append_drop] at built
    · rw [if_neg jpeg] at found
      cases found
  · intro image
    cases image with
    | png wide high long => exact header_png wide high long
    | @jpeg _ _ rest long frame =>
        have notPng : ¬ (33 ≤ (255 :: 216 :: rest).length ∧
            (255 :: 216 :: rest).take 8 = [137, 80, 78, 71, 13, 10, 26, 10] ∧
            be32 ((255 :: 216 :: rest).drop 8) = 13 ∧
            ((255 :: 216 :: rest).drop 12).take 4 = ascii "IHDR") := by
          rintro ⟨_, signature, _⟩
          cases signature
        have start : (255 :: 216 :: rest).drop 2 = rest := rfl
        rw [header, if_neg notPng, if_pos ⟨Nat.add_le_add_right long 2, rfl⟩, start,
          frame.jpegSize_eq]
        rfl

/-- The scanner ends after at most one round for each byte, without an access outside
of the upload, and accepts exactly the headers whose size is within the limits. -/
theorem dimensions_exact {rounds : Nat} {data : Bytes} (enough : data.length < rounds) :
    dimensionsAt rounds data = some (dimensions data) ∧
      ∀ width height mime, dimensions data = some (width, height, mime) ↔
        ImageHeader data width height mime ∧ 1 ≤ width ∧ width ≤ 8192 ∧ 1 ≤ height ∧
          height ≤ 8192 ∧ width * height ≤ 16000000 := by
  refine ⟨dimensionsAt_eq enough, fun width height mime => ?_⟩
  rw [dimensions, Option.filter_eq_some_iff, header_iff]
  refine and_congr_right fun _ => ?_
  simp only [Bool.and_eq_true, decide_eq_true_eq]
  omega

theorem dimensions_exact_onePixel :
    dimensionsAt 34 onePixel = some (some (1, 1, ascii "image/png")) ∧
      ImageHeader onePixel 1 1 (ascii "image/png") := by
  have scanned : dimensionsAt 34 onePixel = some (some (1, 1, ascii "image/png")) := by
    decide +kernel
  obtain ⟨same, accepted⟩ := @dimensions_exact 34 onePixel (by decide)
  have found := same.symm.trans scanned
  exact ⟨scanned, ((accepted 1 1 _).mp (Option.some.inj found)).1⟩

/-- Two fill bytes, a marker that stands alone and a segment in front of the frame. -/
example : jpegSize ([255, 255, 255, 1, 255, 224, 0, 3, 7] ++
    [255, 194, 0, 11, 8, 0, 2, 0, 3, 1, 1, 17, 0]) = some (3, 2) := by
  decide +kernel

end AirTizen.Media

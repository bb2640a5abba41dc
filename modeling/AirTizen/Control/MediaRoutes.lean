import AirTizen.Control.Server

/-!
# The numbers in the paths of media

Five routes of `handle_client` take numbers from the path.  `/video/segment/` checks
its digits; the others leave that to `sscanf`, which takes signs and reduces what does
not fit.
-/

namespace AirTizen.Control

open CText Scanf

/-! ## The numbers of a path -/

/-- A number of a path: the width of its variable, its text, and the value that is
looked up. -/
structure Number where
  bits : Nat
  text : Bytes
  value : Nat
  deriving DecidableEq

/-- A part of a path between its slashes. -/
def component (path : Bytes) (index : Nat) : Bytes := (path.splitOn 47).getD index []

/-- The numbers of the routes that accept the path. -/
def Route.numbers (route : Route) (path : Bytes) : List Number :=
  (if route.photo then [⟨32, component path 2, route.photoGeneration⟩] else []) ++
  (if route.artwork then [⟨32, component path 2, route.artworkVersion⟩] else []) ++
  (if route.hlsInit then [⟨32, component path 3, route.hlsGeneration⟩] else []) ++
  (if route.hlsSegment then
    [⟨32, component path 3, route.hlsGeneration⟩, ⟨64, component path 4, route.hlsFirst⟩,
      ⟨64, component path 5, route.hlsLast⟩] else []) ++
  if route.mediaSegment then [⟨64, component path 3, route.mediaSequence⟩] else []

/-- The text is a string of digits for the value. -/
def Number.Exact (number : Number) : Prop :=
  number.text ≠ [] ∧ (∀ byte ∈ number.text, isDigit byte = true) ∧
    decimalValue number.text = number.value

/-- The text begins with a digit, and its value fits the variable. -/
def Number.Plain (number : Number) : Prop :=
  (∃ first, number.text.head? = some first ∧ isDigit first = true) ∧
    decimalValue number.text < 2 ^ number.bits

/-- The text is that of an integer conversion, and the value is what it yields. -/
def Number.Converted (number : Number) : Prop :=
  number.bits ≤ 64 ∧ ∃ negative magnitude, IntegerText number.text negative magnitude ∧
    number.value = unsignedValue number.bits negative magnitude

theorem Number.Converted.exact_iff {number : Number} (converted : number.Converted) :
    number.Exact ↔ number.Plain := by
  obtain ⟨narrow, negative, magnitude, isText, value⟩ := converted
  rw [Number.Exact, Number.Plain, value]
  exact isText.exact_iff narrow

/-! ## The formats -/

theorem scansWhole_iff {scanned : Scanned} {count : Nat} {path : Bytes} :
    scansWhole scanned count path = true ↔
      scanned.count = count ∧ path.drop (scanned.parsed.getD 0) = [] := by
  simp [scansWhole]

theorem behind_position {path front rest : Bytes} (split : path = front ++ rest)
    (ended : path.drop ((some (path.length - rest.length)).getD 0) = []) : path = front := by
  have length : path.length - rest.length = front.length := by
    rw [split, List.length_append]
    omega
  rw [Option.getD_some, length, split, List.drop_left] at ended
  rw [split, ended, List.append_nil]

theorem values_of_count {scanned : Scanned} {count : Nat} (counted : scanned.count = count + 1) :
    scanned.values ≠ [] := by
  intro none
  rw [Scanned.count, none] at counted
  cases counted

theorem Scanned.count_of_cons {scanned : Scanned} {value : Value} {count : Nat}
    (counted : (scanned.cons value).count = count + 1) : scanned.count = count :=
  Nat.succ.inj counted

theorem scansWhole_number {name : String} {bits : Nat} {path : Bytes}
    (whole : scansWhole (sscanf (literal name ++ [.unsigned bits, .position]) path) 1 path = true) :
    ∃ text negative magnitude, path = ascii name ++ text ∧ IntegerText text negative magnitude ∧
      unsignedAt (sscanf (literal name ++ [.unsigned bits, .position]) path) 0 0 =
        unsignedValue bits negative magnitude := by
  rw [scansWhole_iff, sscanf] at whole
  rw [sscanf]
  obtain ⟨counted, ended⟩ := whole
  obtain ⟨rest, isPath, scanned⟩ := scanFrom_literal_some (values_of_count counted)
  rw [scanned] at counted ended ⊢
  obtain ⟨text, negative, magnitude, behind, isRest, number, scanned⟩ :=
    scanFrom_unsigned_some (values_of_count counted)
  rw [scanned] at ended ⊢
  have split : path = ascii name ++ text ++ behind := by
    rw [isPath, isRest, List.append_assoc]
  exact ⟨text, negative, magnitude, behind_position split ended, number, rfl⟩

theorem hlsInitFormat_eq : hlsInitFormat =
    literal "/video/hls/" ++ (.unsigned 32 :: (literal "/init" ++ [.position])) := by
  simp [hlsInitFormat]

theorem hlsSegmentFormat_eq : hlsSegmentFormat =
    literal "/video/hls/" ++ (.unsigned 32 :: (literal "/" ++ (.unsigned 64 :: (literal "/" ++
      [.unsigned 64, .position])))) := by
  simp [hlsSegmentFormat]

theorem hlsInit_path {path : Bytes} (whole : scansWhole (sscanf hlsInitFormat path) 1 path = true)
    (positive : 0 < (sscanf hlsInitFormat path).parsed.getD 0) :
    ∃ text negative magnitude, path = ascii "/video/hls/" ++ text ++ ascii "/init" ∧
      IntegerText text negative magnitude ∧
      unsignedAt (sscanf hlsInitFormat path) 0 0 = unsignedValue 32 negative magnitude := by
  rw [scansWhole_iff, sscanf] at whole
  rw [sscanf] at positive ⊢
  obtain ⟨counted, ended⟩ := whole
  rw [hlsInitFormat_eq] at counted ended positive ⊢
  obtain ⟨rest, isPath, scanned⟩ := scanFrom_literal_some (values_of_count counted)
  rw [scanned] at counted ended positive ⊢
  obtain ⟨text, negative, magnitude, behind, isRest, number, scanned⟩ :=
    scanFrom_unsigned_some (values_of_count counted)
  rw [scanned] at ended positive ⊢
  refine ⟨text, negative, magnitude, ?_, number, rfl⟩
  rcases scanFrom_literal_cases path.length "/init" [.position] behind with
    ⟨last, isBehind, scanned⟩ | ⟨scanned, -⟩
  · rw [Scanned.cons, scanned] at ended
    have split : path = ascii "/video/hls/" ++ text ++ ascii "/init" ++ last := by
      rw [isPath, isRest, isBehind]
      simp only [List.append_assoc]
    exact behind_position split ended
  · -- without the end of the format `%n` has not stored anything
    rw [Scanned.cons, scanned] at positive
    cases positive

theorem hlsSegment_path {path : Bytes}
    (whole : scansWhole (sscanf hlsSegmentFormat path) 3 path = true) :
    ∃ generation first last generationSign generationSize firstSign firstSize lastSign lastSize,
      path = ascii "/video/hls/" ++ generation ++ ascii "/" ++ first ++ ascii "/" ++ last ∧
      IntegerText generation generationSign generationSize ∧ IntegerText first firstSign firstSize ∧
      IntegerText last lastSign lastSize ∧
      (sscanf hlsSegmentFormat path).values =
        [.unsigned (unsignedValue 32 generationSign generationSize),
          .unsigned (unsignedValue 64 firstSign firstSize),
          .unsigned (unsignedValue 64 lastSign lastSize)] := by
  rw [scansWhole_iff, sscanf] at whole
  rw [sscanf]
  obtain ⟨counted, ended⟩ := whole
  rw [hlsSegmentFormat_eq] at counted ended ⊢
  obtain ⟨behindName, isPath, scanned⟩ := scanFrom_literal_some (values_of_count counted)
  rw [scanned] at counted ended ⊢
  obtain ⟨generation, generationSign, generationSize, behindGeneration, split, isGeneration,
    scanned⟩ := scanFrom_unsigned_some (values_of_count counted)
  rw [scanned] at counted ended ⊢
  have counted := Scanned.count_of_cons counted
  obtain ⟨behindSlash, isSlash, scanned⟩ := scanFrom_literal_some (values_of_count counted)
  rw [scanned] at counted ended ⊢
  obtain ⟨first, firstSign, firstSize, behindFirst, splitFirst, isFirst, scanned⟩ :=
    scanFrom_unsigned_some (values_of_count counted)
  rw [scanned] at counted ended ⊢
  have counted := Scanned.count_of_cons counted
  obtain ⟨behindSecond, isSecond, scanned⟩ := scanFrom_literal_some (values_of_count counted)
  rw [scanned] at counted ended ⊢
  obtain ⟨last, lastSign, lastSize, behind, splitLast, isLast, scanned⟩ :=
    scanFrom_unsigned_some (values_of_count counted)
  rw [scanned] at ended ⊢
  refine ⟨generation, first, last, generationSign, generationSize, firstSign, firstSize, lastSign,
    lastSize, ?_, isGeneration, isFirst, isLast, rfl⟩
  have whole : path =
      ascii "/video/hls/" ++ generation ++ ascii "/" ++ first ++ ascii "/" ++ last ++ behind := by
    rw [isPath, split, isSlash, splitFirst, isSecond, splitLast]
    simp only [List.append_assoc]
  exact behind_position whole ended

/-! ## Shared variables -/

/-- Two formats that begin with the same number store the same one. -/
theorem unsignedAt_first (name : String) (bits : Nat) (first second : List Directive) (path : Bytes)
    (old : Nat) :
    unsignedAt (sscanf (literal name ++ (.unsigned bits :: first)) path) 0 old =
      unsignedAt (sscanf (literal name ++ (.unsigned bits :: second)) path) 0 old := by
  unfold sscanf
  rcases scanFrom_literal_cases path.length name (.unsigned bits :: first) path with
    ⟨rest, rfl, scanned⟩ | ⟨scanned, other⟩
  · rw [scanned, scanFrom_literal, scanFrom, scanFrom]
    cases scanInteger rest with
    | none => rfl
    | some found => rfl
  · rcases scanFrom_literal_cases path.length name (.unsigned bits :: second) path with
      ⟨rest, isPath, -⟩ | ⟨also, -⟩
    · exact absurd isPath (other rest)
    · rw [scanned, also]

theorem unsignedAt_twice (scanned : Scanned) (index old : Nat) :
    unsignedAt scanned index (unsignedAt scanned index old) = unsignedAt scanned index old := by
  unfold unsignedAt
  cases scanned.values[index]? with
  | none => rfl
  | some value => cases value <;> rfl

theorem parseRoute_hlsGeneration (path : Bytes) :
    (parseRoute path).hlsGeneration = unsignedAt (sscanf hlsInitFormat path) 0 0 ∧
      (parseRoute path).hlsGeneration = unsignedAt (sscanf hlsSegmentFormat path) 0 0 := by
  have same : ∀ old, unsignedAt (sscanf hlsInitFormat path) 0 old =
      unsignedAt (sscanf hlsSegmentFormat path) 0 old := by
    intro old
    rw [hlsInitFormat_eq, hlsSegmentFormat_eq]
    exact unsignedAt_first _ _ _ _ path old
  have stored :
      (parseRoute path).hlsGeneration = unsignedAt (sscanf hlsSegmentFormat path) 0 0 := by
    show unsignedAt (sscanf hlsInitFormat path) 0
      (unsignedAt (sscanf hlsSegmentFormat path) 0 0) = _
    rw [same, unsignedAt_twice]
  exact ⟨stored.trans (same 0).symm, stored⟩

/-- The path of a report is none of a photo, so that its format stores nothing. -/
theorem parseRoute_photoGeneration {path text : Bytes} {negative : Bool} {magnitude : Nat}
    (isPath : path = ascii "/photo/" ++ text) (number : IntegerText text negative magnitude) :
    (parseRoute path).photoGeneration = unsignedAt (sscanf photoFormat path) 0 0 := by
  have format : photoReportFormat = literal "/photo/report?generation=" ++
      (.unsigned 32 :: (literal "&failed=" ++ [.signed, .position])) := by
    simp [photoReportFormat]
  have nothing : sscanf photoReportFormat path = {} := by
    rw [format, sscanf]
    rcases scanFrom_literal_cases path.length "/photo/report?generation=" _ path with
      ⟨rest, isReport, -⟩ | ⟨scanned, -⟩
    · have letter : ascii "/photo/report?generation=" ++ rest =
          ascii "/photo/" ++ (114 :: (ascii "eport?generation=" ++ rest)) := rfl
      have isText : text = 114 :: (ascii "eport?generation=" ++ rest) :=
        List.append_cancel_left (isPath.symm.trans (isReport.trans letter))
      have absent := @IntegerText.not_mem _ _ _ 114 number (by decide) (by decide) (by decide)
      rw [isText] at absent
      exact absurd List.mem_cons_self absent
    · exact scanned
  show unsignedAt (sscanf photoReportFormat path) 0 (unsignedAt (sscanf photoFormat path) 0 0) = _
  rw [nothing]
  rfl

/-! ## What the routes convert -/

def slashed (parts : List Bytes) : Bytes := parts.flatMap (47 :: ·)

theorem slashed_intercalate (parts : List Bytes) :
    slashed parts = [47].intercalate ([] :: parts) := by
  induction parts with
  | nil => rfl
  | cons part parts inductionHypothesis =>
      rw [List.intercalate_cons_cons, List.nil_append]
      cases parts with
      | nil => simp [slashed]
      | cons second parts =>
          rw [List.intercalate_cons_cons] at inductionHypothesis ⊢
          rw [slashed, List.flatMap_cons, ← slashed, inductionHypothesis]
          simp

theorem component_slashed {path : Bytes} {parts : List Bytes} (isPath : path = slashed parts)
    (free : ∀ part ∈ parts, 47 ∉ part) (index : Nat) :
    component path (index + 1) = parts.getD index [] := by
  have all : ∀ part ∈ [] :: parts, 47 ∉ part :=
    List.forall_mem_cons.mpr ⟨List.not_mem_nil, free⟩
  rw [component, isPath, slashed_intercalate,
    List.splitOn_intercalate 47 all (List.cons_ne_nil _ _)]
  rfl

theorem no_slash {text : Bytes} {negative : Bool} {magnitude : Nat}
    (number : IntegerText text negative magnitude) : 47 ∉ text :=
  number.not_mem (by decide) (by decide) (by decide)

theorem part_converted {path : Bytes} {parts : List Bytes} {index bits value magnitude : Nat}
    {negative : Bool} (isPath : path = slashed parts) (free : ∀ part ∈ parts, 47 ∉ part)
    (narrow : bits ≤ 64) (isText : IntegerText (parts.getD index []) negative magnitude)
    (stored : value = unsignedValue bits negative magnitude) :
    Number.Converted ⟨bits, component path (index + 1), value⟩ := by
  refine ⟨narrow, negative, magnitude, ?_, stored⟩
  rw [component_slashed isPath free]
  exact isText

theorem named_converted {path name text : Bytes} {bits value magnitude : Nat} {negative : Bool}
    (isPath : path = [47] ++ name ++ [47] ++ text) (noSlash : 47 ∉ name) (narrow : bits ≤ 64)
    (isText : IntegerText text negative magnitude)
    (stored : value = unsignedValue bits negative magnitude) :
    Number.Converted ⟨bits, component path 2, value⟩ := by
  have parts : path = slashed [name, text] := by
    rw [isPath]
    simp [slashed]
  have free : ∀ part ∈ [name, text], 47 ∉ part := by
    simpa using ⟨noSlash, no_slash isText⟩
  exact @part_converted _ _ 1 _ _ _ _ parts free narrow isText stored

theorem photo_converted {path : Bytes} (accepted : (parseRoute path).photo = true) :
    Number.Converted ⟨32, component path 2, (parseRoute path).photoGeneration⟩ := by
  obtain ⟨text, negative, magnitude, isPath, isText, stored⟩ :=
    @scansWhole_number "/photo/" 32 path accepted
  exact @named_converted path (ascii "photo") text _ _ _ _ isPath (by decide) (by decide) isText
    ((parseRoute_photoGeneration isPath isText).trans stored)

theorem artwork_converted {path : Bytes} (accepted : (parseRoute path).artwork = true) :
    Number.Converted ⟨32, component path 2, (parseRoute path).artworkVersion⟩ := by
  obtain ⟨text, negative, magnitude, isPath, isText, stored⟩ :=
    @scansWhole_number "/artwork/" 32 path accepted
  exact @named_converted path (ascii "artwork") text _ _ _ _ isPath (by decide) (by decide) isText
    stored

theorem hlsInit_converted {path : Bytes} (accepted : (parseRoute path).hlsInit = true) :
    Number.Converted ⟨32, component path 3, (parseRoute path).hlsGeneration⟩ := by
  have both : scansWhole (sscanf hlsInitFormat path) 1 path = true ∧
      0 < (sscanf hlsInitFormat path).parsed.getD 0 := by
    simpa [parseRoute] using accepted
  obtain ⟨text, negative, magnitude, isPath, isText, stored⟩ := hlsInit_path both.1 both.2
  have parts : path = slashed [ascii "video", ascii "hls", text, ascii "init"] := by
    rw [isPath]
    simp [slashed, ascii]
  have free : ∀ part ∈ [ascii "video", ascii "hls", text, ascii "init"], 47 ∉ part := by
    simpa using ⟨(by decide : 47 ∉ ascii "video"), (by decide : 47 ∉ ascii "hls"), no_slash isText,
      (by decide : 47 ∉ ascii "init")⟩
  exact @part_converted _ _ 2 _ _ _ _ parts free (by decide) isText
    ((parseRoute_hlsGeneration path).1.trans stored)

theorem hlsSegment_converted {path : Bytes} (accepted : (parseRoute path).hlsSegment = true) :
    Number.Converted ⟨32, component path 3, (parseRoute path).hlsGeneration⟩ ∧
      Number.Converted ⟨64, component path 4, (parseRoute path).hlsFirst⟩ ∧
      Number.Converted ⟨64, component path 5, (parseRoute path).hlsLast⟩ := by
  obtain ⟨generation, first, last, _, _, _, _, _, _, isPath, isGeneration, isFirst, isLast,
    values⟩ := hlsSegment_path accepted
  have parts : path = slashed [ascii "video", ascii "hls", generation, first, last] := by
    rw [isPath]
    simp [slashed, ascii]
  have free : ∀ part ∈ [ascii "video", ascii "hls", generation, first, last], 47 ∉ part := by
    simpa using ⟨(by decide : 47 ∉ ascii "video"), (by decide : 47 ∉ ascii "hls"),
      no_slash isGeneration, no_slash isFirst, no_slash isLast⟩
  have stored : ∀ index number,
      (sscanf hlsSegmentFormat path).values[index]? = some (.unsigned number) →
        unsignedAt (sscanf hlsSegmentFormat path) index 0 = number := by
    intro index number found
    rw [unsignedAt, found]
  refine ⟨?_, ?_, ?_⟩
  · exact @part_converted _ _ 2 _ _ _ _ parts free (by decide) isGeneration
      ((parseRoute_hlsGeneration path).2.trans (stored 0 _ (by rw [values]; rfl)))
  · exact @part_converted _ _ 3 _ _ _ _ parts free (by decide) isFirst
      (stored 1 _ (by rw [values]; rfl))
  · exact @part_converted _ _ 4 _ _ _ _ parts free (by decide) isLast
      (stored 2 _ (by rw [values]; rfl))

/-- The digits of `/video/segment/` are checked. -/
theorem mediaSegment_converted {path : Bytes} (accepted : (parseRoute path).mediaSegment = true) :
    Number.Converted ⟨64, component path 3, (parseRoute path).mediaSequence⟩ ∧
      Number.Exact ⟨64, component path 3, (parseRoute path).mediaSequence⟩ := by
  obtain ⟨sequence, found⟩ := Option.isSome_iff_exists.mp
    (show (parseMediaSequence path).isSome = true from accepted)
  have stored : (parseRoute path).mediaSequence = sequence := by
    show (parseMediaSequence path).getD 0 = sequence
    rw [found]
    rfl
  simp only [parseMediaSequence] at found
  split_ifs at found with named digits
  cases found
  obtain ⟨text, isPath⟩ := List.isPrefixOf_iff_prefix.mp named
  have isText : path.drop 15 = text := by
    rw [← isPath]
    rfl
  rw [isText] at digits stored
  obtain ⟨nonempty, isDigits, fits⟩ := digits
  rw [List.all_eq_true] at isDigits
  have number : IntegerText text false (decimalValue text) :=
    @IntegerText.mk [] text [] false (by simp) (by simp) nonempty isDigits
  have parts : path = slashed [ascii "video", ascii "segment", text] := by
    rw [← isPath]
    simp [slashed, ascii]
  have free : ∀ part ∈ [ascii "video", ascii "segment", text], 47 ∉ part := by
    simpa using ⟨(by decide : 47 ∉ ascii "video"), (by decide : 47 ∉ ascii "segment"),
      no_slash number⟩
  have value : decimalValue text = unsignedValue 64 false (decimalValue text) := by
    rw [unsignedValue, if_neg (Nat.not_le.mpr fits)]
    exact (Nat.mod_eq_of_lt fits).symm
  refine ⟨@part_converted _ _ 2 _ _ _ _ parts free (by decide) number (stored.trans value), ?_⟩
  rw [Number.Exact, component_slashed parts free, stored]
  exact ⟨nonempty, isDigits, rfl⟩

theorem numbers_converted (path : Bytes) :
    ∀ number ∈ (parseRoute path).numbers path, number.Converted := by
  have optional : ∀ (accepted : Bool) (numbers : List Number),
      (accepted = true → ∀ number ∈ numbers, number.Converted) →
        ∀ number ∈ (if accepted then numbers else []), number.Converted := by
    intro accepted numbers each
    split_ifs with yes
    · exact each yes
    · exact List.forall_mem_nil _
  simp only [Route.numbers, List.forall_mem_append]
  refine ⟨⟨⟨⟨optional _ _ fun yes => ?_, optional _ _ fun yes => ?_⟩, optional _ _ fun yes => ?_⟩,
    optional _ _ fun yes => ?_⟩, optional _ _ fun yes => ?_⟩
  · exact List.forall_mem_singleton.mpr (photo_converted yes)
  · exact List.forall_mem_singleton.mpr (artwork_converted yes)
  · exact List.forall_mem_singleton.mpr (hlsInit_converted yes)
  · obtain ⟨generation, first, last⟩ := hlsSegment_converted yes
    exact List.forall_mem_cons.mpr ⟨generation, List.forall_mem_cons.mpr ⟨first,
      List.forall_mem_singleton.mpr last⟩⟩
  · exact List.forall_mem_singleton.mpr (mediaSegment_converted yes).1

/-! ## What is looked up -/

/-- The numbers under which an operation looks for media. -/
def Operation.lookups : Operation → List Nat
  | .photoCopy generation => [generation]
  | .copyArtwork version => [version]
  | .hlsSegment generation first last => [generation, first, last]
  | .videoCopy false sequence => [sequence]
  | _ => []

def LooksUp (route : Route) (path : Bytes) (operation : Operation) : Prop :=
  operation.lookups ⊆ (route.numbers path).map Number.value

section

variable {route : Route} {path : Bytes}

theorem values_numbers (route : Route) (path : Bytes) : (route.numbers path).map Number.value =
    (if route.photo then [route.photoGeneration] else []) ++
      (if route.artwork then [route.artworkVersion] else []) ++
      (if route.hlsInit then [route.hlsGeneration] else []) ++
      (if route.hlsSegment then [route.hlsGeneration, route.hlsFirst, route.hlsLast] else []) ++
      if route.mediaSegment then [route.mediaSequence] else [] := by
  simp only [Route.numbers, List.map_append, apply_ite (List.map Number.value), List.map_cons,
    List.map_nil]

theorem asks_unnumbered {operation : Operation} {next : operation.Answer → Handler}
    (nothing : operation.lookups = [])
    (later : ∀ answer, (next answer).Asks (LooksUp route path)) :
    Interaction.Asks (LooksUp route path) (.ask operation next) := by
  refine ⟨fun value membership => ?_, later⟩
  rw [nothing] at membership
  cases membership

theorem asks_status (origin : Bytes) (result : Int) :
    (respondStatus origin result).Asks (LooksUp route path) :=
  asks_unnumbered rfl fun _ => trivial

theorem asks_guarded {condition : Prop} [Decidable condition] {refused : Reply} {allowed : Handler}
    (behind : allowed.Asks (LooksUp route path)) :
    (if condition then .done refused else allowed).Asks (LooksUp route path) :=
  .ite (fun _ => trivial) fun _ => behind

theorem asks_lookups (server : Server) (headers : Headers) (method : Bytes) :
    (dispatch server headers method path route).Asks (LooksUp route path) := by
  unfold dispatch
  refine .ite (fun get => ⟨?_, fun _ => trivial⟩) fun _ => ?_
  · rw [Bool.and_eq_true] at get
    simp [LooksUp, Operation.lookups, values_numbers, get.2]
  refine .ite (fun _ => asks_guarded (asks_unnumbered rfl fun _ => trivial)) fun _ => ?_
  refine .ite (fun get => ⟨?_, fun _ => trivial⟩) fun _ => ?_
  · rw [Bool.and_eq_true] at get
    simp [LooksUp, Operation.lookups, values_numbers, get.2]
  refine .ite (fun _ => asks_guarded (asks_unnumbered rfl fun _ => trivial)) fun _ => ?_
  refine .ite (fun _ => asks_unnumbered rfl fun _ => trivial) fun _ => ?_
  refine .ite (fun get => ⟨?_, fun _ => trivial⟩) fun _ => ?_
  · rw [Bool.and_eq_true] at get
    simp [LooksUp, Operation.lookups, values_numbers, get.2]
  refine .ite (fun get => ⟨?_, fun _ => trivial⟩) fun _ => ?_
  · cases init : route.mediaInit || route.hlsInit with
    | true =>
        intro value membership
        cases membership
    | false =>
        rw [Bool.or_eq_false_iff] at init
        simp only [init, Bool.false_or, Bool.or_false, Bool.and_eq_true] at get
        simp [LooksUp, Operation.lookups, values_numbers, get.2]
  refine .ite (fun _ => asks_status _ _) fun _ => ?_
  refine .ite (fun _ => asks_guarded (asks_unnumbered rfl fun _ => asks_status _ _)) fun _ => ?_
  refine .ite (fun _ => asks_guarded ?_) fun _ => trivial
  exact .ite (fun _ => asks_unnumbered rfl fun _ => asks_status _ _)
    fun _ => asks_unnumbered rfl fun _ => asks_status _ _

/-- Init data of another generation is answered like missing data. -/
def Withholds (origin : Bytes) (generation : Nat) : Handler → Prop
  | .ask (.videoCopy true _) next => ∀ body other, other ≠ generation →
      next (body, other) = .done (respond origin (ascii "410 Gone")
        (ascii "\x7b\"ok\":false,\"error\":\"media_not_available\"\x7d"))
  | _ => True

theorem Withholds.ite {origin : Bytes} {generation : Nat} {condition : Prop} [Decidable condition]
    {yes no : Handler} (first : Withholds origin generation yes)
    (second : Withholds origin generation no) :
    Withholds origin generation (if condition then yes else no) := by
  split
  · exact first
  · exact second

theorem init_withheld (server : Server) (headers : Headers) (method : Bytes)
    (init : route.hlsInit = true) :
    Withholds headers.responseOrigin route.hlsGeneration
      (dispatch server headers method path route) := by
  unfold dispatch
  refine .ite trivial ?_
  refine .ite (.ite trivial trivial) ?_
  refine .ite trivial ?_
  refine .ite (.ite trivial trivial) ?_
  refine .ite trivial ?_
  refine .ite trivial ?_
  refine .ite ?_ ?_
  · have copied : (route.mediaInit || route.hlsInit) = true := by rw [init, Bool.or_true]
    rw [copied]
    intro body other differs
    have withheld : (route.hlsInit && other != route.hlsGeneration) = true := by
      rw [init, Bool.true_and]
      exact bne_iff_ne.mpr differs
    simp only [withheld, if_true, respondContent]
  refine .ite trivial ?_
  refine .ite (.ite trivial trivial) ?_
  exact .ite (.ite trivial (.ite trivial trivial)) trivial

end

/-! ## Results -/

/-- Every number of a path that is accepted is what it spells exactly if each begins with a
digit and fits its variable, as one behind `/video/segment/` does; and nothing else is
looked up. -/
theorem numeric_routes_iff (path : Bytes) :
    ((∀ number ∈ (parseRoute path).numbers path, number.Exact) ↔
      ∀ number ∈ (parseRoute path).numbers path, number.Plain) ∧
    ((parseRoute path).mediaSegment = true →
      Number.Exact ⟨64, component path 3, (parseRoute path).mediaSequence⟩) ∧
    ∀ server headers method,
      ((dispatch server headers method path (parseRoute path)).Asks fun operation =>
        operation.lookups ⊆ ((parseRoute path).numbers path).map Number.value) ∧
      ((parseRoute path).hlsInit = true →
        Withholds headers.responseOrigin (parseRoute path).hlsGeneration
          (dispatch server headers method path (parseRoute path))) := by
  refine ⟨?_, fun accepted => (mediaSegment_converted accepted).2, fun server headers method =>
    ⟨asks_lookups server headers method, init_withheld server headers method⟩⟩
  constructor
  · intro spelled number membership
    exact (numbers_converted path number membership).exact_iff.mp (spelled number membership)
  · intro plain number membership
    exact (numbers_converted path number membership).exact_iff.mpr (plain number membership)

/-- The generation that a path names is 4294967297, and the one that is looked up is 1. -/
theorem numeric_routes_reduced :
    ¬ (∀ number ∈ (parseRoute (ascii "/photo/4294967297")).numbers (ascii "/photo/4294967297"),
        number.Exact) ∧
      ∀ server headers, ∃ next,
        dispatch server headers (ascii "GET") (ascii "/photo/4294967297")
          (parseRoute (ascii "/photo/4294967297")) = .ask (.photoCopy 1) next := by
  have numbers : (parseRoute (ascii "/photo/4294967297")).numbers (ascii "/photo/4294967297") =
      [⟨32, ascii "4294967297", 1⟩] := by decide
  refine ⟨fun spelled => ?_, fun server headers => ?_⟩
  · rw [numbers, List.forall_mem_singleton] at spelled
    exact absurd spelled.2.2 (by decide)
  · have accepted : (parseRoute (ascii "/photo/4294967297")).photo = true := by decide
    have generation : (parseRoute (ascii "/photo/4294967297")).photoGeneration = 1 := by decide
    have get : (ascii "GET" == ascii "GET") = true := by decide
    rw [dispatch, accepted, generation, get]
    exact ⟨_, rfl⟩

end AirTizen.Control

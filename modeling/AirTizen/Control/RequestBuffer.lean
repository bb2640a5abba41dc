import AirTizen.Library.StringArray
import AirTizen.Control.Server

/-!
# The request array

`handle_client` keeps a request in one array: it is filled by `recv`, and then cut
into lines, names and values by zeros written into it.  Every access is checked
here, and the header loop runs for a number of rounds.  The array never gets in
the way: this is the server on byte strings, however the request arrives.
-/

namespace AirTizen.Control

open CText Buffer

/-! ## Filling the array -/

/-- The loop around `recv`: the array with the index of the first empty line, or
the status of the refusal. -/
def fillRequest (req : Bytes) (used : Nat) (received : List Receive) :
    Option (Except Bytes (Bytes × Nat)) := do
  match ← strstrAt headEnd req 0 with
  | some finish => return .ok (req, finish)
  | none =>
      if used = requestLimit then return .error (ascii "431 Request Header Fields Too Large")
      else
        match received with
        | .data bytes :: rest =>
            -- `recv` takes what fits
            let bytes := bytes.take (requestLimit - used)
            if bytes = [] then return .error (ascii "408 Request Timeout")
            else
              let req ← store req used bytes
              if 0 ∈ (← loadMany req used bytes.length) then
                return .error (ascii "400 Bad Request")
              else
                let used := used + bytes.length
                let req ← store req used [0]
                fillRequest req used rest
        | _ => return .error (ascii "408 Request Timeout")

/-! ## The header loop -/

/-- The comparisons of one round, with the strings at `line` and `value`. -/
def compareHeaderAt (server : Server) (headers : Headers) (req : Bytes) (line value : Nat) :
    Option (Except Reply Headers) := do
  let name ← stringAt req line
  let value ← stringAt req value
  return compareHeader server headers name value

def headerRound (server : Server) (headers : Headers) (req : Bytes) (line next : Nat) :
    Option (Bytes × Except Reply Headers) := do
  let req ← store req next [0]
  match ← strchrAt 58 req line with
  | none => return (req, .error (respond headers.responseOrigin (ascii "400 Bad Request") notOk))
  | some colon =>
      let req ← store req colon [0]
      let value ← skipAt (fun byte => byte == 32 || byte == 9) req (colon + 1)
      return (req, ← compareHeaderAt server headers req line value)

/-- The loop over `line`, which fails when it runs out of rounds. -/
def headerLoop (server : Server) (finish : Nat) :
    Nat → Headers → Bytes → Nat → Option (Except Reply Headers)
  | 0, _, _, _ => none
  | rounds + 1, headers, req, line =>
      if line < finish then do
        match ← strstrAt [13, 10] req line with
        | none => return .ok headers
        | some next =>
            match ← headerRound server headers req line next with
            | (_, .error reply) => return .error reply
            | (req, .ok headers) => headerLoop server finish rounds headers req (next + 2)
      else some (.ok headers)

/-- `handle_client` behind the read loop. -/
def handleRequestInPlace (server : Server) (rounds : Nat) (req : Bytes) (finish : Nat) :
    Option Handler := do
  match ← strstrAt [13, 10] req 0 with
  | none => none
  | some line =>
      let req ← store req line [0]
      match requestLine (← stringAt req 0) with
      | none => return .done (respond nullOrigin (ascii "400 Bad Request") notOk)
      | some (method, path) =>
          let (path, queryAuth) := takeQueryToken server path
          match ← headerLoop server finish rounds {} req (line + 2) with
          | .error reply => return .done reply
          | .ok headers => return authorize server headers method path queryAuth

/-- `handle_client`, with what is in `req` when it is entered. -/
def handleClientInPlace (server : Server) (rounds : Nat) (req : Bytes)
    (received : List Receive) : Option Handler := do
  let req ← store req 0 [0]
  match ← fillRequest req 0 received with
  | .error status => return .done (respond nullOrigin status notOk)
  | .ok (req, finish) => handleRequestInPlace server rounds req finish

/-! ## The array holds the request -/

/-- `sizeof(req)` cells that hold a text and its terminator. -/
structure Holds (req text : Bytes) : Prop where
  size : req.length = 4096
  noZero : 0 ∉ text
  layout : ∃ rest, req = text ++ 0 :: rest

theorem Holds.length_le {req text : Bytes} (holds : Holds req text) :
    text.length ≤ requestLimit := by
  obtain ⟨rest, layout⟩ := holds.layout
  have size := holds.size
  rw [layout, List.length_append, List.length_cons] at size
  unfold requestLimit
  omega

theorem Holds.strstrAt {req text : Bytes} (holds : Holds req text) (needle : Bytes) :
    Buffer.strstrAt needle req 0 = some ((strstr needle text).map fun (before, _) =>
      before.length) := by
  obtain ⟨rest, layout⟩ := holds.layout
  have inFront : req = [] ++ (text ++ 0 :: rest) := layout
  rw [strstrAt_eq needle inFront List.length_nil holds.noZero]
  simp only [Nat.zero_add]

theorem holds_start {req : Bytes} (size : req.length = 4096) :
    ∃ started, store req 0 [0] = some started ∧ Holds started [] := by
  cases req with
  | nil => cases size
  | cons first rest =>
      have inFront : first :: rest = [] ++ first :: rest := rfl
      exact ⟨0 :: rest, store_eq 0 inFront rfl, size, List.not_mem_nil, rest, rfl⟩

/-- What `recv` brings is in place, before and behind the new terminator. -/
theorem Holds.receive {req text bytes : Bytes} (holds : Holds req text)
    (room : bytes.length ≤ requestLimit - text.length) :
    ∃ stored, store req text.length bytes = some stored ∧
      loadMany stored text.length bytes.length = some bytes ∧
      (0 ∉ bytes → ∃ ended, store stored (text.length + bytes.length) [0] = some ended ∧
        Holds ended (text ++ bytes)) := by
  obtain ⟨rest, layout⟩ := holds.layout
  have size := holds.size
  rw [layout, List.length_append, List.length_cons] at size
  unfold requestLimit at room
  have fits : bytes.length ≤ (0 :: rest).length := by
    rw [List.length_cons]
    omega
  have behind : (0 :: rest).drop bytes.length ≠ [] := by
    intro nothing
    have lengths := congrArg List.length nothing
    simp only [List.length_drop, List.length_cons, List.length_nil] at lengths
    omega
  obtain ⟨cell, tail, cells⟩ := List.exists_cons_of_ne_nil behind
  refine ⟨text ++ (bytes ++ cell :: tail), ?_, ?_, ?_⟩
  · rw [layout, store_append text (0 :: rest) bytes fits, cells]
  · rw [loadMany_append text _ (by simp), List.take_left]
  · intro clean
    have layoutBytes : text ++ (bytes ++ cell :: tail) = (text ++ bytes) ++ cell :: tail :=
      (List.append_assoc _ _ _).symm
    refine ⟨text ++ bytes ++ 0 :: tail, store_eq 0 layoutBytes List.length_append, ?_⟩
    refine ⟨?_, ?_, tail, rfl⟩
    · have lengths := congrArg List.length cells
      simp only [List.length_drop, List.length_cons] at lengths
      simp only [List.length_append, List.length_cons]
      omega
    · rw [List.mem_append, not_or]
      exact ⟨holds.noZero, clean⟩

inductive Delivers : Except Bytes (Bytes × Nat) → Except Bytes Bytes → Prop where
  | refused (status : Bytes) : Delivers (.error status) (.error status)
  | request {req head behind : Bytes} (holds : Holds req (head ++ behind))
      (first : strstr headEnd (head ++ behind) = some (head, behind)) :
      Delivers (.ok (req, head.length)) (.ok head)

theorem fillRequest_found {req text : Bytes} {found : Bytes × Bytes} (holds : Holds req text)
    (search : strstr headEnd text = some found) (received : List Receive) :
    ∃ outcome, fillRequest req text.length received = some outcome ∧
      Delivers outcome (readRequest text received) := by
  obtain ⟨head, behind⟩ := found
  have split := strstr_append search
  subst split
  unfold fillRequest readRequest
  rw [holds.strstrAt, search]
  exact ⟨_, rfl, .request holds search⟩

theorem fillRequest_eq {req text : Bytes} (holds : Holds req text) (received : List Receive) :
    ∃ outcome, fillRequest req text.length received = some outcome ∧
      Delivers outcome (readRequest text received) := by
  induction received generalizing req text with
  | nil =>
      cases search : strstr headEnd text with
      | some found => exact fillRequest_found holds search []
      | none =>
          unfold fillRequest readRequest
          rw [holds.strstrAt, search]
          by_cases full : text.length = requestLimit
          · simpa [full] using Delivers.refused _
          · simpa [full] using Delivers.refused _
  | cons receive rest inductionHypothesis =>
      cases search : strstr headEnd text with
      | some found => exact fillRequest_found holds search _
      | none =>
          unfold fillRequest readRequest
          rw [holds.strstrAt, search]
          by_cases full : text.length = requestLimit
          · simpa [full] using Delivers.refused _
          · cases receive with
            | ended => simpa [full] using Delivers.refused _
            | timeout => simpa [full] using Delivers.refused _
            | data bytes =>
                have room := List.length_take_le (requestLimit - text.length) bytes
                dsimp only
                generalize bytes.take (requestLimit - text.length) = taken at room ⊢
                obtain ⟨stored, storedEq, loaded, clean⟩ := holds.receive room
                by_cases empty : taken = []
                · simpa [full, empty] using Delivers.refused _
                · by_cases zero : 0 ∈ taken
                  · simpa [full, empty, storedEq, loaded, zero] using Delivers.refused _
                  · obtain ⟨ended, endedEq, holdsMore⟩ := clean zero
                    have later := inductionHypothesis holdsMore
                    rw [List.length_append] at later
                    simpa [full, empty, storedEq, loaded, zero, endedEq] using later

/-! ## Lines, names and values in the array -/

theorem readHeader_none {server : Server} {headers : Headers} {line : Bytes}
    (field : strchr 58 line = none) :
    readHeader server headers line =
      .error (respond headers.responseOrigin (ascii "400 Bad Request") notOk) := by
  rw [readHeader, headerField, field]
  rfl

theorem compareHeaderAt_eq {server : Server} {headers : Headers} {req text name after : Bytes}
    {line value : Nat} (split : strchr 58 text = some (name, after))
    (nameAt : stringAt req line = some name)
    (valueAt : stringAt req value =
      some (after.dropWhile fun byte => byte == 32 || byte == 9)) :
    compareHeaderAt server headers req line value = some (readHeader server headers text) := by
  rw [compareHeaderAt, nameAt, valueAt, readHeader, headerField, split]
  rfl

/-- A round looks at the line and leaves everything behind it. -/
theorem headerRound_eq {server : Server} {headers : Headers} {req front text rest : Bytes}
    {byte : UInt8} {line next : Nat} (layout : req = front ++ (text ++ byte :: rest))
    (start : front.length = line) (stop : line + text.length = next) (noZero : 0 ∉ text) :
    ∃ written, written.length = next ∧
      headerRound server headers req line next =
        some (written ++ 0 :: rest, readHeader server headers text) := by
  subst start stop
  have ended : store req (front.length + text.length) [0] =
      some (front ++ text ++ 0 :: rest) :=
    store_eq 0 (layout.trans (List.append_assoc _ _ _).symm) List.length_append
  rw [headerRound, ended]
  simp only [Option.bind_eq_bind, Option.bind_some]
  rw [strchrAt_eq 58 (List.append_assoc front text _) rfl noZero]
  cases split : strchr 58 text with
  | none =>
      rw [readHeader_none split]
      exact ⟨front ++ text, List.length_append, rfl⟩
  | some found =>
      obtain ⟨name, after⟩ := found
      have text_eq := strchr_append split
      rw [text_eq, List.mem_append, List.mem_cons, not_or, not_or] at noZero
      obtain ⟨noZeroName, _, noZeroAfter⟩ := noZero
      have colonAt : front ++ text ++ 0 :: rest =
          (front ++ name) ++ 58 :: (after ++ 0 :: rest) := by simp [text_eq]
      have stored := store_eq 0 colonAt List.length_append
      have nameAt : stringAt (front ++ name ++ 0 :: (after ++ 0 :: rest)) front.length =
          some name :=
        stringAt_eq (List.append_assoc front name _) rfl noZeroName
      have afterAt : front ++ name ++ 0 :: (after ++ 0 :: rest) =
          (front ++ name ++ [0]) ++ (after ++ 0 :: rest) := by simp
      have afterStart : (front ++ name ++ [0]).length = front.length + name.length + 1 := by
        simp [Nat.add_assoc]
      obtain ⟨value, skipped, valueAt⟩ := @skipAt_eq _ _ _ _ _
        (fun byte => byte == 32 || byte == 9) afterAt afterStart noZeroAfter rfl
      refine ⟨front ++ name ++ 0 :: after, by simp [text_eq], ?_⟩
      simp only [Option.map_some, stored, Option.bind_some, skipped,
        compareHeaderAt_eq split nameAt valueAt]
      simp

theorem noZero_line {line more found : Bytes}
    (noZero : 0 ∉ line ++ 13 :: 10 :: more ++ found) : 0 ∉ line ∧ 0 ∉ more ++ found := by
  rw [List.append_assoc, List.mem_append, not_or] at noZero
  obtain ⟨noZeroLine, noZeroBehind⟩ := noZero
  exact ⟨noZeroLine, fun membership =>
    noZeroBehind (List.mem_cons_of_mem _ (List.mem_cons_of_mem _ membership))⟩

/-- Where the first line of a head ends: with the head, or in front of a further
line, which is not empty. -/
theorem firstLine_cases {head found : Bytes}
    (first : strstr headEnd (head ++ found) = some (head, found)) :
    crlfLines head = [head] ∧ strstr [13, 10] (head ++ found) = some (head, found) ∨
      ∃ line more, head = line ++ 13 :: 10 :: more ∧ more ≠ [] ∧
        crlfLines head = line :: crlfLines more ∧
        strstr headEnd (more ++ found) = some (more, found) ∧
        strstr [13, 10] (head ++ found) = some (line, 13 :: 10 :: (more ++ found)) := by
  obtain ⟨behind, rfl⟩ := strstr_isPrefix first
  have lines := crlfLines_strstr head
  cases search : strstr [13, 10] head with
  | none =>
      rw [search] at lines
      exact .inl ⟨lines, strstr_crlf search _⟩
  | some split =>
      obtain ⟨line, tail⟩ := split
      rw [search] at lines
      have head_eq := strstr_append search
      obtain ⟨more, rfl⟩ := strstr_isPrefix search
      have extended := strstr_extend search (headEnd ++ behind)
      subst head_eq
      refine .inr ⟨line, more, rfl, ?_, lines, ?_, ?_⟩
      · rintro rfl
        -- the head would end earlier, with the line
        have early := @strstr_suffix headEnd line ([13, 10] ++ (headEnd ++ behind)) [13, 10] _
          (by simpa using first)
        simp [strstr, headEnd, List.isPrefixOf] at early
      · exact @strstr_suffix headEnd (line ++ [13, 10]) _ more _ (by simpa using first)
      · simpa using extended

theorem headerLoop_end {server : Server} {rounds : Nat} {headers : Headers} {req : Bytes}
    {line finish : Nat} (behind : finish ≤ line) (enough : 0 < rounds) :
    headerLoop server finish rounds headers req line = some (.ok headers) := by
  cases rounds with
  | zero => exact absurd enough (Nat.lt_irrefl 0)
  | succ rounds => rw [headerLoop, if_neg (Nat.not_lt.mpr behind)]

/-- The header loop reads the lines of the head. -/
theorem headerLoop_eq {server : Server} {rounds : Nat} {headers : Headers}
    {req front body found rest : Bytes} {line finish : Nat}
    (layout : req = front ++ (body ++ found ++ 0 :: rest)) (start : front.length = line)
    (stop : line + body.length = finish) (noZero : 0 ∉ body ++ found)
    (first : strstr headEnd (body ++ found) = some (body, found)) (nonempty : body ≠ [])
    (enough : body.length < rounds) :
    headerLoop server finish rounds headers req line =
      some ((crlfLines body).foldlM (readHeader server) headers) := by
  induction rounds generalizing headers req front body line with
  | zero => exact absurd enough (Nat.not_lt_zero _)
  | succ rounds inductionHypothesis =>
      have positive := List.length_pos_of_ne_nil nonempty
      have goesOn : line < finish := by omega
      rw [headerLoop, if_pos goesOn, strstrAt_eq [13, 10] layout start noZero]
      rcases firstLine_cases first with
        ⟨lines, nextAt⟩ | ⟨text, more, rfl, moreNonempty, lines, moreFirst, nextAt⟩
      · obtain ⟨behind, rfl⟩ := strstr_isPrefix first
        have noZeroBody : 0 ∉ body := fun membership => noZero (List.mem_append_left _ membership)
        have lineLayout : req = front ++ (body ++ 13 :: ([10, 13, 10] ++ behind ++ 0 :: rest)) := by
          simpa [headEnd] using layout
        obtain ⟨written, length_eq, round⟩ :=
          @headerRound_eq server headers _ _ _ _ _ _ _ lineLayout start stop noZeroBody
        have passed : finish ≤ finish + 2 := Nat.le_add_right finish 2
        cases outcome : readHeader server headers body with
        | error reply => simp [nextAt, stop, round, outcome, lines]
        | ok headers =>
            have last := @headerLoop_end server rounds headers
              (written ++ 0 :: ([10, 13, 10] ++ behind ++ 0 :: rest)) _ _ passed (by omega)
            simpa [nextAt, stop, round, outcome, lines] using last
      · obtain ⟨noZeroText, noZeroMore⟩ := noZero_line noZero
        have lineLayout : req = front ++ (text ++ 13 :: (10 :: (more ++ found ++ 0 :: rest))) := by
          simpa using layout
        obtain ⟨written, length_eq, round⟩ :=
          @headerRound_eq server headers _ _ _ _ _ _ _ lineLayout start rfl noZeroText
        rw [nextAt, lines, List.foldlM_cons]
        cases outcome : readHeader server headers text with
        | error reply =>
            simp only [Option.bind_eq_bind, Option.map_some, Option.bind_some, round, outcome]
            rfl
        | ok headers =>
            have shorter : more.length < rounds := by
              simp only [List.length_append, List.length_cons] at enough
              omega
            have later := @inductionHypothesis headers
              (written ++ 0 :: 10 :: (more ++ found ++ 0 :: rest)) (written ++ [0, 10]) more
              (line + text.length + 2) (by simp) (by simp [length_eq])
              (by simp only [← stop, List.length_append, List.length_cons]; omega)
              noZeroMore moreFirst moreNonempty shorter
            simp only [Option.bind_eq_bind, Option.map_some, Option.bind_some, round, outcome]
            exact later

/-- The request line and the header lines are those of the head. -/
theorem lines_inPlace {server : Server} {rounds : Nat} {req head found : Bytes}
    (holds : Holds req (head ++ found))
    (first : strstr headEnd (head ++ found) = some (head, found)) (enough : 4096 ≤ rounds) :
    ∃ line started text lines, strstrAt [13, 10] req 0 = some (some line) ∧
      store req line [0] = some started ∧ stringAt started 0 = some text ∧
      crlfLines head = text :: lines ∧
      headerLoop server head.length rounds {} started (line + 2) =
        some (readHeaders server lines) := by
  have size := holds.length_le
  obtain ⟨rest, layout⟩ := holds.layout
  have noZero := holds.noZero
  unfold requestLimit at size
  rw [holds.strstrAt]
  rcases firstLine_cases first with
    ⟨lines, nextAt⟩ | ⟨text, more, rfl, moreNonempty, lines, moreFirst, nextAt⟩
  · obtain ⟨behind, rfl⟩ := strstr_isPrefix first
    have noZeroHead : 0 ∉ head := fun membership => noZero (List.mem_append_left _ membership)
    have lineLayout : req = head ++ 13 :: ([10, 13, 10] ++ behind ++ 0 :: rest) := by
      simpa [headEnd] using layout
    have inFront : head ++ 0 :: ([10, 13, 10] ++ behind ++ 0 :: rest) =
      [] ++ (head ++ 0 :: ([10, 13, 10] ++ behind ++ 0 :: rest)) := rfl
    refine ⟨head.length, _, head, [], by rw [nextAt]; rfl, store_eq 0 lineLayout rfl,
      stringAt_eq inFront rfl noZeroHead, lines, ?_⟩
    exact headerLoop_end (Nat.le_add_right _ 2) (by omega)
  · obtain ⟨noZeroText, noZeroMore⟩ := noZero_line noZero
    have lineLayout : req = text ++ 13 :: (10 :: (more ++ found ++ 0 :: rest)) := by
      simpa using layout
    have inFront : text ++ 0 :: 10 :: (more ++ found ++ 0 :: rest) =
      [] ++ (text ++ 0 :: 10 :: (more ++ found ++ 0 :: rest)) := rfl
    have moreLayout : text ++ 0 :: 10 :: (more ++ found ++ 0 :: rest) =
      (text ++ [0, 10]) ++ (more ++ found ++ 0 :: rest) := by simp
    simp only [List.length_append, List.length_cons] at size
    refine ⟨text.length, _, text, crlfLines more, by rw [nextAt]; rfl,
      store_eq 0 lineLayout rfl, stringAt_eq inFront rfl noZeroText, lines, ?_⟩
    refine headerLoop_eq moreLayout List.length_append ?_ noZeroMore moreFirst moreNonempty ?_
    · simp only [List.length_append, List.length_cons]
      omega
    · omega

theorem handleRequestInPlace_eq {server : Server} {rounds : Nat} {req head found : Bytes}
    (holds : Holds req (head ++ found))
    (first : strstr headEnd (head ++ found) = some (head, found)) (enough : 4096 ≤ rounds) :
    handleRequestInPlace server rounds req head.length = some (handleRequest server head) := by
  obtain ⟨line, started, text, lines, lineAt, stored, textAt, split, headers⟩ :=
    @lines_inPlace server _ _ _ _ holds first enough
  rw [handleRequestInPlace, lineAt, handleRequest, split]
  simp only [Option.bind_eq_bind, Option.bind_some, stored, textAt, headers]
  cases requestLine text with
  | none => rfl
  | some request => cases readHeaders server lines <;> rfl

theorem handleClientInPlace_eq (server : Server) {rounds : Nat} {req : Bytes}
    (size : req.length = 4096) (enough : 4096 ≤ rounds) (received : List Receive) :
    handleClientInPlace server rounds req received = some (handleClient server received) := by
  obtain ⟨started, stored, holds⟩ := holds_start size
  obtain ⟨outcome, filled, delivers⟩ := fillRequest_eq holds received
  rw [List.length_nil] at filled
  rw [handleClientInPlace, stored, handleClient]
  simp only [Option.bind_eq_bind, Option.bind_some, filled]
  generalize readRequest [] received = request at delivers
  cases delivers with
  | refused status => rfl
  | request holds first => exact handleRequestInPlace_eq holds first enough

/-! ## Fragments -/

def Silent : List Receive → Prop
  | .ended :: _ | .timeout :: _ => True
  | _ => False

/-- A request that its first empty line ends, or that has none and nothing follows. -/
def Delimited (whole : Bytes) (after : List Receive) : Prop :=
  (∃ head, strstr headEnd whole = some (head, headEnd)) ∨
    strstr headEnd whole = none ∧ Silent after

def requestOutcome (whole : Bytes) : Except Bytes Bytes :=
  if 0 ∈ whole.take requestLimit then .error (ascii "400 Bad Request")
  else
    match strstr headEnd (whole.take requestLimit) with
    | some (head, _) => .ok head
    | none =>
        if requestLimit ≤ whole.length then .error (ascii "431 Request Header Fields Too Large")
        else .error (ascii "408 Request Timeout")

theorem Delimited.notYet {text rest : Bytes} {after : List Receive}
    (delimited : Delimited (text ++ rest) after) (nonempty : rest ≠ []) :
    strstr headEnd text = none := by
  by_contra early
  obtain ⟨⟨before, behind⟩, early⟩ := Option.ne_none_iff_exists'.mp early
  have extended := strstr_extend early rest
  rcases delimited with ⟨head, found⟩ | ⟨absent, -⟩
  · rw [extended] at found
    simp only [Option.some.injEq, Prod.mk.injEq] at found
    have lengths := (strstr_isPrefix early).length_le
    have total := congrArg List.length found.2
    have positive := List.length_pos_of_ne_nil nonempty
    rw [List.length_append] at total
    omega
  · rw [extended] at absent
    cases absent

theorem readRequest_overflow {text : Bytes} (absent : strstr headEnd text = none)
    (full : text.length = requestLimit) (received : List Receive) :
    readRequest text received = .error (ascii "431 Request Header Fields Too Large") := by
  unfold readRequest
  rw [absent]
  simp only [full, if_true]

theorem requestOutcome_overflow {text rest : Bytes} (absent : strstr headEnd text = none)
    (full : text.length = requestLimit) (noZero : 0 ∉ text) :
    requestOutcome (text ++ rest) = .error (ascii "431 Request Header Fields Too Large") := by
  have long : requestLimit ≤ (text ++ rest).length := by
    rw [List.length_append, full]
    exact Nat.le_add_right _ _
  rw [requestOutcome, ← full, List.take_left, if_neg noZero, absent, full]
  simp only [if_pos long]

/-- However the rest of a request is cut, the outcome is that of the whole. -/
theorem readRequest_pieces {text whole : Bytes} {pieces : List Bytes} {after : List Receive}
    (delimited : Delimited whole after) (nonempty : ∀ piece ∈ pieces, piece ≠ [])
    (cut : text ++ pieces.flatten = whole) (short : text.length ≤ requestLimit)
    (noZero : 0 ∉ text) :
    readRequest text (pieces.map .data ++ after) = requestOutcome whole := by
  induction pieces generalizing text with
  | nil =>
      have complete : text = whole := by simpa using cut
      subst complete
      rw [requestOutcome, List.take_of_length_le short, if_neg noZero, List.map_nil,
        List.nil_append]
      unfold readRequest
      rcases delimited with ⟨head, found⟩ | ⟨absent, silent⟩
      · rw [found]
      · rw [absent]
        by_cases full : text.length = requestLimit
        · simp only [full, if_true, le_refl]
        · have room : ¬ requestLimit ≤ text.length := by omega
          simp only [if_neg full, if_neg room]
          rcases after with _ | ⟨_ | _ | _, rest⟩
          · exact silent.elim
          · exact silent.elim
          · rfl
          · rfl
  | cons piece rest inductionHypothesis =>
      rw [List.flatten_cons] at cut
      subst cut
      have somePiece := nonempty piece List.mem_cons_self
      have notYet := delimited.notYet (List.append_ne_nil_of_left_ne_nil somePiece rest.flatten)
      by_cases full : text.length = requestLimit
      · rw [readRequest_overflow notYet full, requestOutcome_overflow notYet full noZero]
      · have room : 0 < requestLimit - text.length := by omega
        have taken_ne : piece.take (requestLimit - text.length) ≠ [] := by
          simp only [ne_eq, List.take_eq_nil_iff, not_or]
          exact ⟨by omega, somePiece⟩
        rw [List.map_cons, List.cons_append]
        unfold readRequest
        simp only [notYet, if_neg full, if_neg taken_ne]
        have whole_eq : text ++ (piece ++ rest.flatten) =
            (text ++ piece.take (requestLimit - text.length)) ++
              (piece.drop (requestLimit - text.length) ++ rest.flatten) := by
          rw [List.append_assoc, ← List.append_assoc (List.take _ _), List.take_append_drop]
        have fits : (text ++ piece.take (requestLimit - text.length)).length ≤ requestLimit := by
          have bounded := List.length_take_le (requestLimit - text.length) piece
          rw [List.length_append]
          omega
        by_cases zero : 0 ∈ piece.take (requestLimit - text.length)
        · have early : 0 ∈ (text ++ (piece ++ rest.flatten)).take requestLimit := by
            refine (List.prefix_take_iff.mpr ⟨?_, fits⟩).subset (List.mem_append_right _ zero)
            rw [whole_eq]
            exact List.prefix_append _ _
          rw [if_pos zero, requestOutcome, if_pos early]
        · rw [if_neg zero]
          have clean : 0 ∉ text ++ piece.take (requestLimit - text.length) := by
            rw [List.mem_append, not_or]
            exact ⟨noZero, zero⟩
          by_cases left : piece.drop (requestLimit - text.length) = []
          · refine inductionHypothesis (fun other membership =>
              nonempty other (List.mem_cons_of_mem _ membership)) ?_ fits clean
            rw [whole_eq, left, List.nil_append]
          · have fullNow : (text ++ piece.take (requestLimit - text.length)).length =
                requestLimit := by
              rw [List.drop_eq_nil_iff] at left
              rw [List.length_append, List.length_take]
              omega
            rw [whole_eq] at delimited ⊢
            have notEither := delimited.notYet (List.append_ne_nil_of_left_ne_nil left _)
            rw [readRequest_overflow notEither fullNow,
              requestOutcome_overflow notEither fullNow clean]

theorem handleClient_pieces (server : Server) {whole : Bytes} {pieces : List Bytes}
    {after : List Receive} (delimited : Delimited whole after)
    (nonempty : ∀ piece ∈ pieces, piece ≠ []) (cut : pieces.flatten = whole) :
    handleClient server (pieces.map .data ++ after) = handleClient server (.data whole :: after) := by
  have whole_read : readRequest [] (.data whole :: after) = requestOutcome whole := by
    by_cases empty : whole = []
    · subst empty
      rfl
    · exact @readRequest_pieces [] whole [whole] after delimited (by simpa using empty) (by simp)
        (Nat.zero_le _) List.not_mem_nil
  rw [handleClient, handleClient, whole_read,
    readRequest_pieces delimited nonempty cut (Nat.zero_le _) List.not_mem_nil]

theorem fragmentation_unobservable (server : Server) {rounds : Nat} {req other : Bytes}
    (size : req.length = 4096) (otherSize : other.length = 4096) (enough : 4096 ≤ rounds) :
    (∀ received, ∃ handler, handleClientInPlace server rounds req received = some handler) ∧
      ∀ (whole : Bytes) (pieces : List Bytes) (after : List Receive), Delimited whole after →
        (∀ piece ∈ pieces, piece ≠ []) → pieces.flatten = whole →
          handleClientInPlace server rounds req (pieces.map .data ++ after) =
            handleClientInPlace server rounds other (.data whole :: after) := by
  constructor
  · intro received
    exact ⟨_, handleClientInPlace_eq server size enough received⟩
  · intro whole pieces after delimited nonempty cut
    rw [handleClientInPlace_eq server size enough,
      handleClientInPlace_eq server otherSize enough,
      handleClient_pieces server delimited nonempty cut]

theorem fragmentation_unobservable_split :
    handleClientInPlace { port := 8080 } 4096 (List.replicate 4096 0)
        [.data [71, 69, 84, 13], .data [10, 13], .data [10]] =
      handleClientInPlace { port := 8080 } 4096 (List.replicate 4096 255)
        [.data [71, 69, 84, 13, 10, 13, 10]] := by
  have delimited : strstr headEnd [71, 69, 84, 13, 10, 13, 10] =
      some ([71, 69, 84], headEnd) := by decide
  exact (fragmentation_unobservable { port := 8080 } List.length_replicate List.length_replicate
    (Nat.le_refl 4096)).2 _ [[71, 69, 84, 13], [10, 13], [10]] [] (.inl ⟨_, delimited⟩)
    (by decide) rfl

end AirTizen.Control

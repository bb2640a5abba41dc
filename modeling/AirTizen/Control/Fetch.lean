import AirTizen.Control.Noninterference
import AirTizen.Control.PlaylistRoutes
import AirTizen.Control.RequestBuffer

/-!
# Fetching what a playlist lists

A client sends a path of the playlist as a plain GET, in any number of chunks.
The server reads the request, finds the token in the query if it needs one, and
answers from the same video store the playlist was printed from.
-/

namespace AirTizen.Control

open CText Scanf Video

/-! ## Requests on the wire -/

def knownHeaders : List Bytes :=
  [ascii "Host", ascii "Origin", ascii "X-AirTizen-Control", ascii "Content-Length",
    ascii "Transfer-Encoding"]

structure OrdinaryHeader (line : Bytes) : Prop where
  nonempty : line ≠ []
  whole : 13 ∉ line
  text : 0 ∉ line
  field : ∃ name value, headerField line = some (name, value) ∧
    ∀ known ∈ knownHeaders, sameLetters name known = false

def hostLine (server : Server) : Bytes := ascii "Host: " ++ expectedHost server

def getLine (uri : Bytes) : Bytes := ascii "GET " ++ (uri ++ ascii " HTTP/1.1")

def requestHead (first : Bytes) (lines : List Bytes) : Bytes :=
  first ++ lines.flatMap fun line => 13 :: 10 :: line

/-- The chunks of a GET for the path with the right host and no control header. -/
structure Fetches (server : Server) (uri : Bytes) (chunks extra : List Bytes) : Prop where
  nonempty : ∀ chunk ∈ chunks, chunk ≠ []
  ordinary : ∀ line ∈ extra, OrdinaryHeader line
  text : chunks.flatten =
    requestHead (getLine uri) (hostLine server :: extra) ++ headEnd
  short : chunks.flatten.length ≤ requestLimit

theorem crlfLines_requestHead {first : Bytes} {lines : List Bytes} (whole : 13 ∉ first)
    (wholeLines : ∀ line ∈ lines, 13 ∉ line) :
    crlfLines (requestHead first lines) = first :: lines := by
  induction lines generalizing first with
  | nil => simpa [requestHead] using crlfLines_singleton whole
  | cons line rest inductionHypothesis =>
      have tail := inductionHypothesis (wholeLines line List.mem_cons_self)
        fun other membership => wholeLines other (List.mem_cons_of_mem _ membership)
      have split : requestHead first (line :: rest) = first ++ 13 :: 10 :: requestHead line rest := by
        simp [requestHead]
      rw [split, crlfLines_cons whole, tail]

/-- The first empty line of a request is the one behind its head. -/
theorem strstr_requestHead {first : Bytes} {lines : List Bytes} (whole : 13 ∉ first)
    (wholeLines : ∀ line ∈ lines, line ≠ [] ∧ 13 ∉ line) :
    strstr headEnd (requestHead first lines ++ headEnd) =
      some (requestHead first lines, headEnd) := by
  induction lines generalizing first with
  | nil =>
      simp only [requestHead, List.flatMap_nil, List.append_nil]
      unfold headEnd
      rw [strstr_skip whole]
      simp [strstr]
  | cons line rest inductionHypothesis =>
      obtain ⟨nonempty, wholeLine⟩ := wholeLines line List.mem_cons_self
      have tail := inductionHypothesis wholeLine
        fun other membership => wholeLines other (List.mem_cons_of_mem _ membership)
      have split : requestHead first (line :: rest) = first ++ 13 :: 10 :: requestHead line rest := by
        simp [requestHead]
      have noBreak : ¬ headEnd.isPrefixOf (13 :: 10 :: (requestHead line rest ++ headEnd)) = true := by
        cases line with
        | nil => exact absurd rfl nonempty
        | cons byte bytes =>
            simp only [List.mem_cons, not_or] at wholeLine
            simp [headEnd, requestHead, List.isPrefixOf, wholeLine.1]
      have noStart : ¬ headEnd.isPrefixOf (10 :: (requestHead line rest ++ headEnd)) = true := by
        simp [headEnd, List.isPrefixOf]
      rw [split, List.append_assoc]
      change strstr (13 :: [10, 13, 10]) _ = _
      rw [strstr_skip whole]
      change (strstr headEnd (13 :: 10 :: (requestHead line rest ++ headEnd))).map _ = _
      rw [strstr, if_neg noBreak, strstr, if_neg noStart, tail]
      rfl

theorem readRequest_chunks {text whole head : Bytes} {chunks : List Bytes}
    (nonempty : ∀ chunk ∈ chunks, chunk ≠ []) (cut : text ++ chunks.flatten = whole)
    (short : whole.length ≤ requestLimit) (noZero : 0 ∉ whole)
    (found : strstr headEnd whole = some (head, headEnd)) :
    readRequest text (chunks.map .data) = .ok head := by
  have noZeroText : 0 ∉ text := fun membership =>
    noZero (by rw [← cut]; exact List.mem_append_left _ membership)
  have shortText : text.length ≤ requestLimit := by
    rw [← cut, List.length_append] at short
    exact (Nat.le_add_right _ _).trans short
  have outcome := @readRequest_pieces text whole chunks [] (.inl ⟨head, found⟩) nonempty cut
    shortText noZeroText
  rw [List.append_nil] at outcome
  rw [outcome, requestOutcome, List.take_of_length_le short, if_neg noZero, found]

/-! ## The request line and the header lines -/

theorem requestLine_getLine {uri : Bytes} (plain : Plain uri) (nonempty : uri ≠ [])
    (short : uri.length ≤ 255) : requestLine (getLine uri) = some (ascii "GET", uri) := by
  have letters := plain.isSpace
  have text : getLine uri =
      ascii "GET" ++ 32 :: (uri ++ 32 :: (ascii "HTTP/1.1" ++ [])) := by
    rw [List.append_nil]
    rfl
  have values : (sscanf requestFormat (getLine uri)).values =
      [.text (ascii "GET"), .text uri, .text (ascii "HTTP/1.1")] := by
    rw [sscanf, requestFormat]
    generalize (getLine uri).length = total
    rw [text, scanFrom_text (by decide) (by decide) (by decide) (by simp; rfl),
      scanFrom_space letters nonempty,
      scanFrom_text letters nonempty short (by simp; rfl),
      scanFrom_space (by decide) (by decide),
      scanFrom_text (by decide) (by decide) (by decide) (by simp)]
    rfl
  rw [requestLine, values]
  rfl

theorem readHeader_hostLine (server : Server) :
    readHeader server {} (hostLine server) = .ok { host := true } := by
  have split : headerField (hostLine server) = some (ascii "Host", expectedHost server) := rfl
  have isHost : sameLetters (ascii "Host") (ascii "Host") = true := rfl
  simp only [readHeader, compareHeader, split, isHost, if_true]
  simp

theorem readHeader_ordinary {server : Server} {headers : Headers} {line : Bytes}
    (ordinary : OrdinaryHeader line) : readHeader server headers line = .ok headers := by
  obtain ⟨name, value, split, unknown⟩ := ordinary.field
  simp only [knownHeaders, List.mem_cons, List.not_mem_nil, or_false, forall_eq_or_imp,
    forall_eq] at unknown
  simp [readHeader, compareHeader, split, unknown]

theorem readHeaders_fetch {server : Server} {extra : List Bytes}
    (ordinary : ∀ line ∈ extra, OrdinaryHeader line) :
    readHeaders server (hostLine server :: extra) = .ok { host := true } := by
  have rest : ∀ headers : Headers, extra.foldlM (readHeader server) headers = .ok headers := by
    intro headers
    induction extra with
    | nil => rfl
    | cons line rest inductionHypothesis =>
        rw [List.foldlM_cons, readHeader_ordinary (ordinary line List.mem_cons_self)]
        exact inductionHypothesis
          fun other membership => ordinary other (List.mem_cons_of_mem _ membership)
  rw [readHeaders, List.foldlM_cons, readHeader_hostLine]
  exact rest _

/-- The query of a printed path is the credential of the server that printed it. -/
theorem takeQueryToken_printed (server : Server) {path : Bytes} (noQuery : 63 ∉ path) :
    takeQueryToken server (path ++ authQuery server.tokenText) =
      (path, server.token.isSome) := by
  cases configured : server.token with
  | none => simp [takeQueryToken, configured, Server.tokenText, authQuery]
  | some token =>
      have nonempty : token.bytes ≠ [] := by
        intro empty
        have length := token.length_eq
        rw [empty] at length
        cases length
      have found : strstr (ascii "?token=") (path ++ (ascii "?token=" ++ token.bytes)) =
          some (path, ascii "?token=" ++ token.bytes) := by
        change strstr (63 :: ascii "token=") _ = _
        have here : strstr (63 :: ascii "token=") (ascii "?token=" ++ token.bytes) =
            some ([], ascii "?token=" ++ token.bytes) := rfl
        rw [strstr_skip noQuery, here]
        simp
      have accepted : tokenEqual server token.bytes = true :=
        (tokenEqual_iff server token.bytes).mpr ⟨token, configured, rfl⟩
      have query : authQuery token.bytes = ascii "?token=" ++ token.bytes := by
        rw [authQuery, if_neg nonempty]
      simp only [takeQueryToken, Server.tokenText, configured, query, found]
      change (path, tokenEqual server token.bytes) = _
      rw [accepted]
      rfl

theorem plain_tokenText (server : Server) : Plain server.tokenText := by
  unfold Server.tokenText
  split
  next token _ =>
    intro byte membership
    rcases token.digits byte membership with digit | letter
    · refine ⟨UInt8.lt_of_lt_of_le (by decide : (32 : UInt8) < 48) digit.1, ?_⟩
      rintro rfl
      exact absurd digit (by decide)
    · refine ⟨UInt8.lt_of_lt_of_le (by decide : (32 : UInt8) < 97) letter.1, ?_⟩
      rintro rfl
      exact absurd letter (by decide)
  · intro byte membership
    cases membership

theorem tokenText_length_le (server : Server) : server.tokenText.length ≤ 64 := by
  unfold Server.tokenText
  split
  next token _ => exact token.length_eq.le
  · simp

theorem not_mem_getLine {byte : UInt8} {uri : Bytes} (plain : Plain uri)
    (control : byte ≤ 32) (frame : byte ∉ ascii "GET " ++ ascii " HTTP/1.1") :
    byte ∉ getLine uri := by
  simp only [List.mem_append, not_or] at frame
  simp only [getLine, List.mem_append, not_or]
  exact ⟨frame.1, fun membership => absurd (plain byte membership).1 (UInt8.not_lt.mpr control), frame.2⟩

theorem not_mem_hostLine {byte : UInt8} (server : Server) (control : byte ≤ 32)
    (frame : byte ∉ ascii "Host: 127.0.0.1:") : byte ∉ hostLine server := by
  have text : hostLine server = ascii "Host: 127.0.0.1:" ++ decimal server.port.toNat := rfl
  rw [text, List.mem_append, not_or]
  exact ⟨frame, fun membership =>
    absurd (plain_decimal _ byte membership).1 (UInt8.not_lt.mpr control)⟩

theorem not_mem_requestHead {byte : UInt8} {first : Bytes} {lines : List Bytes}
    (frame : byte ∉ [13, 10]) (absent : byte ∉ first) (absentLines : ∀ line ∈ lines, byte ∉ line) :
    byte ∉ requestHead first lines := by
  simp only [requestHead, List.mem_append, List.mem_flatMap, not_or, not_exists, not_and]
  refine ⟨absent, fun line inLines membership => ?_⟩
  have inBoth : byte ∈ [13, 10] ++ line := membership
  rcases List.mem_append.mp inBoth with inBreak | inLine
  · exact frame inBreak
  · exact absentLines line inLines inLine

/-- Behind all checks: a plain GET for a printed path reaches the dispatch. -/
theorem handleClient_fetch {server : Server} {path : Bytes} {chunks extra : List Bytes}
    (plain : Plain path) (nonempty : path ≠ []) (noQuery : 63 ∉ path)
    (short : path.length ≤ 100)
    (known : (parseRoute path).known path = true)
    (fetches : Fetches server (path ++ authQuery server.tokenText) chunks extra) :
    handleClient server (chunks.map .data) =
      dispatch server { host := true } (ascii "GET") path (parseRoute path) := by
  have plainUri := plain.append (plain_authQuery (plain_tokenText server))
  have nonemptyUri : path ++ authQuery server.tokenText ≠ [] := by simp [nonempty]
  have shortUri : (path ++ authQuery server.tokenText).length ≤ 255 := by
    have query := authQuery_length_le (tokenText_length_le server)
    rw [List.length_append]
    omega
  have query := takeQueryToken_printed server noQuery
  generalize path ++ authQuery server.tokenText = uri at *
  have wholeFirst : 13 ∉ getLine uri := not_mem_getLine plainUri (by decide) (by decide)
  have wholeLines : ∀ line ∈ hostLine server :: extra, line ≠ [] ∧ 13 ∉ line ∧ 0 ∉ line := by
    intro line membership
    rcases List.mem_cons.mp membership with rfl | others
    · exact ⟨by simp [hostLine, ascii], not_mem_hostLine server (by decide) (by decide),
        not_mem_hostLine server (by decide) (by decide)⟩
    · have ordinary := fetches.ordinary line others
      exact ⟨ordinary.nonempty, ordinary.whole, ordinary.text⟩
  have noZero : 0 ∉ requestHead (getLine uri) (hostLine server :: extra) ++ headEnd := by
    rw [List.mem_append, not_or]
    exact ⟨not_mem_requestHead (by decide)
      (not_mem_getLine plainUri (by decide) (by decide))
      fun line membership => (wholeLines line membership).2.2, by decide⟩
  have request : readRequest [] (chunks.map .data) =
      .ok (requestHead (getLine uri) (hostLine server :: extra)) :=
    readRequest_chunks fetches.nonempty fetches.text (fetches.text ▸ fetches.short) noZero
      (strstr_requestHead wholeFirst fun line membership =>
        ⟨(wholeLines line membership).1, (wholeLines line membership).2.1⟩)
  have lines := crlfLines_requestHead wholeFirst fun line membership =>
    (wholeLines line membership).2.1
  rw [handleClient, request]
  change handleRequest server _ = _
  rw [handleRequest, lines]
  simp only [requestLine_getLine plainUri nonemptyUri shortUri, query,
    readHeaders_fetch fetches.ordinary]
  unfold authorize
  have authorised : ¬ (server.token.isSome && !false && !server.token.isSome) = true := by
    cases server.token.isSome <;> decide
  rw [if_neg (by simp), if_neg (by decide), if_neg authorised, if_neg (by simp [known])]

/-! ## The receiver -/

/-- A receiver with the video store; `malloc` succeeds, and everything else is
left to `others`. -/
def withVideo {Others : Type} (undefinedCast : ℚ → Nat) (others : Receiver Others) :
    Receiver (Video.Store × Others)
  | .hlsManifest token, state =>
      ((Video.hlsManifest undefinedCast true token state.1).getD [], state)
  | .hlsSegment generation first last, state =>
      ((Video.hlsSegment true generation first last state.1).getD [], state)
  | .videoCopy init sequence, state =>
      let (data, generation) := Video.copy true init sequence state.1
      ((data.getD [], generation), state)
  | operation, state =>
      let (answer, other) := others operation state.2
      (answer, (state.1, other))

/-- A plain GET for the path, whatever its chunks and its other header lines, is
answered with the body after one operation, and changes nothing. -/
def Served (undefinedCast : ℚ → Nat) (server : Server) (store : Video.Store) (uri : Bytes)
    (operation : Operation) (generation : Nat) (body : Bytes) : Prop :=
  ∀ (chunks extra : List Bytes), Fetches server uri chunks extra →
    ∀ (Others : Type) (others : Receiver Others) (other : Others),
      let handler := handleClient server (chunks.map .data)
      ∃ reply : Reply,
        handler.run (withVideo undefinedCast others) (store, other) = (reply, (store, other)) ∧
        handler.trace (withVideo undefinedCast others) (store, other) = [operation] ∧
        reply.status = ascii "200 OK" ∧ reply.generation = generation ∧ reply.body = body ∧
        reply.wire = reply.header ++ body

/-! ## What a playlist promises -/

/-- A path of a playlist selects one route only, and its query is accepted. -/
structure Routed (server : Server) (uri : Bytes) (route : Route) : Prop where
  authorised : (takeQueryToken server uri).2 = server.token.isSome
  parsed : parseRoute (takeQueryToken server uri).1 = route

structure PlaylistContract (undefinedCast : ℚ → Nat) (server : Server) (store : Video.Store)
    (text : Bytes) : Prop where
  /-- Every `snprintf` finds room, and the text is complete. -/
  complete : ∃ groups, listedGroups store = some groups ∧
    (∀ count, ((manifestPieces undefinedCast server.tokenText store groups).take
      count).flatten.length < manifestCapacity) ∧
    text = (manifestPieces undefinedCast server.tokenText store groups).flatten
  /-- Consecutive groups of fifteen, numbered from the first one. -/
  groups : ∃ first count, 0 < count ∧ mediaSequence text = some first ∧
    segmentUris text = (List.range' first count).map fun group =>
      segmentUri store.state.generation group server.tokenText
  init : ∃ uri initData, mapUri text = some uri ∧ store.initData = some initData ∧
    Routed server uri { hlsInit := true, hlsGeneration := store.state.generation } ∧
    Served undefinedCast server store uri (.videoCopy true 0) store.state.generation initData
  segments : ∀ uri ∈ segmentUris text, ∃ (group : Nat) (pieces : List Bytes),
    uri = segmentUri store.state.generation group server.tokenText ∧
    Routed server uri
      { hlsSegment := true, hlsGeneration := store.state.generation
        hlsFirst := groupFirst group, hlsLast := groupLast group } ∧
    (numbers (groupFirst group) (groupLast group)).map
      (fun number => Video.copy true false number store) =
        pieces.map (fun piece => (some piece, store.state.generation)) ∧
    Served undefinedCast server store uri
      (.hlsSegment store.state.generation (groupFirst group) (groupLast group))
      store.state.generation pieces.flatten

theorem plain_initPath (generation : Nat) : Plain (initPath generation) :=
  (Plain.append (by decide) (plain_decimal _)).append (by decide)

theorem plain_segmentPath (generation first last : Nat) :
    Plain (segmentPath generation first last) :=
  ((((Plain.append (by decide) (plain_decimal _)).append (by decide)).append
    (plain_decimal _)).append (by decide)).append (plain_decimal _)

theorem not_mem_decimal {byte : UInt8} (notDigit : isDigit byte = false) (number : Nat) :
    byte ∉ decimal number := fun membership => by
  rw [isDigit_of_mem_decimal membership] at notDigit
  cases notDigit

theorem noQuery_initPath (generation : Nat) : 63 ∉ initPath generation := by
  simp only [initPath, List.mem_append, not_or]
  exact ⟨⟨by decide, not_mem_decimal rfl _⟩, by decide⟩

theorem noQuery_segmentPath (generation first last : Nat) :
    63 ∉ segmentPath generation first last := by
  simp only [segmentPath, List.mem_append, not_or]
  exact ⟨⟨⟨⟨⟨by decide, not_mem_decimal rfl _⟩, by decide⟩, not_mem_decimal rfl _⟩, by decide⟩,
    not_mem_decimal rfl _⟩

theorem wire_eq {status type origin body : Bytes} {generation : Nat}
    (statusShort : status.length ≤ 40) (typeShort : type.length ≤ 40)
    (originShort : origin.length ≤ 40) (generationSmall : generation < 10 ^ 10)
    (bodySmall : body.length < 10 ^ 10) :
    Reply.wire ⟨status, type, origin, generation, body⟩ =
      Reply.header ⟨status, type, origin, generation, body⟩ ++ body := by
  have fits : (Reply.header ⟨status, type, origin, generation, body⟩).length < 1024 := by
    have generationWidth := decimal_length_le (by norm_num) generationSmall
    have bodyWidth := decimal_length_le (by norm_num) bodySmall
    -- the printed frame around the five variable texts
    have frame : (Reply.header ⟨[], [], [], 0, []⟩).length = 350 := by decide +kernel
    simp only [Reply.header, List.length_append, List.length_nil] at frame ⊢
    omega
  rw [Reply.wire, if_pos fits]

theorem routed {server : Server} {path : Bytes} {route : Route} (noQuery : 63 ∉ path)
    (parsed : parseRoute path = route) :
    Routed server (path ++ authQuery server.tokenText) route := by
  rw [← parsed]
  constructor
  · rw [takeQueryToken_printed server noQuery]
  · rw [takeQueryToken_printed server noQuery]

variable {store : Video.Store} {stream : Stream}

theorem dispatch_init (server : Server) (path : Bytes) (generation : Nat) :
    dispatch server { host := true } (ascii "GET") path
        { hlsInit := true, hlsGeneration := generation } =
      .ask (.videoCopy true 0) fun (body, current) =>
        .done (respondContent nullOrigin
          ⟨if true && current != generation then [] else body, ascii "video/mp4"⟩ current
          (respond nullOrigin (ascii "410 Gone")
            (ascii "\x7b\"ok\":false,\"error\":\"media_not_available\"\x7d"))) := rfl

theorem dispatch_segment (server : Server) (path : Bytes) (generation first last : Nat) :
    dispatch server { host := true } (ascii "GET") path
        { hlsSegment := true, hlsGeneration := generation, hlsFirst := first, hlsLast := last } =
      .ask (.hlsSegment generation first last) fun body =>
        .done (respondContent nullOrigin ⟨body, ascii "video/mp4"⟩ generation
          (respond nullOrigin (ascii "410 Gone") notOk)) := rfl

theorem wire_media {generation : Nat} {body : Bytes} (generationSmall : generation < 2 ^ 32)
    (bodySmall : body.length < 10 ^ 10) :
    Reply.wire ⟨ascii "200 OK", ascii "video/mp4", nullOrigin, generation, body⟩ =
      Reply.header ⟨ascii "200 OK", ascii "video/mp4", nullOrigin, generation, body⟩ ++ body :=
  wire_eq (by decide) (by decide) (by decide) (generationSmall.trans (by norm_num)) bodySmall

theorem served_init (represents : Represents store stream) (undefinedCast : ℚ → Nat)
    (server : Server) {initData : Bytes} (published : stream.initData = some initData) :
    Served undefinedCast server store (initUri store.state.generation server.tokenText)
      (.videoCopy true 0) store.state.generation initData := by
  intro chunks extra fetches Others others other
  obtain ⟨nonempty, fits⟩ := represents.headerPacked initData published
  have small := represents.generation_lt
  have short : (initPath store.state.generation).length ≤ 100 := by
    have width : (decimal store.state.generation).length ≤ 10 :=
      decimal_length_le (by norm_num) (small.trans (by norm_num))
    have front : (ascii "/video/hls/").length = 11 := rfl
    have back : (ascii "/init").length = 5 := rfl
    simp only [initPath, List.length_append, front, back]
    omega
  have route := parseRoute_initPath small
  have handled := handleClient_fetch (plain_initPath _) (by simp [initPath, ascii])
    (noQuery_initPath _) short (by rw [route]; rfl) fetches
  rw [route, dispatch_init] at handled
  have copied : Video.copy true true 0 store = (some initData, store.state.generation) := by
    simp [Video.copy, copySource, represents.initData, published, nonempty]
  have body : (if true && store.state.generation != store.state.generation then []
      else initData) = initData := by simp
  simp only [handled]
  refine ⟨⟨ascii "200 OK", ascii "video/mp4", nullOrigin, store.state.generation, initData⟩,
    ?_, rfl, rfl, rfl, rfl, wire_media small (fits.trans_lt (by decide))⟩
  rw [Interaction.run_ask, withVideo, copied]
  simp only [Option.getD_some, body, respondContent, if_neg nonempty, Interaction.run_done]

theorem served_segment (represents : Represents store stream) (undefinedCast : ℚ → Nat)
    (server : Server) {group : Nat} (newest : groupLast group ≤ stream.log.latest)
    (complete : ∀ number ∈ numbers (groupFirst group) (groupLast group),
      (stream.log.read number).isSome = true) :
    Served undefinedCast server store (segmentUri store.state.generation group server.tokenText)
      (.hlsSegment store.state.generation (groupFirst group) (groupLast group))
      store.state.generation
      ((numbers (groupFirst group) (groupLast group)).map
        fun number => copySource false number store).flatten := by
  intro chunks extra fetches Others others other
  have small := represents.generation_lt
  have latest := represents.toCounted.latest_lt
  have ordered : groupFirst group ≤ groupLast group := by
    unfold groupLast hlsGroup
    omega
  have short : (segmentPath store.state.generation (groupFirst group)
      (groupLast group)).length ≤ 100 := by
    have width : (decimal store.state.generation).length ≤ 10 :=
      decimal_length_le (by norm_num) (small.trans (by norm_num))
    have firstWidth : (decimal (groupFirst group)).length ≤ 20 :=
      decimal_length_le (by norm_num) (by omega)
    have lastWidth : (decimal (groupLast group)).length ≤ 20 :=
      decimal_length_le (by norm_num) (by omega)
    have front : (ascii "/video/hls/").length = 11 := rfl
    have slash : (ascii "/").length = 1 := rfl
    simp only [segmentPath, List.length_append, front, slash]
    omega
  have smallFirst : groupFirst group < 2 ^ 64 := by omega
  have smallLast : groupLast group < 2 ^ 64 := by omega
  have route := parseRoute_segmentPath small smallFirst smallLast
  have handled := handleClient_fetch (plain_segmentPath _ _ _) (by simp [segmentPath, ascii])
    (noQuery_segmentPath _ _ _) short (by rw [route]; rfl) fetches
  rw [route, dispatch_segment] at handled
  have segment := represents.hlsSegment_eq newest complete
  have nonempty : ((numbers (groupFirst group) (groupLast group)).map
      fun number => copySource false number store).flatten ≠ [] := by
    have first : groupFirst group ∈ numbers (groupFirst group) (groupLast group) :=
      mem_numbers.mpr ⟨le_rfl, ordered⟩
    intro empty
    exact (represents.copy_retained (complete _ first)).1
      (List.flatten_eq_nil_iff.mp empty _ (List.mem_map_of_mem first))
  have bodySmall : ((numbers (groupFirst group) (groupLast group)).map
      fun number => copySource false number store).flatten.length < 10 ^ 10 :=
    (represents.segment_length_le complete (Represents.nodup_group group)).trans_lt (by decide)
  simp only [handled]
  refine ⟨⟨ascii "200 OK", ascii "video/mp4", nullOrigin, store.state.generation, _⟩,
    ?_, rfl, rfl, rfl, rfl, wire_media small bodySmall⟩
  rw [Interaction.run_ask, withVideo, segment]
  simp only [Option.getD_some, respondContent, if_neg nonempty, Interaction.run_done]

theorem playlistContract_of_represents (represents : Represents store stream)
    (undefinedCast : ℚ → Nat) (server : Server) {text : Bytes}
    (listed : hlsManifest undefinedCast true server.tokenText store = some text) :
    PlaylistContract undefinedCast server store text := by
  unfold hlsManifest at listed
  split at listed
  · cases listed
  next groups found =>
    have fits := represents.manifest_fits undefinedCast (tokenText_length_le server) found
    have printed := Buffer.printAll_eq (by unfold manifestCapacity; norm_num) _ fits
    have plain := plain_tokenText server
    rw [printed] at listed
    simp only [fits, true_and, if_true, Option.some.injEq] at listed
    subst listed
    obtain ⟨first, count, consecutive, positive, _, complete⟩ := represents.listedGroups_spec found
    have uris := segmentUris_pieces undefinedCast plain store groups
    constructor
    · refine ⟨groups, found, fun count => ?_, rfl⟩
      exact (List.Sublist.length_le ((List.take_sublist count _).flatten)).trans_lt fits
    · refine ⟨first, count, positive, ?_, ?_⟩
      · rw [mediaSequence_pieces undefinedCast plain, consecutive]
        obtain ⟨rest, rfl⟩ : ∃ rest, count = rest + 1 := ⟨count - 1, by omega⟩
        rfl
      · rw [uris, consecutive]
    · obtain ⟨initData, published⟩ := initData_of_listedGroups found
      refine ⟨_, initData, mapUri_pieces undefinedCast plain store groups, published,
        routed (noQuery_initPath _) (parseRoute_initPath represents.generation_lt), ?_⟩
      exact served_init represents undefinedCast server (represents.initData ▸ published)
    · intro uri membership
      rw [uris] at membership
      obtain ⟨group, inGroups, rfl⟩ := List.mem_map.mp membership
      obtain ⟨newest, retained⟩ := complete group inGroups
      refine ⟨group, (numbers (groupFirst group) (groupLast group)).map
        fun number => copySource false number store, rfl, ?_, ?_,
        served_segment represents undefinedCast server newest retained⟩
      · have latest := represents.toCounted.latest_lt
        have ordered : groupFirst group ≤ groupLast group := by
          unfold groupLast hlsGroup
          omega
        exact routed (noQuery_segmentPath _ _ _)
          (parseRoute_segmentPath represents.generation_lt (by omega) (by omega))
      · rw [List.map_map]
        exact List.map_congr_left fun number inGroup =>
          (represents.copy_retained (retained number inGroup)).2

/-- Playlist, router and store agree in every reachable state of the store and
in both modes of the control server. -/
theorem playlist_contract (calls : List Call) (undefinedCast : ℚ → Nat) (server : Server)
    (text : Bytes)
    (listed : hlsManifest undefinedCast true server.tokenText (after calls) = some text) :
    PlaylistContract undefinedCast server (after calls) text := by
  obtain ⟨stream, represents⟩ := represents_after calls
  exact playlistContract_of_represents represents undefinedCast server listed

theorem fetches_whole (server : Server) {uri : Bytes} (short : uri.length ≤ 3000) :
    Fetches server uri [requestHead (getLine uri) [hostLine server] ++ headEnd] [] where
  nonempty := by
    intro chunk membership
    rw [List.mem_singleton.mp membership]
    simp [headEnd]
  ordinary := by simp
  text := by simp
  short := by
    have port : (decimal server.port.toNat).length ≤ 10 :=
      decimal_length_le (by norm_num) (server.port.toNat_lt.trans (by norm_num))
    have get : (ascii "GET ").length = 4 := rfl
    have version : (ascii " HTTP/1.1").length = 9 := rfl
    have host : (ascii "Host: ").length = 6 := rfl
    have address : (ascii "127.0.0.1:").length = 10 := rfl
    simp only [requestHead, getLine, hostLine, expectedHost, headEnd, requestLimit,
      List.flatMap_cons, List.flatMap_nil, List.flatten_cons, List.flatten_nil, List.length_append,
      List.length_cons, List.length_nil, get, version, host, address]
    omega

theorem playlist_contract_sample :
    ∃ text, hlsManifest (fun _ => 0) true (repeatedToken 48 (by decide)).bytes
        (after (sampleCalls 16)) = some text ∧
      PlaylistContract (fun _ => 0) ⟨8765, some (repeatedToken 48 (by decide))⟩
        (after (sampleCalls 16)) text := by
  have some' : (hlsManifest (fun _ => 0) true (repeatedToken 48 (by decide)).bytes
      (after (sampleCalls 16))).isSome = true := by decide +kernel
  obtain ⟨text, listed⟩ := Option.isSome_iff_exists.mp some'
  exact ⟨text, listed, playlist_contract (sampleCalls 16) (fun _ => 0)
    ⟨8765, some (repeatedToken 48 (by decide))⟩ text listed⟩

end AirTizen.Control

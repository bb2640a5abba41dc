import AirTizen.Control.Server

/-!
# Mutations need the header credential

The header loop keeps, for each header it knows, whether the header was seen;
what it accepts is at most one line of each.  The routes that change the
receiver are only reached behind its credential.
-/

namespace AirTizen.Control

open CText

/-! ## What the header loop accepts -/

def headerValues (name : Bytes) (lines : List Bytes) : List Bytes :=
  lines.filterMap fun line =>
    match headerField line with
    | some (field, value) => if sameLetters field name then some value else none
    | none => none

/-- At most one value, which is accepted; the flag tells whether there is one. -/
def Single (seen : Bool) (Accepted : Bytes → Prop) (values : List Bytes) : Prop :=
  if seen then ∃ value, values = [value] ∧ Accepted value else values = []

structure HeadersRead (server : Server) (lines : List Bytes) (headers : Headers) : Prop where
  host : Single headers.host (· = expectedHost server) (headerValues (ascii "Host") lines)
  origin : Single headers.origin (originAccepted server · = true)
    (headerValues (ascii "Origin") lines)
  control : Single headers.controlSeen (controlAccepted server · = headers.control)
    (headerValues (ascii "X-AirTizen-Control") lines)
  uncontrolled : headers.controlSeen = false → headers.control = false
  contentLength : Single headers.lengthSeen (· = ascii "0")
    (headerValues (ascii "Content-Length") lines)
  transferEncoding : headerValues (ascii "Transfer-Encoding") lines = []

theorem headerValues_concat {name line field value : Bytes}
    (split : headerField line = some (field, value)) (lines : List Bytes) :
    headerValues name (lines ++ [line]) =
      headerValues name lines ++ if sameLetters field name then [value] else [] := by
  unfold headerValues
  rw [List.filterMap_append, List.filterMap_cons, split]
  cases same : sameLetters field name <;> simp [same]

theorem Single.none (Accepted : Bytes → Prop) : Single false Accepted [] := rfl

theorem Single.first {seen : Bool} {Accepted : Bytes → Prop} {values : List Bytes}
    {value : Bytes} (single : Single seen Accepted values) (unseen : seen = false)
    (accepted : Accepted value) : Single true Accepted (values ++ [value]) := by
  subst unseen
  have empty : values = [] := by simpa [Single] using single
  rw [empty]
  exact ⟨value, rfl, accepted⟩

theorem sameLetters_exclusive {field first second : Bytes}
    (same : sameLetters field first = true)
    (different : sameLetters first second = false) : sameLetters field second = false := by
  unfold sameLetters at *
  rw [beq_iff_eq] at same
  rwa [same]

/-- Everything an accepted header line can be. -/
theorem readHeader_cases {server : Server} {headers after : Headers} {line : Bytes}
    (accepted : readHeader server headers line = .ok after) :
    ∃ name value, headerField line = some (name, value) ∧
      ((sameLetters name (ascii "Host") = true ∧ headers.host = false ∧
          value = expectedHost server ∧ after = { headers with host := true }) ∨
        (sameLetters name (ascii "Origin") = true ∧ headers.origin = false ∧
          originAccepted server value = true ∧
          after = { headers with
            responseOrigin := if value = fileOrigin then fileOrigin else headers.responseOrigin
            origin := true }) ∨
        (sameLetters name (ascii "X-AirTizen-Control") = true ∧ headers.controlSeen = false ∧
          after = { headers with
            controlSeen := true, control := controlAccepted server value }) ∨
        (sameLetters name (ascii "Content-Length") = true ∧ headers.lengthSeen = false ∧
          value = ascii "0" ∧ after = { headers with lengthSeen := true }) ∨
        (sameLetters name (ascii "Host") = false ∧ sameLetters name (ascii "Origin") = false ∧
          sameLetters name (ascii "X-AirTizen-Control") = false ∧
          sameLetters name (ascii "Content-Length") = false ∧
          sameLetters name (ascii "Transfer-Encoding") = false ∧ after = headers)) := by
  unfold readHeader compareHeader at accepted
  cases split : headerField line with
  | none => simp [split] at accepted
  | some field =>
      rcases field with ⟨name, value⟩
      refine ⟨name, value, rfl, ?_⟩
      simp only [split] at accepted
      split at accepted
      next host =>
        split at accepted
        · cases accepted
        next fresh =>
          simp only [Bool.or_eq_true, bne_iff_ne, ne_eq, not_or, Bool.not_eq_true,
            not_not] at fresh
          exact .inl ⟨host, fresh.1, fresh.2, (Except.ok.inj accepted).symm⟩
      next notHost =>
        split at accepted
        next origin =>
          split at accepted
          · cases accepted
          next fresh =>
            simp only [Bool.or_eq_true, not_or, Bool.not_eq_true, Bool.not_eq_false'] at fresh
            exact .inr (.inl ⟨origin, fresh.1, fresh.2, (Except.ok.inj accepted).symm⟩)
        next notOrigin =>
          split at accepted
          next control =>
            split at accepted
            · cases accepted
            next fresh =>
              exact .inr (.inr (.inl
                ⟨control, by simpa using fresh, (Except.ok.inj accepted).symm⟩))
          next notControl =>
            split at accepted
            next contentLength =>
              split at accepted
              · cases accepted
              next fresh =>
                simp only [Bool.or_eq_true, bne_iff_ne, ne_eq, not_or, Bool.not_eq_true,
                  not_not] at fresh
                exact .inr (.inr (.inr (.inl
                  ⟨contentLength, fresh.1, fresh.2, (Except.ok.inj accepted).symm⟩)))
            next notLength =>
              split at accepted
              · cases accepted
              next notTransfer =>
                exact .inr (.inr (.inr (.inr
                  ⟨by simpa using notHost, by simpa using notOrigin, by simpa using notControl,
                    by simpa using notLength, by simpa using notTransfer,
                    (Except.ok.inj accepted).symm⟩)))

theorem headerValues_other {known wanted line field value : Bytes}
    (split : headerField line = some (field, value)) (same : sameLetters field known = true)
    (different : sameLetters known wanted = false) (lines : List Bytes) :
    headerValues wanted (lines ++ [line]) = headerValues wanted lines := by
  rw [headerValues_concat split, sameLetters_exclusive same different]
  exact List.append_nil _

theorem Single.other {seen : Bool} {Accepted : Bytes → Prop}
    {known wanted line field value : Bytes} {lines : List Bytes}
    (single : Single seen Accepted (headerValues wanted lines))
    (split : headerField line = some (field, value)) (same : sameLetters field known = true)
    (different : sameLetters known wanted = false) :
    Single seen Accepted (headerValues wanted (lines ++ [line])) := by
  rwa [headerValues_other split same different]

/-- One accepted line keeps what the flags say. -/
theorem HeadersRead.readHeader {server : Server} {lines : List Bytes} {headers after : Headers}
    {line : Bytes} (read : HeadersRead server lines headers)
    (accepted : readHeader server headers line = .ok after) :
    HeadersRead server (lines ++ [line]) after := by
  obtain ⟨name, value, split, outcome⟩ := readHeader_cases accepted
  have added := fun wanted => @headerValues_concat wanted _ _ _ split lines
  rcases outcome with
    ⟨host, fresh, rfl, rfl⟩ | ⟨origin, fresh, allowed, rfl⟩ | ⟨control, fresh, rfl⟩ |
    ⟨contentLength, fresh, rfl, rfl⟩ | ⟨notHost, notOrigin, notControl, notLength, notTransfer, rfl⟩
  · exact
      { host := by
          rw [added, if_pos host]
          exact read.host.first fresh rfl
        origin := read.origin.other split host (by decide)
        control := read.control.other split host (by decide)
        uncontrolled := read.uncontrolled
        contentLength := read.contentLength.other split host (by decide)
        transferEncoding :=
          (headerValues_other split host (by decide) lines).trans read.transferEncoding }
  · exact
      { host := read.host.other split origin (by decide)
        origin := by
          rw [added, if_pos origin]
          exact read.origin.first fresh allowed
        control := read.control.other split origin (by decide)
        uncontrolled := read.uncontrolled
        contentLength := read.contentLength.other split origin (by decide)
        transferEncoding :=
          (headerValues_other split origin (by decide) lines).trans read.transferEncoding }
  · have empty : headerValues (ascii "X-AirTizen-Control") lines = [] := by
      simpa [Single, fresh] using read.control
    exact
      { host := read.host.other split control (by decide)
        origin := read.origin.other split control (by decide)
        control := by
          rw [added, if_pos control, empty]
          exact ⟨value, rfl, rfl⟩
        uncontrolled := fun unseen => Bool.noConfusion unseen
        contentLength := read.contentLength.other split control (by decide)
        transferEncoding :=
          (headerValues_other split control (by decide) lines).trans read.transferEncoding }
  · exact
      { host := read.host.other split contentLength (by decide)
        origin := read.origin.other split contentLength (by decide)
        control := read.control.other split contentLength (by decide)
        uncontrolled := read.uncontrolled
        contentLength := by
          rw [added, if_pos contentLength]
          exact read.contentLength.first fresh rfl
        transferEncoding :=
          (headerValues_other split contentLength (by decide) lines).trans read.transferEncoding }
  · exact
      { host := by simpa [added, notHost] using read.host
        origin := by simpa [added, notOrigin] using read.origin
        control := by simpa [added, notControl] using read.control
        uncontrolled := read.uncontrolled
        contentLength := by simpa [added, notLength] using read.contentLength
        transferEncoding := by simpa [added, notTransfer] using read.transferEncoding }

theorem headersRead_of_readHeaders {server : Server} {lines : List Bytes} {headers : Headers}
    (accepted : readHeaders server lines = .ok headers) :
    HeadersRead server lines headers := by
  unfold readHeaders at accepted
  induction lines using List.reverseRecOn generalizing headers with
  | nil =>
      cases accepted
      exact
        { host := Single.none _, origin := Single.none _, control := Single.none _
          uncontrolled := fun _ => rfl, contentLength := Single.none _, transferEncoding := rfl }
  | append_singleton before line inductionHypothesis =>
      rw [List.foldlM_append] at accepted
      cases earlier : before.foldlM (Control.readHeader server) {} with
      | error reply =>
          rw [earlier] at accepted
          cases accepted
      | ok middle =>
          rw [earlier] at accepted
          have last : Control.readHeader server middle line = .ok headers := by
            cases step : Control.readHeader server middle line with
            | error reply => simp [bind, Except.bind, step] at accepted
            | ok final => simpa [bind, Except.bind, pure, Except.pure, step] using accepted
          exact (inductionHypothesis earlier).readHeader last

/-! ## What the routes ask for -/

def PostOnly (headers : Headers) (method : Bytes) (operation : Operation) : Prop :=
  operation.mutating = true → method = ascii "POST" ∧ headers.control = true

theorem asks_harmless {headers : Headers} {method : Bytes} {operation : Operation}
    {next : operation.Answer → Handler} (harmless : operation.mutating = false)
    (later : ∀ answer, (next answer).Asks (PostOnly headers method)) :
    Interaction.Asks (PostOnly headers method) (.ask operation next) :=
  ⟨fun mutating => absurd mutating (by simp [harmless]), later⟩

theorem asks_respondStatus (headers : Headers) (method origin : Bytes) (result : Int) :
    (respondStatus origin result).Asks (PostOnly headers method) :=
  asks_harmless rfl fun _ => trivial

theorem asks_controlled {headers : Headers} {method : Bytes} {route : Bool}
    {refused allowed : Handler} (post : (method == ascii "POST" && route) = true)
    (refusal : refused.Asks (PostOnly headers method))
    (behind : method = ascii "POST" → headers.control = true →
      allowed.Asks (PostOnly headers method)) :
    (if (!headers.control) = true then refused else allowed).Asks (PostOnly headers method) := by
  simp only [Bool.and_eq_true, beq_iff_eq] at post
  exact .ite (fun _ => refusal) fun controlled => behind post.1 (by simpa using controlled)

theorem asks_dispatch (server : Server) (headers : Headers) (method path : Bytes)
    (route : Route) :
    (dispatch server headers method path route).Asks (PostOnly headers method) := by
  unfold dispatch
  refine .ite (fun _ => asks_harmless rfl fun _ => trivial) fun _ => ?_
  refine .ite (fun post => asks_controlled post trivial fun isPost controlled =>
    ⟨fun _ => ⟨isPost, controlled⟩, fun _ => trivial⟩) fun _ => ?_
  refine .ite (fun _ => asks_harmless rfl fun _ => trivial) fun _ => ?_
  refine .ite (fun post => asks_controlled post trivial fun isPost controlled =>
    ⟨fun _ => ⟨isPost, controlled⟩, fun _ => trivial⟩) fun _ => ?_
  refine .ite (fun _ => asks_harmless rfl fun _ => trivial) fun _ => ?_
  refine .ite (fun _ => asks_harmless rfl fun _ => trivial) fun _ => ?_
  refine .ite (fun _ => asks_harmless rfl fun _ => trivial) fun _ => ?_
  refine .ite (fun _ => asks_respondStatus headers method _ _) fun _ => ?_
  refine .ite (fun post => asks_controlled post trivial fun isPost controlled =>
    ⟨fun _ => ⟨isPost, controlled⟩, fun _ => asks_respondStatus headers method _ _⟩) fun _ => ?_
  refine .ite (fun post => asks_controlled post trivial fun isPost controlled => ?_)
    fun _ => trivial
  exact .ite
    (fun _ => ⟨fun _ => ⟨isPost, controlled⟩, fun _ => asks_respondStatus headers method _ _⟩)
    fun _ => ⟨fun _ => ⟨isPost, controlled⟩, fun _ => asks_respondStatus headers method _ _⟩

theorem atMostOne_dispatch (server : Server) (headers : Headers) (method path : Bytes)
    (route : Route) :
    (dispatch server headers method path route).AsksAtMost Operation.mutating 1 := by
  have status : ∀ bound origin result,
      (respondStatus origin result).AsksAtMost Operation.mutating bound := by
    intro bound origin result
    cases bound with
    | zero => exact ⟨rfl, fun _ => trivial⟩
    | succ bound => exact fun _ => trivial
  unfold dispatch
  refine .ite (fun _ => trivial) (.ite (.ite trivial fun _ => trivial) ?_)
  refine .ite (fun _ => trivial) (.ite (.ite trivial fun _ => trivial) ?_)
  refine .ite (fun _ => trivial) (.ite (fun _ => trivial) (.ite (fun _ => trivial) ?_))
  refine .ite (status _ _ _) (.ite (.ite trivial fun _ => status _ _ _) ?_)
  exact .ite (.ite trivial (.ite (fun _ => status _ _ _) fun _ => status _ _ _)) trivial

/-! ## Whole requests -/

def credential (server : Server) : Bytes :=
  match server.token with
  | some token => token.bytes
  | none => ascii "1"

/-- What the head of a request has to be before it changes the receiver. -/
structure Controlled (server : Server) (head : Bytes) : Prop where
  post : ∃ first lines path,
    crlfLines head = first :: lines ∧ requestLine first = some (ascii "POST", path)
  host : headerValues (ascii "Host") (crlfLines head).tail = [expectedHost server]
  origin : headerValues (ascii "Origin") (crlfLines head).tail = [] ∨
    headerValues (ascii "Origin") (crlfLines head).tail = [nullOrigin] ∨
    server.token.isSome = true ∧
      headerValues (ascii "Origin") (crlfLines head).tail = [fileOrigin]
  control : headerValues (ascii "X-AirTizen-Control") (crlfLines head).tail = [credential server]
  contentLength : headerValues (ascii "Content-Length") (crlfLines head).tail = [] ∨
    headerValues (ascii "Content-Length") (crlfLines head).tail = [ascii "0"]
  transferEncoding : headerValues (ascii "Transfer-Encoding") (crlfLines head).tail = []

theorem foldl_or_eq_zero {bytes : List UInt8} (start : UInt8) :
    bytes.foldl (· ||| ·) start = 0 ↔ start = 0 ∧ ∀ byte ∈ bytes, byte = 0 := by
  induction bytes generalizing start with
  | nil => simp
  | cons byte rest inductionHypothesis =>
      rw [List.foldl_cons, inductionHypothesis, UInt8.or_eq_zero_iff]
      simp [and_assoc]

theorem zipWith_xor_eq_zero {first second : List UInt8} (lengths : first.length = second.length) :
    (∀ byte ∈ List.zipWith (fun given wanted : UInt8 => given ^^^ wanted) first second,
      byte = 0) ↔ first = second := by
  induction first generalizing second with
  | nil =>
      cases second with
      | nil => simp
      | cons byte rest => simp at lengths
  | cons given first inductionHypothesis =>
      cases second with
      | nil => simp at lengths
      | cons wanted second =>
          have tails : first.length = second.length := by simpa using lengths
          simp [inductionHypothesis tails]

/-- The comparison without early exit is equality with the token. -/
theorem tokenEqual_iff (server : Server) (value : Bytes) :
    tokenEqual server value = true ↔ ∃ token, server.token = some token ∧ value = token.bytes := by
  unfold tokenEqual
  cases server.token with
  | none => simp
  | some token =>
      simp only [Option.some.injEq, exists_eq_left']
      split
      next differs =>
        simp only [Bool.false_eq_true, false_iff]
        rintro rfl
        exact differs token.length_eq
      next sameLength =>
        have equalLength : value.length = token.bytes.length := by
          rw [token.length_eq]
          exact not_not.mp sameLength
        rw [beq_iff_eq, foldl_or_eq_zero, zipWith_xor_eq_zero equalLength]
        simp only [true_and]

theorem controlAccepted_iff (server : Server) (value : Bytes) :
    controlAccepted server value = true ↔ value = credential server := by
  unfold controlAccepted credential
  split
  next embedded =>
    rw [tokenEqual_iff]
    cases configured : server.token with
    | none => simp [configured] at embedded
    | some token => simp
  next plain =>
    cases configured : server.token with
    | none => simp
    | some token => simp [configured] at plain

theorem originAccepted_iff (server : Server) (value : Bytes) :
    originAccepted server value = true ↔
      value = nullOrigin ∨ server.token.isSome = true ∧ value = fileOrigin := by
  simp [originAccepted]

/-- The flags behind the header loop, in terms of the lines themselves. -/
theorem HeadersRead.controlled {server : Server} {head first path : Bytes} {lines : List Bytes}
    {headers : Headers} (split : crlfLines head = first :: lines)
    (request : requestLine first = some (ascii "POST", path))
    (read : HeadersRead server lines headers) (host : headers.host = true)
    (control : headers.control = true) : Controlled server head where
  post := ⟨first, lines, path, split, request⟩
  host := by
    have single := read.host
    rw [host] at single
    obtain ⟨value, values, rfl⟩ := single
    rwa [split]
  origin := by
    have single := read.origin
    rw [split]
    cases seen : headers.origin with
    | false =>
        rw [seen] at single
        exact .inl single
    | true =>
        rw [seen] at single
        obtain ⟨value, values, accepted⟩ := single
        rcases (originAccepted_iff server value).mp accepted with rfl | ⟨embedded, rfl⟩
        · exact .inr (.inl values)
        · exact .inr (.inr ⟨embedded, values⟩)
  control := by
    have single := read.control
    cases seen : headers.controlSeen with
    | false => simp [read.uncontrolled seen] at control
    | true =>
        rw [seen] at single
        obtain ⟨value, values, accepted⟩ := single
        rw [control, controlAccepted_iff] at accepted
        rw [split, ← accepted]
        exact values
  contentLength := by
    have single := read.contentLength
    rw [split]
    cases seen : headers.lengthSeen with
    | false =>
        rw [seen] at single
        exact .inl single
    | true =>
        rw [seen] at single
        obtain ⟨value, values, rfl⟩ := single
        exact .inr values
  transferEncoding := by
    rw [split]
    exact read.transferEncoding

theorem asks_authorize (server : Server) (headers : Headers) (method path : Bytes)
    (queryAuth : Bool) :
    (authorize server headers method path queryAuth).Asks fun operation =>
      operation.mutating = true →
        headers.host = true ∧ method = ascii "POST" ∧ headers.control = true := by
  unfold authorize
  refine .ite (fun _ => trivial) fun hostSeen => ?_
  refine .ite (fun _ => trivial) fun _ => .ite (fun _ => trivial) fun _ => ?_
  refine .ite (fun _ => trivial) fun _ => ?_
  exact (asks_dispatch server headers method path (parseRoute path)).mono
    fun operation post mutating => ⟨by simpa using hostSeen, post mutating⟩

theorem asks_handleRequest (server : Server) (head : Bytes) :
    (handleRequest server head).Asks fun operation =>
      operation.mutating = true → Controlled server head := by
  unfold handleRequest
  split
  · trivial
  next first lines split =>
    split
    · trivial
    next method path request =>
      simp only
      split
      · trivial
      next headers accepted =>
        refine (asks_authorize server headers method _ _).mono fun operation post mutating => ?_
        obtain ⟨host, rfl, control⟩ := post mutating
        exact (headersRead_of_readHeaders accepted).controlled split request host control

theorem atMostOne_handleRequest (server : Server) (head : Bytes) :
    (handleRequest server head).AsksAtMost Operation.mutating 1 := by
  unfold handleRequest
  split
  · trivial
  · split
    · trivial
    · simp only
      split
      · trivial
      · exact .ite trivial (.ite trivial (.ite trivial (.ite trivial
          (atMostOne_dispatch server _ _ _ _))))

/-- Whatever arrives on a connection, it changes the receiver at most once, and
only through a POST whose one control header is the credential. -/
theorem mutation_controlled {State : Type} (server : Server) (received : List Receive)
    (receiver : Receiver State) (state : State) :
    ((handleClient server received).trace receiver state).countP Operation.mutating ≤ 1 ∧
      ∀ operation ∈ (handleClient server received).trace receiver state,
        operation.mutating = true →
          ∃ head, readRequest [] received = .ok head ∧ Controlled server head := by
  unfold handleClient
  split
  · simp
  next head request =>
    refine ⟨(atMostOne_handleRequest server head).countP_trace_le receiver state, ?_⟩
    intro operation membership mutating
    exact ⟨head, request, (asks_handleRequest server head).of_mem_trace membership mutating⟩

def idleReceiver : Receiver Unit
  | .photoCopy _, state | .copyArtwork _, state => (⟨[], []⟩, state)
  | .hlsManifest _, state | .hlsSegment _ _ _, state => ([], state)
  | .statusJson, state => (ascii "\x7b\x7d", state)
  | .videoCopy _ _, state => (([], 0), state)
  | .photoReport _ _, state | .playbackReport _, state => ((0 : Int), state)
  | .setDiscoveryProfile _, state | .start, state => ((0 : Int), state)
  | .stop, state => ((), state)

/-- The head of a request that starts the receiver, without its last empty line. -/
def startHead : Bytes :=
  ascii "POST /start HTTP/1.1\r\nHost: 127.0.0.1:8765\r\nx-airtizen-control: 1"

theorem mutation_controlled_start :
    (handleClient ⟨8765, none⟩ [.data (startHead ++ headEnd)]).trace idleReceiver () =
        [.start, .statusJson] ∧
      ∃ head, readRequest [] [.data (startHead ++ headEnd)] = .ok head ∧
        Controlled ⟨8765, none⟩ head := by
  have trace : (handleClient ⟨8765, none⟩ [.data (startHead ++ headEnd)]).trace idleReceiver () =
      [.start, .statusJson] := by decide +kernel
  refine ⟨trace, (mutation_controlled ⟨8765, none⟩ _ idleReceiver ()).2 .start ?_ rfl⟩
  rw [trace]
  exact List.mem_cons_self

end AirTizen.Control

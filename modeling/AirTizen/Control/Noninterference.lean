import AirTizen.Control.Authorization

/-!
# A caller without the token learns nothing

Every comparison with the token is about a piece of what the caller sent.  When
none of them succeeds, the run of `handle_client` is the same for every token,
and it ends before the first operation.
-/

namespace AirTizen.Control

open CText

structure Outside (server : Server) (text : Bytes) : Prop where
  embedded : server.token.isSome = true
  differs : ∀ value, value <:+: text → tokenEqual server value = false

theorem Outside.of_not_infix {port : UInt16} {token : ControlToken} {text : Bytes}
    (absent : ¬ token.bytes <:+: text) : Outside ⟨port, some token⟩ text where
  embedded := rfl
  differs := by
    intro value piece
    by_contra equal
    obtain ⟨_, configured, rfl⟩ := (tokenEqual_iff _ _).mp (Bool.eq_true_of_not_eq_false equal)
    cases configured
    exact absent piece

theorem Outside.mono {server : Server} {text piece : Bytes} (outside : Outside server text)
    (within : piece <:+: text) : Outside server piece :=
  ⟨outside.embedded, fun value smaller => outside.differs value (smaller.trans within)⟩

/-! ## Pieces of a request -/

theorem headerField_isInfix {line name value : Bytes}
    (split : headerField line = some (name, value)) : value <:+: line := by
  simp only [headerField, Option.map_eq_some_iff, Prod.exists, Prod.mk.injEq] at split
  obtain ⟨before, after, found, rfl, rfl⟩ := split
  rw [strchr_append found]
  exact (List.dropWhile_suffix _).isInfix.trans
    ((List.suffix_cons _ _).trans (List.suffix_append _ _)).isInfix

theorem isInfix_of_mem_headerValues {name value : Bytes} {lines : List Bytes}
    (membership : value ∈ headerValues name lines) : ∃ line ∈ lines, value <:+: line := by
  simp only [headerValues, List.mem_filterMap] at membership
  obtain ⟨line, inLines, found⟩ := membership
  refine ⟨line, inLines, ?_⟩
  split at found
  next field fieldValue split =>
    split at found
    · rw [← Option.some.inj found]
      exact headerField_isInfix split
    · cases found
  · cases found

theorem requestLine_isInfix {line method path : Bytes}
    (request : requestLine line = some (method, path)) : path <:+: line := by
  unfold requestLine at request
  split at request
  next scannedMethod scannedPath version values =>
    split at request
    · simp only [Option.some.injEq, Prod.mk.injEq] at request
      rw [← request.2]
      have read : .text scannedPath ∈ (Scanf.sscanf requestFormat line).values := by
        simp [values]
      exact Scanf.isInfix_of_text_mem read
    · cases request
  · cases request

theorem strstr_before_isPrefix {needle text before found : Bytes}
    (split : strstr needle text = some (before, found)) : before <+: text := by
  rw [strstr_append split]
  exact List.prefix_append before found

/-- A full buffer is searched once more and never filled again. -/
theorem readRequest_full {text head : Bytes} {received : List Receive}
    (full : text.length = requestLimit) (request : readRequest text received = .ok head) :
    head <+: text := by
  unfold readRequest at request
  split at request
  next found =>
    cases request
    exact strstr_before_isPrefix found
  · rw [if_pos full] at request
    cases request

/-- The head is the beginning of what was received. -/
theorem readRequest_isPrefix {text head : Bytes} {received : List Receive}
    (request : readRequest text received = .ok head) :
    head <+: text ++ receivedBytes received := by
  induction received generalizing text with
  | nil =>
      unfold readRequest at request
      split at request
      next found =>
        cases request
        exact (strstr_before_isPrefix found).trans (List.prefix_append _ _)
      · split at request <;> cases request
  | cons event rest inductionHypothesis =>
      unfold readRequest at request
      split at request
      next found =>
        cases request
        exact (strstr_before_isPrefix found).trans (List.prefix_append _ _)
      · split at request
        · cases request
        next notFull =>
          cases event with
          | ended => cases request
          | timeout => cases request
          | data bytes =>
              simp only at request
              split at request
              · cases request
              next someBytes =>
                split at request
                · cases request
                · have received : receivedBytes (.data bytes :: rest) =
                      bytes ++ receivedBytes rest := rfl
                  rw [received, ← List.append_assoc]
                  by_cases fits : bytes.length ≤ requestLimit - text.length
                  · rw [List.take_of_length_le fits] at request
                    exact inductionHypothesis request
                  · -- the buffer is full now, so the head is in it or never found
                    have full : (text ++ bytes.take (requestLimit - text.length)).length =
                        requestLimit := by
                      have positive : 0 < requestLimit - text.length := by
                        by_contra none
                        simp [Nat.eq_zero_of_not_pos none] at someBytes
                      rw [List.length_append, List.length_take]
                      omega
                    have inBuffer := readRequest_full full request
                    exact inBuffer.trans ((List.prefix_append_right_inj text).mpr
                      (List.take_prefix _ bytes) |>.trans (List.prefix_append _ _))

/-! ## The run of an outsider -/

variable {first second : Server}

theorem takeQueryToken_outside {path : Bytes} (firstOutside : Outside first path)
    (secondOutside : Outside second path) :
    takeQueryToken first path = takeQueryToken second path ∧
      (takeQueryToken first path).2 = false := by
  unfold takeQueryToken
  rw [if_neg (by simp [Option.isSome_iff_ne_none.mp firstOutside.embedded]),
    if_neg (by simp [Option.isSome_iff_ne_none.mp secondOutside.embedded])]
  cases found : (strstr (ascii "?token=") path).or (strstr (ascii "&token=") path) with
  | none => exact ⟨rfl, rfl⟩
  | some parts =>
      rcases parts with ⟨before, auth⟩
      have piece : auth <:+: path := by
        rcases Option.or_eq_some_iff.mp found with question | ⟨_, ampersand⟩
        · rw [strstr_append question]
          exact (List.suffix_append _ _).isInfix
        · rw [strstr_append ampersand]
          exact (List.suffix_append _ _).isInfix
      have value := (List.drop_suffix 7 auth).isInfix.trans piece
      simp only [firstOutside.differs _ value, secondOutside.differs _ value, and_self]

theorem readHeader_outside {headers : Headers} {line : Bytes} (samePort : first.port = second.port)
    (firstOutside : Outside first line) (secondOutside : Outside second line) :
    readHeader first headers line = readHeader second headers line := by
  unfold readHeader compareHeader
  cases split : headerField line with
  | none => rfl
  | some field =>
      rcases field with ⟨name, value⟩
      have piece := headerField_isInfix split
      have sameHost : expectedHost first = expectedHost second := by
        simp only [expectedHost, samePort]
      have sameOrigin : originAccepted first value = originAccepted second value := by
        simp only [originAccepted, firstOutside.embedded, secondOutside.embedded]
      have sameControl : controlAccepted first value = controlAccepted second value := by
        simp only [controlAccepted, firstOutside.embedded, secondOutside.embedded, if_true,
          firstOutside.differs value piece, secondOutside.differs value piece]
      simp only [sameHost, sameOrigin, sameControl]

theorem readHeaders_outside {lines : List Bytes} (samePort : first.port = second.port)
    (firstOutside : ∀ line ∈ lines, Outside first line)
    (secondOutside : ∀ line ∈ lines, Outside second line) :
    readHeaders first lines = readHeaders second lines := by
  unfold readHeaders
  generalize ({} : Headers) = headers
  induction lines generalizing headers with
  | nil => rfl
  | cons line rest inductionHypothesis =>
      rw [List.foldlM_cons, List.foldlM_cons,
        readHeader_outside samePort (firstOutside line List.mem_cons_self)
          (secondOutside line List.mem_cons_self)]
      cases readHeader second headers line with
      | error reply => rfl
      | ok after =>
          exact inductionHypothesis
            (fun other membership => firstOutside other (List.mem_cons_of_mem _ membership))
            (fun other membership => secondOutside other (List.mem_cons_of_mem _ membership)) after

theorem control_eq_false {server : Server} {lines : List Bytes} {headers : Headers}
    (outside : ∀ line ∈ lines, Outside server line)
    (accepted : readHeaders server lines = .ok headers) : headers.control = false := by
  have read := headersRead_of_readHeaders accepted
  have single := read.control
  cases seen : headers.controlSeen with
  | false => exact read.uncontrolled seen
  | true =>
      rw [seen] at single
      obtain ⟨value, values, accepted⟩ := single
      obtain ⟨line, inLines, piece⟩ :=
        isInfix_of_mem_headerValues (by rw [values]; exact List.mem_cons_self)
      rw [← accepted, controlAccepted, if_pos (outside line inLines).embedded]
      exact (outside line inLines).differs value piece

def refusal (headers : Headers) (method : Bytes) : Reply :=
  if headers.host = false then
    respond headers.responseOrigin (ascii "400 Bad Request")
      (ascii "\x7b\"ok\":false,\"error\":\"missing_host\"\x7d")
  else if method = ascii "OPTIONS" then
    respond headers.responseOrigin (ascii "204 No Content") []
  else
    respond headers.responseOrigin (ascii "403 Forbidden")
      (ascii "\x7b\"ok\":false,\"error\":\"unauthorized\"\x7d")

theorem authorize_outside {server : Server} {headers : Headers} {method path : Bytes}
    (embedded : server.token.isSome = true) (uncontrolled : headers.control = false) :
    authorize server headers method path false = .done (refusal headers method) := by
  unfold authorize refusal
  cases hostSeen : headers.host with
  | false => rfl
  | true =>
      by_cases options : method = ascii "OPTIONS"
      · rw [if_neg (by decide), if_pos (beq_iff_eq.mpr options), if_neg (by decide),
          if_pos options]
      · rw [if_neg (by decide), if_neg (by simpa using options),
          if_pos (by simp [embedded, uncontrolled]), if_neg (by decide), if_neg options]

/-- For callers that know neither token, two servers behave the same and do not
ask the receiver for anything. -/
theorem handleRequest_outside {head : Bytes} (samePort : first.port = second.port)
    (firstOutside : Outside first head) (secondOutside : Outside second head) :
    ∃ reply, handleRequest first head = .done reply ∧ handleRequest second head = .done reply := by
  unfold handleRequest
  cases split : crlfLines head with
  | nil => exact ⟨_, rfl, rfl⟩
  | cons line lines =>
      have pieces : ∀ piece ∈ line :: lines, piece <:+: head := by
        rw [← split]
        exact fun piece membership => isInfix_of_mem_crlfLines membership
      have inLines := fun other membership => pieces other (List.mem_cons_of_mem line membership)
      simp only
      cases request : requestLine line with
      | none => exact ⟨_, rfl, rfl⟩
      | some parts =>
          rcases parts with ⟨method, path⟩
          have pathPiece := (requestLine_isInfix request).trans (pieces line List.mem_cons_self)
          obtain ⟨samePath, noQuery⟩ := takeQueryToken_outside (firstOutside.mono pathPiece)
            (secondOutside.mono pathPiece)
          have sameHeaders := readHeaders_outside samePort
            (fun other membership => firstOutside.mono (inLines other membership))
            (fun other membership => secondOutside.mono (inLines other membership))
          simp only [← samePath, ← sameHeaders, noQuery]
          cases accepted : readHeaders first lines with
          | error reply => exact ⟨reply, rfl, rfl⟩
          | ok headers =>
              have uncontrolled := control_eq_false
                (fun other membership => firstOutside.mono (inLines other membership)) accepted
              exact ⟨refusal headers method, authorize_outside firstOutside.embedded uncontrolled,
                authorize_outside secondOutside.embedded uncontrolled⟩

/-- Two receivers with different tokens and in different states send the same
bytes to a caller who sent neither token, and stay as they are. -/
theorem outsider_noninterference {FirstState SecondState : Type} (port : UInt16)
    (firstToken secondToken : ControlToken) (received : List Receive)
    (firstAbsent : ¬ firstToken.bytes <:+: receivedBytes received)
    (secondAbsent : ¬ secondToken.bytes <:+: receivedBytes received)
    (firstReceiver : Receiver FirstState) (secondReceiver : Receiver SecondState)
    (firstState : FirstState) (secondState : SecondState) :
    let first := handleClient ⟨port, some firstToken⟩ received
    let second := handleClient ⟨port, some secondToken⟩ received
    (first.run firstReceiver firstState).1.wire = (second.run secondReceiver secondState).1.wire ∧
      first.trace firstReceiver firstState = [] ∧
      second.trace secondReceiver secondState = [] ∧
      (first.run firstReceiver firstState).2 = firstState ∧
      (second.run secondReceiver secondState).2 = secondState := by
  have same : ∃ reply, handleClient ⟨port, some firstToken⟩ received = .done reply ∧
      handleClient ⟨port, some secondToken⟩ received = .done reply := by
    unfold handleClient
    split
    · exact ⟨_, rfl, rfl⟩
    next head request =>
      have piece : head <:+: receivedBytes received := (readRequest_isPrefix request).isInfix
      exact handleRequest_outside rfl ((Outside.of_not_infix firstAbsent).mono piece)
        ((Outside.of_not_infix secondAbsent).mono piece)
  obtain ⟨reply, first, second⟩ := same
  simp only [first, second]
  exact ⟨rfl, rfl, rfl, rfl, rfl⟩

def repeatedToken (digit : UInt8) (isDigit : 48 ≤ digit ∧ digit ≤ 57) : ControlToken where
  bytes := List.replicate 64 digit
  length_eq := List.length_replicate
  digits := fun byte membership => .inl (by rwa [List.eq_of_mem_replicate membership])

/-- A request for the status with a wrong query token and the credential of the
other mode. -/
theorem outsider_noninterference_status :
    let request : List Receive := [.data (ascii
      "GET /status?token=00 HTTP/1.1\r\nHost: 127.0.0.1:8765\r\nX-AirTizen-Control: 1\r\n\r\n")]
    let first := handleClient ⟨8765, some (repeatedToken 48 (by decide))⟩ request
    let second := handleClient ⟨8765, some (repeatedToken 49 (by decide))⟩ request
    (first.run idleReceiver ()).1.wire = (second.run idleReceiver ()).1.wire ∧
      first.trace idleReceiver () = [] ∧ second.trace idleReceiver () = [] ∧
      (first.run idleReceiver ()).2 = () ∧ (second.run idleReceiver ()).2 = () :=
  outsider_noninterference 8765 (repeatedToken 48 (by decide)) (repeatedToken 49 (by decide)) _
    (by decide +kernel) (by decide +kernel) idleReceiver idleReceiver () ()

end AirTizen.Control

import AirTizen.Library.Scanf

/-!
# Requests to the control server

How `handle_client` reads a request from its socket, splits it, and checks its
header lines.
-/

namespace AirTizen.Control

open CText Scanf

/-! ## The server -/

/-- A configured token: 64 lower case hexadecimal digits. -/
structure ControlToken where
  bytes : Bytes
  length_eq : bytes.length = 64
  digits : ∀ byte ∈ bytes, (48 ≤ byte ∧ byte ≤ 57) ∨ (97 ≤ byte ∧ byte ≤ 102)
  deriving DecidableEq

/-- `g_port` and `g_token`; the embedded mode is the one with a token. -/
structure Server where
  port : UInt16
  token : Option ControlToken := none
  deriving DecidableEq

def Server.tokenText (server : Server) : Bytes :=
  match server.token with
  | some token => token.bytes
  | none => []

/-- `token_equal`, which looks at every byte before it decides. -/
def tokenEqual (server : Server) (value : Bytes) : Bool :=
  match server.token with
  | none => false
  | some token =>
      if value.length ≠ 64 then false
      else
        (List.zipWith (fun given wanted : UInt8 => given ^^^ wanted) value token.bytes).foldl
          (· ||| ·) 0 == 0

/-! ## Replies -/

/-- What one call of `respond_bytes` is given, with `g_response_origin`. -/
structure Reply where
  status : Bytes
  type : Bytes
  origin : Bytes
  generation : Nat
  body : Bytes
  deriving DecidableEq

def nullOrigin : Bytes := ascii "null"
def fileOrigin : Bytes := ascii "file://"

def respond (origin status body : Bytes) : Reply :=
  { status := status, type := ascii "application/json; charset=utf-8", origin := origin
    generation := 0, body := body }

def Reply.header (reply : Reply) : Bytes :=
  ascii "HTTP/1.1 " ++ reply.status ++ ascii "\r\nContent-Type: " ++ reply.type ++
    ascii "\r\nAccess-Control-Allow-Origin: " ++ reply.origin ++ ascii "\r\nVary: Origin\r\n" ++
    ascii "Access-Control-Allow-Methods: GET, POST, OPTIONS\r\n" ++
    ascii "Access-Control-Allow-Headers: X-AirTizen-Control\r\n" ++
    ascii "Access-Control-Expose-Headers: X-AirTizen-Generation\r\n" ++
    ascii "X-AirTizen-Generation: " ++ decimal reply.generation ++
    ascii "\r\nCache-Control: no-store\r\nX-Content-Type-Options: nosniff\r\n" ++
    ascii "Connection: close\r\nContent-Length: " ++ decimal reply.body.length ++
    ascii "\r\n\r\n"

/-- The bytes on the socket, as long as the peer takes them.  A header that does
not fit its array is not sent, and neither is the body then. -/
def Reply.wire (reply : Reply) : Bytes :=
  if reply.header.length < 1024 then reply.header ++ reply.body else []

def notOk : Bytes := ascii "\x7b\"ok\":false\x7d"

/-! ## Reading -/

/-- What waiting for the socket and one `recv` bring. -/
inductive Receive where
  | data (bytes : Bytes)
  | ended
  | timeout
  deriving DecidableEq

def receivedBytes (received : List Receive) : Bytes :=
  received.flatMap fun
    | .data bytes => bytes
    | _ => []

/-- `sizeof(req)-1`. -/
def requestLimit : Nat := 4095

def headEnd : Bytes := [13, 10, 13, 10]

/-- The loop that fills `req`: the text before the first empty line, or the
status of the refusal. -/
def readRequest (text : Bytes) (received : List Receive) : Except Bytes Bytes :=
  match strstr headEnd text with
  | some (head, _) => .ok head
  | none =>
      if text.length = requestLimit then .error (ascii "431 Request Header Fields Too Large")
      else
        match received with
        | .data bytes :: rest =>
            let bytes := bytes.take (requestLimit - text.length)
            if bytes = [] then .error (ascii "408 Request Timeout")
            else if 0 ∈ bytes then .error (ascii "400 Bad Request")
            else readRequest (text ++ bytes) rest
        | _ => .error (ascii "408 Request Timeout")

/-- `"%15s %255s %15s %c"`. -/
def requestFormat : List Directive :=
  [.text 15, .space, .text 255, .space, .text 15, .space, .char]

def requestLine (line : Bytes) : Option (Bytes × Bytes) :=
  match (sscanf requestFormat line).values with
  | [.text method, .text path, .text version] =>
      if version = ascii "HTTP/1.1" ∨ version = ascii "HTTP/1.0" then some (method, path) else none
  | _ => none

def takeQueryToken (server : Server) (path : Bytes) : Bytes × Bool :=
  if server.token.isNone then (path, false)
  else
    match (strstr (ascii "?token=") path).or (strstr (ascii "&token=") path) with
    | some (before, auth) => (before, tokenEqual server (auth.drop 7))
    | none => (path, false)

/-! ## Header lines -/

/-- The flags of the header loop and `g_response_origin`. -/
structure Headers where
  host : Bool := false
  origin : Bool := false
  controlSeen : Bool := false
  control : Bool := false
  lengthSeen : Bool := false
  responseOrigin : Bytes := nullOrigin
  deriving DecidableEq

def headerField (line : Bytes) : Option (Bytes × Bytes) :=
  (strchr 58 line).map fun (name, value) =>
    (name, value.dropWhile fun byte => byte == 32 || byte == 9)

def expectedHost (server : Server) : Bytes :=
  ascii "127.0.0.1:" ++ decimal server.port.toNat

/-- The value of `X-AirTizen-Control` is the credential. -/
def controlAccepted (server : Server) (value : Bytes) : Bool :=
  if server.token.isSome then tokenEqual server value else value == ascii "1"

/-- The value of `Origin` is one the server answers. -/
def originAccepted (server : Server) (value : Bytes) : Bool :=
  value == nullOrigin || server.token.isSome && value == fileOrigin

def compareHeader (server : Server) (headers : Headers) (name value : Bytes) :
    Except Reply Headers :=
  if sameLetters name (ascii "Host") then
    if headers.host || value != expectedHost server then
      .error (respond headers.responseOrigin (ascii "403 Forbidden")
        (ascii "\x7b\"ok\":false,\"error\":\"invalid_host\"\x7d"))
    else .ok { headers with host := true }
  else if sameLetters name (ascii "Origin") then
    if headers.origin || !originAccepted server value then
      .error (respond headers.responseOrigin (ascii "403 Forbidden")
        (ascii "\x7b\"ok\":false,\"error\":\"invalid_origin\"\x7d"))
    else
      .ok { headers with
        responseOrigin := if value = fileOrigin then fileOrigin else headers.responseOrigin
        origin := true }
  else if sameLetters name (ascii "X-AirTizen-Control") then
    if headers.controlSeen then
      .error (respond headers.responseOrigin (ascii "400 Bad Request") notOk)
    else .ok { headers with controlSeen := true, control := controlAccepted server value }
  else if sameLetters name (ascii "Content-Length") then
    if headers.lengthSeen || value != ascii "0" then
      .error (respond headers.responseOrigin (ascii "413 Content Too Large") notOk)
    else .ok { headers with lengthSeen := true }
  else if sameLetters name (ascii "Transfer-Encoding") then
    .error (respond headers.responseOrigin (ascii "400 Bad Request") notOk)
  else .ok headers

def readHeader (server : Server) (headers : Headers) (line : Bytes) : Except Reply Headers :=
  match headerField line with
  | none => .error (respond headers.responseOrigin (ascii "400 Bad Request") notOk)
  | some (name, value) => compareHeader server headers name value

def readHeaders (server : Server) (lines : List Bytes) : Except Reply Headers :=
  lines.foldlM (readHeader server) {}

end AirTizen.Control

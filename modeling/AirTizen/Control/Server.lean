import AirTizen.Library.Interaction
import AirTizen.Control.Route

/-!
# The control server

`handle_client` as a computation that asks the receiver for operations: the
runtime, the video, photo and playback stores and the metadata are behind them.
-/

namespace AirTizen.Control

open CText

/-- The functions of other modules that `handle_client` calls. -/
inductive Operation where
  | photoCopy (generation : Nat)
  | photoReport (generation : Nat) (failed : Int)
  | copyArtwork (version : Nat)
  | playbackReport (report : PlaybackReport)
  | hlsManifest (token : Bytes)
  | hlsSegment (generation first last : Nat)
  | videoCopy (init : Bool) (sequence : Nat)
  | statusJson
  | setDiscoveryProfile (name : Bytes)
  | start
  | stop
  deriving DecidableEq

/-- A body for a client, empty when there is none, with its MIME type. -/
structure Content where
  body : Bytes
  mime : Bytes
  deriving DecidableEq

def Operation.Answer : Operation → Type
  | .photoCopy _ | .copyArtwork _ => Content
  | .hlsManifest _ | .hlsSegment _ _ _ | .statusJson => Bytes
  | .videoCopy _ _ => Bytes × Nat
  | .photoReport _ _ | .playbackReport _ | .setDiscoveryProfile _ | .start => Int
  | .stop => Unit

def Operation.mutating : Operation → Bool
  | .photoReport _ _ | .playbackReport _ | .setDiscoveryProfile _ | .start | .stop => true
  | _ => false

abbrev Handler := Interaction Operation Operation.Answer Reply

abbrev Receiver (State : Type) := Interaction.Environment Operation Operation.Answer State

def respondContent (origin : Bytes) (content : Content) (generation : Nat) (missing : Reply) :
    Reply :=
  if content.body = [] then missing
  else
    { status := ascii "200 OK", type := content.mime, origin := origin, generation := generation
      body := content.body }

/-- `200 OK` with `{"ok":true}` if the result is zero. -/
def respondReport (origin : Bytes) (result : Int) : Reply :=
  if result = 0 then respond origin (ascii "200 OK") (ascii "\x7b\"ok\":true\x7d")
  else respond origin (ascii "409 Conflict") notOk

/-- The status text, with `200 OK` if the result is zero. -/
def respondStatus (origin : Bytes) (result : Int) : Handler :=
  .ask .statusJson fun status =>
    .done (respond origin
      (if result = 0 then ascii "200 OK" else ascii "503 Service Unavailable") status)

def controlRequired (origin : Bytes) : Handler :=
  .done (respond origin (ascii "403 Forbidden")
    (ascii "\x7b\"ok\":false,\"error\":\"control_header_required\"\x7d"))

/-- The part of `handle_client` behind the check for unknown paths. -/
def dispatch (server : Server) (headers : Headers) (method path : Bytes) (route : Route) :
    Handler :=
  let origin := headers.responseOrigin
  let get := method == ascii "GET"
  let post := method == ascii "POST"
  if get && route.photo then
    .ask (.photoCopy route.photoGeneration) fun content =>
      .done (respondContent origin content route.photoGeneration
        (respond origin (ascii "404 Not Found") notOk))
  else if post && route.photoReport then
    if !headers.control then .done (respond origin (ascii "403 Forbidden") notOk)
    else
      .ask (.photoReport route.photoGeneration route.photoFailed) fun result =>
        .done (respondReport origin result)
  else if get && route.artwork then
    .ask (.copyArtwork route.artworkVersion) fun content =>
      .done (respondContent origin content route.artworkVersion
        (respond origin (ascii "404 Not Found") notOk))
  else if post && route.playbackReport then
    if !headers.control then .done (respond origin (ascii "403 Forbidden") notOk)
    else
      .ask (.playbackReport route.report) fun result => .done (respondReport origin result)
  else if get && route.hlsManifest then
    .ask (.hlsManifest server.tokenText) fun body =>
      .done (respondContent origin ⟨body, ascii "application/vnd.apple.mpegurl"⟩ 0
        (respond origin (ascii "503 Service Unavailable") notOk))
  else if get && route.hlsSegment then
    .ask (.hlsSegment route.hlsGeneration route.hlsFirst route.hlsLast) fun body =>
      .done (respondContent origin ⟨body, ascii "video/mp4"⟩ route.hlsGeneration
        (respond origin (ascii "410 Gone") notOk))
  else if get && (route.mediaInit || route.mediaSegment || route.hlsInit) then
    .ask (.videoCopy (route.mediaInit || route.hlsInit) route.mediaSequence)
      fun (body, generation) =>
        -- the init data of another generation is withheld
        let body := if route.hlsInit && generation != route.hlsGeneration then [] else body
        .done (respondContent origin ⟨body, ascii "video/mp4"⟩ generation
          (respond origin (ascii "410 Gone")
            (ascii "\x7b\"ok\":false,\"error\":\"media_not_available\"\x7d")))
  else if get && path == ascii "/status" then respondStatus origin 0
  else if post && isDiscoveryProfile path then
    if !headers.control then controlRequired origin
    else .ask (.setDiscoveryProfile (path.drop 11)) fun result => respondStatus origin result
  else if post && (path == ascii "/start" || path == ascii "/stop") then
    if !headers.control then controlRequired origin
    else if path == ascii "/start" then .ask .start fun result => respondStatus origin result
    else .ask .stop fun _ => respondStatus origin 0
  else
    .done (respond origin (ascii "405 Method Not Allowed")
      (ascii "\x7b\"ok\":false,\"error\":\"method_not_allowed\"\x7d"))

def authorize (server : Server) (headers : Headers) (method path : Bytes) (queryAuth : Bool) :
    Handler :=
  let origin := headers.responseOrigin
  if !headers.host then
    .done (respond origin (ascii "400 Bad Request")
      (ascii "\x7b\"ok\":false,\"error\":\"missing_host\"\x7d"))
  else if method == ascii "OPTIONS" then .done (respond origin (ascii "204 No Content") [])
  else if server.token.isSome && !headers.control && !queryAuth then
    .done (respond origin (ascii "403 Forbidden")
      (ascii "\x7b\"ok\":false,\"error\":\"unauthorized\"\x7d"))
  else if !(parseRoute path).known path then
    .done (respond origin (ascii "404 Not Found")
      (ascii "\x7b\"ok\":false,\"error\":\"not_found\"\x7d"))
  else dispatch server headers method path (parseRoute path)

/-- The part of `handle_client` behind the read loop. -/
def handleRequest (server : Server) (head : Bytes) : Handler :=
  match crlfLines head with
  | [] => .done (respond nullOrigin (ascii "400 Bad Request") notOk)
  | first :: lines =>
      match requestLine first with
      | none => .done (respond nullOrigin (ascii "400 Bad Request") notOk)
      | some (method, path) =>
          let (path, queryAuth) := takeQueryToken server path
          match readHeaders server lines with
          | .error reply => .done reply
          | .ok headers => authorize server headers method path queryAuth

def handleClient (server : Server) (received : List Receive) : Handler :=
  match readRequest [] received with
  | .error status => .done (respond nullOrigin status notOk)
  | .ok head => handleRequest server head

end AirTizen.Control

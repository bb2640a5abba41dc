import AirTizen.Media.Photo

/-!
# The reverse event channel

`airtizen_reverse.h` with the part of `conn_request` in front of it: a client
upgrades a connection and from then on receives playback events on it, each of
which it acknowledges.
-/

namespace AirTizen.Reverse

open CText AirTizen.Media

/-- The field `reverse` of a connection: 0, 1 and -1. -/
inductive Direction where
  | plain
  | upgraded
  | broken
  deriving DecidableEq

/-- The states that an event can carry, 0 to 3. -/
inductive PlayerState where
  | stopped
  | loading
  | paused
  | playing
  deriving DecidableEq

def PlayerState.name : PlayerState → Bytes
  | .stopped => ascii "stopped"
  | .loading => ascii "loading"
  | .paused => ascii "paused"
  | .playing => ascii "playing"

/-- The state of a playback as `airtizen_reverse_poll` computes it. -/
def playerState (playback : PlaybackState) : PlayerState :=
  if !playback.active || playback.failed then .stopped
  else if !playback.ready then .loading
  else if playback.rate = .finite 0 then .paused
  else .playing

/-- The event fields of `raop_conn_t`, zeroed by `conn_init`. -/
structure Connection where
  photoSeen : Bool := false
  photoSession : Nat := 0
  reverse : Direction := .plain
  eventWaiting : Bool := false
  /-- `event_state`, where `none` is -1. -/
  eventState : Option PlayerState := some .stopped
  eventGeneration : Nat := 0
  eventTime : Nat := 0
  eventSession : Bytes := []
  deriving DecidableEq

/-- The property list of an event, with the session header in front of it. -/
structure Event where
  category : Bytes
  sessionId : Option Nat
  state : Bytes
  session : Bytes
  deriving DecidableEq

/-- A message of the client; only a request has a URL. -/
structure Request where
  method : Option Bytes
  url : Option Bytes
  /-- `X-Apple-Session-ID`. -/
  session : Option Bytes := none

def sessionByte (byte : UInt8) : Bool :=
  isDigit byte || (65 ≤ byte && byte ≤ 90) || (97 ≤ byte && byte ≤ 122) || byte == 45

def showsPhoto (photo : PhotoState) (session : Bytes) : Bool :=
  photo.active && !photo.failed && photo.session == session

/-- The connection behind `airtizen_reverse_upgrade`, if it returns 1. -/
def reverseUpgrade (request : Request) (playback : PlaybackState) (photo : PhotoState)
    (connection : Connection) : Option Connection :=
  if request.method ≠ some (ascii "POST") ∨ request.url ≠ some (ascii "/reverse") then none
  else if request.session.any fun text => 64 < text.length || !text.all sessionByte then none
  else
    let eventSession := request.session.getD connection.eventSession
    let shown := showsPhoto photo eventSession
    some { connection with
      eventSession := eventSession
      reverse := .upgraded
      eventGeneration := playback.generation
      eventState := if playback.active then none else some .stopped
      photoSeen := shown || connection.photoSeen
      photoSession := if shown then photo.sessionId else connection.photoSession }

/-- The first lines of the patched `conn_request`.  What a plain connection asks
for otherwise does not touch its event fields. -/
def connRequest (request : Request) (playback : PlaybackState) (photo : PhotoState)
    (connection : Connection) : Connection :=
  if connection.reverse ≠ .plain then
    if request.url.isNone then { connection with eventWaiting := false }
    else { connection with reverse := .broken }
  else (reverseUpgrade request playback photo connection).getD connection

/-- The results -1, 0 and 1 of `airtizen_reverse_poll`. -/
inductive Polled where
  | remove
  | quiet
  | event (event : Event)
  deriving DecidableEq

/-- The event of a poll: a photo that is gone comes before the playback. -/
def eventOf (connection : Connection) (playback : PlaybackState) : Event :=
  { category := ascii (if connection.photoSeen then "photo" else "video")
    sessionId := if connection.photoSeen then some connection.photoSession else none
    state := if connection.photoSeen then PlayerState.stopped.name else (playerState playback).name
    session := connection.eventSession }

/-- The acknowledgement is more than ten seconds late, on a `uint64_t` clock. -/
def overdue (now eventTime : Nat) : Bool := 10 < (now + 2 ^ 64 - eventTime) % 2 ^ 64

def reversePoll (now : Nat) (allocated : Bool) (playback : PlaybackState) (photo : PhotoState)
    (connection : Connection) : Polled × Connection :=
  if connection.reverse = .broken then (.remove, connection)
  else if connection.reverse = .plain then (.quiet, connection)
  else if connection.eventWaiting then
    (if overdue now connection.eventTime then .remove else .quiet, connection)
  else if showsPhoto photo connection.eventSession then
    (.quiet, { connection with photoSeen := true, photoSession := photo.sessionId })
  else if !connection.photoSeen && some (playerState playback) == connection.eventState &&
      playback.generation == connection.eventGeneration then (.quiet, connection)
  else if !allocated then (.remove, { connection with photoSeen := false })
  else
    (.event (eventOf connection playback),
      { connection with
        photoSeen := false
        eventState := some (playerState playback)
        eventGeneration := playback.generation
        eventWaiting := true
        eventTime := now })

/-! ## One connection among the calls of the receiver -/

structure Channel where
  playback : PlaybackState := {}
  photo : PhotoStore := {}
  connection : Connection := {}
  /-- The server has not removed the connection. -/
  connected : Bool := true
  /-- `event_state` as recorded at the upgrade. -/
  baseline : Option PlayerState := none
  sent : List Event := []

/-- What can happen next.  A poll comes with the clock, and with whether the
event found memory and the socket took it. -/
inductive Action where
  | playback (call : PlaybackCall)
  | photo (call : PhotoCall)
  | request (request : Request)
  | poll (now : Nat) (allocated delivered : Bool)

def Channel.receive (channel : Channel) (request : Request) : Channel :=
  let connection :=
    connRequest request channel.playback channel.photo.state channel.connection
  { channel with
    connection := connection
    baseline :=
      if channel.connection.reverse = .plain then connection.eventState else channel.baseline }

/-- The event goes out; a socket that does not take it is closed. -/
def Channel.send (channel : Channel) (delivered : Bool) (event : Event)
    (connection : Connection) : Channel :=
  { channel with
    connection := connection, connected := delivered, sent := channel.sent ++ [event] }

/-- One round of `httpd_thread` for the connection. -/
def Channel.polled (channel : Channel) (now : Nat) (allocated delivered : Bool) : Channel :=
  match reversePoll now allocated channel.playback channel.photo.state channel.connection with
  | (.remove, connection) => { channel with connection := connection, connected := false }
  | (.quiet, connection) => { channel with connection := connection }
  | (.event event, connection) => channel.send delivered event connection

def Channel.step (channel : Channel) : Action → Channel
  | .playback call => { channel with playback := call.step channel.playback }
  | .photo call => { channel with photo := call.step channel.photo }
  | .request request => if channel.connected then channel.receive request else channel
  | .poll now allocated delivered =>
      if channel.connected then channel.polled now allocated delivered else channel

/-- A new connection to a receiver in any state. -/
def Channel.accepted (playback : PlaybackState) (photo : PhotoStore) : Channel :=
  { playback := playback, photo := photo }

def Event.isVideo (event : Event) : Bool := event.category == ascii "video"

/-- The state that the client was told last: by the last video event, or by the
baseline of the upgrade. -/
def Channel.carried (channel : Channel) : Option Bytes :=
  match (channel.sent.filter Event.isVideo).getLast? with
  | some event => some event.state
  | none => channel.baseline.map PlayerState.name

end AirTizen.Reverse

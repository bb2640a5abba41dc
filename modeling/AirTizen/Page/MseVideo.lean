import AirTizen.Control.Route
import AirTizen.Library.WholeNumber
import AirTizen.Video.Store

/-!
# The MSE player

`video-mse.js` next to the video store behind its requests.  Everything the
browser still owes the script is a pending callback; which one comes next, how
its request ends and what the media objects do is up to the environment.
-/

namespace AirTizen.Page.Mse

open CText Binary64

/-! ## Requests and answers -/

inductive Fetch where
  | status
  | init
  | segment (number : Nat)
  deriving DecidableEq

def Fetch.path : Fetch → Bytes
  | .status => ascii "/status"
  | .init => ascii "/video/init"
  | .segment number => ascii "/video/segment/" ++ decimal number

inductive Reply where
  /-- The `video` object of the status text. -/
  | status (video : Video.State)
  /-- The body of status 200, absent for any other one, and `X-AirTizen-Generation`. -/
  | media (data : Option Bytes) (generation : Nat)
  | missing
  deriving DecidableEq

/-- What `handle_client` makes of the three paths. -/
def respond (store : Video.Store) (allocated : Bool) (path : Bytes) : Reply :=
  let mediaInit := path == ascii "/video/init"
  let mediaSequence := Control.parseMediaSequence path
  if mediaInit || mediaSequence.isSome then
    let (data, generation) := Video.copy allocated mediaInit (mediaSequence.getD 0) store
    .media data generation
  else if path == ascii "/status" then .status (Video.snapshot store)
  else .missing

/-- A function the browser is going to call.  A request knows its answer as soon
as the server has given it; `token` is the `epoch` the callback was made in. -/
inductive Callback where
  | timer (id : Nat)
  | request (token : Nat) (fetch : Fetch) (reply : Option Reply)
  | sourceopen (token : Nat)
  | updateend (token : Nat) (buffer : Nat)
  deriving DecidableEq

/-- Whether the callback does more than find out that it is out of date. -/
def Callback.live (epoch : Nat) : Callback → Bool
  | .timer _ => true
  | .request token _ _ | .sourceopen token | .updateend token _ => token == epoch

/-! ## The page -/

/-- A `SourceBuffer`: the `token` its listeners compare, and everything that was
appended to it. -/
structure SourceBuffer where
  token : Nat
  data : List Bytes := []
  updating : Bool := false
  deriving DecidableEq

structure Player where
  source : Option Nat := none
  timer : Option Nat := none
  epoch : Nat := 0
  generation : Int := -1
  next : Nat := 0
  latest : Nat := 0
  active : Bool := false
  stopped : Bool := true
  deriving DecidableEq

structure Tab where
  store : Video.Store := Video.Store.initial
  player : Player := {}
  pending : List Callback := []
  /-- Every buffer the page ever made. -/
  buffers : List SourceBuffer := []
  /-- The handle of the next timer. -/
  timers : Nat := 0

structure Browser where
  /-- The request failed, timed out, or its status or text was of no use. -/
  lost : Bool := false
  /-- `updateShared(result)`. -/
  shared : Bool := false
  /-- There is a `MediaSource`, and it supports the type. -/
  supported : Bool := true
  /-- `addSourceBuffer` returns. -/
  opens : Bool := true
  /-- `appendBuffer` returns. -/
  appends : Bool := true
  /-- `video.buffered.length`. -/
  buffered : Bool := true
  /-- There is old media to remove. -/
  removes : Bool := false

namespace Tab

/-- `clearTimeout(timer)`. -/
def clearTimer (page : Tab) : Tab :=
  match page.player.timer with
  | none => page
  | some id => { page with pending := page.pending.filter (· ≠ .timer id) }

/-- `schedule`; how long a timer takes does not matter to the order of callbacks. -/
def schedule (page : Tab) : Tab :=
  let page := page.clearTimer
  if page.player.stopped then page
  else { page with
    player := { page.player with timer := some page.timers }
    pending := page.pending ++ [.timer page.timers]
    timers := page.timers + 1 }

def request (fetch : Fetch) (token : Nat) (page : Tab) : Tab :=
  { page with pending := page.pending ++ [.request token fetch none] }

def dispose (page : Tab) : Tab :=
  let page := page.clearTimer
  { page with player := { page.player with
      epoch := page.player.epoch + 1, generation := -1, source := none, active := false } }

/-- `dispose();schedule(..);`, which is all of `failed` but its message. -/
def failed (page : Tab) : Tab := page.dispose.schedule

/-- `append`; without a source, or while it is updating, `appendBuffer` throws. -/
def append (browser : Browser) (data : Bytes) (page : Tab) : Tab :=
  match page.player.source with
  | none => page.failed
  | some id =>
      match page.buffers[id]? with
      | none => page.failed
      | some buffer =>
          if buffer.updating || !browser.appends then page.failed
          else { page with
            buffers := page.buffers.set id
              { buffer with data := buffer.data ++ [data], updating := true }
            pending := page.pending ++ [.updateend buffer.token id] }

/-- `begin`, up to its listener. -/
def begin (browser : Browser) (state : Video.State) (page : Tab) : Tab :=
  let page := page.dispose
  if !browser.supported then page.failed
  else { page with
    player := { page.player with
      generation := whole state.generation
      next := whole state.start
      latest := whole state.latest }
    pending := page.pending ++ [.sourceopen page.player.epoch] }

def poll (page : Tab) : Tab := page.request .status page.player.epoch

def sourceUpdating (page : Tab) : Bool :=
  ((page.player.source.bind fun id => page.buffers[id]?).map SourceBuffer.updating).getD false

def onStatus (browser : Browser) (token : Nat) (video : Option Video.State) (page : Tab) :
    Tab :=
  let forget := fun (page : Tab) =>
    if page.player.active ∨ page.player.generation ≠ -1 then page.dispose else page
  if browser.shared then (forget page).schedule
  else
    match video with
    | none => (forget page).schedule
    | some state =>
        if !state.available then (forget page).schedule
        else if (whole state.generation : Int) ≠ page.player.generation then
          page.begin browser state
        else
          let page := { page with player := { page.player with latest := whole state.latest } }
          if page.player.source = none ∨ page.sourceUpdating then page.schedule
          else if page.player.latest < page.player.next then page.schedule
          else page.request (.segment (numeral page.player.next)) token

def onInit (browser : Browser) (data : Option Bytes) (receivedGeneration : Nat) (page : Tab) :
    Tab :=
  match data with
  | none => page.failed
  | some data =>
      if (whole receivedGeneration : Int) ≠ page.player.generation then page.failed
      else page.append browser data

def onSegment (browser : Browser) (data : Option Bytes) (receivedGeneration : Nat)
    (page : Tab) : Tab :=
  match data with
  | none => page.failed
  | some data =>
      if (whole receivedGeneration : Int) ≠ page.player.generation then page.failed
      else
        let page := { page with
          player := { page.player with next := whole (page.player.next + 1) } }
        page.append browser data

def finish (browser : Browser) (token : Nat) (fetch : Fetch) (reply : Option Reply)
    (page : Tab) : Tab :=
  if page.player.stopped ∨ token ≠ page.player.epoch then page
  else
    let reply := if browser.lost then none else reply
    let video := match reply with
      | some (.status video) => some video
      | _ => none
    let (data, generation) := match reply with
      | some (.media data generation) => (data, generation)
      | _ => (none, 0)
    match fetch with
    | .status => page.onStatus browser token video
    | .init => page.onInit browser data generation
    | .segment _ => page.onSegment browser data generation

/-- The listener for `sourceopen`. -/
def onSourceopen (browser : Browser) (token : Nat) (page : Tab) : Tab :=
  if page.player.stopped ∨ token ≠ page.player.epoch then page
  else if !browser.opens then page.failed
  else
    let page := { page with
      player := { page.player with source := some page.buffers.length }
      buffers := page.buffers ++ [({ token := token } : SourceBuffer)] }
    page.request .init token

def remove (page : Tab) : Tab :=
  match page.player.source with
  | none => page
  | some id => { page with
      buffers := page.buffers.modify id fun buffer => { buffer with updating := true }
      pending := page.pending ++
        (page.buffers[id]?.map fun buffer => Callback.updateend buffer.token id).toList }

/-- The listener for `updateend`, with the end of the update itself. -/
def onUpdateend (browser : Browser) (token buffer : Nat) (page : Tab) : Tab :=
  let page := { page with
    buffers := page.buffers.modify buffer fun buffer => { buffer with updating := false } }
  if token ≠ page.player.epoch then page
  else if browser.buffered then
    let page := { page with player := { page.player with active := true } }
    if browser.removes then page.remove else page.schedule
  else page.schedule

def call (browser : Browser) (page : Tab) : Callback → Tab
  | .timer _ => page.poll
  | .request token fetch reply => page.finish browser token fetch reply
  | .sourceopen token => page.onSourceopen browser token
  | .updateend token buffer => page.onUpdateend browser token buffer

def start (page : Tab) : Tab :=
  if page.player.stopped then
    { page with player := { page.player with stopped := false } }.schedule
  else page

def stop (page : Tab) : Tab :=
  { page with player := { page.player with stopped := true } }.dispose

/-- The server answers a request that is on its way, once. -/
def answer (allocated : Bool) (index : Nat) (page : Tab) : Tab :=
  match page.pending[index]? with
  | some (.request token fetch none) =>
      let reply := respond page.store allocated fetch.path
      { page with pending := page.pending.set index (.request token fetch (some reply)) }
  | _ => page

end Tab

/-! ## Runs -/

inductive Event where
  /-- A call of the video store. -/
  | store (call : Video.Call)
  | answer (allocated : Bool) (index : Nat)
  /-- The pending callback with the index runs. -/
  | callback (browser : Browser) (index : Nat)
  | start
  | stop
  /-- The `error` event of a buffer. -/
  | sourceError (buffer : Nat)
  /-- The `error` event of the video element. -/
  | videoError

def step (page : Tab) : Event → Tab
  | .store call => { page with store := Video.step page.store call }
  | .answer allocated index => page.answer allocated index
  | .callback browser index =>
      match page.pending[index]? with
      | none => page
      | some callback =>
          { page with pending := page.pending.eraseIdx index }.call browser callback
  | .start => page.start
  | .stop => page.stop
  | .sourceError buffer =>
      match page.buffers[buffer]? with
      | some buffer => if buffer.token = page.player.epoch then page.failed else page
      | none => page
  | .videoError =>
      if !page.player.stopped ∧ page.player.generation ≠ -1 then page.failed else page

/-- The page after the events, from a fresh start of receiver and page. -/
def after (events : List Event) : Tab := Machine.run step {} events

/-- The calls of the store among the events. -/
def storeCalls (events : List Event) : List Video.Call :=
  events.filterMap fun
    | .store call => some call
    | _ => none

end AirTizen.Page.Mse

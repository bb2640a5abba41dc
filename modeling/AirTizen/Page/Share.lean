import AirTizen.Media.Playback

/-!
# The shared-media handler of the page

`share.js`: every status poll hands it the playback session of the receiver, and
it drives a `<video>` element.  The reports that it sends back are left out.
-/

namespace AirTizen.Page

open CText Binary64 AirTizen.Media

/-- The `playback` object of the status text. -/
structure Session where
  active : Bool
  generation : Nat
  command : Nat
  url : Bytes
  fraction : Double
  rate : Double
  seek : Double
  deriving DecidableEq

/-- What `airtizen_runtime_status_json` prints of the playback store.  The page gets the
doubles themselves here, where the text rounds them to the nine digits of `%.9g`. -/
def session (playback : PlaybackState) : Session :=
  { active := playback.active
    generation := playback.generation
    command := playback.command
    url := playback.url
    fraction := playback.fraction
    rate := playback.rate
    seek := playback.seek }

structure View where
  readyState : Nat
  duration : Double
  paused : Bool
  ended : Bool
  deriving DecidableEq

/-- The variables of the handler, and the `src` attribute of the element. -/
structure Share where
  state : Option Session := none
  /-- `command`, where `none` is -1. -/
  command : Option Nat := none
  source : Option Bytes := none
  overlay : Bool := false
  deriving DecidableEq

inductive Effect where
  | setSource (url : Bytes)
  | removeSource
  | load
  | play
  | pause
  /-- `video.currentTime` is set from `state.seek`. -/
  | seek (position : Double)
  /-- `video.currentTime` is set from `state.fraction`. -/
  | seekFraction (position : Double)
  deriving DecidableEq

/-- Whether `apply` gets past its first line. -/
def Share.applies (share : Share) (view : View) : Bool := share.state.isSome && 1 ≤ view.readyState

def Share.apply (share : Share) (view : View) : Share × List Effect :=
  match share.state with
  | none => (share, [])
  | some state =>
      if view.readyState < 1 then (share, [])
      else
        let position :=
          if some state.command ≠ share.command ∧ state.seek.nonneg ∧ view.duration.isFinite then
            [Effect.seek (state.seek.min view.duration)]
          else []
        let running :=
          if state.rate = .finite 0 then [Effect.pause]
          else if view.paused && !view.ended && state.active then [Effect.play]
          else []
        ({ share with command := some state.command }, position ++ running)

/-- Whether `next` is another session than the one before. -/
def Share.changed (share : Share) (next : Session) : Bool :=
  match share.state with
  | none => true
  | some state => state.generation ≠ next.generation

/-- `video.getAttribute('src')` as a condition. -/
def Share.hasSource (share : Share) : Bool := share.source.getD [] ≠ []

/-- `update` without a session: the element gives its source up. -/
def Share.close (share : Share) (next : Option Session) : Share × List Effect :=
  if share.hasSource then
    ({ share with state := next, source := none, overlay := false },
      [.pause, .removeSource, .load])
  else ({ share with state := next, overlay := false }, [])

/-- `update` with an active session up to `apply`: a new one is loaded. -/
def Share.adopt (share : Share) (next : Session) : Share × List Effect :=
  if share.changed next then
    ({ state := some next, command := none, source := some next.url, overlay := true },
      [.setSource next.url, .load])
  else ({ share with state := some next, overlay := true }, [])

/-- `AirTizenShare.update`; the element is read after the source was set. -/
def Share.update (share : Share) (next : Option Session) (view : View) : Share × List Effect :=
  match next with
  | none => share.close none
  | some next =>
      if !next.active then share.close (some next)
      else
        let (adopted, loading) := share.adopt next
        let (applied, driving) := adopted.apply view
        (applied, loading ++ driving)

/-- The listener for `loadedmetadata`, which needs a source. -/
def Share.loadedMetadata (share : Share) (view : View) : Share × List Effect :=
  if !share.hasSource then (share, [])
  else
    let fraction :=
      match share.state with
      | none => []
      | some state =>
          if view.duration.isFinite ∧ state.fraction ≠ .finite 0 ∧ state.fraction.nonneg then
            [Effect.seekFraction (view.duration.mul state.fraction)]
          else []
    let (applied, driving) := share.apply view
    (applied, fraction ++ driving)

theorem apply_share (share : Share) (view : View) :
    (share.apply view).1.state = share.state ∧ (share.apply view).1.source = share.source ∧
      (share.apply view).1.command =
        if share.applies view then share.state.map Session.command else share.command := by
  cases known : share.state with
  | none => simp [Share.apply, Share.applies, known]
  | some state =>
      by_cases loading : view.readyState < 1
      · simp [Share.apply, Share.applies, known, loading]
      · have loaded : 1 ≤ view.readyState := by omega
        simp [Share.apply, Share.applies, known, loading, loaded]

end AirTizen.Page

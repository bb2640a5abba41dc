import AirTizen.Page.Photo
import AirTizen.Page.Share

/-!
# The poll loops of the page

Three players poll the status of the receiver: `video.js` for direct
presentation, `AirTizenHLSVideo` behind it as its fallback, and `video-mse.js`.
Each hands what it makes of an answer to `updateShared`.
-/

namespace AirTizen.Page

open AirTizen.Media

structure Status where
  playback : Session
  photo : PhotoSession
  deriving DecidableEq

inductive Answer where
  /-- `onload` with a status and a body, which is `none` if it does not parse. -/
  | loaded (status : Nat) (body : Option Status)
  /-- `onerror` or `ontimeout`. -/
  | failed
  deriving DecidableEq

inductive Mode where
  | direct
  | hls
  | mse
  deriving DecidableEq

/-- The argument of `updateShared` in the `poll` of `video.js`, if it is called. -/
def directPoll : Answer → Option (Option Status)
  | .loaded status body => some (if status = 200 then body else none)
  | .failed => none

/-- The same in the `poll` of `AirTizenHLSVideo`. -/
def hlsPoll : Answer → Option (Option Status)
  | .loaded status body => if status ≠ 200 then none else body.map some
  | .failed => none

/-- The same in `video-mse.js`, where `finish` calls back with `null`. -/
def msePoll : Answer → Option (Option Status)
  | .loaded status body => some (if status ≠ 200 then none else body)
  | .failed => some none

def Mode.poll : Mode → Answer → Option (Option Status)
  | .direct => directPoll
  | .hls => hlsPoll
  | .mse => msePoll

structure Shared where
  share : Share := {}
  gallery : Gallery := {}

/-- `updateShared`: both handlers, and what each of them did. -/
def Shared.updateShared (shared : Shared) (result : Option Status) (view : View) :
    Shared × List Effect × List PhotoEffect :=
  let (share, effects) := shared.share.update (result.map Status.playback) view
  let (gallery, photoEffects) := shared.gallery.update (result.map Status.photo)
  ({ share := share, gallery := gallery }, effects, photoEffects)

end AirTizen.Page

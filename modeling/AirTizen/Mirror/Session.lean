import AirTizen.Mirror.Packet
import AirTizen.Video.Store

/-!
# One mirror data connection

`raop_rtp_mirror_thread` between two connections: it opens packets, rebases
their time stamps and hands them to `cb_video_process`, which feeds the video
store.
-/

namespace AirTizen.Mirror

open CText

/-- `base` and `have_base`. -/
structure Clock where
  haveBase : Bool := false
  base : Nat := 0
  deriving DecidableEq

/-- The fields of `h264_decode_struct` that are filled. -/
structure Callback where
  data : Bytes
  frameType : Nat
  pts : Nat
  deriving DecidableEq

/-- What the worker hands to `video_process` for a message. -/
def rebase (clock : Clock) : Message → Clock × Option Callback
  | .configuration data =>
      ({ clock with haveBase := false }, some { data := data, frameType := 0, pts := 0 })
  | .accessUnit data micros =>
      let clock := if clock.haveBase then clock else { haveBase := true, base := micros }
      let clock := if micros < clock.base then { clock with base := micros } else clock
      (clock, some { data := data, frameType := 1, pts := micros - clock.base })
  | .other => (clock, none)

structure Worker where
  cipher : Cipher
  clock : Clock := {}

/-- One round of the worker with a whole packet; `none` where it leaves its loop. -/
def Worker.receive (allocated : Bool) (worker : Worker) (packet : Packet) :
    Option (Worker × Option Callback) :=
  (openPacket allocated worker.cipher packet).map fun (message, cipher) =>
    let (clock, callback) := rebase worker.clock message
    ({ cipher := cipher, clock := clock }, callback)

/-- The call of the video store that `cb_video_process` makes. -/
def videoCall (allocated : Bool) (run : Video.FrameRun) (callback : Callback) :
    Option Video.Call :=
  if callback.data = [] then none
  else if callback.frameType = 0 then some (.configure allocated callback.data)
  else some (.frame run callback.data callback.pts)

/-- A packet, with what the allocator and libav answer while it is handled. -/
structure Delivery where
  packet : Packet
  allocated : Bool := true
  run : Video.FrameRun

structure Session where
  worker : Option Worker
  store : Video.Store

/-- The worker after a packet, and the call of the store if there is one. -/
def Session.handle (session : Session) (delivery : Delivery) :
    Option Worker × Option Video.Call :=
  match session.worker.bind fun worker =>
      worker.receive delivery.allocated delivery.packet with
  | none => (none, none)
  | some (worker, callback) =>
      (some worker, callback.bind (videoCall delivery.allocated delivery.run))

def deliver (session : Session) (delivery : Delivery) : Session :=
  let (worker, call) := session.handle delivery
  { worker := worker
    store := match call with
      | some call => Video.step session.store call
      | none => session.store }

end AirTizen.Mirror

import Mathlib.Logic.Function.Basic
import AirTizen.Library.Machine
import AirTizen.Library.Text

/-!
# The hardware presenter

`VideoHost` of `video_host.h`: worker threads and the main thread share flags, a
configuration and a queue of frames under a mutex, and only the main thread
touches the decoder.  Every critical section is one step.  Pictures and their
timing are left out, except that presenting one can fail.
-/

namespace AirTizen.Presenter

open CText

/-- A buffer with the number of the accepted `Configure` that it belongs to,
which the code does not store. -/
structure Packet where
  bytes : Bytes
  epoch : Nat
  deriving DecidableEq

/-- Where the main thread is. -/
inductive Phase where
  /-- No callback runs. -/
  | idle
  /-- In `Pump`, before its first critical section. -/
  | entering
  /-- In `Pump`, before its second critical section. -/
  | taking
  /-- In `Error`, before its critical section. -/
  | failing
  deriving DecidableEq

structure Host where
  enabled : Bool := false
  closing : Bool := false
  posted : Bool := false
  configure : Bool := false
  reset : Bool := false
  failed : Bool := false
  queue : List Packet := []
  queuedBytes : Nat := 0
  /-- `config_`, where `none` is empty. -/
  config : Option Packet := none
  ready : Bool := false
  decoding : Bool := false
  /-- The number of the current decoder instance. -/
  decoder : Option Nat := none
  main : Phase := .idle
  /-- `Pump` callbacks that wait for the main thread. -/
  scheduled : Nat := 0
  /-- The `Initialized` callback of the current decoder is outstanding. -/
  initializing : Bool := false
  /-- Accepted calls of `Configure` and created decoders so far. -/
  epoch : Nat := 0
  decoders : Nat := 0
  deriving DecidableEq

inductive Observation where
  | configured (packet : Packet)
  | accepted (packet : Packet)
  /-- `Initialize` on a new decoder, because of the latest `Configure`. -/
  | opened (decoder epoch : Nat)
  /-- `Decode`. -/
  | decode (decoder : Nat) (packet : Packet)
  deriving DecidableEq

def Host.postLocked (host : Host) : Host :=
  if host.posted then host else { host with posted := true, scheduled := host.scheduled + 1 }

/-- `queue_.clear();queued_bytes_=0`. -/
def Host.clearQueue (host : Host) : Host := { host with queue := [], queuedBytes := 0 }

/-! ## Worker side -/

def Host.configureWith (host : Host) (data : Bytes) (allocated : Bool) :
    Host × Option Observation :=
  if data = [] ∨ 65536 < data.length then (host, none)
  else if !host.enabled || host.closing then (host, none)
  else if !allocated then (({ host with failed := true }).postLocked, none)
  else
    let packet : Packet := ⟨data, host.epoch + 1⟩
    (({ host.clearQueue with
        config := some packet
        configure := true
        reset := false
        failed := false
        epoch := host.epoch + 1 }).postLocked,
      some (.configured packet))

/-- `Frame`; the copy and then the place in the queue need memory. -/
def Host.frame (host : Host) (data : Bytes) (copied pushed : Bool) : Host × Option Observation :=
  if data = [] ∨ 2 * 1024 * 1024 < data.length then (host, none)
  else if !host.enabled || host.closing || host.failed || host.reset then (host, none)
  else if 12 ≤ host.queue.length ∨ 8 * 1024 * 1024 < host.queuedBytes + data.length then
    (({ host with failed := true }).postLocked, none)
  else if !copied then (({ host with failed := true }).postLocked, none)
  else
    let counted := { host with queuedBytes := host.queuedBytes + data.length }
    if !pushed then (({ counted with failed := true }).postLocked, none)
    else
      let packet : Packet := ⟨data, host.epoch⟩
      (({ counted with queue := host.queue ++ [packet] }).postLocked, some (.accepted packet))

/-- `Reset`. -/
def Host.resetQueue (host : Host) : Host :=
  ({ host.clearQueue with reset := true, configure := false, config := none }).postLocked

/-! ## Main thread -/

def Host.enable (host : Host) (enabled : Bool) : Host :=
  ({ host.clearQueue with
    enabled := enabled, reset := true, configure := false, failed := false
    config := none }).postLocked

/-- `CloseDecoder`, which cancels the callbacks of the decoder. -/
def Host.closeDecoder (host : Host) : Host :=
  { host with ready := false, decoding := false, decoder := none, initializing := false }

def Host.shutdown (host : Host) : Host :=
  { host.clearQueue.closeDecoder with closing := true, enabled := false, scheduled := 0 }

/-- The first critical section of `Pump` and what follows up to the next one;
`opened` tells whether graphics and decoder could be created. -/
def Host.enter (host : Host) (opened : Bool) : Host × Option Observation :=
  let host := { host with posted := false, main := .idle }
  if host.closing then (host, none)
  else
    let cleared := { host with reset := false, configure := false }
    if host.reset || !host.enabled then (cleared.closeDecoder, none)
    else if host.failed then ({ cleared with main := .failing }, none)
    else if host.configure then
      if !opened then ({ cleared.closeDecoder with main := .failing }, none)
      else
        ({ cleared.closeDecoder with
            decoder := some host.decoders
            decoders := host.decoders + 1
            initializing := true },
          some (.opened host.decoders host.epoch))
    else if !host.ready || host.decoding then (cleared, none)
    else ({ cleared with main := .taking }, none)

/-- The packet that the second critical section of `Pump` takes. -/
def Host.next (host : Host) : Option (Packet × Host) :=
  match host.config, host.queue with
  | some packet, _ => some (packet, { host with config := none })
  | none, packet :: rest =>
      some (packet, { host with
        queue := rest
        queuedBytes := host.queuedBytes - packet.bytes.length })
  | none, [] => none

/-- The second critical section of `Pump`: the next packet goes to the decoder. -/
def Host.take (host : Host) : Host × Option Observation :=
  match ({ host with main := .idle }).next with
  | none => ({ host with main := .idle }, none)
  | some (packet, host) =>
      ({ host with decoding := true },
        host.decoder.map fun decoder => Observation.decode decoder packet)

/-- The critical section of `Error` and what follows. -/
def Host.fail (host : Host) : Host :=
  { host.clearQueue with failed := true, ready := false, main := .idle }

inductive Result where
  | ok
  | aborted
  | error
  deriving DecidableEq

/-- `Initialized` up to the first critical section behind it. -/
def Host.initialized (host : Host) (result : Result) : Host :=
  let host := { host with initializing := false }
  if result = .ok then { host with ready := true, main := .entering }
  else { host with main := .failing }

/-- `Decoded` up to the first critical section behind it. -/
def Host.decoded (host : Host) (result : Result) : Host :=
  let host := { host with decoding := false }
  match result with
  | .ok => { host with main := .entering }
  | .aborted => host
  | .error => { host with main := .failing }

/-- The steps of the worker threads and of the main thread. -/
inductive Action where
  | configure (data : Bytes) (allocated : Bool)
  | frame (data : Bytes) (copied pushed : Bool)
  | reset
  | enable (enabled : Bool)
  | shutdown
  /-- A posted `Pump` callback starts. -/
  | pump
  | initialized (result : Result)
  | decoded (result : Result)
  /-- Presenting a picture ends in `Error`. -/
  | presentationFailed
  | enter (opened : Bool)
  | take
  | fail
  deriving DecidableEq

/-- A worker step is always possible; the main thread runs one callback at a time. -/
def Host.possible (host : Host) : Action → Bool
  | .configure _ _ | .frame _ _ _ | .reset => true
  | .enable _ | .shutdown => host.main = .idle
  | .pump => host.main = .idle && 0 < host.scheduled
  | .initialized _ => host.main = .idle && host.initializing
  | .decoded _ => host.main = .idle && host.decoding
  | .presentationFailed => host.main = .idle && host.decoder.isSome
  | .enter _ => host.main = .entering
  | .take => host.main = .taking
  | .fail => host.main = .failing

def Host.perform (host : Host) : Action → Host × Option Observation
  | .configure data allocated => host.configureWith data allocated
  | .frame data copied pushed => host.frame data copied pushed
  | .reset => (host.resetQueue, none)
  | .enable enabled => (host.enable enabled, none)
  | .shutdown => (host.shutdown, none)
  | .pump => ({ host with scheduled := host.scheduled - 1, main := .entering }, none)
  | .initialized result => (host.initialized result, none)
  | .decoded result => (host.decoded result, none)
  | .presentationFailed => ({ host with main := .failing }, none)
  | .enter opened => host.enter opened
  | .take => host.take
  | .fail => (host.fail, none)

/-- A step that is not possible now changes nothing. -/
def Host.step (host : Host) (action : Action) : Host × Option Observation :=
  if host.possible action then host.perform action else (host, none)

/-! ## What decoders should be given -/

/-- The books of an observer: for every accepted `Configure` its configuration
and the frames accepted after it, and for every decoder the `Configure` it was
made for and the packets it was given. -/
structure Ledger where
  epoch : Nat := 0
  stream : Nat → List Packet := fun _ => []
  origin : Nat → Nat := fun _ => 0
  packets : Nat → List Packet := fun _ => []

def Ledger.record (ledger : Ledger) : Observation → Ledger
  | .configured packet =>
      { ledger with
        epoch := ledger.epoch + 1
        stream := Function.update ledger.stream (ledger.epoch + 1) [packet] }
  | .accepted packet =>
      { ledger with
        stream := Function.update ledger.stream ledger.epoch
          (ledger.stream ledger.epoch ++ [packet]) }
  | .opened decoder epoch =>
      { ledger with origin := Function.update ledger.origin decoder epoch }
  | .decode decoder packet =>
      { ledger with
        packets := Function.update ledger.packets decoder (ledger.packets decoder ++ [packet]) }

structure Watched where
  host : Host := {}
  ledger : Ledger := {}

def Watched.step (watched : Watched) (action : Action) : Watched :=
  { host := (watched.host.step action).1
    ledger := (watched.host.step action).2.elim watched.ledger watched.ledger.record }

/-- Every decoder was given its own configuration and then frames accepted after
it, in order and without a gap. -/
def Ledger.Own (ledger : Ledger) : Prop :=
  ∀ decoder, ledger.packets decoder <+: ledger.stream (ledger.origin decoder)

end AirTizen.Presenter

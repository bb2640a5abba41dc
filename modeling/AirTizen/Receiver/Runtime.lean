import AirTizen.Library.Machine
import AirTizen.Receiver.Media

/-!
# Starting and stopping the receiver

`airtizen_runtime.c`, `airtizen_core.c` and `airtizen_mdns.c` each keep their own
running state.  The answers of the RAOP library and of the operating system are
arguments of the calls.
-/

namespace AirTizen.Receiver

open CText AirTizen.Media

/-! ## State -/

/-- The state behind the mutex of `airtizen_core.c`. -/
structure Core where
  /-- `g_raop`, with the number of sessions that the library holds. -/
  raop : Option Nat := none
  running : Bool := false
  connected : Bool := false
  lastError : Bytes := []
  sessions : Nat := 0
  deriving DecidableEq

def Core.disconnected (core : Core) : Core :=
  let core := { core with sessions := core.sessions - 1 }
  if core.sessions = 0 then { core with connected := false } else core

structure Mdns where
  running : Bool := false
  /-- `g_sock`, where `none` is -1. -/
  sock : Option Nat := none
  /-- `g_stop`, where `none` is -1 for both ends. -/
  stop : Option (Nat × Nat) := none
  name : Bytes := ascii "AirTizen TV"
  publicKey : Bytes := []
  uxplayTest : Bool := false
  startError : Bytes := []
  deriving DecidableEq

/-- Branches that turn a call down because a part of the receiver runs already. -/
inductive Refusal where
  /-- `airtizen_discovery_set_profile` finds mDNS running. -/
  | profile
  /-- `airtizen_mdns_set_public_key` finds mDNS running. -/
  | publicKey
  /-- `discovery_identity_failed` in `airtizen_core_start`. -/
  | identity
  deriving DecidableEq

structure Runtime where
  started : Bool := false
  error : Bytes := []
  name : Bytes := ascii "AirTizen TV"
  core : Core := {}
  mdns : Mdns := {}
  stores : Stores := {}
  /-- Sockets and pipe ends that are open. -/
  opened : List Nat := []
  /-- RAOP instances that are not destroyed. -/
  instances : Nat := 0
  /-- The refusals so far, which the code does not store. -/
  refusals : List Refusal := []

/-! ## Answers from outside -/

/-- What `airtizen_core_start` learns. -/
structure CoreRun where
  /-- `raop_init` returned an instance, with this public key. -/
  initialized : Bool := true
  key : Bytes := []
  /-- The result of `raop_start`. -/
  raopStarted : Int := 1

/-- What `airtizen_mdns_start` learns: the `errno` of a step that fails. -/
structure MdnsRun where
  network : Option Nat := none
  socket : Except Nat Nat
  reuseaddr : Option Nat := none
  ttl : Option Nat := none
  bind : Option Nat := none
  join : Option Nat := none
  interface : Option Nat := none
  pipe : Except Nat (Nat × Nat)
  worker : Option Nat := none

/-- The calls between `socket` and `pipe`, with the names of their errors. -/
def MdnsRun.options (run : MdnsRun) : List (String × Option Nat) :=
  [("reuseaddr", run.reuseaddr), ("ttl", run.ttl), ("bind_5353", run.bind),
    ("join_group", run.join), ("interface", run.interface)]

def firstFailure (steps : List (String × Option Nat)) : Option (String × Nat) :=
  steps.findSome? fun (stage, failure) => failure.map fun errno => (stage, errno)

/-- No step of `airtizen_mdns_start` fails. -/
def MdnsRun.succeeds (run : MdnsRun) : Bool :=
  run.network.isNone && run.socket.isOk && (firstFailure run.options).isNone &&
    run.pipe.isOk && run.worker.isNone

structure StartRun where
  core : CoreRun := {}
  mdns : MdnsRun

namespace Runtime

/-! ## `airtizen_mdns.c` -/

/-- The text that `start_error` prints into its 80 bytes. -/
def startErrorText (stage : String) (errno : Nat) : Bytes :=
  (ascii "mdns_" ++ ascii stage ++ ascii "_failed_errno_" ++ decimal errno).take 79

def startError (runtime : Runtime) (stage : String) (errno : Nat) : Runtime :=
  { runtime with mdns.startError := startErrorText stage errno }

def close (runtime : Runtime) (descriptor : Nat) : Runtime :=
  { runtime with opened := runtime.opened.erase descriptor }

/-- Closes the socket and both ends of the pipe, as far as they are open. -/
def closeAll (runtime : Runtime) : Runtime :=
  let closed := match runtime.mdns.sock with
    | none => runtime
    | some sock => runtime.close sock
  let closed := match runtime.mdns.stop with
    | none => closed
    | some (readEnd, writeEnd) => (closed.close readEnd).close writeEnd
  { closed with mdns.sock := none, mdns.stop := none }

/-- The label `failed` of `airtizen_mdns_start`, behind `start_error`. -/
def mdnsFailed (runtime : Runtime) (stage : String) (errno : Nat) : Int × Runtime :=
  (-1, (runtime.startError stage errno).closeAll)

/-- `airtizen_mdns_start` without a device id. -/
def mdnsStart (run : MdnsRun) (deviceName : Bytes) (runtime : Runtime) : Int × Runtime :=
  if runtime.mdns.running then (0, runtime)
  else
    let runtime := { runtime with mdns.startError := [] }
    if deviceName = [] ∨ 48 < deviceName.length then (-1, runtime)
    else
      match run.network with
      | some errno => (-1, runtime.startError "network" errno)
      | none =>
          let runtime := { runtime with mdns.name := deviceName }
          match run.socket with
          | .error errno =>
              (-1, { runtime with mdns.sock := none }.startError "udp_socket" errno)
          | .ok sock =>
              let runtime :=
                { runtime with mdns.sock := some sock, opened := sock :: runtime.opened }
              match firstFailure run.options with
              | some (stage, errno) => runtime.mdnsFailed stage errno
              | none =>
                  match run.pipe with
                  | .error errno => runtime.mdnsFailed "stop_pipe" errno
                  | .ok (readEnd, writeEnd) =>
                      let runtime := { runtime with
                        mdns.stop := some (readEnd, writeEnd)
                        opened := readEnd :: writeEnd :: runtime.opened }
                      match run.worker with
                      | some errno => runtime.mdnsFailed "worker" errno
                      | none => (0, { runtime with mdns.running := true })

def mdnsStop (runtime : Runtime) : Runtime :=
  if !runtime.mdns.running then runtime
  else { runtime.closeAll with mdns.running := false }

def setPublicKey (key : Bytes) (runtime : Runtime) : Int × Runtime :=
  if runtime.mdns.running then
    (-1, { runtime with refusals := runtime.refusals ++ [.publicKey] })
  else (0, { runtime with mdns.publicKey := key.flatMap hexByte })

def discoveryProfile (runtime : Runtime) : Bytes :=
  if runtime.mdns.uxplayTest then ascii "uxplay-test" else ascii "native"

def isProfile (profile : Bytes) : Bool :=
  profile == ascii "native" || profile == ascii "uxplay-test"

def discoverySetProfile (profile : Option Bytes) (runtime : Runtime) : Int × Runtime :=
  match profile with
  | none => (-1, runtime)
  | some profile =>
      if !isProfile profile then (-1, runtime)
      else
        let experimental := profile == ascii "uxplay-test"
        if runtime.mdns.running && experimental != runtime.mdns.uxplayTest then
          (-1, { runtime with refusals := runtime.refusals ++ [.profile] })
        else (0, { runtime with mdns.uxplayTest := experimental })

/-! ## `airtizen_core.c` -/

def fail (runtime : Runtime) (error : String) : Runtime :=
  { runtime with core.lastError := ascii error }

/-- `raop_destroy` on an instance without sessions. -/
def raopDestroy (runtime : Runtime) : Runtime :=
  { runtime with core.raop := none, instances := runtime.instances - 1 }

def coreStart (run : CoreRun) (runtime : Runtime) : Int × Runtime :=
  if runtime.core.raop.isSome then (0, runtime)
  else
    let runtime := { runtime with core := {} }
    if !run.initialized then (-1, runtime.fail "raop_init_failed")
    else
      let runtime :=
        { runtime with core.raop := some 0, instances := runtime.instances + 1 }
      let (refused, runtime) := runtime.setPublicKey run.key
      if refused ≠ 0 then
        let runtime := runtime.raopDestroy.fail "discovery_identity_failed"
        (-1, { runtime with refusals := runtime.refusals ++ [.identity] })
      else if run.raopStarted < 0 then
        (run.raopStarted, runtime.raopDestroy.fail "raop_start_failed")
      else (0, { runtime with core.running := true })

/-- `raop_stop` and `raop_destroy`, which end every session of the instance. -/
def raopStop (runtime : Runtime) : Runtime :=
  match runtime.core.raop with
  | none => runtime
  | some live => { runtime with core := Core.disconnected^[live] runtime.core }.raopDestroy

def coreStop (runtime : Runtime) : Runtime :=
  let runtime := runtime.raopStop
  { runtime with
    core := { Core.disconnected runtime.core with running := false }
    stores := runtime.stores.dismiss .video }

/-! ## `airtizen_runtime.c` -/

/-- The part of `start_locked` behind a successful `airtizen_core_start`. -/
def advertise (run : MdnsRun) (name : Bytes) (runtime : Runtime) : Int × Runtime :=
  let (result, runtime) := runtime.mdnsStart run name
  if result ≠ 0 then
    let runtime := runtime.coreStop
    let error :=
      if runtime.mdns.startError = [] then ascii "mdns_start_failed"
      else runtime.mdns.startError
    (result, { runtime with error := error.take 79 })
  else (0, { runtime with started := true })

/-- `start_locked` up to the result of `airtizen_core_start`. -/
def startCore (run : CoreRun) (name : Bytes) (runtime : Runtime) : Int × Runtime :=
  let (result, runtime) := { runtime with name := name.take 48, error := [] }.coreStart run
  if result ≠ 0 then (result, { runtime with error := ascii "raop_start_failed" })
  else (0, runtime)

def startLocked (run : StartRun) (name : Bytes) (runtime : Runtime) : Int × Runtime :=
  if runtime.started then (0, runtime)
  else
    let (result, runtime) := runtime.startCore run.core name
    if result ≠ 0 then (result, runtime) else runtime.advertise run.mdns name

def stopLocked (runtime : Runtime) : Runtime :=
  let runtime :=
    if runtime.started then
      let runtime := runtime.mdnsStop.coreStop
      { runtime with
        stores := (runtime.stores.dismiss .playback).dismiss .photo
        started := false }
    else runtime
  { runtime with error := [] }

/-- `device_name && *device_name ? device_name : "AirTizen TV"`. -/
def receiverName (deviceName : Option Bytes) : Bytes :=
  if deviceName.getD [] = [] then ascii "AirTizen TV" else deviceName.getD []

/-- The checks of `airtizen_runtime_start` on its name. -/
def validName (name : Bytes) : Bool :=
  name.length ≤ 48 && name.all fun byte => 32 ≤ byte && byte ≤ 126 && byte != 46

def start (run : StartRun) (deviceName : Option Bytes) (runtime : Runtime) : Int × Runtime :=
  if !validName (receiverName deviceName) then (-1, runtime)
  else runtime.startLocked run (receiverName deviceName)

def setDiscoveryProfile (run : StartRun) (profile : Option Bytes) (runtime : Runtime) :
    Int × Runtime :=
  match profile with
  | none => (-1, runtime)
  | some profile =>
      if !isProfile profile then (-1, runtime)
      else if profile = runtime.discoveryProfile then (0, runtime)
      else
        let wasStarted := runtime.started
        let name := runtime.name
        let runtime := runtime.stopLocked
        let (result, runtime) := runtime.discoverySetProfile (some profile)
        if result = 0 ∧ wasStarted then runtime.startLocked run name else (result, runtime)

/-- The calls that start and stop the receiver. -/
inductive Call where
  | start (run : StartRun) (deviceName : Option Bytes)
  /-- `airtizen_runtime_stop`. -/
  | stop
  | setDiscoveryProfile (run : StartRun) (profile : Option Bytes)

def step (runtime : Runtime) : Call → Runtime
  | .start run deviceName => (runtime.start run deviceName).2
  | .stop => runtime.stopLocked
  | .setDiscoveryProfile run profile => (runtime.setDiscoveryProfile run profile).2

/-- The state after the calls, from a fresh process. -/
def after (calls : List Call) : Runtime := Machine.run step {} calls

end Runtime

end AirTizen.Receiver

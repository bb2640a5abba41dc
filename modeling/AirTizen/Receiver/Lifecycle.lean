import AirTizen.Receiver.Runtime

/-!
# The three running states agree

Whatever fails on the way, every call leaves the receiver either running in all
of its parts or in none, with nothing left open.
-/

namespace AirTizen.Receiver

open CText AirTizen.Media

namespace Runtime

variable {runtime : Runtime}

/-- mDNS has neither a socket nor a pipe. -/
structure Closed (runtime : Runtime) : Prop where
  sock : runtime.mdns.sock = none
  stop : runtime.mdns.stop = none
  opened : runtime.opened = []

structure Offline (runtime : Runtime) : Prop where
  started : runtime.started = false
  raop : runtime.core.raop = none
  instances : runtime.instances = 0
  core : runtime.core.running = false
  mdns : runtime.mdns.running = false
  closed : Closed runtime

/-- Every part of the receiver runs, and nothing is open besides its socket and
its pipe. -/
structure Online (runtime : Runtime) : Prop where
  started : runtime.started = true
  raop : runtime.core.raop.isSome = true
  instances : runtime.instances = 1
  core : runtime.core.running = true
  mdns : runtime.mdns.running = true
  opened : ∃ sock readEnd writeEnd, runtime.mdns.sock = some sock ∧
    runtime.mdns.stop = some (readEnd, writeEnd) ∧
    runtime.opened = [readEnd, writeEnd, sock]
  error : runtime.error = []

structure Lifecycle (runtime : Runtime) : Prop where
  parts : Offline runtime ∨ Online runtime
  refusals : runtime.refusals = []
  named : validName runtime.name = true ∧ runtime.name ≠ []

/-! ## mDNS -/

theorem firstFailure_none_or (run : MdnsRun) :
    firstFailure run.options = none ∨
      ∃ stage errno, firstFailure run.options = some (stage, errno) := by
  cases firstFailure run.options with
  | none => exact .inl rfl
  | some failure => exact .inr ⟨failure.1, failure.2, rfl⟩

theorem startErrorText_ne_nil (stage : String) (errno : Nat) :
    startErrorText stage errno ≠ [] := by
  have first : ascii "mdns_" = 109 :: ascii "dns_" := rfl
  simp [startErrorText, first]

/-- What `airtizen_mdns_start` does to a closed mDNS: it runs with its socket and
its pipe, or it is closed again and says why. -/
inductive MdnsStarted (runtime : Runtime) (run : MdnsRun) (name : Bytes) : Int × Runtime → Prop
    where
  | running (sock readEnd writeEnd : Nat) (succeeds : run.succeeds = true) :
      MdnsStarted runtime run name (0, { runtime with
        mdns := { runtime.mdns with
          running := true, sock := some sock, stop := some (readEnd, writeEnd)
          name := name, startError := [] }
        opened := [readEnd, writeEnd, sock] })
  | failed (known error : Bytes) (told : error ≠ []) (fails : run.succeeds = false) :
      MdnsStarted runtime run name (-1, { runtime with
        mdns := { runtime.mdns with
          sock := none, stop := none, name := known, startError := error }
        opened := [] })

/-- Closing three open descriptors leaves none open, in whatever order. -/
theorem erase_all (sock readEnd writeEnd : Nat) :
    (([readEnd, writeEnd, sock].erase sock).erase readEnd).erase writeEnd = [] := by
  have rotated : [readEnd, writeEnd, sock].Perm (sock :: [readEnd, writeEnd]) :=
    @List.perm_append_comm _ [readEnd, writeEnd] [sock]
  have closed := ((rotated.erase sock).erase readEnd).erase writeEnd
  simpa using closed

theorem closeAll_sock {sock : Nat} (held : runtime.mdns.sock = some sock)
    (alone : runtime.mdns.stop = none) (opened : runtime.opened = [sock]) :
    runtime.closeAll = { runtime with
      mdns := { runtime.mdns with sock := none, stop := none }, opened := [] } := by
  simp [closeAll, close, held, alone, opened]

theorem closeAll_all {sock readEnd writeEnd : Nat} (held : runtime.mdns.sock = some sock)
    (piped : runtime.mdns.stop = some (readEnd, writeEnd))
    (opened : runtime.opened = [readEnd, writeEnd, sock]) :
    runtime.closeAll = { runtime with
      mdns := { runtime.mdns with sock := none, stop := none }, opened := [] } := by
  simp only [closeAll, close, held, piped, opened, erase_all]

theorem mdnsStart_cases (closed : Closed runtime) (idle : runtime.mdns.running = false)
    (run : MdnsRun) {name : Bytes} (nonempty : name ≠ []) (short : name.length ≤ 48) :
    MdnsStarted runtime run name (runtime.mdnsStart run name) := by
  have valid : ¬ (name = [] ∨ 48 < name.length) := by
    rintro (empty | long)
    · exact nonempty empty
    · exact absurd short (Nat.not_le.mpr long)
  obtain ⟨started, error, receiver, core, mdns, stores, opened, instances, refusals⟩ := runtime
  obtain ⟨running, sock, stop, known, key, uxplayTest, startError⟩ := mdns
  obtain ⟨rfl, rfl, rfl⟩ := closed
  cases idle
  simp only [mdnsStart, Bool.false_eq_true, if_false, if_neg valid]
  cases network : run.network with
  | some errno =>
      exact .failed known _ (startErrorText_ne_nil "network" errno)
        (by simp [MdnsRun.succeeds, network])
  | none =>
      cases socket : run.socket with
      | error errno =>
          exact .failed name _ (startErrorText_ne_nil "udp_socket" errno)
            (by simp [MdnsRun.succeeds, socket, Except.isOk, Except.toBool])
      | ok sock =>
          rcases firstFailure_none_or run with passed | ⟨stage, errno, refused⟩
          · rw [passed]
            cases pipe : run.pipe with
            | error errno =>
                simp only [mdnsFailed]
                rw [closeAll_sock rfl rfl rfl]
                exact .failed name _ (startErrorText_ne_nil "stop_pipe" errno)
                  (by simp [MdnsRun.succeeds, pipe, Except.isOk, Except.toBool])
            | ok ends =>
                obtain ⟨readEnd, writeEnd⟩ := ends
                cases worker : run.worker with
                | some errno =>
                    simp only [mdnsFailed]
                    rw [closeAll_all rfl rfl rfl]
                    exact .failed name _ (startErrorText_ne_nil "worker" errno)
                      (by simp [MdnsRun.succeeds, worker])
                | none =>
                    exact .running sock readEnd writeEnd
                      (by simp [MdnsRun.succeeds, network, socket, passed, pipe, worker,
                        Except.isOk, Except.toBool])
          · rw [refused]
            simp only [mdnsFailed]
            rw [closeAll_sock rfl rfl rfl]
            exact .failed name _ (startErrorText_ne_nil stage errno)
              (by simp [MdnsRun.succeeds, refused])

/-! ## The core -/

/-- What `airtizen_core_start` does while nothing runs: the core runs with a new
instance, or it says why not. -/
inductive CoreStarted (runtime : Runtime) (run : CoreRun) : Int × Runtime → Prop where
  | running : CoreStarted runtime run (0, { runtime with
      core := { raop := some 0, running := true }
      mdns := { runtime.mdns with publicKey := run.key.flatMap hexByte }
      instances := 1 })
  | failed (result : Int) (refused : result ≠ 0) (key error : Bytes) :
      CoreStarted runtime run (result, { runtime with
        core := { lastError := error }, mdns := { runtime.mdns with publicKey := key } })

theorem coreStart_cases (offline : Offline runtime) (run : CoreRun) :
    CoreStarted runtime run (runtime.coreStart run) := by
  obtain ⟨started, error, name, core, mdns, stores, opened, instances, refusals⟩ := runtime
  obtain ⟨running, sock, stop, known, key, uxplayTest, startError⟩ := mdns
  obtain ⟨_, absent, rfl, _, rfl, _⟩ := offline
  change core.raop = none at absent
  simp only [coreStart, absent, Option.isSome_none, Bool.false_eq_true, if_false]
  cases run.initialized with
  | false => exact .failed (-1) nofun key (ascii "raop_init_failed")
  | true =>
      simp only [setPublicKey, Bool.not_true, Bool.false_eq_true, if_false, ne_eq,
        not_true_eq_false]
      split
      next refused =>
        exact .failed run.raopStarted (by omega) (run.key.flatMap hexByte)
          (ascii "raop_start_failed")
      · exact .running

theorem disconnected_keeps (core : Core) :
    core.disconnected.raop = core.raop ∧ core.disconnected.running = core.running := by
  unfold Core.disconnected
  simp only
  split <;> exact ⟨rfl, rfl⟩

theorem coreStop_eq (held : runtime.core.raop.isSome = true) :
    ∃ core : Core, core.raop = none ∧ core.running = false ∧
      runtime.coreStop = { runtime with
        core := core
        stores := runtime.stores.dismiss .video
        instances := runtime.instances - 1 } := by
  obtain ⟨live, held⟩ := Option.isSome_iff_exists.mp held
  refine ⟨runtime.coreStop.core, ?_, ?_, ?_⟩
  · simp only [coreStop, raopStop, held, raopDestroy]
    exact (disconnected_keeps _).1
  · simp only [coreStop]
  · simp only [coreStop, raopStop, held, raopDestroy]

/-! ## The runtime -/

/-- What the calls leave alone, besides the profile that is asked for. -/
structure Keeps (before after : Runtime) : Prop where
  name : after.name = before.name
  uxplayTest : after.mdns.uxplayTest = before.mdns.uxplayTest
  refusals : after.refusals = before.refusals

structure Halfway (runtime : Runtime) : Prop where
  started : runtime.started = false
  raop : runtime.core.raop.isSome = true
  instances : runtime.instances = 1
  core : runtime.core.running = true
  mdns : runtime.mdns.running = false
  closed : Closed runtime
  error : runtime.error = []

/-- The receiver runs if the result is zero, and no part of it does otherwise. -/
def Settled (outcome : Int × Runtime) : Prop :=
  (outcome.1 = 0 ∧ Online outcome.2) ∨ (outcome.1 ≠ 0 ∧ Offline outcome.2)

theorem advertise_spec (halfway : Halfway runtime) (run : MdnsRun) {name : Bytes}
    (nonempty : name ≠ []) (short : name.length ≤ 48) :
    Settled (runtime.advertise run name) ∧ Keeps runtime (runtime.advertise run name).2 := by
  have begun := mdnsStart_cases halfway.closed halfway.mdns run nonempty short
  unfold advertise
  generalize runtime.mdnsStart run name = outcome at begun ⊢
  cases begun with
  | running sock readEnd writeEnd succeeds =>
      refine ⟨.inl ⟨rfl, ?_⟩, ⟨rfl, rfl, rfl⟩⟩
      exact
        { started := rfl
          raop := halfway.raop
          instances := halfway.instances
          core := halfway.core
          mdns := rfl
          opened := ⟨sock, readEnd, writeEnd, rfl, rfl, rfl⟩
          error := halfway.error }
  | failed known error told fails =>
      obtain ⟨core, absent, stopped, equality⟩ := @coreStop_eq
        { runtime with
          mdns := { runtime.mdns with
            sock := none, stop := none, name := known, startError := error }
          opened := [] } halfway.raop
      simp only [ne_eq, reduceCtorEq, Int.reduceNeg, not_false_eq_true, if_true,
        equality]
      refine ⟨.inr ⟨nofun, ?_⟩, ⟨rfl, rfl, rfl⟩⟩
      exact
        { started := halfway.started
          raop := absent
          instances := by
            change runtime.instances - 1 = 0
            rw [halfway.instances]
          core := stopped
          mdns := halfway.mdns
          closed := ⟨rfl, rfl, rfl⟩ }

/-- The core runs under its new name, or nothing does. -/
def CoreSettled (outcome : Int × Runtime) : Prop :=
  (outcome.1 = 0 ∧ Halfway outcome.2 ∧ outcome.2.core = { raop := some 0, running := true }) ∨
    (outcome.1 ≠ 0 ∧ Offline outcome.2 ∧ outcome.2.core.connected = false)

theorem startCore_spec (offline : Offline runtime) (run : CoreRun) {name : Bytes}
    (short : name.length ≤ 48) :
    CoreSettled (runtime.startCore run name) ∧
      (runtime.startCore run name).2.name = name ∧
      (runtime.startCore run name).2.mdns.uxplayTest = runtime.mdns.uxplayTest ∧
      (runtime.startCore run name).2.refusals = runtime.refusals ∧
      (runtime.startCore run name).2.stores = runtime.stores := by
  have fits : name.take 48 = name := List.take_of_length_le short
  have vacant : Offline { runtime with name := name.take 48, error := [] } :=
    { offline with closed := ⟨offline.closed.sock, offline.closed.stop, offline.closed.opened⟩ }
  have begun := coreStart_cases vacant run
  unfold startCore
  generalize coreStart run { runtime with name := name.take 48, error := [] } = outcome
    at begun ⊢
  cases begun with
  | running =>
      refine ⟨.inl ⟨rfl, ?_, rfl⟩, fits, rfl, rfl, rfl⟩
      exact
        { started := offline.started
          raop := rfl
          instances := rfl
          core := rfl
          mdns := offline.mdns
          closed := ⟨offline.closed.sock, offline.closed.stop, offline.closed.opened⟩
          error := rfl }
  | failed result refused key error =>
      have answer : ¬ result = 0 := refused
      simp only [ne_eq, answer, not_false_eq_true, if_true, and_true]
      refine ⟨.inr ⟨refused, ?_, rfl⟩, fits⟩
      exact
        { started := offline.started
          raop := rfl
          instances := offline.instances
          core := rfl
          mdns := offline.mdns
          closed := ⟨offline.closed.sock, offline.closed.stop, offline.closed.opened⟩ }

theorem startLocked_spec (offline : Offline runtime) (run : StartRun) {name : Bytes}
    (nonempty : name ≠ []) (short : name.length ≤ 48) :
    Settled (runtime.startLocked run name) ∧
      (runtime.startLocked run name).2.name = name ∧
      (runtime.startLocked run name).2.mdns.uxplayTest = runtime.mdns.uxplayTest ∧
      (runtime.startLocked run name).2.refusals = runtime.refusals := by
  obtain ⟨settled, named, profile, refusals, _⟩ := startCore_spec offline run.core short
  unfold startLocked
  rw [if_neg (by rw [offline.started]; decide)]
  generalize runtime.startCore run.core name = outcome at settled named profile refusals ⊢
  obtain ⟨result, runtime⟩ := outcome
  rcases settled with ⟨succeeded, halfway, _⟩ | ⟨failed, stopped, _⟩
  · simp only at succeeded
    simp only [succeeded, ne_eq, not_true_eq_false, if_false]
    obtain ⟨settled, keeps⟩ := advertise_spec halfway run.mdns nonempty short
    exact ⟨settled, keeps.name.trans named, keeps.uxplayTest.trans profile,
      keeps.refusals.trans refusals⟩
  · simp only at failed
    simp only [failed, ne_eq, not_false_eq_true, if_true]
    exact ⟨.inr ⟨failed, stopped⟩, named, profile, refusals⟩

theorem stopLocked_spec (parts : Offline runtime ∨ Online runtime) :
    Offline runtime.stopLocked ∧ Keeps runtime runtime.stopLocked := by
  unfold stopLocked
  rcases parts with offline | online
  · rw [if_neg (by rw [offline.started]; decide)]
    refine ⟨{ offline with closed := ?_ }, ⟨rfl, rfl, rfl⟩⟩
    exact ⟨offline.closed.sock, offline.closed.stop, offline.closed.opened⟩
  · obtain ⟨sock, readEnd, writeEnd, held, piped, opened⟩ := online.opened
    have stopped : runtime.mdnsStop = { runtime with
        mdns := { runtime.mdns with running := false, sock := none, stop := none }
        opened := [] } := by
      unfold mdnsStop
      rw [if_neg (by simp [online.mdns]), closeAll_all held piped opened]
    obtain ⟨core, absent, halted, equality⟩ := @coreStop_eq
      { runtime with
        mdns := { runtime.mdns with running := false, sock := none, stop := none }
        opened := [] } online.raop
    rw [if_pos online.started, stopped]
    simp only [equality]
    refine ⟨?_, ⟨rfl, rfl, rfl⟩⟩
    exact
      { started := rfl
        raop := absent
        instances := by
          change runtime.instances - 1 = 0
          rw [online.instances]
        core := halted
        mdns := rfl
        closed := ⟨rfl, rfl, rfl⟩ }

theorem validName_length {name : Bytes} (valid : validName name = true) : name.length ≤ 48 := by
  rw [validName, Bool.and_eq_true, decide_eq_true_eq] at valid
  exact valid.1

theorem receiverName_ne_nil (deviceName : Option Bytes) : receiverName deviceName ≠ [] := by
  unfold receiverName
  split
  · decide
  · assumption

theorem Lifecycle.restart (lifecycle : Lifecycle runtime) (offline : Offline runtime)
    (run : StartRun) {name : Bytes} (valid : validName name = true) (nonempty : name ≠ []) :
    Settled (runtime.startLocked run name) ∧ Lifecycle (runtime.startLocked run name).2 ∧
      (runtime.startLocked run name).2.name = name ∧
      (runtime.startLocked run name).2.mdns.uxplayTest = runtime.mdns.uxplayTest := by
  obtain ⟨settled, named, profile, refusals⟩ :=
    startLocked_spec offline run nonempty (validName_length valid)
  refine ⟨settled, ?_, named, profile⟩
  exact
    { parts := settled.elim (fun running => .inr running.2) (fun stopped => .inl stopped.2)
      refusals := refusals.trans lifecycle.refusals
      named := by
        rw [named]
        exact ⟨valid, nonempty⟩ }

theorem Lifecycle.stop (lifecycle : Lifecycle runtime) :
    Lifecycle runtime.stopLocked ∧ Offline runtime.stopLocked ∧
      Keeps runtime runtime.stopLocked := by
  obtain ⟨offline, keeps⟩ := stopLocked_spec lifecycle.parts
  refine ⟨⟨.inl offline, keeps.refusals.trans lifecycle.refusals, ?_⟩, offline, keeps⟩
  rw [keeps.name]
  exact lifecycle.named

theorem Lifecycle.start (lifecycle : Lifecycle runtime) (run : StartRun)
    (deviceName : Option Bytes) :
    Lifecycle (runtime.start run deviceName).2 ∧
      ((runtime.start run deviceName).1 ≠ 0 →
        (validName (receiverName deviceName) = false ∧
          (runtime.start run deviceName).2 = runtime) ∨
        Offline (runtime.start run deviceName).2) := by
  unfold Runtime.start
  cases valid : validName (receiverName deviceName) with
  | false => exact ⟨lifecycle, fun _ => .inl ⟨rfl, rfl⟩⟩
  | true =>
      simp only [Bool.not_true, Bool.false_eq_true, if_false]
      rcases lifecycle.parts with offline | online
      · obtain ⟨settled, next, _, _⟩ :=
          lifecycle.restart offline run valid (receiverName_ne_nil deviceName)
        refine ⟨next, fun failed => .inr ?_⟩
        exact settled.elim (fun running => absurd running.1 failed) And.right
      · unfold startLocked
        rw [if_pos online.started]
        exact ⟨lifecycle, fun failed => absurd rfl failed⟩

theorem discoveryProfile_eq {profile : Bytes} (known : isProfile profile = true)
    (selected : runtime.mdns.uxplayTest = (profile == ascii "uxplay-test")) :
    runtime.discoveryProfile = profile := by
  unfold discoveryProfile
  rw [selected]
  rw [isProfile, Bool.or_eq_true, beq_iff_eq, beq_iff_eq] at known
  rcases known with rfl | rfl
  · rfl
  · rfl

/-- A switch that succeeds keeps everything but the profile. -/
theorem Lifecycle.setDiscoveryProfile (lifecycle : Lifecycle runtime) (run : StartRun)
    (profile : Option Bytes) :
    Lifecycle (runtime.setDiscoveryProfile run profile).2 ∧
      ((runtime.setDiscoveryProfile run profile).1 = 0 →
        profile = some (runtime.setDiscoveryProfile run profile).2.discoveryProfile ∧
        (runtime.setDiscoveryProfile run profile).2.started = runtime.started ∧
        (runtime.setDiscoveryProfile run profile).2.name = runtime.name) := by
  unfold Runtime.setDiscoveryProfile
  cases profile with
  | none => exact ⟨lifecycle, nofun⟩
  | some profile =>
      simp only
      split
      · exact ⟨lifecycle, nofun⟩
      next known =>
        rw [Bool.not_eq_true, Bool.not_eq_false'] at known
        split
        next same => exact ⟨lifecycle, fun _ => ⟨congrArg some same, rfl, rfl⟩⟩
        next other =>
          obtain ⟨stopped, offline, keeps⟩ := lifecycle.stop
          have accepted : discoverySetProfile (some profile) runtime.stopLocked =
              (0, { runtime.stopLocked with
                mdns.uxplayTest := profile == ascii "uxplay-test" }) := by
            simp [discoverySetProfile, known, offline.mdns]
          have vacant : Offline { runtime.stopLocked with
              mdns.uxplayTest := profile == ascii "uxplay-test" } :=
            { offline with
              mdns := offline.mdns
              closed := ⟨offline.closed.sock, offline.closed.stop, offline.closed.opened⟩ }
          have switched : Lifecycle { runtime.stopLocked with
              mdns.uxplayTest := profile == ascii "uxplay-test" } :=
            ⟨.inl vacant, stopped.refusals, stopped.named⟩
          rw [accepted]
          simp only [true_and]
          split
          next running =>
            obtain ⟨settled, next, named, selected⟩ :=
              switched.restart vacant run lifecycle.named.1 lifecycle.named.2
            refine ⟨next, fun succeeded => ?_⟩
            have online := settled.elim And.right (fun failed => absurd succeeded failed.1)
            refine ⟨?_, online.started.trans running.symm, named⟩
            rw [discoveryProfile_eq known selected]
          next idle =>
            refine ⟨switched, fun _ => ⟨?_, ?_, keeps.name⟩⟩
            · rw [discoveryProfile_eq known rfl]
            · rw [Bool.not_eq_true] at idle
              exact offline.started.trans idle.symm

theorem Lifecycle.step (lifecycle : Lifecycle runtime) (call : Call) :
    Lifecycle (runtime.step call) := by
  cases call with
  | start run deviceName => exact (lifecycle.start run deviceName).1
  | stop => exact lifecycle.stop.1
  | setDiscoveryProfile run profile => exact (lifecycle.setDiscoveryProfile run profile).1

theorem Lifecycle.initial : Lifecycle {} where
  parts := .inl
    { started := rfl
      raop := rfl
      instances := rfl
      core := rfl
      mdns := rfl
      closed := ⟨rfl, rfl, rfl⟩ }
  refusals := rfl
  named := by decide

theorem lifecycle_after (calls : List Call) : Lifecycle (after calls) :=
  @Machine.run_invariant _ _ Runtime.step Lifecycle
    (fun _ call lifecycle => lifecycle.step call) _ Lifecycle.initial calls

/-! ## Every run -/

/-- The running states agree, and what the next call may do with them. -/
structure Agreement (runtime : Runtime) : Prop where
  raop : runtime.core.raop.isSome = runtime.started
  instances : runtime.instances = if runtime.started then 1 else 0
  core : runtime.core.running = runtime.started
  mdns : runtime.mdns.running = runtime.started
  error : runtime.error ≠ [] → runtime.started = false
  closed : runtime.started = false → Closed runtime
  refusals : runtime.refusals = []
  /-- A failed start changes nothing, because of its name, or leaves no part
  running and nothing open. -/
  failedStart : ∀ run deviceName, (runtime.start run deviceName).1 ≠ 0 →
    (validName (receiverName deviceName) = false ∧
      (runtime.start run deviceName).2 = runtime) ∨
    Offline (runtime.start run deviceName).2
  switched : ∀ run profile, (runtime.setDiscoveryProfile run profile).1 = 0 →
    profile = some (runtime.setDiscoveryProfile run profile).2.discoveryProfile ∧
    (runtime.setDiscoveryProfile run profile).2.started = runtime.started ∧
    (runtime.setDiscoveryProfile run profile).2.name = runtime.name

/-- After every sequence of calls, whatever failed in them, the running states
agree. -/
theorem lifecycle_agreement (calls : List Call) : Agreement (after calls) := by
  have lifecycle := lifecycle_after calls
  have failedStart := fun run deviceName => (lifecycle.start run deviceName).2
  have switched := fun run profile => (lifecycle.setDiscoveryProfile run profile).2
  rcases lifecycle.parts with offline | online
  · exact
      { raop := by
          rw [offline.raop, offline.started]
          rfl
        instances := by
          rw [offline.instances, offline.started]
          rfl
        core := offline.core.trans offline.started.symm
        mdns := offline.mdns.trans offline.started.symm
        error := fun _ => offline.started
        closed := fun _ => offline.closed
        refusals := lifecycle.refusals
        failedStart := failedStart
        switched := switched }
  · exact
      { raop := online.raop.trans online.started.symm
        instances := by
          rw [online.instances, online.started]
          rfl
        core := online.core.trans online.started.symm
        mdns := online.mdns.trans online.started.symm
        error := fun failed => absurd online.error failed
        closed := fun stopped => nomatch stopped.symm.trans online.started
        refusals := lifecycle.refusals
        failedStart := failedStart
        switched := switched }

def smoothStart : StartRun where
  mdns := { socket := .ok 3, pipe := .ok (4, 5) }

def startedRuntime : Runtime := after [.start smoothStart (some (ascii "TV"))]

/-- The second start fails because of the dot, and the first one goes on. -/
theorem refused_start_leaves_open :
    (startedRuntime.start smoothStart (some (ascii "Living.Room"))).1 = -1 ∧
      ¬ Closed (startedRuntime.start smoothStart (some (ascii "Living.Room"))).2 ∧
      (startedRuntime.start smoothStart (some (ascii "Living.Room"))).2.instances = 1 := by
  refine ⟨by decide +kernel, fun closed => ?_, by decide +kernel⟩
  exact absurd closed.opened (by decide +kernel)

end Runtime

end AirTizen.Receiver

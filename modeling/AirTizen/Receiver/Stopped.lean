import AirTizen.Receiver.Lifecycle

/-!
# A receiver that is not running presents nothing

Clients are served from the moment the RAOP listener exists, which is before
mDNS is started and before the receiver counts as running.  A normal stop clears
every store; a start that fails behind the listener clears only the video.
-/

namespace AirTizen.Receiver

open CText AirTizen.Media Machine

structure Process where
  runtime : Runtime := {}
  /-- A call holds the runtime lock: the core runs, and mDNS is to be started
  under the name. -/
  starting : Option Bytes := none

inductive ClientCall where
  | photo (call : PhotoCall)
  | playback (call : PlaybackCall)
  | video (call : Video.Call)
  /-- `cb_connected` and `cb_disconnected`, for a session of the library. -/
  | connected
  | disconnected
  /-- Sound or video arrives. -/
  | received

inductive ProcessEvent where
  /-- `airtizen_runtime_start` up to the result of `airtizen_core_start`. -/
  | start (core : CoreRun) (deviceName : Option Bytes)
  /-- The rest of the call that holds the lock. -/
  | advertise (mdns : MdnsRun)
  /-- `airtizen_runtime_stop`. -/
  | stop
  /-- `airtizen_runtime_set_discovery_profile`, up to the same point. -/
  | setDiscoveryProfile (core : CoreRun) (profile : Option Bytes)
  | client (call : ClientCall)

/-- A call of a client of the RAOP instance with `live` sessions. -/
def Runtime.serve (runtime : Runtime) (live : Nat) : ClientCall → Runtime
  | .photo call => { runtime with stores.photo := call.step runtime.stores.photo }
  | .playback call => { runtime with stores.playback := call.step runtime.stores.playback }
  | .video call => { runtime with stores.video := Video.step runtime.stores.video call }
  | .connected =>
      { runtime with core := { runtime.core with
        raop := some (live + 1)
        sessions := runtime.core.sessions + 1
        connected := true } }
  | .disconnected =>
      -- the library ends each session once
      if live = 0 then runtime
      else { runtime with core := { runtime.core.disconnected with raop := some (live - 1) } }
  | .received => { runtime with core := { runtime.core with connected := true } }

namespace Process

/-- `start_locked` up to the result of `airtizen_core_start`. -/
def startLocked (process : Process) (core : CoreRun) (name : Bytes) : Process :=
  if process.runtime.started then process
  else
    let (result, runtime) := process.runtime.startCore core name
    { runtime := runtime, starting := if result = 0 then some name else none }

def start (process : Process) (core : CoreRun) (deviceName : Option Bytes) : Process :=
  if !Runtime.validName (Runtime.receiverName deviceName) then process
  else process.startLocked core (Runtime.receiverName deviceName)

def setDiscoveryProfile (process : Process) (core : CoreRun) (profile : Option Bytes) :
    Process :=
  match profile with
  | none => process
  | some profile =>
      if !Runtime.isProfile profile then process
      else if profile = process.runtime.discoveryProfile then process
      else
        let wasStarted := process.runtime.started
        let name := process.runtime.name
        let (result, runtime) := process.runtime.stopLocked.discoverySetProfile (some profile)
        let process := { process with runtime := runtime }
        if result = 0 ∧ wasStarted then process.startLocked core name else process

/-- One step; a call of the runtime waits for the lock, and clients are served
while a RAOP instance exists. -/
def step (process : Process) : ProcessEvent → Process
  | .start core deviceName =>
      if process.starting.isSome then process else process.start core deviceName
  | .advertise mdns =>
      match process.starting with
      | none => process
      | some name =>
          { runtime := (process.runtime.advertise mdns name).2, starting := none }
  | .stop =>
      if process.starting.isSome then process
      else { process with runtime := process.runtime.stopLocked }
  | .setDiscoveryProfile core profile =>
      if process.starting.isSome then process else process.setDiscoveryProfile core profile
  | .client call =>
      match process.runtime.core.raop with
      | none => process
      | some live => { process with runtime := process.runtime.serve live call }

/-- The state after the events, from a fresh process. -/
def after (events : List ProcessEvent) : Process := run step {} events

end Process

/-- No photo is shown, no URL played, no video available and no client connected. -/
structure Runtime.Dark (runtime : Runtime) : Prop where
  photo : runtime.stores.photo.state.active = false
  playback : runtime.stores.playback.active = false
  video : runtime.stores.video.state.available = false
  connected : runtime.core.connected = false

instance (runtime : Runtime) : Decidable runtime.Dark :=
  decidable_of_iff
    (runtime.stores.photo.state.active = false ∧ runtime.stores.playback.active = false ∧
      runtime.stores.video.state.available = false ∧ runtime.core.connected = false)
    ⟨fun ⟨photo, playback, video, connected⟩ => ⟨photo, playback, video, connected⟩,
      fun dark => ⟨dark.photo, dark.playback, dark.video, dark.connected⟩⟩

namespace Process

/-- A receiver that is not running presents nothing while the lock is free. -/
def Quiet (process : Process) : Prop :=
  process.starting = none → process.runtime.started = false → process.runtime.Dark

instance (process : Process) : Decidable process.Quiet := inferInstanceAs (Decidable (_ → _ → _))

/-- When mDNS fails to start, clients show no photo and play no URL. -/
def Unpresented (process : Process) : ProcessEvent → Prop
  | .advertise mdns => process.starting ≠ none → mdns.succeeds = false →
      process.runtime.stores.photo.state.active = false ∧
        process.runtime.stores.playback.active = false
  | .start _ _ | .stop | .setDiscoveryProfile _ _ | .client _ => True

instance (process : Process) : (event : ProcessEvent) → Decidable (process.Unpresented event)
  | .advertise _ => inferInstanceAs (Decidable (_ → _ → _))
  | .start _ _ => inferInstanceAs (Decidable True)
  | .stop => inferInstanceAs (Decidable True)
  | .setDiscoveryProfile _ _ => inferInstanceAs (Decidable True)
  | .client _ => inferInstanceAs (Decidable True)

/-! ## Calls without clients in between -/

variable {process : Process}

theorem advertise_free (free : process.starting = none) (mdns : MdnsRun) :
    process.step (.advertise mdns) = process := by
  simp only [step, free]

theorem startLocked_advertise (free : process.starting = none) (run : StartRun) (name : Bytes) :
    ((process.startLocked run.core name).step (.advertise run.mdns)).runtime =
      (process.runtime.startLocked run name).2 := by
  unfold startLocked Runtime.startLocked
  split
  · rw [advertise_free free]
  · generalize process.runtime.startCore run.core name = outcome
    obtain ⟨result, runtime⟩ := outcome
    by_cases succeeded : result = 0
    · simp only [step, succeeded, if_true, ne_eq, not_true_eq_false, if_false]
    · simp only [step, succeeded, if_false, ne_eq, not_false_eq_true, if_true]

theorem start_advertise (free : process.starting = none) (run : StartRun)
    (deviceName : Option Bytes) :
    ((process.step (.start run.core deviceName)).step (.advertise run.mdns)).runtime =
      (process.runtime.start run deviceName).2 := by
  have begun : process.step (.start run.core deviceName) = process.start run.core deviceName :=
    if_neg (by simp [free])
  rw [begun, start, Runtime.start]
  split
  · rw [advertise_free free]
  · exact startLocked_advertise free run _

theorem setDiscoveryProfile_advertise (free : process.starting = none) (run : StartRun)
    (profile : Option Bytes) :
    ((process.step (.setDiscoveryProfile run.core profile)).step
        (.advertise run.mdns)).runtime =
      (process.runtime.setDiscoveryProfile run profile).2 := by
  have begun : process.step (.setDiscoveryProfile run.core profile) =
      process.setDiscoveryProfile run.core profile := if_neg (by simp [free])
  rw [begun]
  unfold setDiscoveryProfile Runtime.setDiscoveryProfile
  cases profile with
  | none => simp only [advertise_free free]
  | some profile =>
      simp only
      split
      · rw [advertise_free free]
      · split
        · rw [advertise_free free]
        · generalize process.runtime.stopLocked.discoverySetProfile (some profile) = outcome
          obtain ⟨result, runtime⟩ := outcome
          simp only
          split
          · exact @startLocked_advertise { process with runtime := runtime } free run _
          · rw [@advertise_free { process with runtime := runtime } free]

/-! ## What the calls do to the stores -/

theorem disconnected_sessions (core : Core) (ended : Nat) :
    (Core.disconnected^[ended] core).sessions = core.sessions - ended := by
  induction ended generalizing core with
  | zero => rfl
  | succ ended inductionHypothesis =>
      rw [Function.iterate_succ_apply, inductionHypothesis]
      have one : core.disconnected.sessions = core.sessions - 1 := by
        unfold Core.disconnected
        simp only
        split <;> rfl
      omega

/-- Stopping a core whose counter agrees with the library disconnects everyone
and clears the video; the other stores stay as they are. -/
theorem coreStop_dark {runtime : Runtime} {live : Nat} (held : runtime.core.raop = some live)
    (counted : runtime.core.sessions = live) :
    runtime.coreStop.core.connected = false ∧
      runtime.coreStop.stores = runtime.stores.dismiss .video := by
  have rest := disconnected_sessions runtime.core live
  rw [counted, Nat.sub_self] at rest
  simp only [Runtime.coreStop, Runtime.raopStop, held, Runtime.raopDestroy, and_true]
  unfold Core.disconnected at rest ⊢
  simp only [rest, Nat.zero_sub, if_true]

/-- Behind a failed start of mDNS nobody is connected, and photo and playback
are what they were. -/
theorem advertise_stores {runtime : Runtime} (halfway : Runtime.Halfway runtime) {live : Nat}
    (held : runtime.core.raop = some live) (counted : runtime.core.sessions = live)
    (run : MdnsRun) {name : Bytes} (nonempty : name ≠ []) (short : name.length ≤ 48) :
    (run.succeeds = true ∧ (runtime.advertise run name).2.core = runtime.core) ∨
    (run.succeeds = false ∧ (runtime.advertise run name).2.started = false ∧
      (runtime.advertise run name).2.core.raop = none ∧
      (runtime.advertise run name).2.core.connected = false ∧
      (runtime.advertise run name).2.stores = runtime.stores.dismiss .video) := by
  have begun := Runtime.mdnsStart_cases halfway.closed halfway.mdns run nonempty short
  unfold Runtime.advertise
  generalize runtime.mdnsStart run name = outcome at begun ⊢
  cases begun with
  | running sock readEnd writeEnd succeeds => exact .inl ⟨succeeds, rfl⟩
  | failed known error told fails =>
      right
      obtain ⟨connected, stores⟩ := @coreStop_dark
        { runtime with
          mdns := { runtime.mdns with
            sock := none, stop := none, name := known, startError := error }
          opened := [] } live held counted
      obtain ⟨core, absent, _, equality⟩ := @Runtime.coreStop_eq
        { runtime with
          mdns := { runtime.mdns with
            sock := none, stop := none, name := known, startError := error }
          opened := [] } halfway.raop
      rw [equality] at connected
      simp only [ne_eq, reduceCtorEq, Int.reduceNeg, not_false_eq_true, if_true, equality]
      exact ⟨fails, halfway.started, absent, connected, trivial⟩

/-! ## What holds between and during the calls -/

/-- The lock is free, or the core runs and mDNS is next. -/
structure Served (process : Process) : Prop where
  free : process.starting = none → process.runtime.Offline ∨ process.runtime.Online
  held : ∀ name ∈ process.starting, Runtime.validName name = true ∧ name ≠ [] ∧
    process.runtime.Halfway
  named : Runtime.validName process.runtime.name = true ∧ process.runtime.name ≠ []
  counted : ∀ live ∈ process.runtime.core.raop, process.runtime.core.sessions = live
  dark : process.runtime.core.raop = none → process.runtime.Dark

theorem Served.initial : Served {} where
  free _ := Runtime.Lifecycle.initial.parts
  held := nofun
  named := by decide
  counted := nofun
  dark _ := by decide

theorem Served.quiet (served : Served process) : process.Quiet := by
  intro free idle
  rcases served.free free with offline | online
  · exact served.dark offline.raop
  · exact nomatch idle.symm.trans online.started

theorem Served.startLocked (served : Served process) (free : process.starting = none)
    (core : CoreRun) {name : Bytes} (valid : Runtime.validName name = true)
    (nonempty : name ≠ []) : Served (process.startLocked core name) := by
  unfold Process.startLocked
  split
  · exact served
  next idle =>
    rw [Bool.not_eq_true] at idle
    have offline : process.runtime.Offline :=
      (served.free free).resolve_right fun online => nomatch idle.symm.trans online.started
    have dark := served.dark offline.raop
    obtain ⟨settled, named, _, _, stores⟩ :=
      Runtime.startCore_spec offline core (Runtime.validName_length valid)
    generalize process.runtime.startCore core name = outcome at settled named stores ⊢
    obtain ⟨result, runtime⟩ := outcome
    simp only at named stores
    rcases settled with ⟨succeeded, halfway, fresh⟩ | ⟨failed, stopped, silent⟩
    · simp only at succeeded fresh halfway
      simp only [succeeded, if_true]
      exact
        { free := nofun
          held := by
            rintro _ ⟨⟩
            exact ⟨valid, nonempty, halfway⟩
          named := by
            rw [named]
            exact ⟨valid, nonempty⟩
          counted := by
            rw [fresh]
            rintro _ ⟨⟩
            rfl
          dark := fun absent => by
            rw [fresh] at absent
            cases absent }
    · simp only at failed silent stopped
      simp only [failed, if_false]
      exact
        { free := fun _ => .inl stopped
          held := nofun
          named := by
            rw [named]
            exact ⟨valid, nonempty⟩
          counted := by
            rw [stopped.raop]
            nofun
          dark := fun _ => by
            constructor
            · rw [stores]
              exact dark.photo
            · rw [stores]
              exact dark.playback
            · rw [stores]
              exact dark.video
            · exact silent }

/-- A stop leaves everything dark. -/
theorem Served.stopLocked (served : Served process) (free : process.starting = none) :
    process.runtime.stopLocked.Offline ∧ process.runtime.stopLocked.Dark ∧
      Runtime.Keeps process.runtime process.runtime.stopLocked := by
  obtain ⟨offline, keeps⟩ := Runtime.stopLocked_spec (served.free free)
  refine ⟨offline, ?_, keeps⟩
  unfold Runtime.stopLocked
  rcases served.free free with idle | online
  · rw [if_neg (by rw [idle.started]; decide)]
    have dark := served.dark idle.raop
    exact ⟨dark.photo, dark.playback, dark.video, dark.connected⟩
  · rw [if_pos online.started]
    obtain ⟨live, held⟩ := Option.isSome_iff_exists.mp online.raop
    have kept : process.runtime.mdnsStop.core = process.runtime.core := by
      unfold Runtime.mdnsStop Runtime.closeAll Runtime.close
      split
      · rfl
      · cases process.runtime.mdns.sock <;> cases process.runtime.mdns.stop <;> rfl
    obtain ⟨connected, stores⟩ := coreStop_dark (kept ▸ held) (kept ▸ served.counted live held)
    constructor
    · rfl
    · rfl
    · simp only [stores]
      rfl
    · exact connected

theorem Served.setDiscoveryProfile (served : Served process) (free : process.starting = none)
    (core : CoreRun) (profile : Option Bytes) :
    Served (process.setDiscoveryProfile core profile) := by
  unfold Process.setDiscoveryProfile
  cases profile with
  | none => exact served
  | some profile =>
      simp only
      split
      · exact served
      next known =>
        rw [Bool.not_eq_true, Bool.not_eq_false'] at known
        split
        · exact served
        · obtain ⟨offline, dark, keeps⟩ := served.stopLocked free
          have accepted : process.runtime.stopLocked.discoverySetProfile (some profile) =
              (0, { process.runtime.stopLocked with
                mdns.uxplayTest := profile == ascii "uxplay-test" }) := by
            simp [Runtime.discoverySetProfile, known, offline.mdns]
          have switched : Served { process with
              runtime := { process.runtime.stopLocked with
                mdns.uxplayTest := profile == ascii "uxplay-test" } } :=
            { free := fun _ => .inl
                { offline with
                  mdns := offline.mdns
                  closed :=
                    ⟨offline.closed.sock, offline.closed.stop, offline.closed.opened⟩ }
              held := by
                rw [free]
                intro name starting
                cases starting
              named := by
                rw [keeps.name]
                exact served.named
              counted := by
                rw [offline.raop]
                intro live held
                cases held
              dark := fun _ => ⟨dark.photo, dark.playback, dark.video, dark.connected⟩ }
          rw [accepted]
          simp only
          split
          · exact switched.startLocked free core served.named.1 served.named.2
          · exact switched

theorem serve_eq {runtime : Runtime} {live : Nat} (held : runtime.core.raop = some live)
    (counted : runtime.core.sessions = live) (call : ClientCall) :
    ∃ core stores, runtime.serve live call = { runtime with core := core, stores := stores } ∧
      core.running = runtime.core.running ∧ core.raop = some core.sessions := by
  cases call with
  | photo | playback | video | received =>
      exact ⟨_, _, rfl, rfl, by rw [counted]; exact held⟩
  | connected => exact ⟨_, _, rfl, rfl, by rw [counted]⟩
  | disconnected =>
      simp only [Runtime.serve]
      split
      · exact ⟨_, _, rfl, rfl, by rw [counted]; exact held⟩
      · refine ⟨_, _, rfl, (Runtime.disconnected_keeps _).2, ?_⟩
        have ended := disconnected_sessions runtime.core 1
        rw [Function.iterate_one] at ended
        rw [ended, counted]

theorem Served.client (served : Served process) (call : ClientCall) :
    Served (process.step (.client call)) := by
  simp only [step]
  cases held : process.runtime.core.raop with
  | none => exact served
  | some live =>
      obtain ⟨core, stores, served', running, raop⟩ :=
        serve_eq held (served.counted live held) call
      have present : core.raop.isSome = true := by rw [raop]; rfl
      simp only [served']
      exact
        { free := fun free => by
            rcases served.free free with offline | online
            · exact nomatch held.symm.trans offline.raop
            · right
              exact { online with raop := present, core := running.trans online.core }
          held := fun name starting => by
            obtain ⟨valid, nonempty, halfway⟩ := served.held name starting
            have closed := halfway.closed
            exact ⟨valid, nonempty,
              { halfway with
                raop := present
                core := running.trans halfway.core
                closed := ⟨closed.sock, closed.stop, closed.opened⟩ }⟩
          named := served.named
          counted := by
            rw [raop]
            rintro _ ⟨⟩
            rfl
          dark := fun absent => nomatch raop.symm.trans absent }

/-- The end of a start, unless clients present something while mDNS fails. -/
theorem Served.advertise (served : Served process) {mdns : MdnsRun}
    (unpresented : process.Unpresented (.advertise mdns)) :
    Served (process.step (.advertise mdns)) := by
  simp only [step]
  cases starting : process.starting with
  | none => exact served
  | some name =>
      obtain ⟨valid, nonempty, halfway⟩ := served.held name starting
      have short := Runtime.validName_length valid
      obtain ⟨live, held⟩ := Option.isSome_iff_exists.mp halfway.raop
      have counted := served.counted live held
      obtain ⟨settled, keeps⟩ := Runtime.advertise_spec halfway mdns nonempty short
      have parts : (process.runtime.advertise mdns name).2.Offline ∨
          (process.runtime.advertise mdns name).2.Online :=
        settled.elim (fun running => .inr running.2) (fun stopped => .inl stopped.2)
      have named := served.named
      rw [← keeps.name] at named
      rcases advertise_stores halfway held counted mdns nonempty short with
        ⟨_, core⟩ | ⟨fails, _, absent, connected, stores⟩
      · exact
          { free := fun _ => parts
            held := fun _ held => by cases held
            named := named
            counted := by
              rw [core]
              exact served.counted
            dark := fun absent => by
              change (process.runtime.advertise mdns name).2.core.raop = none at absent
              rw [core, held] at absent
              cases absent }
      · obtain ⟨photo, playback⟩ := unpresented (by rw [starting]; exact Option.some_ne_none name) fails
        exact
          { free := fun _ => parts
            held := fun _ held => by cases held
            named := named
            counted := by
              rw [absent]
              intro _ raised
              cases raised
            dark := fun _ => by
              constructor
              · rw [stores]
                exact photo
              · rw [stores]
                exact playback
              · rw [stores]
                rfl
              · exact connected }

theorem Served.step (served : Served process) {event : ProcessEvent}
    (unpresented : process.Unpresented event) : Served (process.step event) := by
  cases event with
  | start core deviceName =>
      simp only [Process.step]
      split
      · exact served
      next free =>
        rw [Option.not_isSome_iff_eq_none] at free
        unfold Process.start
        split
        · exact served
        next valid =>
          rw [Bool.not_eq_true, Bool.not_eq_false'] at valid
          exact served.startLocked free core valid (Runtime.receiverName_ne_nil deviceName)
  | advertise mdns => exact served.advertise unpresented
  | stop =>
      simp only [Process.step]
      split
      · exact served
      next free =>
        rw [Option.not_isSome_iff_eq_none] at free
        obtain ⟨offline, dark, keeps⟩ := served.stopLocked free
        exact
          { free := fun _ => .inl offline
            held := by
              rw [free]
              nofun
            named := by
              rw [keeps.name]
              exact served.named
            counted := by
              rw [offline.raop]
              nofun
            dark := fun _ => dark }
  | setDiscoveryProfile core profile =>
      simp only [Process.step]
      split
      · exact served
      next free =>
        rw [Option.not_isSome_iff_eq_none] at free
        exact served.setDiscoveryProfile free core profile
  | client call => exact served.client call

/-- A start that fails while clients present something leaves it presented. -/
theorem Served.presented (served : Served process) {event : ProcessEvent}
    (presented : ¬ process.Unpresented event) : ¬ (process.step event).Quiet := by
  cases event with
  | start | stop | setDiscoveryProfile | client => exact absurd trivial presented
  | advertise mdns =>
      intro quiet
      apply presented
      intro waiting fails
      simp only [Process.step, Quiet] at quiet
      cases starting : process.starting with
      | none => exact absurd starting waiting
      | some name =>
          obtain ⟨valid, nonempty, halfway⟩ := served.held name starting
          obtain ⟨live, held⟩ := Option.isSome_iff_exists.mp halfway.raop
          rcases advertise_stores halfway held (served.counted live held) mdns nonempty
            (Runtime.validName_length valid) with ⟨succeeds, _⟩ | ⟨_, idle, _, _, stores⟩
          · rw [fails] at succeeds
            cases succeeds
          · rw [starting] at quiet
            have dark := quiet rfl idle
            have photo := dark.photo
            have playback := dark.playback
            rw [stores] at photo playback
            exact ⟨photo, playback⟩

/-! ## Every run -/

/-- In every run, a receiver that is not running presents nothing exactly if
mDNS never fails to start while a photo is shown or a URL is played. -/
theorem stopped_presents_nothing_iff (events : List ProcessEvent) :
    Throughout step Quiet {} events ↔ Guarded step Unpresented {} events :=
  @throughout_iff_guarded _ _ step Unpresented Quiet Served (fun _ served => served.quiet)
    (fun _ _ served unpresented => served.step unpresented)
    (fun _ _ served presented => served.presented presented) _ Served.initial events

/-- A client plays a URL as soon as the listener exists, and then no socket can
be had for mDNS. -/
def failedStart : List ProcessEvent :=
  [.start {} none, .client .connected,
    .client (.playback (.play (some (ascii "http://host/a.mp4")) (.finite 0))),
    .client (.photo .reset),
    .advertise { socket := .error 24, pipe := .ok (4, 5) }]

/-- The URL is still played after the start has failed. -/
theorem failed_start_plays_on : ¬ ∀ events, (after events).Quiet := by
  intro quiet
  have dark := quiet failedStart (by decide +kernel) (by decide +kernel)
  exact absurd dark.playback (by decide +kernel)

end Process

end AirTizen.Receiver

import AirTizen.Receiver.Media

/-!
# The medium that was activated last

The HTTP thread and the mirror thread each activate a medium and then dismiss
the others, one call at a time.  A photo never stays on screen beside another
medium, but dismissals that come late can hit a medium that the other thread
has activated in the meantime.
-/

namespace AirTizen.Receiver

open CText Binary64 AirTizen.Media Machine

inductive HttpStage where
  | idle
  /-- A photo is shown: `airtizen_playback_stop`, then `airtizen_video_reset`. -/
  | displayed
  | displacing
  /-- A URL is played: `airtizen_photo_reset`. -/
  | played
  /-- `/stop` has stopped the playback: `airtizen_photo_reset`. -/
  | stopping
  deriving DecidableEq

inductive MirrorStage where
  | idle
  /-- A stream is configured: `airtizen_photo_reset`, then `airtizen_playback_stop`. -/
  | configured
  | displacing
  deriving DecidableEq

structure Threads where
  stores : Stores := {}
  http : HttpStage := .idle
  mirror : MirrorStage := .idle
  /-- The last medium that was activated and not stopped completely since.
  No thread reads it. -/
  activated : Option Medium := none
  /-- A `/stop` has begun since that activation. -/
  stopped : Bool := false

inductive Event where
  /-- `PUT /photo`. -/
  | put (request : PhotoRequest)
  /-- `POST /play`. -/
  | play (location : Option Bytes) (fraction : Double)
  /-- `POST /stop`. -/
  | stop
  /-- The HTTP thread makes its next call. -/
  | http
  /-- A configuration packet. -/
  | configure (allocated : Bool) (data : Bytes)
  /-- The mirror thread makes its next call. -/
  | mirror

namespace Threads

def activate (threads : Threads) (medium : Medium) : Threads :=
  { threads with activated := some medium, stopped := false }

def dismiss (threads : Threads) (medium : Medium) : Threads :=
  { threads with stores := threads.stores.dismiss medium }

/-- `PUT /photo` in `airtizen_airplay_http`, up to its first call. -/
def put (threads : Threads) (request : PhotoRequest) : Threads :=
  let (status, photo) := threads.stores.photo.put request
  let threads := { threads with stores.photo := photo }
  if status = 200 ∧ request.caching = false then
    { threads.activate .photo with http := .displayed }
  else threads

/-- `POST /play`, up to its first call. -/
def play (threads : Threads) (location : Option Bytes) (fraction : Double) : Threads :=
  let (result, playback) := Media.play location fraction threads.stores.playback
  let threads := { threads with stores.playback := playback }
  if result = 0 then { threads.activate .playback with http := .played } else threads

def nextHttp (threads : Threads) : Threads :=
  match threads.http with
  | .idle => threads
  | .displayed => { threads.dismiss .playback with http := .displacing }
  | .displacing => { threads.dismiss .video with http := .idle }
  | .played => { threads.dismiss .photo with http := .idle }
  | .stopping =>
      let threads := { threads.dismiss .photo with http := .idle }
      if threads.stopped then { threads with activated := none, stopped := false } else threads

/-- `cb_video_process` with a configuration, up to its first call. -/
def configure (threads : Threads) (allocated : Bool) (data : Bytes) : Threads :=
  let (result, video) := Video.configure allocated data threads.stores.video
  let threads := { threads with stores.video := video }
  if result = 0 then { threads.activate .video with mirror := .configured } else threads

def nextMirror (threads : Threads) : Threads :=
  match threads.mirror with
  | .idle => threads
  | .configured => { threads.dismiss .photo with mirror := .displacing }
  | .displacing => { threads.dismiss .playback with mirror := .idle }

/-- One call of one thread.  A thread takes its next request when it is idle. -/
def step (threads : Threads) : Event → Threads
  | .put request => if threads.http = .idle then threads.put request else threads
  | .play location fraction =>
      if threads.http = .idle then threads.play location fraction else threads
  | .stop =>
      if threads.http = .idle then
        { threads.dismiss .playback with http := .stopping, stopped := true }
      else threads
  | .http => threads.nextHttp
  | .configure allocated data =>
      if threads.mirror = .idle then threads.configure allocated data else threads
  | .mirror => threads.nextMirror

/-- The threads after the events, from a fresh process. -/
def after (events : List Event) : Threads := run step {} events

def Idle (threads : Threads) : Prop := threads.http = .idle ∧ threads.mirror = .idle

instance (threads : Threads) : Decidable threads.Idle := inferInstanceAs (Decidable (_ ∧ _))

def Wins (threads : Threads) : Prop :=
  ∀ medium ∈ threads.activated, threads.stores.active medium = true

/-- No photo is shown beside a played URL or a configured stream. -/
def Exclusive (threads : Threads) : Prop :=
  threads.stores.active .photo = true →
    threads.stores.active .playback = false ∧ threads.stores.active .video = false

/-! ## What the first call of a request does -/

variable (threads : Threads)

theorem put_cases (request : PhotoRequest) :
    (∃ photo, photo.state = threads.stores.photo.state ∧
      threads.put request = { threads with stores.photo := photo }) ∨
    (∃ photo, photo.state.active = true ∧
      threads.put request =
        { threads with
          stores.photo := photo
          http := .displayed, activated := some .photo, stopped := false }) := by
  simp only [put]
  rcases put_state threads.stores.photo request with ⟨shown, active⟩ | ⟨hidden, same⟩
  · right
    exact ⟨_, active, if_pos shown⟩
  · left
    exact ⟨_, same, if_neg hidden⟩

theorem play_cases (location : Option Bytes) (fraction : Double) :
    threads.play location fraction = threads ∨
    (∃ playback, playback.active = true ∧
      threads.play location fraction =
        { threads with
          stores.playback := playback
          http := .played, activated := some .playback, stopped := false }) := by
  simp only [play]
  rcases Media.play_cases location fraction threads.stores.playback with
    ⟨refused, same⟩ | ⟨accepted, url, _, _, next⟩
  · left
    rw [refused, same]
    rfl
  · right
    rw [accepted, next]
    exact ⟨_, rfl, rfl⟩

theorem configure_cases (allocated : Bool) (data : Bytes) :
    threads.configure allocated data = threads ∨
    (acceptable data ∧ allocated = false ∧ ∃ video, video.config = none ∧
      threads.configure allocated data = { threads with stores.video := video }) ∨
    (∃ video, video.config = some data ∧
      threads.configure allocated data =
        { threads with
          stores.video := video
          mirror := .configured, activated := some .video, stopped := false }) := by
  simp only [configure]
  rcases configure_config allocated data threads.stores.video with
    ⟨_, refused⟩ | ⟨accepted, exhausted, failed, cleared⟩ | ⟨_, _, succeeded, held⟩
  · left
    rw [refused]
    rfl
  · right; left
    rw [failed]
    exact ⟨accepted, exhausted, _, cleared, rfl⟩
  · right; right
    rw [succeeded]
    exact ⟨_, held, rfl⟩

/-! ## No photo beside another medium -/

/-- Beside a photo another medium is active only until the thread that has
activated one of the two makes its next calls. -/
structure Displacing (threads : Threads) : Prop where
  playback : threads.stores.active .photo = true → threads.stores.active .playback = true →
    threads.http = .displayed ∨ threads.http = .played
  video : threads.stores.active .photo = true → threads.stores.active .video = true →
    threads.http = .displayed ∨ threads.http = .displacing ∨ threads.mirror = .configured

variable {threads}

/-- Only what is active matters: less of it keeps the invariant. -/
theorem Displacing.anti (displacing : Displacing threads) {next : Threads}
    (less : ∀ medium, next.stores.active medium = true → threads.stores.active medium = true)
    (http : next.http = threads.http) (mirror : next.mirror = threads.mirror) :
    Displacing next where
  playback photo playback := by
    rw [http]
    exact displacing.playback (less _ photo) (less _ playback)
  video photo video := by
    rw [http, mirror]
    exact displacing.video (less _ photo) (less _ video)

theorem Displacing.dismissed {next : Threads}
    (dismissed : next.stores = threads.stores.dismiss .photo) : Displacing next := by
  have hidden : next.stores.active .photo ≠ true := by
    rw [dismissed]
    exact fun photo => (active_of_dismiss threads.stores .photo photo).1 rfl
  exact ⟨fun photo _ => absurd photo hidden, fun photo _ => absurd photo hidden⟩

theorem Displacing.nextHttp (displacing : Displacing threads) : Displacing threads.nextHttp := by
  unfold Threads.nextHttp
  cases stage : threads.http with
  | idle => exact displacing
  | displayed =>
      constructor
      · intro _ playback
        exact absurd rfl (active_of_dismiss threads.stores .playback playback).1
      · exact fun _ _ => .inr (.inl rfl)
  | displacing =>
      constructor
      · intro photo playback
        have before := displacing.playback (active_of_dismiss threads.stores .video photo).2
          (active_of_dismiss threads.stores .video playback).2
        rw [stage] at before
        exact before.elim nofun nofun
      · intro _ video
        exact absurd rfl (active_of_dismiss threads.stores .video video).1
  | played => exact .dismissed rfl
  | stopping =>
      simp only
      split
      · exact .dismissed rfl
      · exact .dismissed rfl

theorem Displacing.nextMirror (displacing : Displacing threads) :
    Displacing threads.nextMirror := by
  unfold Threads.nextMirror
  cases stage : threads.mirror with
  | idle => exact displacing
  | configured => exact .dismissed rfl
  | displacing =>
      constructor
      · intro _ playback
        exact absurd rfl (active_of_dismiss threads.stores .playback playback).1
      · intro photo video
        have before := displacing.video (active_of_dismiss threads.stores .playback photo).2
          (active_of_dismiss threads.stores .playback video).2
        rw [stage] at before
        rcases before with shown | shown | waiting
        · exact .inl shown
        · exact .inr (.inl shown)
        · cases waiting

theorem Displacing.step (displacing : Displacing threads) (event : Event) :
    Displacing (threads.step event) := by
  cases event with
  | put request =>
      simp only [Threads.step]
      split
      next idle =>
        rcases threads.put_cases request with ⟨photo, same, next⟩ | ⟨photo, _, next⟩
        · rw [next]
          refine displacing.anti (fun medium active => ?_) rfl rfl
          cases medium with
          | photo => exact (congrArg PhotoState.active same).symm.trans active
          | playback | video => exact active
        · rw [next]
          exact ⟨fun _ _ => .inl rfl, fun _ _ => .inl rfl⟩
      · exact displacing
  | play location fraction =>
      simp only [Threads.step]
      split
      next idle =>
        rcases threads.play_cases location fraction with next | ⟨playback, _, next⟩
        · rw [next]
          exact displacing
        · rw [next]
          refine ⟨fun _ _ => .inr rfl, fun photo video => ?_⟩
          have before := displacing.video photo video
          rw [idle] at before
          exact .inr (.inr ((before.resolve_left nofun).resolve_left nofun))
      · exact displacing
  | stop =>
      simp only [Threads.step]
      split
      next idle =>
        constructor
        · intro _ playback
          exact absurd rfl (active_of_dismiss threads.stores .playback playback).1
        · intro photo video
          have before := displacing.video (active_of_dismiss threads.stores .playback photo).2
            (active_of_dismiss threads.stores .playback video).2
          rw [idle] at before
          exact .inr (.inr ((before.resolve_left nofun).resolve_left nofun))
      · exact displacing
  | http => exact displacing.nextHttp
  | configure allocated data =>
      simp only [Threads.step]
      split
      · rcases threads.configure_cases allocated data with
          next | ⟨_, _, video, cleared, next⟩ | ⟨video, _, next⟩
        · rw [next]
          exact displacing
        · rw [next]
          refine displacing.anti (fun medium active => ?_) rfl rfl
          cases medium with
          | photo | playback => exact active
          | video =>
              change video.config.isSome = true at active
              rw [cleared] at active
              cases active
        · rw [next]
          exact ⟨displacing.playback, fun _ _ => .inr (.inr rfl)⟩
      · exact displacing
  | mirror => exact displacing.nextMirror

theorem displacing_after (events : List Event) : Displacing (after events) := by
  have initial : Displacing {} := ⟨nofun, nofun⟩
  exact @run_invariant _ _ step Displacing
    (fun _ event displacing => displacing.step event) _ initial events

theorem Displacing.exclusive (displacing : Displacing threads) (idle : threads.Idle) :
    threads.Exclusive := by
  intro photo
  constructor
  · rw [Bool.eq_false_iff]
    intro playback
    have busy := displacing.playback photo playback
    rw [idle.1] at busy
    exact busy.elim nofun nofun
  · rw [Bool.eq_false_iff]
    intro video
    have busy := displacing.video photo video
    rw [idle.1, idle.2] at busy
    exact busy.elim nofun (fun busy => busy.elim nofun nofun)

/-! ## The last activation -/

/-- The medium that an event takes off the screen without a `/stop`: the one a
thread dismisses next, or the stream that a configuration clears before it finds
no memory. -/
def dismisses (threads : Threads) : Event → Option Medium
  | .put _ | .play _ _ | .stop => none
  | .http =>
      match threads.http with
      | .idle | .stopping => none
      | .displayed => some .playback
      | .displacing => some .video
      | .played => some .photo
  | .configure allocated data =>
      if threads.mirror = .idle ∧ acceptable data ∧ allocated = false then some .video else none
  | .mirror =>
      match threads.mirror with
      | .idle => none
      | .configured => some .photo
      | .displacing => some .playback

/-- The event does not dismiss what was activated last, unless a `/stop` ends
that anyway. -/
def Spares (threads : Threads) (event : Event) : Prop :=
  ∀ medium ∈ threads.dismisses event, medium ∉ threads.activated ∨ threads.stopped = true

instance (threads : Threads) (event : Event) : Decidable (threads.Spares event) :=
  inferInstanceAs (Decidable (∀ medium ∈ threads.dismisses event, _))

/-- The last activated medium is active, or a `/stop` is under way. -/
structure Held (threads : Threads) : Prop where
  stopping : threads.stopped = true → threads.http = .stopping
  /-- Only the mirror thread can activate a medium during a `/stop`. -/
  overtaken : threads.http = .stopping → threads.stopped = true ∨ threads.activated = some .video
  active : ∀ medium ∈ threads.activated,
    threads.stores.active medium = true ∨ threads.stopped = true

theorem Held.dismiss (held : Held threads) {dismissed : Medium}
    (spared : dismissed ∉ threads.activated ∨ threads.stopped = true) :
    ∀ medium ∈ threads.activated,
      (threads.dismiss dismissed).stores.active medium = true ∨ threads.stopped = true := by
  intro medium activated
  rcases spared with other | stopped
  · have different : medium ≠ dismissed := by
      rintro rfl
      exact other activated
    change (threads.stores.dismiss dismissed).active medium = true ∨ _
    rw [dismiss_other threads.stores different]
    exact held.active medium activated
  · exact .inr stopped

theorem Held.advance (held : Held threads) {stage : HttpStage} (here : threads.http = stage)
    (running : stage ≠ .stopping) (next : HttpStage) (later : next ≠ .stopping)
    {dismissed : Medium}
    (spared : dismissed ∉ threads.activated ∨ threads.stopped = true) :
    Held { threads.dismiss dismissed with http := next } where
  stopping stopped := absurd (here.symm.trans (held.stopping stopped)) running
  overtaken stopping := absurd stopping later
  active := held.dismiss spared

theorem Held.nextHttp (held : Held threads) (spares : threads.Spares .http) :
    Held threads.nextHttp := by
  unfold Spares dismisses at spares
  unfold Threads.nextHttp
  cases stage : threads.http with
  | idle => exact held
  | displayed =>
      rw [stage] at spares
      exact held.advance stage nofun .displacing nofun (spares _ rfl)
  | displacing =>
      rw [stage] at spares
      exact held.advance stage nofun .idle nofun (spares _ rfl)
  | played =>
      rw [stage] at spares
      exact held.advance stage nofun .idle nofun (spares _ rfl)
  | stopping =>
      simp only
      split
      · exact ⟨nofun, nofun, nofun⟩
      next unstopped =>
        have video : threads.activated = some .video :=
          (held.overtaken stage).resolve_left unstopped
        refine ⟨fun stopped => absurd stopped unstopped, nofun, held.dismiss (.inl ?_)⟩
        rw [video]
        exact nofun

theorem Held.nextMirror (held : Held threads) (spares : threads.Spares .mirror) :
    Held threads.nextMirror := by
  unfold Spares dismisses at spares
  unfold Threads.nextMirror
  cases stage : threads.mirror with
  | idle => exact held
  | configured | displacing =>
      rw [stage] at spares
      exact ⟨held.stopping, held.overtaken, held.dismiss (spares _ rfl)⟩

theorem Held.step (held : Held threads) {event : Event} (spares : threads.Spares event) :
    Held (threads.step event) := by
  cases event with
  | put request =>
      simp only [Threads.step]
      split
      next idle =>
        rcases threads.put_cases request with ⟨photo, same, next⟩ | ⟨photo, active, next⟩
        · rw [next]
          refine ⟨held.stopping, held.overtaken, fun medium activated => ?_⟩
          rcases held.active medium activated with active | stopped
          · left
            cases medium with
            | photo => exact (congrArg PhotoState.active same).trans active
            | playback | video => exact active
          · exact .inr stopped
        · rw [next]
          refine ⟨nofun, nofun, ?_⟩
          rintro medium ⟨⟩
          exact .inl active
      · exact held
  | play location fraction =>
      simp only [Threads.step]
      split
      next idle =>
        rcases threads.play_cases location fraction with next | ⟨playback, active, next⟩
        · rw [next]
          exact held
        · rw [next]
          refine ⟨nofun, nofun, ?_⟩
          rintro medium ⟨⟩
          exact .inl active
      · exact held
  | stop =>
      simp only [Threads.step]
      split
      · exact ⟨fun _ => rfl, fun _ => .inl rfl, fun _ _ => .inr rfl⟩
      · exact held
  | http => exact held.nextHttp spares
  | configure allocated data =>
      simp only [Threads.step]
      split
      next idle =>
        rcases threads.configure_cases allocated data with
          next | ⟨accepted, exhausted, video, _, next⟩ | ⟨video, configured, next⟩
        · rw [next]
          exact held
        · rw [next]
          have spared := spares .video (if_pos ⟨idle, accepted, exhausted⟩)
          refine ⟨held.stopping, held.overtaken, fun medium activated => ?_⟩
          rcases spared with other | stopped
          · cases medium with
            | photo | playback => exact held.active _ activated
            | video => exact absurd activated other
          · exact .inr stopped
        · rw [next]
          refine ⟨nofun, fun _ => .inr rfl, ?_⟩
          rintro medium ⟨⟩
          left
          change video.config.isSome = true
          rw [configured]
          rfl
      · exact held
  | mirror => exact held.nextMirror spares

/-! ## Every run -/

/-- Whenever both threads are idle, no photo is shown beside another medium.  If
no call so far has dismissed the medium that was activated last, and no
configuration has cleared it for want of memory, then that medium is active. -/
theorem last_activation_wins (events : List Event) (idle : (after events).Idle) :
    (after events).Exclusive ∧ (Guarded step Spares {} events → (after events).Wins) := by
  refine ⟨(displacing_after events).exclusive idle, fun spared => ?_⟩
  have initial : Held {} := ⟨nofun, nofun, nofun⟩
  have held := @Guarded.run_invariant _ _ step Spares Held
    (fun _ _ held spares => held.step spares) _ _ spared initial
  intro medium activated
  have running : (after events).stopped ≠ true := fun stopped =>
    nomatch idle.1.symm.trans (held.stopping stopped)
  exact (held.active medium activated).resolve_right running

def replacements : List Event :=
  [.put shownPhoto, .http, .http, .configure true Video.sampleConfig, .mirror, .mirror,
    .play (some (ascii "http://host/a.mp4")) (.finite 0), .http]

theorem last_activation_wins_replacements :
    (after replacements).Exclusive ∧ (after replacements).Wins := by
  obtain ⟨exclusive, wins⟩ := last_activation_wins replacements (by decide +kernel)
  exact ⟨exclusive, wins (by decide +kernel)⟩

/-- The mirror thread configures a stream while the HTTP thread still has to
dismiss what was there before its photo. -/
def overlap : List Event :=
  [.put shownPhoto, .configure true Video.sampleConfig, .http, .http, .mirror, .mirror]

/-- Both are dismissed then. -/
theorem overlap_dismisses_both :
    ¬ ∀ events, (after events).Idle → (after events).Wins ∧ (after events).Exclusive := by
  intro always
  have wins := (always overlap (by decide +kernel)).1 .video (by decide +kernel)
  exact absurd wins (by decide +kernel)

end Threads

end AirTizen.Receiver

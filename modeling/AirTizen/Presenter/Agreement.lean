import AirTizen.Presenter.Host
import AirTizen.Receiver.Media
import AirTizen.Video.Packing

/-!
# The store and the presenter

`airtizen_video_configure` and `airtizen_video_reset` change the store under its
mutex and tell the presenter after they have released it, so the presenter can
be told of two calls in the other order.  A frame is passed on under the mutex;
one that fails clears the store and tells the presenter nothing.
-/

namespace AirTizen.Presenter

open CText Machine AirTizen.Receiver

structure Feed where
  store : Video.Store := .initial
  host : Host := Host.enable {} true
  /-- The configuration that the mirror thread still has to pass on. -/
  configuring : Option Bytes := none
  /-- Calls of `airtizen_video_reset` that still have to pass on the reset. -/
  resetting : Nat := 0
  /-- What the presenter was told last: a configuration, or none by a reset. -/
  told : Option Bytes := none

inductive FeedEvent where
  /-- The first section of `airtizen_video_configure`. -/
  | configure (allocated : Bool) (data : Bytes)
  | announce
  /-- `airtizen_video_frame`; the last two tell whether the presenter has memory for it. -/
  | frame (run : Video.FrameRun) (data : Bytes) (pts : Nat) (copied pushed : Bool)
  /-- The first section of `airtizen_video_reset`. -/
  | reset
  | announceReset
  /-- A step of the main thread. -/
  | main (action : Action)

def Action.presents : Action → Bool
  | .configure _ _ | .frame _ _ _ | .reset | .enable _ | .shutdown => false
  | .pump | .initialized _ | .decoded _ | .presentationFailed | .enter _ | .take | .fail => true

namespace Feed

/-- `airtizen_video_frame` and `VideoHost::Frame`, which it calls for a packed frame. -/
def frame (feed : Feed) (run : Video.FrameRun) (data : Bytes) (pts : Nat)
    (copied pushed : Bool) : Feed :=
  let (result, store) := Video.frame run data pts feed.store
  let feed := { feed with store := store }
  if result = 1 then { feed with host := (feed.host.frame data copied pushed).1 } else feed

/-- One section of one thread.  The mirror thread takes its next call when it has
passed on its configuration. -/
def step (feed : Feed) : FeedEvent → Feed
  | .configure allocated data =>
      if feed.configuring = none then
        let (result, store) := Video.configure allocated data feed.store
        { feed with store := store, configuring := if result = 0 then some data else none }
      else feed
  | .announce =>
      match feed.configuring with
      | none => feed
      | some data =>
          { feed with
            host := (feed.host.configureWith data true).1
            configuring := none
            told := some data }
  | .frame run data pts copied pushed =>
      if feed.configuring = none then feed.frame run data pts copied pushed else feed
  | .reset => { feed with store := Video.reset feed.store, resetting := feed.resetting + 1 }
  | .announceReset =>
      match feed.resetting with
      | 0 => feed
      | waiting + 1 =>
          { feed with host := feed.host.resetQueue, resetting := waiting, told := none }
  | .main action =>
      if action.presents then { feed with host := (feed.host.step action).1 } else feed

/-- The state after the events, from a fresh process with an enabled presenter. -/
def after (events : List FeedEvent) : Feed := run step {} events

def Quiet (feed : Feed) : Prop := feed.configuring = none ∧ feed.resetting = 0

instance (feed : Feed) : Decidable feed.Quiet := inferInstanceAs (Decidable (_ ∧ _))

/-- A call in progress still has to tell the presenter what the store holds. -/
def Awaited (feed : Feed) : Prop :=
  (feed.store.config = none ∧ 0 < feed.resetting) ∨
    (feed.store.config ≠ none ∧ feed.configuring = feed.store.config)

instance (feed : Feed) : Decidable feed.Awaited := inferInstanceAs (Decidable (_ ∨ _))

/-- The presenter has a configuration, and no reset is on its way to it. -/
def Presenting (feed : Feed) : Prop := feed.told ≠ none ∧ feed.resetting = 0

instance (feed : Feed) : Decidable feed.Presenting := inferInstanceAs (Decidable (_ ∧ _))

/-- The presenter is not told what the store has ceased to hold, unless another
call will tell it better, and nothing clears the store behind its back. -/
def Faithful (feed : Feed) : FeedEvent → Prop
  | .announce => ∀ data ∈ feed.configuring,
      feed.store.config = some data ∨ (feed.store.config = none ∧ 0 < feed.resetting)
  | .announceReset => 0 < feed.resetting →
      feed.store.config = none ∨ feed.configuring = feed.store.config
  | .configure allocated data => feed.configuring = none →
      allocated = false → acceptable data → ¬ feed.Presenting
  | .frame run data pts _ _ => feed.configuring = none →
      Video.Fails run data pts feed.store → ¬ feed.Presenting
  | .reset | .main _ => True

instance (feed : Feed) : (event : FeedEvent) → Decidable (feed.Faithful event)
  | .announce => inferInstanceAs (Decidable (∀ data ∈ feed.configuring, _))
  | .announceReset => inferInstanceAs (Decidable (_ → _))
  | .configure _ _ => inferInstanceAs (Decidable (_ → _ → _ → _))
  | .frame _ _ _ _ _ => inferInstanceAs (Decidable (_ → _ → _))
  | .reset => inferInstanceAs (Decidable True)
  | .main _ => inferInstanceAs (Decidable True)

variable {feed : Feed}

/-! ## Agreement at rest -/

/-- The presenter knows what the store holds, or a call in progress will tell it. -/
structure Agreeing (feed : Feed) : Prop where
  published : ∃ stream, Video.Represents feed.store stream
  agrees : feed.told = feed.store.config ∨ feed.Awaited

theorem agrees_of_hidden (hidden : ¬ feed.Presenting) {store : Video.Store}
    (cleared : store.config = none) :
    feed.told = store.config ∨ Awaited { feed with store := store } := by
  by_cases told : feed.told = none
  · exact .inl (told.trans cleared.symm)
  · right; left
    exact ⟨cleared, Nat.pos_of_ne_zero fun rest => hidden ⟨told, rest⟩⟩

theorem Agreeing.frame (agreeing : Agreeing feed) (idle : feed.configuring = none)
    (run : Video.FrameRun) (data : Bytes) (pts : Nat) (copied pushed : Bool)
    (faithful : feed.Faithful (.frame run data pts copied pushed)) :
    Agreeing (feed.frame run data pts copied pushed) := by
  obtain ⟨stream, represents⟩ := agreeing.published
  obtain ⟨next, _, published⟩ := represents.frame run data pts
  have agrees : feed.told = (Video.frame run data pts feed.store).2.config ∨
      Awaited { feed with store := (Video.frame run data pts feed.store).2 } := by
    rcases Video.frame_config run data pts represents.pending with ⟨_, cleared⟩ | ⟨kept, _⟩
    · by_cases configured : feed.store.config = none
      · rcases agreeing.agrees with told | ⟨_, waiting⟩ | ⟨held, _⟩
        · exact .inl ((told.trans configured).trans cleared.symm)
        · exact .inr (.inl ⟨cleared, waiting⟩)
        · exact absurd configured held
      · have fails := (Video.fails_iff represents.pending represents.writeFailed).mpr
          ⟨configured, cleared⟩
        exact agrees_of_hidden (faithful idle fails) cleared
    · unfold Awaited
      rw [kept]
      exact agreeing.agrees
  simp only [Feed.frame]
  split
  · exact ⟨⟨next, published⟩, agrees⟩
  · exact ⟨⟨next, published⟩, agrees⟩

theorem Agreeing.configure (agreeing : Agreeing feed) (idle : feed.configuring = none)
    (allocated : Bool) (data : Bytes)
    (faithful : feed.Faithful (.configure allocated data)) :
    Agreeing (feed.step (.configure allocated data)) := by
  obtain ⟨stream, represents⟩ := agreeing.published
  obtain ⟨next, _, published⟩ := represents.configure allocated data
  simp only [Feed.step, if_pos idle]
  refine ⟨⟨next, published⟩, ?_⟩
  rcases configure_config allocated data feed.store with
    ⟨_, refused⟩ | ⟨accepted, exhausted, failed, cleared⟩ | ⟨_, _, succeeded, held⟩
  · rw [refused]
    have agrees := agreeing.agrees
    rw [Awaited, idle] at agrees
    exact agrees
  · rw [failed]
    have agrees := agrees_of_hidden (faithful idle exhausted accepted) cleared
    rw [Awaited, idle] at agrees
    exact agrees
  · right; right
    rw [succeeded]
    exact ⟨by rw [held]; exact nofun, held.symm⟩

theorem Agreeing.step (agreeing : Agreeing feed) {event : FeedEvent}
    (faithful : feed.Faithful event) : Agreeing (feed.step event) := by
  cases event with
  | configure allocated data =>
      by_cases idle : feed.configuring = none
      · exact agreeing.configure idle allocated data faithful
      · simp only [Feed.step, if_neg idle]
        exact agreeing
  | announce =>
      simp only [Feed.step]
      cases waiting : feed.configuring with
      | none => exact agreeing
      | some data =>
          refine ⟨agreeing.published, ?_⟩
          rcases faithful data waiting with held | reset
          · exact .inl held.symm
          · exact .inr (.inl reset)
  | frame run data pts copied pushed =>
      simp only [Feed.step]
      split
      next idle => exact agreeing.frame idle run data pts copied pushed faithful
      · exact agreeing
  | reset =>
      obtain ⟨stream, represents⟩ := agreeing.published
      obtain ⟨next, _, published⟩ := represents.step .reset
      exact ⟨⟨next, published⟩, .inr (.inl ⟨rfl, Nat.succ_pos _⟩)⟩
  | announceReset =>
      unfold Faithful at faithful
      simp only [Feed.step]
      cases waiting : feed.resetting with
      | zero => exact agreeing
      | succ rest =>
          refine ⟨agreeing.published, ?_⟩
          by_cases cleared : feed.store.config = none
          · exact .inl cleared.symm
          · right; right
            exact ⟨cleared, (faithful (by omega)).resolve_left cleared⟩
  | main action =>
      simp only [Feed.step]
      split
      · exact ⟨agreeing.published, agreeing.agrees⟩
      · exact agreeing

theorem Agreeing.at_rest (agreeing : Agreeing feed) (quiet : feed.Quiet) :
    feed.told = feed.store.config := by
  rcases agreeing.agrees with told | ⟨_, waiting⟩ | ⟨held, waiting⟩
  · exact told
  · rw [quiet.2] at waiting
    exact absurd waiting (Nat.lt_irrefl 0)
  · exact absurd (waiting.symm.trans quiet.1) held

/-! ## The presenter takes frames -/

/-- The presenter is enabled and open, and accepts frames once it was told of a
configuration. -/
structure Ready (feed : Feed) : Prop where
  enabled : feed.host.enabled = true
  opened : feed.host.closing = false
  accepted : ∀ data ∈ feed.configuring, acceptable data
  taking : feed.told ≠ none → feed.host.reset = false

/-- The main thread leaves the presenter enabled and open, and only ends resets. -/
theorem step_presents (host : Host) {action : Action} (presents : action.presents = true) :
    (host.step action).1.enabled = host.enabled ∧
      (host.step action).1.closing = host.closing ∧
      (host.reset = false → (host.step action).1.reset = false) := by
  unfold Host.step
  split
  · cases action with
    | configure | frame | reset | enable | shutdown => cases presents
    | pump | presentationFailed | fail => exact ⟨rfl, rfl, id⟩
    | initialized result =>
        simp only [Host.perform, Host.initialized]
        split
        · exact ⟨rfl, rfl, id⟩
        · exact ⟨rfl, rfl, id⟩
    | decoded result => cases result <;> exact ⟨rfl, rfl, id⟩
    | enter opened =>
        simp only [Host.perform, Host.enter]
        split
        · exact ⟨rfl, rfl, id⟩
        · split
          · exact ⟨rfl, rfl, fun _ => rfl⟩
          · split
            · exact ⟨rfl, rfl, fun _ => rfl⟩
            · split
              · split
                · exact ⟨rfl, rfl, fun _ => rfl⟩
                · exact ⟨rfl, rfl, fun _ => rfl⟩
              · split
                · exact ⟨rfl, rfl, fun _ => rfl⟩
                · exact ⟨rfl, rfl, fun _ => rfl⟩
    | take =>
        simp only [Host.perform, Host.take, Host.next]
        cases host.config with
        | some packet => exact ⟨rfl, rfl, id⟩
        | none =>
            cases host.queue with
            | nil => exact ⟨rfl, rfl, id⟩
            | cons packet rest => exact ⟨rfl, rfl, id⟩
  · exact ⟨rfl, rfl, id⟩

theorem postLocked_keeps (host : Host) : host.postLocked.enabled = host.enabled ∧
    host.postLocked.closing = host.closing ∧ host.postLocked.reset = host.reset := by
  unfold Host.postLocked
  split
  · exact ⟨rfl, rfl, rfl⟩
  · exact ⟨rfl, rfl, rfl⟩

theorem frame_keeps (host : Host) (data : Bytes) (copied pushed : Bool) :
    (host.frame data copied pushed).1.enabled = host.enabled ∧
      (host.frame data copied pushed).1.closing = host.closing ∧
      (host.frame data copied pushed).1.reset = host.reset := by
  unfold Host.frame
  split
  · exact ⟨rfl, rfl, rfl⟩
  · split
    · exact ⟨rfl, rfl, rfl⟩
    · split
      · exact postLocked_keeps { host with failed := true }
      · split
        · exact postLocked_keeps { host with failed := true }
        · simp only
          split
          · exact postLocked_keeps { host with
              failed := true, queuedBytes := host.queuedBytes + data.length }
          · exact postLocked_keeps { host with
              queuedBytes := host.queuedBytes + data.length
              queue := host.queue ++ [⟨data, host.epoch⟩] }

theorem configureWith_taking {host : Host} (enabled : host.enabled = true)
    (opened : host.closing = false) {data : Bytes} (accepted : acceptable data) :
    (host.configureWith data true).1.enabled = true ∧
      (host.configureWith data true).1.closing = false ∧
      (host.configureWith data true).1.reset = false := by
  have sized : ¬ (data = [] ∨ 65536 < data.length) := by
    rintro (rfl | long)
    · exact accepted (.inl (by decide))
    · exact accepted (.inr (.inl long))
  unfold Host.configureWith
  rw [if_neg sized, if_neg (by simp [enabled, opened])]
  simp only [Bool.not_true, Bool.false_eq_true, if_false, Host.postLocked]
  split
  · exact ⟨enabled, opened, rfl⟩
  · exact ⟨enabled, opened, rfl⟩

theorem Ready.initial : Ready {} where
  enabled := rfl
  opened := rfl
  accepted := nofun
  taking told := absurd rfl told

theorem Ready.step (ready : Ready feed) (event : FeedEvent) : Ready (feed.step event) := by
  cases event with
  | configure allocated data =>
      simp only [Feed.step]
      split
      · rcases configure_config allocated data feed.store with
          ⟨_, refused⟩ | ⟨_, _, failed, _⟩ | ⟨accepted, _, succeeded, _⟩
        · rw [refused]
          exact ⟨ready.enabled, ready.opened, (fun _ held => by cases held), ready.taking⟩
        · rw [failed]
          exact ⟨ready.enabled, ready.opened, (fun _ held => by cases held), ready.taking⟩
        · rw [succeeded]
          refine ⟨ready.enabled, ready.opened, ?_, ready.taking⟩
          rintro _ ⟨⟩
          exact accepted
      · exact ready
  | announce =>
      simp only [Feed.step]
      cases waiting : feed.configuring with
      | none => exact ready
      | some data =>
          obtain ⟨enabled, opened, taking⟩ := configureWith_taking ready.enabled ready.opened
            (ready.accepted data waiting)
          exact ⟨enabled, opened, (fun _ held => by cases held), fun _ => taking⟩
  | frame run data pts copied pushed =>
      simp only [Feed.step]
      split
      · simp only [Feed.frame]
        split
        · obtain ⟨enabled, closing, reset⟩ := frame_keeps feed.host data copied pushed
          exact ⟨enabled.trans ready.enabled, closing.trans ready.opened, ready.accepted,
            fun told => reset.trans (ready.taking told)⟩
        · exact ⟨ready.enabled, ready.opened, ready.accepted, ready.taking⟩
      · exact ready
  | reset => exact ⟨ready.enabled, ready.opened, ready.accepted, ready.taking⟩
  | announceReset =>
      simp only [Feed.step]
      cases feed.resetting with
      | zero => exact ready
      | succ rest =>
          refine ⟨?_, ?_, ready.accepted, fun told => absurd rfl told⟩
          · exact (postLocked_keeps _).1.trans ready.enabled
          · exact (postLocked_keeps _).2.1.trans ready.opened
  | main action =>
      simp only [Feed.step]
      split
      next presents =>
        obtain ⟨enabled, closing, reset⟩ := step_presents feed.host presents
        exact ⟨enabled.trans ready.enabled, closing.trans ready.opened, ready.accepted,
          fun told => reset (ready.taking told)⟩
      · exact ready

/-! ## Every run -/

/-- When no call is in progress, the store holds a configuration exactly if the
presenter was told of the same one last, and a frame that the store packs then
finds the presenter enabled and not waiting for a reset.  The runs are those in
which the presenter is not told late of what the store has ceased to hold, and
neither a failed frame nor a configuration without memory clears the store while
the presenter has a configuration. -/
theorem store_and_presenter_agree (events : List FeedEvent)
    (faithful : Guarded step Faithful {} events) (quiet : (after events).Quiet) :
    (∀ config, (after events).store.config = some config ↔
      (after events).told = some config) ∧
    ∀ run data pts, (Video.frame run data pts (after events).store).1 = 1 →
      (after events).told ≠ none ∧ (after events).host.enabled = true ∧
        (after events).host.closing = false ∧ (after events).host.reset = false := by
  have initial : Agreeing {} := ⟨⟨_, Video.Represents.initial⟩, .inl rfl⟩
  have agreeing : Agreeing (after events) := @Guarded.run_invariant _ _ step Faithful Agreeing
    (fun _ _ agreeing faithful => agreeing.step faithful) _ _ faithful initial
  have ready : Ready (after events) := @run_invariant _ _ step Ready
    (fun _ event ready => ready.step event) _ Ready.initial events
  have told := agreeing.at_rest quiet
  refine ⟨fun config => by rw [told], fun run data pts packed => ?_⟩
  obtain ⟨stream, represents⟩ := agreeing.published
  have configured : (after events).told ≠ none := by
    rw [told]
    rcases Video.frame_config run data pts represents.pending with ⟨failed, _⟩ | ⟨_, needed⟩
    · rw [failed] at packed
      cases packed
    · exact needed packed
  exact ⟨configured, ready.enabled, ready.opened, ready.taking configured⟩

/-- A reset comes in between both sections of a configuration, a configuration in between both
sections of a reset, and a frame fails while the presenter still waits for a reset. -/
def presentation : List FeedEvent :=
  [.configure true Video.sampleConfig, .reset, .announce, .announceReset,
    .configure true Video.sampleConfig, .announce, .main .pump, .main (.enter true),
    .frame (Video.sampleRun 1 2) Video.sampleFrame 0 true true,
    .reset, .configure true Video.sampleConfig, .announce,
    .frame { Video.sampleRun 1 2 with packetAllocated := false } Video.sampleFrame 0 true true,
    .announceReset,
    .reset, .configure true Video.sampleConfig, .announceReset, .announce,
    .frame (Video.sampleRun 1 2) Video.sampleFrame 0 true true]

theorem store_and_presenter_agree_presentation :
    (∀ config, (after presentation).store.config = some config ↔
      (after presentation).told = some config) ∧
    ∀ run data pts, (Video.frame run data pts (after presentation).store).1 = 1 →
      (after presentation).told ≠ none ∧ (after presentation).host.enabled = true ∧
        (after presentation).host.closing = false ∧ (after presentation).host.reset = false :=
  store_and_presenter_agree presentation (by decide +kernel) (by decide +kernel)

/-- A reset from another thread is passed on after the configuration that came
behind it. -/
def lateReset : List FeedEvent :=
  [.reset, .configure true Video.sampleConfig, .announce, .announceReset]

/-- Then the store holds a configuration that the presenter was told to drop. -/
theorem late_reset_disagrees :
    ¬ ∀ events, (after events).Quiet → ∀ config,
      (after events).store.config = some config ↔ (after events).told = some config := by
  intro always
  have told := (always lateReset (by decide +kernel) Video.sampleConfig).mp (by decide +kernel)
  exact absurd told (by decide +kernel)

end Feed

end AirTizen.Presenter

import AirTizen.Presenter.Host

/-!
# Frames that wait for a decoder

`Enable` and `Reset` drop the configuration and set `reset_`, which keeps frames
out until `Configure` clears it.  `Pump` clears it as well: from then on frames
are queued for a decoder that nobody has asked for.
-/

namespace AirTizen.Presenter

open CText Machine

/-- A presenter, and whether `Configure` was accepted since the last `Enable` or
`Reset`. -/
structure Session where
  host : Host := {}
  configured : Bool := false
  deriving DecidableEq

def Session.step (session : Session) (action : Action) : Session where
  host := (session.host.step action).1
  configured :=
    match action with
    | .configure _ _ => session.configured || (session.host.step action).2.isSome
    | .reset => false
    | .enable _ => session.configured && !session.host.possible action
    | _ => session.configured

def Host.expecting (host : Host) : Bool := host.configure || host.initializing || host.ready

/-- Outside of `Error`, which empties the queue, frames only wait for a decoder
that was configured. -/
def Session.Awaited (session : Session) : Prop :=
  session.host.queue ≠ [] → session.host.main ≠ .failing →
    session.configured = true ∧ session.host.expecting = true

/-- `Frame` gets to the end of its checks and of its allocations. -/
def Host.queues (host : Host) (data : Bytes) (copied pushed : Bool) : Bool :=
  data ≠ [] && data.length ≤ 2 * 1024 * 1024 &&
    !(!host.enabled || host.closing || host.failed || host.reset) &&
    host.queue.length < 12 && host.queuedBytes + data.length ≤ 8 * 1024 * 1024 &&
    copied && pushed

/-- A frame that is queued outside of `Error` comes behind a `Configure`. -/
def Session.Expected (session : Session) : Action → Prop
  | .frame data copied pushed =>
      session.host.queues data copied pushed = true → session.host.main ≠ .failing →
        session.configured = true
  | _ => True

structure Waiting (host : Host) (configured : Bool) : Prop where
  awaited : host.queue ≠ [] → host.main ≠ .failing → configured = true ∧ host.expecting = true
  reset : host.reset = true → host.queue = [] ∧ configured = false
  disabled : host.enabled = false → host.queue = []
  expecting : host.enabled = true → host.closing = false → host.failed = false →
    host.main ≠ .failing → configured = true → host.expecting = true

namespace Waiting

variable {host : Host} {configured : Bool}

theorem initial : Waiting {} false where
  awaited queued := absurd rfl queued
  reset on := by cases on
  disabled _ := rfl
  expecting on := by cases on

theorem postLocked (waiting : Waiting host configured) : Waiting host.postLocked configured := by
  unfold Host.postLocked
  split
  · exact waiting
  · exact { waiting with }

@[simp]
theorem postLocked_queue (host : Host) : host.postLocked.queue = host.queue := by
  unfold Host.postLocked
  split <;> rfl

@[simp]
theorem postLocked_main (host : Host) : host.postLocked.main = host.main := by
  unfold Host.postLocked
  split <;> rfl

theorem failed (waiting : Waiting host configured) (queuedBytes : Nat) :
    Waiting { host with failed := true, queuedBytes := queuedBytes } configured :=
  { waiting with expecting := fun _ _ failed => by cases failed }

theorem cleared (empty : host.queue = [])
    (expecting : host.enabled = true → host.closing = false → host.failed = false →
      host.main ≠ .failing → configured = true → host.expecting = true)
    (reset : host.reset = true → configured = false) : Waiting host configured where
  awaited queued := absurd empty queued
  reset on := ⟨empty, reset on⟩
  disabled _ := empty
  expecting := expecting

theorem configureWith (waiting : Waiting host configured) (data : Bytes) (allocated : Bool) :
    Waiting (host.configureWith data allocated).1
      (configured || (host.configureWith data allocated).2.isSome) := by
  unfold Host.configureWith
  split
  · simpa using waiting
  · split
    · simpa using waiting
    · split
      · simpa using (waiting.failed host.queuedBytes).postLocked
      · apply postLocked
        apply cleared rfl
        · intro _ _ _ _ _
          rfl
        · intro on
          cases on

/-- A frame is queued, or changes no more than `failed_` and the byte count. -/
theorem frame_eq (data : Bytes) (copied pushed : Bool) :
    (host.queues data copied pushed = true ∧
      ∃ packet queuedBytes, (host.frame data copied pushed).1 =
        ({ host with queue := host.queue ++ [packet], queuedBytes := queuedBytes }).postLocked) ∨
    (host.queues data copied pushed = false ∧
      ((host.frame data copied pushed).1 = host ∨
        ∃ queuedBytes, (host.frame data copied pushed).1 =
          ({ host with failed := true, queuedBytes := queuedBytes }).postLocked)) := by
  unfold Host.frame Host.queues
  by_cases sized : data = [] ∨ 2 * 1024 * 1024 < data.length
  · rw [if_pos sized]
    right
    refine ⟨?_, .inl rfl⟩
    rcases sized with empty | large
    · simp [empty]
    · simp [Nat.not_le.mpr large]
  rw [if_neg sized]
  by_cases blocked : (!host.enabled || host.closing || host.failed || host.reset) = true
  · rw [if_pos blocked]
    exact .inr ⟨by simp [blocked], .inl rfl⟩
  rw [if_neg blocked]
  by_cases full : 12 ≤ host.queue.length ∨ 8 * 1024 * 1024 < host.queuedBytes + data.length
  · rw [if_pos full]
    right
    refine ⟨?_, .inr ⟨host.queuedBytes, rfl⟩⟩
    rcases full with many | large
    · simp [Nat.not_lt.mpr many]
    · simp [Nat.not_le.mpr large]
  rw [if_neg full]
  cases copied with
  | false => exact .inr ⟨by simp, .inr ⟨host.queuedBytes, rfl⟩⟩
  | true =>
      cases pushed with
      | false => exact .inr ⟨by simp, .inr ⟨host.queuedBytes + data.length, rfl⟩⟩
      | true =>
          rw [not_or, Nat.not_lt] at sized
          rw [not_or, Nat.not_le, Nat.not_lt] at full
          refine .inl ⟨?_, ⟨data, host.epoch⟩, host.queuedBytes + data.length, rfl⟩
          simp [sized, full, blocked]

theorem queues_open {data : Bytes} {copied pushed : Bool}
    (queues : host.queues data copied pushed = true) :
    host.enabled = true ∧ host.closing = false ∧ host.failed = false ∧ host.reset = false := by
  simp only [Host.queues, Bool.and_eq_true, Bool.not_eq_true', Bool.or_eq_false_iff,
    Bool.not_eq_false'] at queues
  obtain ⟨⟨⟨⟨⟨_, ⟨⟨⟨enabled, closing⟩, failed⟩, reset⟩⟩, _⟩, _⟩, _⟩, _⟩ := queues
  exact ⟨enabled, closing, failed, reset⟩

theorem frame (waiting : Waiting host configured) (data : Bytes) (copied pushed : Bool)
    (expected : host.queues data copied pushed = true → host.main ≠ .failing →
      configured = true) :
    Waiting (host.frame data copied pushed).1 configured := by
  rcases @frame_eq host data copied pushed with
    ⟨queues, packet, queuedBytes, result⟩ | ⟨_, same | ⟨queuedBytes, result⟩⟩
  · obtain ⟨enabled, closing, failed, reset⟩ := queues_open queues
    rw [result]
    apply postLocked
    exact
      { awaited := fun _ running =>
          ⟨expected queues running,
            waiting.expecting enabled closing failed running (expected queues running)⟩
        reset := fun on => by simp [reset] at on
        disabled := fun off => by simp [enabled] at off
        expecting := waiting.expecting }
  · rw [same]
    exact waiting
  · rw [result]
    exact (waiting.failed queuedBytes).postLocked

theorem resetQueue (host : Host) : Waiting host.resetQueue false :=
  postLocked (cleared rfl (fun _ _ _ _ absent => by cases absent) (fun _ => rfl))

theorem enable (host : Host) (enabled : Bool) : Waiting (host.enable enabled) false :=
  postLocked (cleared rfl (fun _ _ _ _ absent => by cases absent) (fun _ => rfl))

theorem shutdown (waiting : Waiting host configured) : Waiting host.shutdown configured :=
  cleared rfl (fun on => by cases on) fun reset => (waiting.reset reset).2

theorem moves (waiting : Waiting host configured) (running : host.main ≠ .failing)
    (main : Phase) : Waiting { host with main := main } configured :=
  { waiting with
    awaited := fun queued _ => waiting.awaited queued running
    expecting := fun enabled closing failed _ => waiting.expecting enabled closing failed running }

theorem initialized (waiting : Waiting host configured) (running : host.main ≠ .failing)
    (result : Result) : Waiting (host.initialized result) configured := by
  unfold Host.initialized
  split
  · exact
      { awaited := fun queued _ =>
          ⟨(waiting.awaited queued running).1, Bool.or_true _⟩
        reset := waiting.reset
        disabled := waiting.disabled
        expecting := fun _ _ _ _ _ => Bool.or_true _ }
  · exact
      { awaited := fun _ running => absurd rfl running
        reset := waiting.reset
        disabled := waiting.disabled
        expecting := fun _ _ _ running => absurd rfl running }

theorem decoded (waiting : Waiting host configured) (running : host.main ≠ .failing)
    (result : Result) : Waiting (host.decoded result) configured := by
  have idle : Waiting { host with decoding := false } configured := { waiting with }
  cases result with
  | ok => exact idle.moves running .entering
  | aborted => exact idle
  | error => exact idle.moves running .failing

theorem fail (waiting : Waiting host configured) : Waiting host.fail configured :=
  cleared rfl (fun _ _ failed => by cases failed) fun reset => (waiting.reset reset).2

theorem next_some {packet : Packet} {after : Host} (taken : host.next = some (packet, after)) :
    ∃ config queue queuedBytes,
      after = { host with config := config, queue := queue, queuedBytes := queuedBytes } ∧
        (queue ≠ [] → host.queue ≠ []) := by
  unfold Host.next at taken
  split at taken
  · cases taken
    exact ⟨none, host.queue, host.queuedBytes, rfl, id⟩
  next rest _ queue =>
    cases taken
    refine ⟨host.config, rest, _, rfl, fun _ => ?_⟩
    rw [queue]
    exact List.cons_ne_nil _ _
  · cases taken

theorem take (waiting : Waiting host configured) (running : host.main ≠ .failing) :
    Waiting host.take.1 configured := by
  have idle := waiting.moves running .idle
  unfold Host.take
  split
  · exact idle
  next packet after taken =>
    obtain ⟨config, queue, queuedBytes, rfl, fewer⟩ := next_some taken
    exact
      { awaited := fun queued _ => waiting.awaited (fewer queued) running
        reset := fun on => by
          refine ⟨?_, (waiting.reset on).2⟩
          by_contra queued
          exact fewer queued (waiting.reset on).1
        disabled := fun off => by
          by_contra queued
          exact fewer queued (waiting.disabled off)
        expecting := idle.expecting }

theorem enter (waiting : Waiting host configured) (running : host.main ≠ .failing)
    (opened : Bool) : Waiting (host.enter opened).1 configured := by
  unfold Host.enter
  simp only
  by_cases closing : host.closing = true
  · rw [if_pos closing]
    exact { waiting.moves running .idle with }
  rw [if_neg closing]
  by_cases dropped : (host.reset || !host.enabled) = true
  · rw [if_pos dropped]
    rw [Bool.or_eq_true, Bool.not_eq_true'] at dropped
    apply cleared
    · rcases dropped with reset | disabled
      · exact (waiting.reset reset).1
      · exact waiting.disabled disabled
    · intro enabled _ _ _ present
      rcases dropped with reset | disabled
      · rw [(waiting.reset reset).2] at present
        cases present
      · have enabled : host.enabled = true := enabled
        rw [disabled] at enabled
        cases enabled
    · intro on
      cases on
  rw [if_neg dropped]
  simp only [Bool.or_eq_true, not_or, Bool.not_eq_true, Bool.not_eq_false'] at dropped
  obtain ⟨kept, enabled⟩ := dropped
  by_cases failed : host.failed = true
  · rw [if_pos failed]
    exact
      { awaited := fun _ running => absurd rfl running
        reset := fun on => by cases on
        disabled := waiting.disabled
        expecting := fun _ _ _ running => absurd rfl running }
  rw [if_neg failed]
  by_cases configure : host.configure = true
  · rw [if_pos configure]
    cases opened with
    | false =>
        exact
          { awaited := fun _ running => absurd rfl running
            reset := fun on => by cases on
            disabled := waiting.disabled
            expecting := fun _ _ _ running => absurd rfl running }
    | true =>
        exact
          { awaited := fun queued _ => ⟨(waiting.awaited queued running).1, rfl⟩
            reset := fun on => by cases on
            disabled := waiting.disabled
            expecting := fun _ _ _ _ _ => rfl }
  rw [if_neg configure]
  rw [Bool.not_eq_true] at configure
  have same : ∀ main, Waiting { host with
      posted := false, main := main, reset := false, configure := false } configured := by
    intro main
    exact
      { awaited := fun queued _ => by
          have old := waiting.awaited queued running
          simpa [Host.expecting, configure] using old
        reset := fun on => by cases on
        disabled := waiting.disabled
        expecting := fun enabled closing failed _ present => by
          have old := waiting.expecting enabled closing failed running present
          simpa [Host.expecting, configure] using old }
  split
  · exact same .idle
  · exact same .taking

theorem perform (waiting : Waiting host configured) {action : Action}
    (possible : host.possible action = true)
    (expected : ∀ data copied pushed, action = .frame data copied pushed →
      host.queues data copied pushed = true → host.main ≠ .failing → configured = true)
    (unconfigured : ∀ data allocated, action ≠ .configure data allocated)
    (undisturbed : action ≠ .reset) (unswitched : ∀ enabled, action ≠ .enable enabled) :
    Waiting (host.perform action).1 configured := by
  have running (phase : Phase) (other : phase ≠ .failing) (there : host.main = phase) :
      host.main ≠ .failing := there ▸ other
  cases action with
  | configure data allocated => exact absurd rfl (unconfigured data allocated)
  | reset => exact absurd rfl undisturbed
  | enable enabled => exact absurd rfl (unswitched enabled)
  | frame data copied pushed =>
      exact waiting.frame data copied pushed (expected data copied pushed rfl)
  | shutdown => exact waiting.shutdown
  | fail => exact waiting.fail
  | take =>
      simp only [Host.possible, decide_eq_true_eq] at possible
      exact waiting.take (running .taking (by decide) possible)
  | enter opened =>
      simp only [Host.possible, decide_eq_true_eq] at possible
      exact waiting.enter (running .entering (by decide) possible) opened
  | pump =>
      simp only [Host.possible, Bool.and_eq_true, decide_eq_true_eq] at possible
      exact { waiting.moves (running .idle (by decide) possible.1) .entering with }
  | initialized result =>
      simp only [Host.possible, Bool.and_eq_true, decide_eq_true_eq] at possible
      exact waiting.initialized (running .idle (by decide) possible.1) result
  | decoded result =>
      simp only [Host.possible, Bool.and_eq_true, decide_eq_true_eq] at possible
      exact waiting.decoded (running .idle (by decide) possible.1) result
  | presentationFailed =>
      simp only [Host.possible, Bool.and_eq_true, decide_eq_true_eq] at possible
      exact waiting.moves (running .idle (by decide) possible.1) .failing

theorem step {session : Session} {action : Action}
    (waiting : Waiting session.host session.configured) (expected : session.Expected action) :
    Waiting (session.step action).host (session.step action).configured := by
  simp only [Session.step, Host.step]
  cases possible : session.host.possible action with
  | false =>
      cases action with
      | configure | frame | reset => cases possible
      | enable | shutdown | pump | initialized | decoded | presentationFailed | enter | take | fail =>
          simpa using waiting
  | true =>
      cases action with
      | configure data allocated => exact waiting.configureWith data allocated
      | reset => exact resetQueue _
      | enable enabled =>
          rw [Bool.not_true, Bool.and_false]
          exact Waiting.enable _ enabled
      | frame data copied pushed => exact waiting.frame data copied pushed expected
      | shutdown | pump | initialized | decoded | presentationFailed | enter | take | fail =>
          apply waiting.perform possible
          · intro data copied pushed other
            cases other
          · intro data allocated other
            cases other
          · intro other
            cases other
          · intro enabled other
            cases other

end Waiting

theorem not_awaited {session : Session} {action : Action} (early : ¬ session.Expected action) :
    ¬ (session.step action).Awaited := by
  cases action with
  | frame data copied pushed =>
      simp only [Session.Expected, Classical.not_imp] at early
      obtain ⟨queues, running, unconfigured⟩ := early
      rcases @Waiting.frame_eq session.host data copied pushed with
        ⟨_, packet, queuedBytes, result⟩ | ⟨refused, _⟩
      · intro awaited
        have host : (session.step (.frame data copied pushed)).host =
            ({ session.host with
              queue := session.host.queue ++ [packet]
              queuedBytes := queuedBytes }).postLocked := result
        apply unconfigured
        refine (awaited ?_ ?_).1
        · rw [host, Waiting.postLocked_queue]
          simp
        · rw [host, Waiting.postLocked_main]
          exact running
      · rw [queues] at refused
        cases refused
  | _ => exact absurd trivial early

/-- Frames wait only for a configured decoder, in every state of exactly those
runs in which no frame is queued, outside of `Error`, between an `Enable` or
`Reset` and the next accepted `Configure`. -/
theorem awaited_iff (actions : List Action) :
    Throughout Session.step Session.Awaited {} actions ↔
      Guarded Session.step Session.Expected {} actions :=
  @throughout_iff_guarded _ _ Session.step Session.Expected Session.Awaited
    (fun session => Waiting session.host session.configured)
    (fun _ waiting => waiting.awaited) (fun _ _ waiting expected => waiting.step expected)
    (fun _ _ _ early => not_awaited early) {} Waiting.initial actions

/-- The presenter is turned on while the session goes on: `Pump` handles that,
and thirteen frames arrive. -/
def turnedOnLate : List Action :=
  [.enable true, .pump, .enter false] ++ List.replicate 13 (.frame [0] true true)

/-- Twelve frames fill the queue, and the next one raises the error. -/
theorem queue_filled_without_decoder :
    ¬ Throughout Session.step Session.Awaited {} turnedOnLate ∧
      (run Session.step {} turnedOnLate).host.failed = true ∧
      (run Session.step {} turnedOnLate).configured = false ∧
      (run Session.step {} turnedOnLate).host.decoder = none := by
  refine ⟨fun awaited => ?_, by decide +kernel, by decide +kernel, by decide +kernel⟩
  have first := awaited.2.2.2.2.1 (by decide +kernel) (by decide +kernel)
  exact absurd first.1 (by decide +kernel)

end AirTizen.Presenter

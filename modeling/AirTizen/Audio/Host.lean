import AirTizen.Audio.Queue
import AirTizen.Library.Machine

/-!
# The audio device

`AudioHost` of `receiver_module.cc`.  `Open` runs on a worker thread and may
wait for `Configure`, which replaces the device on the main thread; every
critical section is one step.  An `Open` that finds its rate configured does
not look whether a later configuration has failed: then it answers zero without
sound, and otherwise never.
-/

namespace AirTizen.Audio

open CText Machine

/-- A `pp::Audio` that is not null. -/
structure Device where
  rate : Int
  /-- `StartPlayback` succeeded. -/
  started : Bool
  deriving DecidableEq

/-- An `Open` that waits for the condition. -/
structure Waiting where
  rate : Int
  channels : Int
  deriving DecidableEq

structure AudioHost where
  rate : Int := 0
  channels : Int := 0
  desired : Int := 0
  result : Int := -1
  opened : Bool := false
  closing : Bool := false
  pending : Bool := false
  /-- `audio_`, where `none` is null. -/
  audio : Option Device := none
  queue : AudioQueue := {}
  waiting : Option Waiting := none
  /-- `Configure` callbacks that wait for the main thread. -/
  scheduled : Nat := 0
  /-- The rate that `Configure` works on between its critical sections. -/
  configuring : Option Int := none

/-- What `Open` returns, with its arguments. -/
structure Reply where
  rate : Int
  channels : Int
  result : Int
  deriving DecidableEq

def AudioHost.accept (host : AudioHost) (channels : Int) : AudioHost :=
  { host with channels := channels, opened := true, queue := host.queue.openWith channels.toNat }

/-- The arguments that `Open` supports. -/
def supported (rate channels bits : Int) : Bool :=
  (rate == 44100 || rate == 48000) && (channels == 1 || channels == 2) && bits == 16

/-- `Open` up to its result or its wait. -/
def AudioHost.openWith (host : AudioHost) (rate channels bits : Int) : AudioHost × Option Reply :=
  if !supported rate channels bits then (host, some ⟨rate, channels, -1⟩)
  else if host.closing then (host, some ⟨rate, channels, -1⟩)
  else if host.opened && rate == host.rate && channels == host.channels then
    (host, some ⟨rate, channels, 0⟩)
  else if rate ≠ host.rate ∨ host.audio = none then
    ({ host with
        desired := rate, pending := true, scheduled := host.scheduled + 1
        waiting := some ⟨rate, channels⟩ }, none)
  else (host.accept channels, some ⟨rate, channels, 0⟩)

def AudioHost.wake (host : AudioHost) : AudioHost × Option Reply :=
  match host.waiting with
  | none => (host, none)
  | some ⟨rate, channels⟩ =>
      if host.pending && !host.closing then (host, none)
      else
        let host := { host with waiting := none }
        if host.closing ∨ host.result ≠ 0 then (host, some ⟨rate, channels, -1⟩)
        else (host.accept channels, some ⟨rate, channels, 0⟩)

/-- The first critical section of `Configure`. -/
def AudioHost.enter (host : AudioHost) : AudioHost :=
  let host := { host with scheduled := host.scheduled - 1 }
  if host.closing then host else { host with configuring := some host.desired }

/-- The rest of `Configure`: the old device gives way to a new one, which PPAPI
may refuse to create or to start. -/
def AudioHost.apply (host : AudioHost) (rate : Int) (created started : Bool) : AudioHost :=
  let result : Int := if created && started then 0 else -1
  { host with
    configuring := none
    audio := if created then some ⟨rate, started⟩ else none
    result := result
    rate := if result = 0 then rate else host.rate
    pending := false }

def AudioHost.close (host : AudioHost) : AudioHost :=
  { host with opened := false, queue := host.queue.close }

def AudioHost.shutdown (host : AudioHost) : AudioHost :=
  { host with
    closing := true, pending := false, scheduled := 0, audio := none, queue := host.queue.close }

/-- Calls of `Open` are serialised by their callers. -/
inductive HostEvent where
  | openWith (rate channels bits : Int)
  | wake
  | enter
  | apply (created started : Bool)
  | write (pcm : Option Bytes)
  | render (bytes : Nat)
  | close
  | shutdown

/-- A step that is not possible now changes nothing. -/
def AudioHost.step (host : AudioHost) : HostEvent → AudioHost × Option Reply
  | .openWith rate channels bits =>
      if host.waiting.isSome then (host, none) else host.openWith rate channels bits
  | .wake => host.wake
  | .enter =>
      (if 0 < host.scheduled ∧ host.configuring = none then host.enter else host, none)
  | .apply created started =>
      (match host.configuring with
        | none => host
        | some rate => host.apply rate created started, none)
  | .write pcm => ({ host with queue := (host.queue.write pcm).elim host.queue Prod.snd }, none)
  | .render bytes => ({ host with queue := (host.queue.render bytes).2 }, none)
  | .close => (host.close, none)
  | .shutdown => (if host.configuring = none then host.shutdown else host, none)

def AudioHost.next (host : AudioHost) (event : HostEvent) : AudioHost := (host.step event).1

/-- The device plays at the rate, and the queue takes frames of so many channels. -/
structure AudioHost.Sounds (host : AudioHost) (rate channels : Int) : Prop where
  device : ∃ device, host.audio = some device ∧ device.rate = rate ∧ device.started = true
  queue : host.queue.opened = true ∧ (host.queue.channels : Int) = channels

/-- An `Open` that this event ends with zero has sound. -/
def Successful (host : AudioHost) (event : HostEvent) : Prop :=
  ∀ reply ∈ (host.step event).2, reply.result = 0 →
    (host.next event).Sounds reply.rate reply.channels

/-- An `Open` that finds its rate configured comes after a configuration that
succeeded. -/
def Settled (host : AudioHost) : HostEvent → Prop
  | .openWith rate channels bits =>
      host.waiting = none → supported rate channels bits = true → host.closing = false →
        rate = host.rate → (host.opened = true ∧ channels = host.channels ∨ host.audio.isSome) →
          host.result = 0
  | _ => True

/-! ## What the fields say about the device -/

/-- The handshake before a shutdown: `result` tells whether the device plays at
`rate`, and a callback is outstanding only for an `Open` that waits. -/
structure Consistent (host : AudioHost) : Prop where
  success : host.result = 0 → ∃ device, host.audio = some device ∧ device.rate = host.rate ∧
    device.started = true
  failure : host.result ≠ 0 → ∀ device ∈ host.audio, device.started = false
  idle : host.waiting = none → host.scheduled = 0 ∧ host.configuring = none
  single : host.scheduled ≤ 1 ∧ (host.configuring.isSome = true → host.scheduled = 0)
  valid : ∀ waiting ∈ host.waiting, waiting.channels = 1 ∨ waiting.channels = 2
  asked : ∀ waiting ∈ host.waiting, host.desired = waiting.rate ∧
    ∀ rate ∈ host.configuring, rate = waiting.rate
  answered : ∀ waiting ∈ host.waiting, host.pending = false →
    host.scheduled = 0 ∧ host.configuring = none ∧ (host.result = 0 → host.rate = waiting.rate)
  queue : host.opened = true → host.queue.opened = true ∧
    (host.queue.channels : Int) = host.channels

theorem consistent_initial : Consistent {} where
  success zero := by cases zero
  failure _ device membership := by cases membership
  idle _ := ⟨rfl, rfl⟩
  single := ⟨Nat.zero_le _, fun configuring => by cases configuring⟩
  valid _ membership := by cases membership
  asked _ membership := by cases membership
  answered _ membership := by cases membership
  queue opened := by cases opened

theorem write_kept (queue : AudioQueue) (pcm : Option Bytes) :
    ((queue.write pcm).elim queue Prod.snd).opened = queue.opened ∧
      ((queue.write pcm).elim queue Prod.snd).channels = queue.channels := by
  unfold AudioQueue.write
  cases pcm with
  | none => exact ⟨rfl, rfl⟩
  | some input =>
      simp only [Option.bind_eq_bind]
      split
      · exact ⟨rfl, rfl⟩
      · cases remainder input.length queue.frameBytes with
        | none => exact ⟨rfl, rfl⟩
        | some misaligned =>
            simp only [Option.bind_some]
            split
            · exact ⟨rfl, rfl⟩
            · cases quotient input.length queue.frameBytes <;> exact ⟨rfl, rfl⟩

theorem render_kept (queue : AudioQueue) (bytes : Nat) :
    (queue.render bytes).2.opened = queue.opened ∧
      (queue.render bytes).2.channels = queue.channels := by
  unfold AudioQueue.render
  split
  · exact ⟨rfl, rfl⟩
  · exact ⟨rfl, rfl⟩

theorem openWith_queue (queue : AudioQueue) {channels : Int} (valid : channels = 1 ∨ channels = 2) :
    (queue.openWith channels.toNat).opened = true ∧
      ((queue.openWith channels.toNat).channels : Int) = channels := by
  rcases valid with rfl | rfl
  · exact ⟨rfl, rfl⟩
  · exact ⟨rfl, rfl⟩

theorem supported_channels {rate channels bits : Int}
    (valid : supported rate channels bits = true) : channels = 1 ∨ channels = 2 := by
  simp only [supported, Bool.and_eq_true, Bool.or_eq_true, beq_iff_eq] at valid
  exact valid.1.2

namespace Consistent

variable {host : AudioHost}

theorem accept (consistent : Consistent host) {channels : Int}
    (valid : channels = 1 ∨ channels = 2) : Consistent (host.accept channels) :=
  { consistent with queue := fun _ => openWith_queue host.queue valid }

theorem openWith (consistent : Consistent host) (free : host.waiting = none)
    (rate channels bits : Int) : Consistent (host.openWith rate channels bits).1 := by
  unfold AudioHost.openWith
  by_cases valid : supported rate channels bits = true
  · rw [if_neg (by simp [valid])]
    by_cases closing : host.closing = true
    · rw [if_pos closing]
      exact consistent
    rw [if_neg closing]
    by_cases same : (host.opened && rate == host.rate && channels == host.channels) = true
    · rw [if_pos same]
      exact consistent
    rw [if_neg same]
    by_cases configure : rate ≠ host.rate ∨ host.audio = none
    · rw [if_pos configure]
      obtain ⟨scheduled, configuring⟩ := consistent.idle free
      exact
        { success := consistent.success
          failure := consistent.failure
          idle := fun absent => by cases absent
          single := by simp [scheduled, configuring]
          valid := by
            rintro _ ⟨⟩
            exact supported_channels valid
          asked := by
            rintro _ ⟨⟩
            exact ⟨rfl, by simp [configuring]⟩
          answered := by
            rintro _ ⟨⟩ answered
            cases answered
          queue := consistent.queue }
    · rw [if_neg configure]
      exact consistent.accept (supported_channels valid)
  · rw [if_pos (by simpa using valid)]
    exact consistent

theorem wake (consistent : Consistent host) (running : host.closing = false) :
    Consistent host.wake.1 := by
  unfold AudioHost.wake
  cases known : host.waiting with
  | none => exact consistent
  | some waiting =>
      simp only
      by_cases pending : host.pending = true
      · rw [if_pos (by simp [pending, running])]
        exact consistent
      · rw [if_neg (by simp [pending])]
        simp only [Bool.not_eq_true] at pending
        obtain ⟨scheduled, configuring, _⟩ := consistent.answered waiting known pending
        have free : Consistent { host with waiting := none } :=
          { success := consistent.success
            failure := consistent.failure
            idle := fun _ => ⟨scheduled, configuring⟩
            single := consistent.single
            valid := fun _ membership => by cases membership
            asked := fun _ membership => by cases membership
            answered := fun _ membership => by cases membership
            queue := consistent.queue }
        split
        · exact free
        · exact free.accept (consistent.valid waiting known)

theorem enter (consistent : Consistent host) (running : host.closing = false)
    (scheduled : 0 < host.scheduled) :
    Consistent host.enter := by
  have busy : host.waiting ≠ none := by
    intro free
    have none := (consistent.idle free).1
    omega
  have single := consistent.single.1
  unfold AudioHost.enter
  rw [if_neg (by simp [running])]
  exact
    { success := consistent.success
      failure := consistent.failure
      idle := fun free => absurd free busy
      single := by simp; omega
      valid := consistent.valid
      asked := by
        intro waiting membership
        refine ⟨(consistent.asked waiting membership).1, ?_⟩
        rintro _ ⟨⟩
        exact (consistent.asked waiting membership).1
      answered := by
        intro waiting membership answered
        have none := (consistent.answered waiting membership answered).1
        omega
      queue := consistent.queue }

theorem apply (consistent : Consistent host) {rate : Int}
    (configuring : host.configuring = some rate) (created started : Bool) :
    Consistent (host.apply rate created started) := by
  have scheduled := consistent.single.2 (by rw [configuring]; rfl)
  have asked : ∀ waiting ∈ host.waiting, rate = waiting.rate := fun waiting membership =>
    (consistent.asked waiting membership).2 rate configuring
  unfold AudioHost.apply
  exact
    { success := by
        intro zero
        cases created with
        | false => cases zero
        | true =>
            cases started with
            | false => cases zero
            | true => exact ⟨_, rfl, rfl, rfl⟩
      failure := by
        intro failed device membership
        cases created with
        | false => cases membership
        | true =>
            cases started with
            | false => cases membership; rfl
            | true => exact absurd rfl failed
      idle := fun _ => ⟨scheduled, rfl⟩
      single := ⟨consistent.single.1, fun _ => scheduled⟩
      valid := consistent.valid
      asked := by
        intro waiting membership
        exact ⟨(consistent.asked waiting membership).1, fun _ none => by cases none⟩
      answered := by
        intro waiting membership _
        refine ⟨scheduled, rfl, fun zero => ?_⟩
        simp only at zero ⊢
        rw [if_pos zero]
        exact asked waiting membership
      queue := consistent.queue }

theorem close (consistent : Consistent host) : Consistent host.close :=
  { consistent with queue := fun opened => by cases opened }

theorem withQueue (consistent : Consistent host) {queue : AudioQueue}
    (opened : queue.opened = host.queue.opened) (channels : queue.channels = host.queue.channels) :
    Consistent { host with queue := queue } :=
  { consistent with
    queue := by
      intro isOpen
      rw [opened, channels]
      exact consistent.queue isOpen }

/-- An event either shuts the host down or keeps the handshake consistent. -/
theorem next (consistent : Consistent host) (running : host.closing = false)
    (event : HostEvent) : (host.next event).closing = true ∨ Consistent (host.next event) := by
  unfold AudioHost.next AudioHost.step
  cases event with
  | openWith rate channels bits =>
      right
      simp only
      split
      · exact consistent
      next free => exact consistent.openWith (by simpa using free) rate channels bits
  | wake => exact .inr (consistent.wake running)
  | enter =>
      right
      simp only
      split
      next possible => exact consistent.enter running possible.1
      · exact consistent
  | apply created started =>
      right
      cases configuring : host.configuring with
      | none => exact consistent
      | some rate => exact consistent.apply configuring created started
  | write pcm =>
      obtain ⟨opened, channels⟩ := write_kept host.queue pcm
      exact .inr (consistent.withQueue opened channels)
  | render bytes =>
      obtain ⟨opened, channels⟩ := render_kept host.queue bytes
      exact .inr (consistent.withQueue opened channels)
  | close => exact .inr consistent.close
  | shutdown =>
      simp only
      split
      · exact .inl rfl
      · exact .inr consistent

/-- The device plays at the configured rate exactly if the last configuration
succeeded. -/
theorem device_iff (consistent : Consistent host) :
    (∃ device, host.audio = some device ∧ device.rate = host.rate ∧ device.started = true) ↔
      host.result = 0 := by
  constructor
  · rintro ⟨device, known, _, started⟩
    by_contra failed
    have silent := consistent.failure failed device known
    exact absurd (started.symm.trans silent) (by decide)
  · exact consistent.success

theorem successful_openWith (consistent : Consistent host) (rate channels bits : Int) :
    (∀ reply ∈ (host.openWith rate channels bits).2, reply.result = 0 →
      (host.openWith rate channels bits).1.Sounds reply.rate reply.channels) ↔
    (supported rate channels bits = true → host.closing = false → rate = host.rate →
      (host.opened = true ∧ channels = host.channels ∨ host.audio.isSome) → host.result = 0) := by
  unfold AudioHost.openWith
  by_cases valid : supported rate channels bits = true
  swap
  · rw [if_pos (by simpa using valid)]
    refine iff_of_true ?_ (fun supported => absurd supported valid)
    rintro _ ⟨⟩ zero
    cases zero
  rw [if_neg (by simp [valid])]
  by_cases closing : host.closing = true
  · rw [if_pos closing]
    refine iff_of_true ?_ (fun _ running => by simp [closing] at running)
    rintro _ ⟨⟩ zero
    cases zero
  rw [if_neg closing]
  simp only [Bool.not_eq_true] at closing
  by_cases same : (host.opened && rate == host.rate && channels == host.channels) = true
  · rw [if_pos same]
    simp only [Bool.and_eq_true, beq_iff_eq] at same
    obtain ⟨⟨opened, rfl⟩, rfl⟩ := same
    rw [← consistent.device_iff]
    constructor
    · intro successful _ _ _ _
      exact (successful _ rfl rfl).device
    · rintro settled _ ⟨⟩ _
      exact ⟨settled valid closing rfl (.inl ⟨opened, rfl⟩), consistent.queue opened⟩
  rw [if_neg same]
  simp only [Bool.and_eq_true, beq_iff_eq, not_and] at same
  by_cases configure : rate ≠ host.rate ∨ host.audio = none
  · rw [if_pos configure]
    refine iff_of_true (fun _ none => by cases none) ?_
    rintro _ _ rfl (⟨opened, other⟩ | present)
    · exact absurd other (same ⟨opened, rfl⟩)
    · rcases configure with different | absent
      · exact absurd rfl different
      · simp [absent] at present
  · rw [if_neg configure]
    rw [not_or, not_not] at configure
    obtain ⟨rfl, present⟩ := configure
    rw [← consistent.device_iff]
    constructor
    · intro successful _ _ _ _
      exact (successful _ rfl rfl).device
    · rintro settled _ ⟨⟩ _
      refine ⟨settled valid closing rfl (.inr (Option.isSome_iff_ne_none.mpr present)), ?_⟩
      exact openWith_queue host.queue (supported_channels valid)

theorem successful_wake (consistent : Consistent host) (running : host.closing = false) :
    ∀ reply ∈ host.wake.2, reply.result = 0 → host.wake.1.Sounds reply.rate reply.channels := by
  unfold AudioHost.wake
  cases known : host.waiting with
  | none => exact fun _ none => by cases none
  | some waiting =>
      simp only
      by_cases pending : (host.pending && !host.closing) = true
      · rw [if_pos pending]
        exact fun _ none => by cases none
      · rw [if_neg pending]
        have answered : host.pending = false := by simpa [running] using pending
        obtain ⟨_, _, configured⟩ := consistent.answered waiting known answered
        by_cases failed : host.closing = true ∨ host.result ≠ 0
        · rw [if_pos failed]
          rintro _ ⟨⟩ zero
          cases zero
        · rw [if_neg failed]
          rw [not_or, not_not] at failed
          rintro _ ⟨⟩ _
          refine ⟨?_, openWith_queue host.queue (consistent.valid waiting known)⟩
          rw [← configured failed.2]
          exact consistent.success failed.2

theorem successful_iff (consistent : Consistent host) (running : host.closing = false)
    (event : HostEvent) : Successful host event ↔ Settled host event := by
  cases event with
  | openWith rate channels bits =>
      unfold Successful AudioHost.next AudioHost.step Settled
      by_cases free : host.waiting = none
      · simp only [free, Option.isSome_none, Bool.false_eq_true, if_false, true_implies]
        exact consistent.successful_openWith rate channels bits
      · have busy : host.waiting.isSome = true := Option.isSome_iff_ne_none.mpr free
        simp only [busy, if_true]
        exact iff_of_true (fun _ none => by cases none) (fun none => absurd none free)
  | wake => exact iff_of_true (consistent.successful_wake running) trivial
  | _ => exact iff_of_true (fun _ none => by cases none) trivial

end Consistent

section Closing

variable {host : AudioHost}

theorem openWith_closing (closing : host.closing = true) (rate channels bits : Int) :
    host.openWith rate channels bits = (host, some ⟨rate, channels, -1⟩) := by
  unfold AudioHost.openWith
  rw [if_pos closing, ite_self]

theorem closing_reply (closing : host.closing = true) (event : HostEvent) :
    ∀ reply ∈ (host.step event).2, reply.result ≠ 0 := by
  intro reply membership
  unfold AudioHost.step at membership
  cases event with
  | openWith rate channels bits =>
      simp only [openWith_closing closing] at membership
      split at membership
      · cases membership
      · cases membership
        exact fun zero => by cases zero
  | wake =>
      unfold AudioHost.wake at membership
      cases known : host.waiting with
      | none => simp [known] at membership
      | some waiting =>
          simp only [known, closing, Bool.not_true, Bool.and_false, Bool.false_eq_true, if_false,
            true_or, if_true] at membership
          cases membership
          exact fun zero => by cases zero
  | _ => cases membership

theorem closing_next (closing : host.closing = true) (event : HostEvent) :
    (host.next event).closing = true := by
  unfold AudioHost.next AudioHost.step
  cases event with
  | openWith rate channels bits =>
      simp only [openWith_closing closing]
      split <;> exact closing
  | wake =>
      unfold AudioHost.wake
      cases host.waiting with
      | none => exact closing
      | some waiting => simp [closing]
  | enter =>
      simp only
      split
      · simp [AudioHost.enter, closing]
      · exact closing
  | apply created started => cases host.configuring <;> exact closing
  | write pcm => exact closing
  | render bytes => exact closing
  | close => exact closing
  | shutdown =>
      simp only
      split
      · rfl
      · exact closing

theorem closing_settled (closing : host.closing = true) (event : HostEvent) :
    Settled host event := by
  cases event with
  | openWith rate channels bits =>
      intro _ _ running
      simp [closing] at running
  | _ => trivial

end Closing

def Operating (host : AudioHost) : Prop := host.closing = true ∨ Consistent host

theorem Operating.next {host : AudioHost} (operating : Operating host) (event : HostEvent) :
    Operating (host.next event) := by
  by_cases closing : host.closing = true
  · exact .inl (closing_next closing event)
  · exact (operating.resolve_left closing).next (by simpa using closing) event

theorem Operating.successful_iff {host : AudioHost} (operating : Operating host)
    (event : HostEvent) : Successful host event ↔ Settled host event := by
  by_cases closing : host.closing = true
  · refine iff_of_true ?_ (closing_settled closing event)
    intro reply membership zero
    exact absurd zero (closing_reply closing event reply membership)
  · exact (operating.resolve_left closing).successful_iff (by simpa using closing) event

/-- In every run, an `Open` answers zero only with sound exactly if no `Open`
finds its rate configured after a configuration that failed. -/
theorem open_has_sound_iff (events : List HostEvent) :
    Guarded AudioHost.next Successful {} events ↔ Guarded AudioHost.next Settled {} events := by
  apply @guarded_congr _ _ AudioHost.next _ _ Operating
  · exact fun operating event => operating.next event
  · exact .inr consistent_initial
  · exact fun host event operating => operating.successful_iff event

def failedReconfiguration : List HostEvent :=
  [.openWith 44100 2 16, .enter, .apply true true, .wake,
    .openWith 48000 2 16, .enter, .apply true false, .wake]

/-- Asked for the first rate again, `Open` answers zero although nothing plays. -/
theorem failed_reconfiguration_forgotten :
    ¬ ∀ events : List HostEvent, Guarded AudioHost.next Successful {} events := by
  intro successful
  have again := (guarded_append.mp
    (successful (failedReconfiguration ++ [.openWith 44100 2 16]))).2.1
  have reply : ((run AudioHost.next {} failedReconfiguration).step (.openWith 44100 2 16)).2 =
      some ⟨44100, 2, 0⟩ := by decide +kernel
  obtain ⟨device, current, _, started⟩ := (again _ reply rfl).device
  have audio : ((run AudioHost.next {} failedReconfiguration).next (.openWith 44100 2 16)).audio =
      some ⟨48000, false⟩ := by decide +kernel
  rw [audio] at current
  cases current
  cases started

end AirTizen.Audio

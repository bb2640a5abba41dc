import Mathlib.Data.List.TakeWhile
import AirTizen.Mirror.ClockRestart
import AirTizen.Mirror.Framing

/-!
# The end of a connection

`raop_rtp_mirror_thread` with its `running` flag and the video store behind its
callbacks.  A connection that ends while the thread reads from it is closed with
a `video_flush`.  The exits out of the loop close the client without one: the
picture of the connection stays in the store.
-/

namespace AirTizen.Mirror

open CText Machine

/-! ## What is seen of the thread -/

inductive Mark where
  /-- `accept` returns a client. -/
  | accepted
  | process (callback : Callback)
  | flush
  | returned
  deriving DecidableEq

def Mark.ends : Mark → Bool
  | .accepted | .returned => true
  | .process _ | .flush => false

/-- Behind every connection that is over there is one `video_flush`, after its
last `video_process`. -/
def Cleared (marks : List Mark) : Prop :=
  ∀ before after, marks = before ++ .accepted :: after → (∃ mark ∈ after, mark.ends = true) →
    ∃ callbacks : List Callback,
      after.takeWhile (fun mark => !mark.ends) = callbacks.map .process ++ [.flush]

def Flushed (marks : List Mark) : Prop :=
  ∀ before after, marks = before ++ .accepted :: after → (∀ mark ∈ after, mark.ends = false) →
    ∃ callbacks : List Callback, after = callbacks.map .process ++ [.flush]

def Opened (marks : List Mark) : Prop :=
  ∃ before, ∃ callbacks : List Callback, marks = before ++ .accepted :: callbacks.map .process

theorem process_ends (callbacks : List Callback) :
    ∀ mark ∈ callbacks.map Mark.process, mark.ends = false := by
  intro mark membership
  obtain ⟨callback, _, rfl⟩ := List.mem_map.mp membership
  rfl

theorem cleared_nil : Cleared [] := by
  intro before after split
  exact absurd split.symm (List.append_ne_nil_of_right_ne_nil before (List.cons_ne_nil _ _))

theorem flushed_nil : Flushed [] := by
  intro before after split
  exact absurd split.symm (List.append_ne_nil_of_right_ne_nil before (List.cons_ne_nil _ _))

theorem last_accepted {first second later other : List Mark}
    (same : first ++ .accepted :: later = second ++ .accepted :: other)
    (open_ : ∀ mark ∈ later, mark.ends = false) (openOther : ∀ mark ∈ other, mark.ends = false) :
    later = other := by
  rcases List.append_eq_append_iff.mp same with ⟨between, _, tail⟩ | ⟨between, _, tail⟩
  · cases between with
    | nil => exact (List.cons.inj tail).2
    | cons mark between =>
        have inLater : Mark.accepted ∈ later := by
          rw [(List.cons.inj tail).2]
          simp
        cases open_ _ inLater
  · cases between with
    | nil => exact (List.cons.inj tail).2.symm
    | cons mark between =>
        have inOther : Mark.accepted ∈ other := by
          rw [(List.cons.inj tail).2]
          simp
        cases openOther _ inOther

theorem Cleared.concat {marks : List Mark} (cleared : Cleared marks) {mark : Mark}
    (flushed : mark.ends = true → Flushed marks) : Cleared (marks ++ [mark]) := by
  intro before after split ended
  rcases List.eq_nil_or_concat after with rfl | ⟨later, last, rfl⟩
  · obtain ⟨_, membership, _⟩ := ended
    cases membership
  · rw [List.concat_eq_append, ← List.cons_append, ← List.append_assoc] at split
    obtain ⟨earlier, same⟩ := List.append_inj' split rfl
    cases same
    rw [List.concat_eq_append] at ended ⊢
    by_cases ends : ∃ mark ∈ later, mark.ends = true
    · obtain ⟨callbacks, segment⟩ := cleared before later earlier ends
      refine ⟨callbacks, ?_⟩
      rw [List.takeWhile_append, if_neg, segment]
      intro whole
      obtain ⟨other, membership, ending⟩ := ends
      have every := (List.takeWhile_prefix _).eq_of_length whole
      rw [← every] at membership
      have goesOn := List.mem_takeWhile_imp membership
      rw [ending] at goesOn
      cases goesOn
    · have open_ : ∀ mark ∈ later, mark.ends = false := fun other membership =>
        Bool.eq_false_iff.mpr fun ending => ends ⟨other, membership, ending⟩
      have ending : mark.ends = true := by
        obtain ⟨other, membership, ending⟩ := ended
        rcases List.mem_append.mp membership with inLater | isLast
        · exact absurd ⟨other, inLater, ending⟩ ends
        · rwa [← List.mem_singleton.mp isLast]
      obtain ⟨callbacks, segment⟩ := flushed ending before later earlier open_
      refine ⟨callbacks, ?_⟩
      rw [List.takeWhile_append_of_pos fun other membership => by rw [open_ other membership]; rfl]
      simp [ending, segment]

theorem opened_accepted (marks : List Mark) : Opened (marks ++ [.accepted]) := ⟨marks, [], rfl⟩

theorem Opened.process {marks : List Mark} (opened : Opened marks) (callback : Callback) :
    Opened (marks ++ [.process callback]) := by
  obtain ⟨before, callbacks, rfl⟩ := opened
  exact ⟨before, callbacks ++ [callback], by simp⟩

theorem Opened.flush {marks : List Mark} (opened : Opened marks) : Flushed (marks ++ [.flush]) := by
  obtain ⟨before, callbacks, rfl⟩ := opened
  intro other after split open_
  rw [List.append_assoc, List.cons_append] at split
  refine ⟨callbacks, (last_accepted split ?_ open_).symm⟩
  intro mark membership
  rcases List.mem_append.mp membership with call | isFlush
  · exact process_ends callbacks mark call
  · rw [List.mem_singleton.mp isFlush]
    rfl

theorem Opened.not_cleared {marks : List Mark} (opened : Opened marks) :
    ¬ Cleared (marks ++ [.returned]) := by
  obtain ⟨before, callbacks, rfl⟩ := opened
  intro cleared
  obtain ⟨others, segment⟩ := cleared before (callbacks.map .process ++ [.returned])
    (by simp) ⟨.returned, by simp, rfl⟩
  rw [List.takeWhile_append_of_pos fun mark membership => by
    rw [process_ends callbacks mark membership]; rfl] at segment
  have flushed : Mark.flush ∈ callbacks.map Mark.process ++ [] := by
    have inSegment : Mark.flush ∈ others.map Mark.process ++ [Mark.flush] := by simp
    rwa [← segment] at inSegment
  rw [List.append_nil] at flushed
  obtain ⟨_, _, impossible⟩ := List.mem_map.mp flushed
  cases impossible

/-! ## The thread with its flag -/

/-- What the allocator and libav answer while the thread runs. -/
structure Answers where
  /-- `malloc` in the thread. -/
  memory : Nat → Bool
  /-- The video store during a callback, by the number of marks before it. -/
  allocated : Nat → Bool
  run : Nat → Video.FrameRun

/-- Where the thread is on its way from one look at `running` to the next. -/
inductive Point where
  /-- At the head of its loop. -/
  | loop
  /-- At the head of the loop of `airtizen_mirror_read`. -/
  | read
  /-- In `select`, `accept` or `recv`. -/
  | wait
  deriving DecidableEq

structure Receiver where
  thread : Thread
  point : Point := .loop
  running : Bool := true
  store : Video.Store := .initial
  marks : List Mark := []

def Output.mark : Output → Mark
  | .process callback => .process callback
  | .flush => .flush

/-- `cb_video_process` and `cb_video_flush`. -/
def Answers.call (answers : Answers) (marks : Nat) (store : Video.Store) : Output → Video.Store
  | .process callback =>
      match videoCall (answers.allocated marks) (answers.run marks) callback with
      | some call => Video.step store call
      | none => store
  | .flush => Video.reset store

def Thread.awaits (thread : Thread) : Event → Bool
  | .timeout | .interrupted =>
      match thread.phase with
      | .accepting | .header _ | .payload _ _ => true
      | .stopped => false
  | .connected | .listenerFailed =>
      match thread.phase with
      | .accepting => true
      | .header _ | .payload _ _ | .stopped => false
  | .received bytes => thread.reading && bytes != []
  | .ended => thread.reading

/-- Where the thread goes on behind an answer. -/
def Point.behind (event : Event) (thread : Thread) : Point :=
  match event, thread.phase with
  | .timeout, .header _ | .timeout, .payload _ _ => .read
  | .interrupted, .header _ | .interrupted, .payload _ _ => .read
  | .connected, _ => .read
  | .received _, .payload _ _ => .read
  | .received _, .header got => if got = [] then .loop else .read
  | _, _ => .loop

def Event.opening : Event → List Mark
  | .connected => [.accepted]
  | .timeout | .interrupted | .listenerFailed | .received _ | .ended => []

def Thread.ending (thread : Thread) : List Mark :=
  match thread.phase with
  | .stopped => [.returned]
  | .accepting | .header _ | .payload _ _ => []

def marksOf (event : Event) (outputs : List Output) (thread : Thread) : List Mark :=
  event.opening ++ outputs.map Output.mark ++ thread.ending

def Receiver.answer (answers : Answers) (receiver : Receiver) (event : Event) : Receiver :=
  if receiver.point = .wait ∧ receiver.thread.awaits event = true then
    let thread := (receiver.thread.step answers.memory event).1
    let outputs := (receiver.thread.step answers.memory event).2
    { receiver with
      thread := thread
      point := .behind event thread
      store := outputs.foldl (answers.call receiver.marks.length) receiver.store
      marks := receiver.marks ++ marksOf event outputs thread }
  else receiver

def Receiver.leave (receiver : Receiver) : Receiver :=
  { receiver with
    thread := { receiver.thread with phase := .stopped }
    marks := receiver.marks ++ [.returned] }

/-- `airtizen_mirror_read` fails. -/
def Receiver.close (receiver : Receiver) : Receiver :=
  { receiver with
    thread := receiver.thread.close.1
    point := .loop
    store := Video.reset receiver.store
    marks := receiver.marks ++ [.flush] }

/-- The thread looks at `running`. -/
def Receiver.check (receiver : Receiver) : Receiver :=
  match receiver.point with
  | .loop =>
      match receiver.thread.phase with
      | .accepting => if receiver.running then { receiver with point := .wait } else receiver.leave
      | .header _ | .payload _ _ =>
          if receiver.running then { receiver with point := .read } else receiver.leave
      | .stopped => receiver
  | .read =>
      if receiver.thread.reading then
        if receiver.running then { receiver with point := .wait } else receiver.close
      else receiver
  | .wait => receiver

inductive Action where
  | check
  | answer (event : Event)
  /-- `running` is cleared by another thread. -/
  | stop

def Receiver.step (answers : Answers) (receiver : Receiver) : Action → Receiver
  | .check => receiver.check
  | .answer event => receiver.answer answers event
  | .stop => { receiver with running := false }

def Receiver.start (worker : Worker) : Receiver := { thread := { worker := worker } }

/-! ## Where the thread stays in its loop -/

/-- `airtizen_h264_frame` or `airtizen_h264_config` accepts the payload. -/
def Packet.Valid (cipher : Cipher) (packet : Packet) : Prop :=
  (packet.type = 0 → 0 ≤ (h264Frame (cipher.decrypt packet.payload).1).1) ∧
    (packet.type = 1 → h264Config packet.payload (packet.size + 2048) ≠ [])

/-- A header or a payload that these bytes complete is one to go on with. -/
def Thread.Takes (memory : Nat → Bool) (thread : Thread) (bytes : Bytes) : Prop :=
  match thread.phase with
  | .header got =>
      (got ++ bytes).length = headerBytes →
        ¬ Oversized (got ++ bytes) ∧
          (headerSize (got ++ bytes) = 0 ∨ memory thread.mallocs = true)
  | .payload header got =>
      ∀ packet : Packet, packet.header = header → packet.payload = got ++ bytes →
        (packet.converted = true → memory thread.mallocs = true) ∧
          packet.Valid thread.worker.cipher
  | .accepting | .stopped => True

/-- The step does not leave the loop with an open client. -/
def Receiver.Admits (answers : Answers) (receiver : Receiver) : Action → Prop
  | .check =>
      ¬ (receiver.point = .loop ∧ receiver.running = false ∧ receiver.thread.reading = true)
  | .answer (.received bytes) =>
      receiver.point = .wait →
        receiver.thread.Takes answers.memory (bytes.take receiver.thread.wanted)
  | .answer _ | .stop => True

/-- The buffers of `airtizen_mirror_read` are not full. -/
structure Thread.Reads (thread : Thread) : Prop where
  header : ∀ got, thread.phase = .header got → got.length < headerBytes
  payload : ∀ header got, thread.phase = .payload header got →
    header.length = headerBytes ∧ ¬ Oversized header ∧ got.length < headerSize header

theorem openPacket_isSome {allocated : Bool} {cipher : Cipher} {packet : Packet}
    (fits : ¬ Oversized packet.header) (nonempty : packet.size ≠ 0) :
    (openPacket allocated cipher packet).isSome = true ↔
      allocated = true ∧ packet.Valid cipher := by
  have sized : ¬ (2 * 1024 * 1024 < packet.size ∨ packet.type = 1 ∧ 65536 < packet.size) := fits
  rw [openPacket, if_neg sized, if_neg nonempty, Packet.Valid]
  cases allocated with
  | false => simp
  | true =>
      by_cases unit : packet.type = 0
      · by_cases refused : (h264Frame (cipher.decrypt packet.payload).1).1 < 0
        · simp [unit, refused]
        · simp [unit, refused, Int.not_lt.mp refused]
      · by_cases config : packet.type = 1
        · by_cases refused : h264Config packet.payload (packet.size + 2048) = []
          · simp [config, refused]
          · simp [config, refused]
        · simp [unit, config]

theorem packetRead_cases (memory : Nat → Bool) (thread : Thread) {packet : Packet}
    (fits : ¬ Oversized packet.header) (nonempty : packet.size ≠ 0) :
    ((packet.converted = true → memory thread.mallocs = true) ∧
        packet.Valid thread.worker.cipher ∧
        ∃ next, ∃ callback : Option Callback,
          thread.packetRead memory packet = (next, callback.toList.map Output.process) ∧
            next.phase = .header []) ∨
      (¬ ((packet.converted = true → memory thread.mallocs = true) ∧
          packet.Valid thread.worker.cipher) ∧
        ∃ next, thread.packetRead memory packet = (next, []) ∧ next.phase = .stopped) := by
  have room : (!packet.converted || memory thread.mallocs) = true ↔
      (packet.converted = true → memory thread.mallocs = true) := by
    cases packet.converted <;> simp
  have taken := @openPacket_isSome (!packet.converted || memory thread.mallocs)
    thread.worker.cipher packet fits nonempty
  rw [room] at taken
  unfold Thread.packetRead Worker.receive
  cases opened : openPacket (!packet.converted || memory thread.mallocs) thread.worker.cipher
      packet with
  | none =>
      right
      rw [opened] at taken
      exact ⟨fun valid => Bool.false_ne_true (taken.mpr valid), _, rfl, rfl⟩
  | some result =>
      left
      rw [opened] at taken
      obtain ⟨allocated, valid⟩ := taken.mp rfl
      obtain ⟨message, cipher⟩ := result
      exact ⟨allocated, valid, _, (rebase thread.worker.clock message).2, rfl, rfl⟩

theorem reads_header (worker : Worker) (mallocs : Nat) {got : Bytes}
    (room : got.length < headerBytes) : Thread.Reads ⟨.header got, worker, mallocs⟩ where
  header := by
    intro other same
    cases same
    exact room
  payload := by
    intro _ _ same
    cases same

theorem reads_payload (worker : Worker) (mallocs : Nat) {header got : Bytes}
    (whole : header.length = headerBytes) (fits : ¬ Oversized header)
    (room : got.length < headerSize header) :
    Thread.Reads ⟨.payload header got, worker, mallocs⟩ where
  header := by
    intro _ same
    cases same
  payload := by
    intro _ _ same
    cases same
    exact ⟨whole, fits, room⟩

theorem headerRead_cases (memory : Nat → Bool) (thread : Thread) {header : Bytes}
    (whole : header.length = headerBytes) :
    (¬ Oversized header ∧ (headerSize header = 0 ∨ memory thread.mallocs = true) ∧
        (thread.headerRead memory header).reading = true ∧
        (thread.headerRead memory header).Reads) ∨
      (¬ (¬ Oversized header ∧ (headerSize header = 0 ∨ memory thread.mallocs = true)) ∧
        (thread.headerRead memory header).phase = .stopped) := by
  unfold Thread.headerRead
  by_cases oversized : Oversized header
  · right
    rw [if_pos oversized]
    exact ⟨fun taken => taken.1 oversized, rfl⟩
  · rw [if_neg oversized]
    by_cases empty : headerSize header = 0
    · left
      rw [if_pos empty]
      exact ⟨oversized, .inl empty, rfl, reads_header _ _ (by decide)⟩
    · rw [if_neg empty]
      cases room : memory thread.mallocs with
      | false =>
          right
          refine ⟨fun taken => ?_, rfl⟩
          rcases taken.2 with nothing | allocated
          · exact empty nothing
          · cases allocated
      | true =>
          left
          exact ⟨oversized, .inr rfl, rfl,
            reads_payload _ _ whole oversized (Nat.pos_of_ne_zero empty)⟩

/-- What the bytes do that `recv` returns: they are taken, or the thread leaves
its loop. -/
theorem receive_cases (memory : Nat → Bool) {thread : Thread} (reads : thread.Reads)
    (reading : thread.reading = true) {bytes : Bytes} (limit : bytes.length ≤ thread.wanted) :
    (thread.Takes memory bytes ∧
        ∃ next, ∃ callback : Option Callback,
          thread.receive memory bytes = (next, callback.toList.map Output.process) ∧
            next.reading = true ∧ next.Reads) ∨
      (¬ thread.Takes memory bytes ∧
        ∃ next, thread.receive memory bytes = (next, []) ∧ next.phase = .stopped) := by
  obtain ⟨phase, worker, mallocs⟩ := thread
  cases phase with
  | accepting => cases reading
  | stopped => cases reading
  | header got =>
      have room := reads.header got rfl
      simp only [Thread.wanted] at limit
      simp only [Thread.receive, Thread.Takes]
      by_cases short : (got ++ bytes).length < headerBytes
      · left
        rw [if_pos short]
        exact ⟨fun whole => absurd whole (Nat.ne_of_lt short), _, none, rfl, rfl,
          reads_header worker mallocs short⟩
      · have whole : (got ++ bytes).length = headerBytes := by
          rw [List.length_append] at short ⊢
          omega
        rw [if_neg short]
        rcases headerRead_cases memory ⟨.header got, worker, mallocs⟩ whole with
          ⟨fits, room, reading, reads⟩ | ⟨refused, stopped⟩
        · exact .inl ⟨fun _ => ⟨fits, room⟩, _, none, rfl, reading, reads⟩
        · exact .inr ⟨fun taken => refused (taken whole), _, rfl, stopped⟩
  | payload header got =>
      obtain ⟨wholeHeader, fits, room⟩ := reads.payload header got rfl
      simp only [Thread.wanted] at limit
      simp only [Thread.receive, Thread.Takes]
      by_cases whole : header.length = headerBytes ∧ (got ++ bytes).length = headerSize header
      · have nonempty : headerSize header ≠ 0 := Nat.ne_of_gt (Nat.zero_lt_of_lt room)
        rw [dif_pos whole]
        rcases @packetRead_cases memory ⟨.payload header got, worker, mallocs⟩
            ⟨header, got ++ bytes, whole.1, whole.2⟩ fits nonempty
          with ⟨allocated, valid, next, callback, read, phase⟩ | ⟨refused, next, read, stopped⟩
        · obtain ⟨_, after, mallocsAfter⟩ := next
          cases phase
          refine .inl ⟨?_, _, callback, read, rfl,
            reads_header after mallocsAfter (by decide)⟩
          rintro ⟨_, _, _, _⟩ rfl rfl
          exact ⟨allocated, valid⟩
        · exact .inr ⟨fun taken => refused (taken _ rfl rfl), next, read, stopped⟩
      · left
        rw [dif_neg whole]
        refine ⟨?_, _, none, rfl, rfl, reads_payload worker mallocs wholeHeader fits ?_⟩
        · rintro ⟨_, _, headerLength, payloadLength⟩ rfl rfl
          exact absurd ⟨headerLength, payloadLength⟩ whole
        · have notFull := not_and.mp whole wholeHeader
          rw [List.length_append] at notFull ⊢
          omega

/-! ## Connections -/

inductive Activity where
  | idle
  | connected
  | returned
  deriving DecidableEq

def Thread.activity (thread : Thread) : Activity :=
  match thread.phase with
  | .accepting => .idle
  | .header _ | .payload _ _ => .connected
  | .stopped => .returned

structure Channel where
  activity : Activity
  marks : List Mark
  store : Video.Store

def Receiver.channel (receiver : Receiver) : Channel :=
  ⟨receiver.thread.activity, receiver.marks, receiver.store⟩

inductive Change : Channel → Channel → Prop where
  | stays (channel : Channel) : Change channel channel
  | opens (marks : List Mark) (store : Video.Store) :
      Change ⟨.idle, marks, store⟩ ⟨.connected, marks ++ [.accepted], store⟩
  | calls (marks : List Mark) (store next : Video.Store) (callback : Callback) :
      Change ⟨.connected, marks, store⟩ ⟨.connected, marks ++ [.process callback], next⟩
  | closes (marks : List Mark) (store : Video.Store) :
      Change ⟨.connected, marks, store⟩ ⟨.idle, marks ++ [.flush], Video.reset store⟩
  | leaves (marks : List Mark) (store : Video.Store) :
      Change ⟨.idle, marks, store⟩ ⟨.returned, marks ++ [.returned], store⟩

inductive Abandons : Channel → Channel → Prop where
  | returns (marks : List Mark) (store : Video.Store) :
      Abandons ⟨.connected, marks, store⟩ ⟨.returned, marks ++ [.returned], store⟩

theorem reading_iff (thread : Thread) :
    thread.reading = true ↔ thread.activity = .connected := by
  unfold Thread.reading Thread.activity
  cases thread.phase <;> simp

theorem reads_unconnected {thread : Thread} (unconnected : thread.reading = false) :
    thread.Reads where
  header := by
    intro got same
    rw [Thread.reading, same] at unconnected
    cases unconnected
  payload := by
    intro header got same
    rw [Thread.reading, same] at unconnected
    cases unconnected

def Steps (answers : Answers) (receiver : Receiver) (action : Action) : Prop :=
  (receiver.step answers action).thread.Reads ∧
    (receiver.Admits answers action ∧
        Change receiver.channel (receiver.step answers action).channel ∨
      ¬ receiver.Admits answers action ∧
        Abandons receiver.channel (receiver.step answers action).channel)

theorem check_steps (answers : Answers) {receiver : Receiver} (reads : receiver.thread.Reads) :
    Steps answers receiver .check := by
  have passed : receiver.check.thread.Reads →
      ¬ (receiver.point = .loop ∧ receiver.running = false ∧ receiver.thread.reading = true) →
      Change receiver.channel receiver.check.channel → Steps answers receiver .check :=
    fun reads admitted change => ⟨reads, .inl ⟨admitted, change⟩⟩
  obtain ⟨⟨phase, worker, mallocs⟩, point, running, store, marks⟩ := receiver
  cases point with
  | wait => exact passed reads (fun left => by cases left.1) (.stays _)
  | loop =>
      cases phase with
      | stopped => exact passed reads (fun left => by cases left.2.2) (.stays _)
      | accepting =>
          cases running with
          | true => exact passed reads (fun left => by cases left.2.1) (.stays _)
          | false =>
              exact passed (reads_unconnected rfl) (fun left => by cases left.2.2) (.leaves _ _)
      | header got | payload header got =>
          cases running with
          | true => exact passed reads (fun left => by cases left.2.1) (.stays _)
          | false =>
              exact ⟨reads_unconnected rfl,
                .inr ⟨fun admitted => admitted ⟨rfl, rfl, rfl⟩, .returns _ _⟩⟩
  | read =>
      cases phase with
      | stopped | accepting => exact passed reads (fun left => by cases left.1) (.stays _)
      | header got | payload header got =>
          cases running with
          | true => exact passed reads (fun left => by cases left.1) (.stays _)
          | false =>
              exact passed (reads_unconnected rfl) (fun left => by cases left.1) (.closes _ _)

theorem takes_nil (memory : Nat → Bool) {thread : Thread} (reads : thread.Reads) :
    thread.Takes memory [] := by
  obtain ⟨phase, worker, mallocs⟩ := thread
  cases phase with
  | accepting => trivial
  | stopped => trivial
  | header got =>
      intro whole
      rw [List.append_nil] at whole
      exact absurd whole (Nat.ne_of_lt (reads.header got rfl))
  | payload header got =>
      rintro ⟨_, _, _, whole⟩ rfl rfl
      rw [List.append_nil] at whole
      exact absurd whole (Nat.ne_of_lt (reads.payload _ got rfl).2.2)

theorem takes_unconnected (memory : Nat → Bool) {thread : Thread}
    (unconnected : thread.reading = false) (bytes : Bytes) : thread.Takes memory bytes := by
  obtain ⟨phase, worker, mallocs⟩ := thread
  cases phase with
  | accepting | stopped => trivial
  | header got | payload header got => cases unconnected

theorem ignored_steps (answers : Answers) {receiver : Receiver} (reads : receiver.thread.Reads)
    {event : Event}
    (ignored : ¬ (receiver.point = .wait ∧ receiver.thread.awaits event = true)) :
    Steps answers receiver (.answer event) := by
  have same : receiver.step answers (.answer event) = receiver := if_neg ignored
  rw [Steps, same]
  refine ⟨reads, .inl ⟨?_, .stays _⟩⟩
  cases event with
  | timeout | interrupted | connected | listenerFailed | ended => trivial
  | received bytes =>
      intro waits
      cases reading : receiver.thread.reading with
      | false => exact takes_unconnected _ reading _
      | true =>
          have empty : bytes = [] := by
            by_contra nonempty
            exact ignored ⟨waits, by simp [Thread.awaits, reading, nonempty]⟩
          rw [empty, List.take_nil]
          exact takes_nil _ reads

theorem ending_reading {thread : Thread} (reading : thread.reading = true) :
    thread.ending = [] := by
  rw [Thread.reading] at reading
  cases phase : thread.phase with
  | accepting | header got | payload header got => rw [Thread.ending, phase]
  | stopped =>
      rw [phase] at reading
      cases reading

theorem received_steps (answers : Answers) {receiver : Receiver} (reads : receiver.thread.Reads)
    {bytes : Bytes} (waits : receiver.point = .wait)
    (awaited : receiver.thread.awaits (.received bytes) = true) :
    Steps answers receiver (.answer (.received bytes)) := by
  have reading : receiver.thread.reading = true := (Bool.and_eq_true_iff.mp awaited).1
  have before : receiver.channel = ⟨.connected, receiver.marks, receiver.store⟩ := by
    rw [Receiver.channel, (reading_iff _).mp reading]
  simp only [Steps, Receiver.step, Receiver.answer, Receiver.Admits, Thread.step,
    if_pos (And.intro waits awaited), before]
  rcases receive_cases answers.memory reads reading (List.length_take_le _ bytes) with
    ⟨taken, next, callback, read, nextReading, nextReads⟩ | ⟨refused, next, read, stopped⟩
  · rw [read]
    refine ⟨nextReads, .inl ⟨fun _ => taken, ?_⟩⟩
    rw [Receiver.channel, (reading_iff next).mp nextReading]
    simp only [marksOf, Event.opening, List.nil_append, ending_reading nextReading,
      List.append_nil]
    cases callback with
    | none =>
        simp only [Option.toList, List.map_nil, List.append_nil]
        exact .stays _
    | some callback => exact .calls _ _ _ callback
  · rw [read]
    refine ⟨reads_unconnected (by rw [Thread.reading, stopped]),
      .inr ⟨fun admitted => refused (admitted waits), ?_⟩⟩
    have left : next.activity = .returned := by rw [Thread.activity, stopped]
    rw [Receiver.channel, left]
    simp only [marksOf, Thread.ending, stopped]
    exact .returns _ _

theorem waiting_steps (answers : Answers) {receiver : Receiver} (reads : receiver.thread.Reads)
    {event : Event} (waits : receiver.point = .wait)
    (awaited : receiver.thread.awaits event = true)
    (nothing : event = .timeout ∨ event = .interrupted) :
    Steps answers receiver (.answer event) := by
  have kept : (receiver.step answers (.answer event)).thread = receiver.thread ∧
      (receiver.step answers (.answer event)).channel = receiver.channel := by
    obtain ⟨⟨phase, worker, mallocs⟩, point, running, store, marks⟩ := receiver
    simp only [Receiver.step, Receiver.answer, if_pos (And.intro waits awaited)]
    have silent : marks ++ [] = marks := List.append_nil marks
    rcases nothing with rfl | rfl <;> cases phase with
    | stopped => cases awaited
    | accepting | header got | payload header got =>
        exact ⟨rfl, congrArg (fun marks => Channel.mk _ marks store) silent⟩
  refine ⟨kept.1 ▸ reads, .inl ⟨?_, kept.2 ▸ .stays _⟩⟩
  rcases nothing with rfl | rfl <;> trivial

theorem answer_steps (answers : Answers) {receiver : Receiver} (reads : receiver.thread.Reads)
    (event : Event) : Steps answers receiver (.answer event) := by
  by_cases awaited : receiver.point = .wait ∧ receiver.thread.awaits event = true
  · obtain ⟨waits, awaited⟩ := awaited
    cases event with
    | received bytes => exact received_steps answers reads waits awaited
    | timeout => exact waiting_steps answers reads waits awaited (.inl rfl)
    | interrupted => exact waiting_steps answers reads waits awaited (.inr rfl)
    | connected =>
        obtain ⟨⟨phase, worker, mallocs⟩, point, running, store, marks⟩ := receiver
        simp only [Steps, Receiver.step, Receiver.answer, if_pos (And.intro waits awaited)]
        cases phase with
        | header got | payload header got | stopped => cases awaited
        | accepting =>
            exact ⟨reads_header worker mallocs (by decide), .inl ⟨trivial, .opens _ _⟩⟩
    | listenerFailed =>
        obtain ⟨⟨phase, worker, mallocs⟩, point, running, store, marks⟩ := receiver
        simp only [Steps, Receiver.step, Receiver.answer, if_pos (And.intro waits awaited)]
        cases phase with
        | header got | payload header got | stopped => cases awaited
        | accepting => exact ⟨reads_unconnected rfl, .inl ⟨trivial, .leaves _ _⟩⟩
    | ended =>
        obtain ⟨⟨phase, worker, mallocs⟩, point, running, store, marks⟩ := receiver
        simp only [Steps, Receiver.step, Receiver.answer, if_pos (And.intro waits awaited)]
        cases phase with
        | accepting | stopped => cases awaited
        | header got | payload header got =>
            exact ⟨reads_unconnected rfl, .inl ⟨trivial, .closes _ _⟩⟩
  · exact ignored_steps answers reads awaited

theorem step_steps (answers : Answers) {receiver : Receiver} (reads : receiver.thread.Reads)
    (action : Action) : Steps answers receiver action := by
  cases action with
  | check => exact check_steps answers reads
  | answer event => exact answer_steps answers reads event
  | stop => exact ⟨reads, .inl ⟨trivial, .stays _⟩⟩

/-! ## The law -/

/-- Every connection that is over was cleared, and without an open one the store
shows no picture. -/
structure Channel.Clear (channel : Channel) : Prop where
  cleared : Cleared channel.marks
  dark : channel.activity ≠ .connected →
    channel.store.config = none ∧ channel.store.state.available = false

structure Channel.Sound (channel : Channel) : Prop extends channel.Clear where
  idle : channel.activity = .idle → Flushed channel.marks
  connected : channel.activity = .connected → Opened channel.marks

theorem reset_dark (store : Video.Store) :
    (Video.reset store).config = none ∧ (Video.reset store).state.available = false :=
  ⟨rfl, rfl⟩

theorem Change.sound {before after : Channel} (change : Change before after)
    (sound : before.Sound) : after.Sound := by
  cases change with
  | stays => exact sound
  | opens marks store =>
      exact {
        cleared := sound.cleared.concat fun _ => sound.idle rfl
        dark := fun away => absurd rfl away
        idle := fun same => by cases same
        connected := fun _ => opened_accepted marks }
  | calls marks store next callback =>
      exact {
        cleared := sound.cleared.concat fun ends => by cases ends
        dark := fun away => absurd rfl away
        idle := fun same => by cases same
        connected := fun _ => (sound.connected rfl).process callback }
  | closes marks store =>
      exact {
        cleared := sound.cleared.concat fun ends => by cases ends
        dark := fun _ => reset_dark store
        idle := fun _ => (sound.connected rfl).flush
        connected := fun same => by cases same }
  | leaves marks store =>
      exact {
        cleared := sound.cleared.concat fun _ => sound.idle rfl
        dark := fun _ => sound.dark Activity.noConfusion
        idle := fun same => by cases same
        connected := fun same => by cases same }

theorem Abandons.not_clear {before after : Channel} (abandons : Abandons before after)
    (sound : before.Sound) : ¬ after.Clear := by
  cases abandons with
  | returns marks store => exact fun clear => (sound.connected rfl).not_cleared clear.cleared

theorem start_sound (worker : Worker) : (Receiver.start worker).channel.Sound where
  cleared := cleared_nil
  dark := fun _ => ⟨rfl, rfl⟩
  idle := fun _ => flushed_nil
  connected := fun same => by cases same

theorem channels_cleared (answers : Answers) (worker : Worker) (actions : List Action) :
    Throughout (Receiver.step answers) (fun receiver => receiver.channel.Clear)
        (.start worker) actions ↔
      Guarded (Receiver.step answers) (Receiver.Admits answers) (.start worker) actions := by
  refine @throughout_iff_guarded _ _ _ (Receiver.Admits answers)
    (fun receiver => receiver.channel.Clear)
    (fun receiver => receiver.thread.Reads ∧ receiver.channel.Sound) ?_ ?_ ?_ _ ?_ actions
  · intro receiver invariant
    exact invariant.2.toClear
  · rintro receiver action ⟨reads, sound⟩ admitted
    obtain ⟨readsNext, ⟨_, change⟩ | ⟨refused, _⟩⟩ := step_steps answers reads action
    · exact ⟨readsNext, change.sound sound⟩
    · exact absurd admitted refused
  · rintro receiver action ⟨reads, sound⟩ refused
    obtain ⟨_, ⟨admitted, _⟩ | ⟨_, abandons⟩⟩ := step_steps answers reads action
    · exact absurd admitted refused
    · exact abandons.not_clear sound
  · exact ⟨reads_unconnected rfl, start_sound worker⟩

/-! ## A packet that is too large -/

def readActions (packet : Packet) : List Action :=
  [.check, .check, .answer (.received packet.header), .check, .answer (.received packet.payload)]

def oversizedHeader : Bytes := [1, 0, 32, 0] ++ List.replicate 124 0

def oversizedActions : List Action :=
  [.check, .answer .connected] ++
    (testDeliveries [100]).flatMap (fun delivery => readActions delivery.packet) ++
    [.check, .check]

def testAnswers : Answers where
  memory := fun _ => true
  allocated := fun _ => true
  run := fun _ => Video.sampleRun 1 1

theorem Receiver.not_clear {receiver : Receiver} {marks : List Mark}
    (returned : receiver.marks = marks ++ [.returned]) (opened : Opened marks) :
    ¬ receiver.channel.Clear := by
  intro clear
  have cleared : Cleared receiver.marks := clear.cleared
  rw [returned] at cleared
  exact opened.not_cleared cleared

theorem oversized_packet_abandons :
    let receiver := run (Receiver.step testAnswers) (.start testWorker)
      (oversizedActions ++ [.answer (.received oversizedHeader)])
    receiver.marks =
        [.accepted, .process ⟨Video.sampleConfig, 0, 0⟩, .process ⟨convertedFrame, 1, 0⟩,
          .returned] ∧
      receiver.store.state.available = true ∧
      ¬ Throughout (Receiver.step testAnswers) (fun receiver => receiver.channel.Clear)
        (.start testWorker) (oversizedActions ++ [.answer (.received oversizedHeader)]) := by
  intro receiver
  have marks : receiver.marks =
      [.accepted, .process ⟨Video.sampleConfig, 0, 0⟩, .process ⟨convertedFrame, 1, 0⟩,
        .returned] := by decide +kernel
  have shown : receiver.store.state.available = true := by decide +kernel
  refine ⟨marks, shown, fun throughout => ?_⟩
  have opened : Opened
      [.accepted, .process ⟨Video.sampleConfig, 0, 0⟩, .process ⟨convertedFrame, 1, 0⟩] :=
    ⟨[], [⟨Video.sampleConfig, 0, 0⟩, ⟨convertedFrame, 1, 0⟩], rfl⟩
  exact Receiver.not_clear marks opened throughout.last

end AirTizen.Mirror

import AirTizen.Library.Machine
import AirTizen.Mirror.Session

/-!
# Packets out of a byte stream

`raop_rtp_mirror_thread` collects headers and payloads from whatever pieces
`recv` hands out.  What it calls back depends on the bytes of each connection
alone: they are split into headers and payloads, and a packet that the
connection does not finish is dropped.
-/

namespace AirTizen.Mirror

open CText Machine

/-! ## The thread -/

def headerBytes : Nat := 128

/-- `size` and `type` of a header. -/
def headerSize (header : Bytes) : Nat := littleEndian 4 0 header

def headerType (header : Bytes) : Nat := littleEndian 2 4 header % 256

def Oversized (header : Bytes) : Prop :=
  2 * 1024 * 1024 < headerSize header ∨ headerType header = 1 ∧ 65536 < headerSize header

instance (header : Bytes) : Decidable (Oversized header) :=
  inferInstanceAs (Decidable (_ ∨ _ ∧ _))

/-- Where the thread is. -/
inductive Phase where
  /-- `client<0`: it waits for a connection. -/
  | accepting
  /-- In `airtizen_mirror_read` for a header of which it has these bytes. -/
  | header (got : Bytes)
  /-- In `airtizen_mirror_read` for the payload of the header. -/
  | payload (header got : Bytes)
  | stopped

structure Thread where
  phase : Phase := .accepting
  worker : Worker
  /-- Calls of `malloc` so far. -/
  mallocs : Nat := 0

/-- Calls of `video_process` and `video_flush`. -/
inductive Output where
  | process (callback : Callback)
  | flush
  deriving DecidableEq

inductive Event where
  /-- `select` returns zero. -/
  | timeout
  /-- `select`, `accept` or `recv` fails with `EINTR`. -/
  | interrupted
  /-- `accept` returns a client. -/
  | connected
  /-- `select` or `accept` fails otherwise. -/
  | listenerFailed
  /-- `recv` finds these bytes, and returns as many of them as were asked for. -/
  | received (bytes : Bytes)
  /-- `recv` returns zero, or it or `select` fails otherwise. -/
  | ended

/-- The bytes that `recv` is asked for. -/
def Thread.wanted (thread : Thread) : Nat :=
  match thread.phase with
  | .header got => headerBytes - got.length
  | .payload header got => headerSize header - got.length
  | .accepting | .stopped => 0

/-- A whole header: the checks before its payload is read. -/
def Thread.headerRead (memory : Nat → Bool) (thread : Thread) (header : Bytes) : Thread :=
  if Oversized header then { thread with phase := .stopped }
  else if headerSize header = 0 then { thread with phase := .header [] }
  else if !memory thread.mallocs then
    { thread with phase := .stopped, mallocs := thread.mallocs + 1 }
  else { thread with phase := .payload header [], mallocs := thread.mallocs + 1 }

def Packet.converted (packet : Packet) : Bool := packet.type = 0 || packet.type = 1

def Thread.packetRead (memory : Nat → Bool) (thread : Thread) (packet : Packet) :
    Thread × List Output :=
  let mallocs := thread.mallocs + (if packet.converted then 1 else 0)
  match thread.worker.receive (!packet.converted || memory thread.mallocs) packet with
  | none => ({ thread with phase := .stopped, mallocs := mallocs }, [])
  | some (worker, callback) =>
      ({ phase := .header [], worker := worker, mallocs := mallocs },
        callback.toList.map Output.process)

/-- `offset+=count`, and what follows when the buffer is full. -/
def Thread.receive (memory : Nat → Bool) (thread : Thread) (bytes : Bytes) :
    Thread × List Output :=
  match thread.phase with
  | .header got =>
      if (got ++ bytes).length < headerBytes then
        ({ thread with phase := .header (got ++ bytes) }, [])
      else (thread.headerRead memory (got ++ bytes), [])
  | .payload header got =>
      if whole : header.length = headerBytes ∧ (got ++ bytes).length = headerSize header then
        thread.packetRead memory ⟨header, got ++ bytes, whole.1, whole.2⟩
      else ({ thread with phase := .payload header (got ++ bytes) }, [])
  | .accepting | .stopped => (thread, [])

/-- `airtizen_mirror_channel_closed`. -/
def Thread.close (thread : Thread) : Thread × List Output :=
  ({ thread with
      phase := .accepting
      worker := { thread.worker with
        clock := { thread.worker.clock with haveBase := false } } },
    [.flush])

def Thread.reading (thread : Thread) : Bool :=
  match thread.phase with
  | .header _ | .payload _ _ => true
  | .accepting | .stopped => false

/-- One answer, while `running` is set.  An answer that the thread does not wait
for changes nothing. -/
def Thread.step (memory : Nat → Bool) (thread : Thread) : Event → Thread × List Output
  | .timeout | .interrupted => (thread, [])
  | .connected =>
      match thread.phase with
      | .accepting => ({ thread with phase := .header [] }, [])
      | .header _ | .payload _ _ | .stopped => (thread, [])
  | .listenerFailed =>
      match thread.phase with
      | .accepting => ({ thread with phase := .stopped }, [])
      | .header _ | .payload _ _ | .stopped => (thread, [])
  | .received bytes => thread.receive memory (bytes.take thread.wanted)
  | .ended => if thread.reading then thread.close else (thread, [])

/-- The thread with the byte streams that it has received: those of connections
that have ended, and that of the open one. -/
structure World where
  thread : Thread
  trace : List Output := []
  finished : List Bytes := []
  current : Option Bytes := none

/-- The streams behind an event: a connection opens one, and ends it. -/
def World.streams (world : World) : Event → List Bytes × Option Bytes
  | .connected =>
      match world.thread.phase with
      | .accepting => (world.finished, some [])
      | .header _ | .payload _ _ | .stopped => (world.finished, world.current)
  | .received bytes =>
      (world.finished, world.current.map (· ++ bytes.take world.thread.wanted))
  | .ended =>
      if world.thread.reading then (world.finished ++ world.current.toList, none)
      else (world.finished, world.current)
  | .timeout | .interrupted | .listenerFailed => (world.finished, world.current)

def World.step (memory : Nat → Bool) (world : World) (event : Event) : World where
  thread := (world.thread.step memory event).1
  trace := world.trace ++ (world.thread.step memory event).2
  finished := (world.streams event).1
  current := (world.streams event).2

/-! ## Splitting a stream -/

structure Progress where
  worker : Worker
  mallocs : Nat := 0

/-- A whole packet with both of its buffers; `none` where the thread stops. -/
def Progress.receive (memory : Nat → Bool) (progress : Progress) (packet : Packet) :
    Option (Progress × Option Callback) :=
  (progress.worker.receive
    (memory progress.mallocs && (!packet.converted || memory (progress.mallocs + 1)))
    packet).map fun (worker, callback) =>
      ({ worker := worker
         mallocs := progress.mallocs + 1 + (if packet.converted then 1 else 0) }, callback)

/-- What becomes of a stream: the callbacks of its packets, and the bytes of the
unfinished one. -/
structure Split where
  progress : Progress
  callbacks : List Callback := []
  rest : Bytes := []
  stopped : Bool := false

def Split.behind (callbacks : List Callback) (split : Split) : Split :=
  { split with callbacks := callbacks ++ split.callbacks }

def frontPacket (stream : Bytes)
    (whole : headerBytes + headerSize (stream.take headerBytes) ≤ stream.length) : Packet where
  header := stream.take headerBytes
  payload := (stream.drop headerBytes).take (headerSize (stream.take headerBytes))
  header_length := by
    rw [List.length_take]
    unfold headerBytes at *
    omega
  payload_length := by
    rw [List.length_take, List.length_drop]
    exact Nat.min_eq_left (by omega)

/-- Headers of 128 bytes, each with a payload of the length that it announces. -/
def split (memory : Nat → Bool) (progress : Progress) (stream : Bytes) : Split :=
  if stream.length < headerBytes then { progress := progress, rest := stream }
  else if Oversized (stream.take headerBytes) then { progress := progress, stopped := true }
  else if headerSize (stream.take headerBytes) = 0 then
    split memory progress (stream.drop headerBytes)
  else if !memory progress.mallocs then { progress := progress, stopped := true }
  else if missing : stream.length < headerBytes + headerSize (stream.take headerBytes) then
    { progress := progress, rest := stream }
  else
    match progress.receive memory (frontPacket stream (Nat.le_of_not_lt missing)) with
    | none => { progress := progress, stopped := true }
    | some (progress, callback) =>
        (split memory progress
          (stream.drop (headerBytes + headerSize (stream.take headerBytes)))).behind
            callback.toList
termination_by stream.length
decreasing_by
  all_goals
    rw [List.length_drop]
    unfold headerBytes at *
    omega

/-- The connection ends: its unfinished packet is dropped and the clock has no
base any more. -/
def Split.close (split : Split) : Progress where
  worker := { split.progress.worker with
    clock := { split.progress.worker.clock with haveBase := false } }
  mallocs := split.progress.mallocs + (if headerBytes ≤ split.rest.length then 1 else 0)

def replay (memory : Nat → Bool) : Progress → List Bytes → Progress × List Output
  | progress, [] => (progress, [])
  | progress, stream :: later =>
      let connection := split memory progress stream
      let (last, outputs) := replay memory connection.close later
      (last, connection.callbacks.map Output.process ++ .flush :: outputs)

def expected (memory : Nat → Bool) (start : Progress) (finished : List Bytes)
    (current : Option Bytes) : List Output :=
  (replay memory start finished).2 ++
    (current.elim [] fun stream =>
      (split memory (replay memory start finished).1 stream).callbacks.map Output.process)

/-! ## More bytes of a stream -/

section Split

variable {memory : Nat → Bool} {progress : Progress} {stream : Bytes}

@[simp]
theorem behind_nil (split : Split) : split.behind [] = split := rfl

theorem behind_behind (first second : List Callback) (split : Split) :
    (split.behind second).behind first = split.behind (first ++ second) := by
  simp [Split.behind]

theorem take_header (long : ¬ stream.length < headerBytes) (more : Bytes) :
    (stream ++ more).take headerBytes = stream.take headerBytes :=
  List.take_append_of_le_length (Nat.le_of_not_lt long)

theorem frontPacket_append
    (whole : headerBytes + headerSize (stream.take headerBytes) ≤ stream.length) (more : Bytes)
    (longer : headerBytes + headerSize ((stream ++ more).take headerBytes) ≤
      (stream ++ more).length) :
    frontPacket (stream ++ more) longer = frontPacket stream whole := by
  have header := take_header (Nat.not_lt.mpr (Nat.le_of_add_right_le whole)) more
  unfold frontPacket
  simp only [header, Packet.mk.injEq, true_and]
  rw [List.drop_append_of_le_length (Nat.le_of_add_right_le whole),
    List.take_append_of_le_length]
  rw [List.length_drop]
  omega

theorem split_empty (long : ¬ stream.length < headerBytes)
    (fits : ¬ Oversized (stream.take headerBytes))
    (empty : headerSize (stream.take headerBytes) = 0) :
    split memory progress stream = split memory progress (stream.drop headerBytes) := by
  rw [split, if_neg long, if_neg fits, if_pos empty]

theorem split_whole {next : Progress} {callback : Option Callback}
    (long : ¬ stream.length < headerBytes) (fits : ¬ Oversized (stream.take headerBytes))
    (nonempty : ¬ headerSize (stream.take headerBytes) = 0)
    (room : ¬ (!memory progress.mallocs) = true)
    (whole : headerBytes + headerSize (stream.take headerBytes) ≤ stream.length)
    (received : progress.receive memory (frontPacket stream whole) = some (next, callback)) :
    split memory progress stream =
      (split memory next
        (stream.drop (headerBytes + headerSize (stream.take headerBytes)))).behind
          callback.toList := by
  rw [split, if_neg long, if_neg fits, if_neg nonempty, if_neg room,
    dif_neg (Nat.not_lt.mpr whole), received]

/-- More bytes continue what is left. -/
theorem split_append (more : Bytes) (running : (split memory progress stream).stopped = false) :
    split memory progress (stream ++ more) =
      (split memory (split memory progress stream).progress
        ((split memory progress stream).rest ++ more)).behind
          (split memory progress stream).callbacks := by
  induction progress, stream using split.induct memory with
  | case1 progress stream short =>
      have alone : split memory progress stream = { progress := progress, rest := stream } := by
        rw [split, if_pos short]
      rw [alone, behind_nil]
  | case2 progress stream long oversized =>
      rw [split, if_neg long, if_pos oversized] at running
      cases running
  | case3 progress stream long fits empty inductionHypothesis =>
      rw [split_empty long fits empty] at running ⊢
      rw [← inductionHypothesis running, split_empty, List.drop_append_of_le_length]
      · exact Nat.le_of_not_lt long
      · rw [List.length_append]
        omega
      · rwa [take_header long]
      · rwa [take_header long]
  | case4 progress stream long fits nonempty full =>
      rw [split, if_neg long, if_neg fits, if_neg nonempty, if_pos full] at running
      cases running
  | case5 progress stream long fits nonempty room missing =>
      have alone : split memory progress stream = { progress := progress, rest := stream } := by
        rw [split, if_neg long, if_neg fits, if_neg nonempty, if_neg room, dif_pos missing]
      rw [alone, behind_nil]
  | case6 progress stream long fits nonempty room whole refused =>
      rw [split, if_neg long, if_neg fits, if_neg nonempty, if_neg room, dif_neg whole,
        refused] at running
      cases running
  | case7 progress stream long fits nonempty room whole next callback received
      inductionHypothesis =>
      have behind := Nat.le_of_not_lt whole
      rw [split_whole long fits nonempty room behind received] at running ⊢
      have longer : headerBytes + headerSize ((stream ++ more).take headerBytes) ≤
          (stream ++ more).length := by
        rw [take_header long, List.length_append]
        exact behind.trans (Nat.le_add_right _ _)
      rw [← frontPacket_append behind more longer] at received
      rw [split_whole _ _ _ room longer received, take_header long,
        List.drop_append_of_le_length behind, inductionHypothesis running, behind_behind]
      · rfl
      · rw [List.length_append]
        omega
      · rwa [take_header long]
      · rwa [take_header long]

def Unfinished (memory : Nat → Bool) (progress : Progress) (rest : Bytes) : Prop :=
  rest.length < headerBytes ∨
    (headerBytes ≤ rest.length ∧ ¬ Oversized (rest.take headerBytes) ∧
      headerSize (rest.take headerBytes) ≠ 0 ∧ memory progress.mallocs = true ∧
      rest.length < headerBytes + headerSize (rest.take headerBytes))

theorem Unfinished.split {rest : Bytes} (unfinished : Unfinished memory progress rest) :
    split memory progress rest = { progress := progress, rest := rest } := by
  rcases unfinished with short | ⟨long, fits, nonempty, room, missing⟩
  · rw [Mirror.split, if_pos short]
  · rw [Mirror.split, if_neg (Nat.not_lt.mpr long), if_neg fits, if_neg nonempty,
      if_neg (by simp [room]), dif_pos missing]

theorem split_unfinished (running : (split memory progress stream).stopped = false) :
    Unfinished memory (split memory progress stream).progress
      (split memory progress stream).rest := by
  induction progress, stream using split.induct memory with
  | case1 progress stream short =>
      rw [split, if_pos short]
      exact .inl short
  | case2 progress stream long oversized =>
      rw [split, if_neg long, if_pos oversized] at running
      cases running
  | case3 progress stream long fits empty inductionHypothesis =>
      rw [split_empty long fits empty] at running ⊢
      exact inductionHypothesis running
  | case4 progress stream long fits nonempty full =>
      rw [split, if_neg long, if_neg fits, if_neg nonempty, if_pos full] at running
      cases running
  | case5 progress stream long fits nonempty room missing =>
      rw [split, if_neg long, if_neg fits, if_neg nonempty, if_neg room, dif_pos missing]
      exact .inr ⟨Nat.le_of_not_lt long, fits, nonempty, by simpa using room, missing⟩
  | case6 progress stream long fits nonempty room whole refused =>
      rw [split, if_neg long, if_neg fits, if_neg nonempty, if_neg room, dif_neg whole,
        refused] at running
      cases running
  | case7 progress stream long fits nonempty room whole next callback received
      inductionHypothesis =>
      rw [split_whole long fits nonempty room (Nat.le_of_not_lt whole) received] at running ⊢
      exact inductionHypothesis running

/-! ## The thread in the middle of a packet -/

def Thread.of (progress : Progress) (rest : Bytes) : Thread :=
  if rest.length < headerBytes then
    { phase := .header rest, worker := progress.worker, mallocs := progress.mallocs }
  else
    { phase := .payload (rest.take headerBytes) (rest.drop headerBytes)
      worker := progress.worker
      mallocs := progress.mallocs + 1 }

def Split.Reached (split : Split) (thread : Thread) : Prop :=
  if split.stopped then thread.phase = .stopped
  else thread = Thread.of split.progress split.rest

/-- A header gets more bytes. -/
theorem header_received {got bytes : Bytes} (fits : (got ++ bytes).length ≤ headerBytes)
    (short : got.length < headerBytes) :
    (split memory progress (got ++ bytes)).Reached
        ((Thread.of progress got).receive memory bytes).1 ∧
      ((Thread.of progress got).receive memory bytes).2 =
        (split memory progress (got ++ bytes)).callbacks.map Output.process := by
  rw [Thread.of, if_pos short]
  simp only [Thread.receive]
  by_cases still : (got ++ bytes).length < headerBytes
  · rw [if_pos still, (Unfinished.split (.inl still) : split memory progress _ = _)]
    refine ⟨?_, rfl⟩
    show _ = Thread.of progress (got ++ bytes)
    rw [Thread.of, if_pos still]
  rw [if_neg still]
  generalize got ++ bytes = header at fits still
  have whole : header.take headerBytes = header := List.take_of_length_le fits
  have nothing : header.drop headerBytes = [] := List.drop_of_length_le fits
  unfold Thread.headerRead
  by_cases oversized : Oversized header
  · have stops : split memory progress header = { progress := progress, stopped := true } := by
      rw [split, if_neg still, if_pos (by rwa [whole])]
    rw [if_pos oversized, stops]
    exact ⟨rfl, rfl⟩
  rw [if_neg oversized]
  by_cases empty : headerSize header = 0
  · have skips : split memory progress header = split memory progress [] := by
      rw [split_empty still (by rwa [whole]) (by rwa [whole]), nothing]
    have unfinished : Unfinished memory progress [] := .inl (by decide)
    rw [if_pos empty, skips, unfinished.split]
    exact ⟨rfl, rfl⟩
  rw [if_neg empty]
  by_cases full : (!memory progress.mallocs) = true
  · have stops : split memory progress header = { progress := progress, stopped := true } := by
      rw [split, if_neg still, if_neg (by rwa [whole]), if_neg (by rwa [whole]), if_pos full]
    rw [if_pos full, stops]
    exact ⟨rfl, rfl⟩
  rw [if_neg full]
  have unfinished : Unfinished memory progress header := by
    refine .inr ⟨Nat.le_of_not_lt still, by rwa [whole], by rwa [whole], by simpa using full, ?_⟩
    rw [whole]
    omega
  rw [unfinished.split]
  refine ⟨?_, rfl⟩
  show _ = Thread.of progress header
  rw [Thread.of, if_neg still, whole, nothing]

theorem receive_allocated (room : memory progress.mallocs = true) (packet : Packet) :
    progress.receive memory packet =
      (progress.worker.receive (!packet.converted || memory (progress.mallocs + 1)) packet).map
        fun (worker, callback) =>
          ({ worker := worker
             mallocs := progress.mallocs + 1 + (if packet.converted then 1 else 0) },
            callback) := by
  rw [Progress.receive, room, Bool.true_and]

theorem receive_whole {thread : Thread} {got bytes : Bytes} {packet : Packet}
    (phase : thread.phase = .payload packet.header got)
    (payload : got ++ bytes = packet.payload) :
    thread.receive memory bytes = thread.packetRead memory packet := by
  have whole : packet.header.length = headerBytes ∧
      packet.payload.length = headerSize packet.header :=
    ⟨packet.header_length, packet.payload_length⟩
  simp only [Thread.receive, phase, payload, whole, and_self, dite_true]

theorem receive_missing {thread : Thread} {header got bytes : Bytes}
    (phase : thread.phase = .payload header got)
    (missing : (got ++ bytes).length ≠ headerSize header) :
    thread.receive memory bytes = ({ thread with phase := .payload header (got ++ bytes) }, []) := by
  simp only [Thread.receive, phase, missing, and_false, dite_false]

/-- A payload gets more bytes. -/
theorem payload_received {rest bytes : Bytes} (long : ¬ rest.length < headerBytes)
    (unfinished : Unfinished memory progress rest)
    (limit : (rest ++ bytes).length ≤ headerBytes + headerSize (rest.take headerBytes)) :
    (split memory progress (rest ++ bytes)).Reached
        ((Thread.of progress rest).receive memory bytes).1 ∧
      ((Thread.of progress rest).receive memory bytes).2 =
        (split memory progress (rest ++ bytes)).callbacks.map Output.process := by
  rcases unfinished with short | ⟨_, fits, nonempty, room, _⟩
  · exact absurd short long
  have header := take_header long bytes
  have payload : (rest ++ bytes).drop headerBytes = rest.drop headerBytes ++ bytes :=
    List.drop_append_of_le_length (Nat.le_of_not_lt long)
  rw [← header] at fits nonempty limit
  have longer : ¬ (rest ++ bytes).length < headerBytes := by
    rw [List.length_append]
    omega
  have phase : (Thread.of progress rest).phase =
      .payload ((rest ++ bytes).take headerBytes) (rest.drop headerBytes) := by
    rw [Thread.of, if_neg long, header]
  by_cases missing :
      (rest ++ bytes).length < headerBytes + headerSize ((rest ++ bytes).take headerBytes)
  · have still : Unfinished memory progress (rest ++ bytes) :=
      .inr ⟨Nat.le_of_not_lt longer, fits, nonempty, room, missing⟩
    rw [receive_missing phase, still.split]
    · refine ⟨?_, rfl⟩
      show _ = Thread.of progress (rest ++ bytes)
      rw [Thread.of, Thread.of, if_neg long, if_neg longer, payload]
    · rw [← payload, List.length_drop]
      omega
  have whole := Nat.le_of_not_lt missing
  have front : rest.drop headerBytes ++ bytes = (frontPacket (rest ++ bytes) whole).payload := by
    rw [← payload]
    refine (List.take_of_length_le ?_).symm
    rw [List.length_drop]
    omega
  have nothing : (rest ++ bytes).drop
      (headerBytes + headerSize ((rest ++ bytes).take headerBytes)) = [] :=
    List.drop_of_length_le limit
  have busy : ¬ (!memory progress.mallocs) = true := by simp [room]
  rw [receive_whole phase front]
  have received := receive_allocated room (frontPacket (rest ++ bytes) whole)
  have state : (Thread.of progress rest).worker = progress.worker ∧
      (Thread.of progress rest).mallocs = progress.mallocs + 1 := by
    rw [Thread.of, if_neg long]
    exact ⟨rfl, rfl⟩
  rw [Thread.packetRead, state.1, state.2]
  cases worked : progress.worker.receive
      (!(frontPacket (rest ++ bytes) whole).converted || memory (progress.mallocs + 1))
      (frontPacket (rest ++ bytes) whole) with
  | none =>
      rw [worked] at received
      have stops : split memory progress (rest ++ bytes) =
          { progress := progress, stopped := true } := by
        rw [split, if_neg longer, if_neg fits, if_neg nonempty, if_neg busy, dif_neg missing,
          received]
        rfl
      rw [stops]
      exact ⟨rfl, rfl⟩
  | some result =>
      rw [worked] at received
      have unfinished : ∀ next : Progress, Unfinished memory next [] := fun _ => .inl (by decide)
      rw [split_whole longer fits nonempty busy whole received, nothing, (unfinished _).split]
      refine ⟨rfl, ?_⟩
      rw [Split.behind, List.append_nil]

end Split

/-! ## Runs -/

section Run

variable {memory : Nat → Bool} {start : Progress}

theorem replay_concat (progress : Progress) (finished : List Bytes) (stream : Bytes) :
    replay memory progress (finished ++ [stream]) =
      ((split memory (replay memory progress finished).1 stream).close,
        (replay memory progress finished).2 ++
          ((split memory (replay memory progress finished).1 stream).callbacks.map
            Output.process ++ [.flush])) := by
  induction finished generalizing progress with
  | nil => rfl
  | cons first later inductionHypothesis =>
      simp only [List.cons_append, replay, inductionHypothesis, List.append_assoc]

/-- The thread is where the received streams lead it, and made the calls that they
lead to. -/
structure World.Follows (memory : Nat → Bool) (start : Progress) (world : World) : Prop where
  trace : world.trace = expected memory start world.finished world.current
  idle : world.current = none → world.thread.phase = .stopped ∨
    world.thread =
      { phase := .accepting
        worker := (replay memory start world.finished).1.worker
        mallocs := (replay memory start world.finished).1.mallocs }
  connected : ∀ stream, world.current = some stream →
    (split memory (replay memory start world.finished).1 stream).Reached world.thread

theorem reached_running {split : Split} {thread : Thread} (reached : split.Reached thread)
    (running : split.stopped = false) : thread = Thread.of split.progress split.rest := by
  rwa [Split.Reached, running, if_neg Bool.false_ne_true] at reached

/-- `recv` is never asked for more than the packet needs. -/
theorem received_reached {progress : Progress} {stream : Bytes} {thread : Thread}
    (reached : (split memory progress stream).Reached thread) (bytes : Bytes) :
    (split memory progress (stream ++ bytes.take thread.wanted)).Reached
        (thread.receive memory (bytes.take thread.wanted)).1 ∧
      (split memory progress (stream ++ bytes.take thread.wanted)).callbacks.map Output.process =
        (split memory progress stream).callbacks.map Output.process ++
          (thread.receive memory (bytes.take thread.wanted)).2 := by
  cases running : (split memory progress stream).stopped with
  | true =>
      rw [Split.Reached, running, if_pos rfl] at reached
      have nothing : bytes.take thread.wanted = [] := by
        rw [Thread.wanted, reached]
        exact List.take_zero
      rw [nothing, List.append_nil]
      simp only [Thread.receive, reached, Split.Reached, running, if_true, List.append_nil,
        and_self]
  | false =>
      have unfinished := split_unfinished running
      rw [reached_running reached running, split_append _ running]
      generalize (split memory progress stream).progress = now at unfinished ⊢
      generalize (split memory progress stream).rest = rest at unfinished ⊢
      have received : ∀ more : Bytes, more.length ≤ (Thread.of now rest).wanted →
          (split memory now (rest ++ more)).Reached
              ((Thread.of now rest).receive memory more).1 ∧
            ((Thread.of now rest).receive memory more).2 =
              (split memory now (rest ++ more)).callbacks.map Output.process := by
        intro more limit
        by_cases short : rest.length < headerBytes
        · refine header_received ?_ short
          rw [Thread.of, if_pos short] at limit
          simp only [Thread.wanted] at limit
          rw [List.length_append]
          omega
        · refine payload_received short unfinished ?_
          rw [Thread.of, if_neg short] at limit
          simp only [Thread.wanted, List.length_drop] at limit
          rw [List.length_append]
          rcases unfinished with header | ⟨_, _, _, _, missing⟩
          · exact absurd header short
          · omega
      obtain ⟨goesOn, calls⟩ :=
        received (bytes.take (Thread.of now rest).wanted) (List.length_take_le _ _)
      refine ⟨goesOn, ?_⟩
      rw [calls, Split.behind, List.map_append]

theorem closed_reached {progress : Progress} {stream : Bytes} {thread : Thread}
    (reached : (split memory progress stream).Reached thread) (reading : thread.reading = true) :
    thread.close =
      ({ phase := .accepting
         worker := (split memory progress stream).close.worker
         mallocs := (split memory progress stream).close.mallocs }, [.flush]) := by
  cases running : (split memory progress stream).stopped with
  | true =>
      rw [Split.Reached, running, if_pos rfl] at reached
      rw [Thread.reading, reached] at reading
      cases reading
  | false =>
      rw [reached_running reached running, Thread.of]
      split
      next short => rw [Thread.close, Split.close, if_neg (Nat.not_le.mpr short), Nat.add_zero]
      next long => rw [Thread.close, Split.close, if_pos (Nat.le_of_not_lt long)]

theorem reached_busy {split : Split} {thread : Thread} (reached : split.Reached thread) :
    thread.phase ≠ .accepting := by
  cases running : split.stopped with
  | true =>
      rw [Split.Reached, running, if_pos rfl] at reached
      rw [reached]
      intro same
      cases same
  | false =>
      rw [reached_running reached running]
      unfold Thread.of
      split <;> (intro same; cases same)

theorem step_busy {world : World} (busy : world.thread.phase ≠ .accepting) :
    world.step memory .connected = { world with trace := world.trace ++ [] } ∧
      world.step memory .listenerFailed = { world with trace := world.trace ++ [] } := by
  unfold World.step Thread.step World.streams
  cases phase : world.thread.phase with
  | accepting => exact absurd phase busy
  | header got | payload header got | stopped => exact ⟨rfl, rfl⟩

theorem step_idle {world : World} (idle : world.thread.reading = false) :
    world.step memory .ended = { world with trace := world.trace ++ [] } := by
  unfold World.step Thread.step World.streams
  rw [idle]
  rfl

theorem step_accepting {world : World} (phase : world.thread.phase = .accepting) :
    world.step memory .connected =
        { world with
          thread := { world.thread with phase := .header [] }
          trace := world.trace ++ []
          current := some [] } ∧
      world.step memory .listenerFailed =
        { world with
          thread := { world.thread with phase := .stopped }, trace := world.trace ++ [] } := by
  unfold World.step Thread.step World.streams
  rw [phase]
  exact ⟨rfl, rfl⟩

theorem step_ended {world : World} (reading : world.thread.reading = true) :
    world.step memory .ended =
      { thread := world.thread.close.1
        trace := world.trace ++ world.thread.close.2
        finished := world.finished ++ world.current.toList } := by
  unfold World.step Thread.step World.streams
  rw [reading]
  rfl

theorem step_received {world : World} {stream : Bytes} (bytes : Bytes)
    (current : world.current = some stream) :
    world.step memory (.received bytes) =
      { thread := (world.thread.receive memory (bytes.take world.thread.wanted)).1
        trace := world.trace ++
          (world.thread.receive memory (bytes.take world.thread.wanted)).2
        finished := world.finished
        current := some (stream ++ bytes.take world.thread.wanted) } := by
  unfold World.step Thread.step World.streams
  rw [current]
  rfl

theorem step_unconnected {world : World} (bytes : Bytes) (current : world.current = none)
    (phase : world.thread.phase = .stopped ∨ world.thread.phase = .accepting) :
    world.step memory (.received bytes) = { world with trace := world.trace ++ [] } := by
  obtain ⟨thread, trace, finished, _⟩ := world
  simp only at current phase
  unfold World.step Thread.step World.streams Thread.receive
  rcases phase with phase | phase <;> (simp only [phase, current]; rfl)

theorem World.Follows.accepting {world : World} (follows : world.Follows memory start)
    (phase : world.thread.phase = .accepting) :
    world.current = none ∧
      world.thread =
        { phase := .accepting
          worker := (replay memory start world.finished).1.worker
          mallocs := (replay memory start world.finished).1.mallocs } := by
  cases current : world.current with
  | none =>
      refine ⟨rfl, (follows.idle current).resolve_left ?_⟩
      rw [phase]
      intro same
      cases same
  | some stream => exact absurd phase (reached_busy (follows.connected stream current))

theorem World.Follows.reading {world : World} (follows : world.Follows memory start)
    (reading : world.thread.reading = true) :
    ∃ stream, world.current = some stream ∧
      (split memory (replay memory start world.finished).1 stream).Reached world.thread := by
  cases current : world.current with
  | none =>
      rcases follows.idle current with stopped | accepting
      · rw [Thread.reading, stopped] at reading
        cases reading
      · rw [accepting] at reading
        cases reading
  | some stream => exact ⟨stream, rfl, follows.connected stream current⟩

theorem World.Follows.silent {world : World} (follows : world.Follows memory start) :
    World.Follows memory start { world with trace := world.trace ++ [] } := by
  rw [List.append_nil]
  exact follows

theorem World.Follows.step {world : World} (follows : world.Follows memory start)
    (event : Event) : (world.step memory event).Follows memory start := by
  cases event with
  | timeout | interrupted => exact follows.silent
  | connected =>
      by_cases phase : world.thread.phase = .accepting
      · obtain ⟨current, thread⟩ := follows.accepting phase
        have unfinished : Unfinished memory (replay memory start world.finished).1 [] :=
          .inl (by decide)
        rw [(step_accepting phase).1]
        constructor
        · show world.trace ++ [] = _
          rw [follows.trace, current, expected, expected]
          simp only [Option.elim, unfinished.split, List.map_nil]
          rw [List.append_nil, List.append_nil]
        · intro none
          cases none
        · intro stream same
          cases same
          rw [unfinished.split]
          simp only [thread]
          rfl
      · rw [(step_busy phase).1]
        exact follows.silent
  | listenerFailed =>
      by_cases phase : world.thread.phase = .accepting
      · rw [(step_accepting phase).2, List.append_nil]
        refine ⟨follows.trace, fun _ => .inl rfl, ?_⟩
        intro stream same
        rw [(follows.accepting phase).1] at same
        cases same
      · rw [(step_busy phase).2]
        exact follows.silent
  | received bytes =>
      cases current : world.current with
      | none =>
          rw [step_unconnected bytes current]
          · exact follows.silent
          · rcases follows.idle current with stopped | accepting
            · exact .inl stopped
            · exact .inr (by rw [accepting])
      | some stream =>
          obtain ⟨reached, calls⟩ := received_reached (follows.connected stream current) bytes
          rw [step_received bytes current]
          refine ⟨?_, (fun none => by cases none), fun same equal => ?_⟩
          · show world.trace ++ _ = _
            rw [follows.trace, current, expected, expected, Option.elim, Option.elim, calls,
              List.append_assoc]
          · cases equal
            exact reached
  | ended =>
      cases reading : world.thread.reading with
      | false =>
          rw [step_idle reading]
          exact follows.silent
      | true =>
          obtain ⟨stream, current, reached⟩ := follows.reading reading
          rw [step_ended reading, closed_reached reached reading, current, Option.toList]
          refine ⟨?_, fun _ => .inr ?_, fun _ same => by cases same⟩
          · show world.trace ++ [.flush] = _
            rw [follows.trace, current, expected, expected, replay_concat]
            simp only [Option.elim, List.append_assoc, List.append_nil]
          · simp only [replay_concat]

end Run

end AirTizen.Mirror

import AirTizen.Mirror.Session
import AirTizen.Video.Packing

/-!
# Clip clocks that restart

The worker lowers its base when a time stamp falls below it, but the store
compares with the last time stamp it took under the old base.  So a clip whose
clock restarts is refused until its time passes the old one, unless it comes
with a new configuration; and behind a new configuration the store waits for a
key frame again.
-/

namespace AirTizen.Mirror

open CText Video

/-! ## What a connection carries -/

/-- The messages of all packets, absent if the worker leaves its loop. -/
def openAll : Cipher → List Delivery → Option (List Message)
  | _, [] => some []
  | cipher, delivery :: rest =>
      match openPacket delivery.allocated cipher delivery.packet with
      | none => none
      | some (message, cipher) => (openAll cipher rest).map (message :: ·)

theorem openAll_cons {cipher : Cipher} {delivery : Delivery} {rest : List Delivery}
    {messages : List Message} (opened : openAll cipher (delivery :: rest) = some messages) :
    ∃ message next tail,
      openPacket delivery.allocated cipher delivery.packet = some (message, next) ∧
        openAll next rest = some tail ∧ messages = message :: tail := by
  simp only [openAll] at opened
  split at opened
  · cases opened
  next message next openedFirst =>
    obtain ⟨tail, openedRest, rfl⟩ := Option.map_eq_some_iff.mp opened
    exact ⟨message, next, tail, openedFirst, openedRest, rfl⟩

def Configures (data : Bytes) : Prop :=
  8 ≤ data.length ∧ data.length ≤ 65536 ∧ naluType 7 data = true ∧ naluType 8 data = true

instance (data : Bytes) : Decidable (Configures data) :=
  inferInstanceAs (Decidable (8 ≤ data.length ∧ data.length ≤ 65536 ∧ naluType 7 data = true ∧
    naluType 8 data = true))

def Message.isKey : Message → Bool
  | .accessUnit data _ => naluType 5 data
  | _ => false

/-- What the store can take next, as the messages tell it: a key frame, an access unit
later than the last one, or none at all behind a configuration that it refused. -/
inductive Clip where
  | waiting
  | running (last : Nat)
  | stranded
  deriving DecidableEq

def Clip.next : Clip → Message → Clip
  | clip, .other => clip
  | .waiting, .configuration _ => .waiting
  | _, .configuration data => if Configures data then .waiting else .stranded
  | .waiting, .accessUnit data micros => if naluType 5 data then .running micros else .waiting
  | .running _, .accessUnit _ micros => .running micros
  | .stranded, .accessUnit _ _ => .stranded

def Clip.Allows : Clip → Message → Prop
  | .waiting, .accessUnit data _ => naluType 5 data = true
  | .running last, .accessUnit _ micros => last < micros
  | .stranded, .accessUnit _ _ => False
  | _, _ => True

instance : (clip : Clip) → (message : Message) → Decidable (clip.Allows message)
  | .waiting, .accessUnit data _ => inferInstanceAs (Decidable (naluType 5 data = true))
  | .running last, .accessUnit _ micros => inferInstanceAs (Decidable (last < micros))
  | .stranded, .accessUnit _ _ => isFalse id
  | .waiting, .configuration _ | .waiting, .other => isTrue trivial
  | .running _, .configuration _ | .running _, .other => isTrue trivial
  | .stranded, .configuration _ | .stranded, .other => isTrue trivial

/-- From the first key frame on, every access unit is one that the store can take next. -/
def ClipsFollow : List Message → Prop :=
  Machine.GuardedFrom Clip.next (fun _ => Message.isKey) Clip.Allows .waiting

/-! ## What the store takes -/

def Takes (store : Store) : Option Call → Prop
  | some (.frame run data pts) =>
      (frame run data pts store).1 = 1 ∧
        (frame run data pts store).2.state.latest = store.state.latest + 1
  | _ => True

instance (store : Store) : (call : Option Call) → Decidable (Takes store call)
  | some (.frame _ _ _) => inferInstanceAs (Decidable (_ ∧ _))
  | some (.configure _ _) | some .reset | none => isTrue trivial

def UnitAccepted (session : Session) (delivery : Delivery) : Prop :=
  Takes session.store (session.handle delivery).2

instance (session : Session) (delivery : Delivery) : Decidable (UnitAccepted session delivery) :=
  inferInstanceAs (Decidable (Takes _ _))

def keyHanded : Option Call → Bool
  | some (.frame _ data _) => naluType 5 data
  | _ => false

/-- Every access unit from the first key frame of the connection on is taken. -/
def UnitsAccepted : Session → List Delivery → Prop :=
  Machine.GuardedFrom deliver (fun session delivery => keyHanded (session.handle delivery).2)
    UnitAccepted

/-! ## Worker and store in step -/

/-- The store waits for a key frame, took the last access unit under the worker's base, or
keeps its clock while the worker has lost its base. -/
structure Synced (session : Session) (worker : Worker) (clip : Clip) : Prop where
  present : session.worker = some worker
  represents : ∃ stream, Represents session.store stream
  configured : session.store.config ≠ none
  waiting : clip = .waiting → session.store.mux = false ∧ session.store.havePts = false
  running : ∀ micros, clip = .running micros →
    session.store.mux = true ∧ session.store.havePts = true ∧
      worker.clock.haveBase = true ∧ worker.clock.base ≤ micros ∧
      session.store.lastPts = micros - worker.clock.base
  stranded : clip = .stranded →
    session.store.mux = true ∧ session.store.havePts = true ∧ worker.clock.haveBase = false

variable {session : Session} {worker : Worker} {delivery : Delivery} {message : Message}
  {cipher : Cipher} {clip : Clip}

def Continues (session : Session) (cipher : Cipher) (clip : Clip) : Prop :=
  ∃ worker, worker.cipher = cipher ∧ Synced session worker clip

theorem handle_eq (present : session.worker = some worker)
    (opened : openPacket delivery.allocated worker.cipher delivery.packet =
      some (message, cipher)) :
    session.handle delivery =
      (some { cipher := cipher, clock := (rebase worker.clock message).1 },
        (rebase worker.clock message).2.bind (videoCall delivery.allocated delivery.run)) := by
  simp [Session.handle, present, Worker.receive, opened]

theorem configure_eq {data : Bytes} (configures : Configures data) (store : Store) :
    configure true data store =
      (0, { restart store with
        config := some data, state := { (restart store).state with mime := codecMime data } }) := by
  obtain ⟨long, short, sps, pps⟩ := configures
  unfold configure
  rw [if_neg (by simp [sps, pps, long, short])]
  rfl

theorem configure_refused {data : Bytes} (refused : ¬ Configures data) (allocated : Bool)
    (store : Store) : configure allocated data store = (-1, store) := by
  unfold configure
  rw [if_pos]
  by_contra other
  simp only [not_or, not_lt, Bool.not_eq_true'] at other
  exact refused ⟨other.1, other.2.1, by simpa using other.2.2.1, by simpa using other.2.2.2⟩

theorem rebase_accessUnit (clock : Clock) (data : Bytes) (micros : Nat) :
    ∃ base, base ≤ micros ∧
      (rebase clock (.accessUnit data micros)).1 = { haveBase := true, base := base } ∧
      (rebase clock (.accessUnit data micros)).2 =
        some { data := data, frameType := 1, pts := micros - base } ∧
      base = if clock.haveBase then min clock.base micros else micros := by
  unfold rebase
  cases known : clock.haveBase with
  | false => exact ⟨micros, le_rfl, by simp, by simp, by simp⟩
  | true =>
      by_cases earlier : micros < clock.base
      · exact ⟨micros, le_rfl, by simp [earlier, known], by simp [earlier],
          (min_eq_right earlier.le).symm⟩
      · refine ⟨clock.base, not_lt.mp earlier, ?_, by simp [earlier],
          (min_eq_left (not_lt.mp earlier)).symm⟩
        simp only [if_true, if_neg earlier]
        rw [← known]

theorem configuration_nonempty {data : Bytes} (configures : Configures data) : data ≠ [] := by
  rintro rfl
  exact absurd configures.1 (by decide)

theorem handle_configuration {data : Bytes} (present : session.worker = some worker)
    (opened : openPacket delivery.allocated worker.cipher delivery.packet =
      some (.configuration data, cipher)) :
    session.handle delivery =
      (some ⟨cipher, { worker.clock with haveBase := false }⟩,
        if data = [] then none else some (.configure delivery.allocated data)) := by
  rw [handle_eq present opened]
  simp [rebase, videoCall]

/-- A configuration makes the store wait for a key frame. -/
theorem synced_configuration {data : Bytes}
    (present : session.worker = some worker)
    (represents : ∃ stream, Represents session.store stream)
    (opened : openPacket delivery.allocated worker.cipher delivery.packet =
      some (.configuration data, cipher))
    (allocated : delivery.allocated = true) (configures : Configures data) :
    Continues (deliver session delivery) cipher .waiting := by
  obtain ⟨stream, represents⟩ := represents
  have handled := handle_configuration present opened
  rw [if_neg (configuration_nonempty configures), allocated] at handled
  have step : deliver session delivery =
      { worker := some ⟨cipher, { worker.clock with haveBase := false }⟩
        store := (configure true data session.store).2 } := by
    simp [deliver, handled, step]
  refine ⟨⟨cipher, { worker.clock with haveBase := false }⟩, rfl, ?_⟩
  rw [step]
  obtain ⟨next, _, stored⟩ := represents.configure true data
  have configured := configure_eq configures session.store
  exact
    { present := rfl
      represents := ⟨next, stored⟩
      configured := by simp [configured]
      waiting := fun _ => by simp [configured, restart, clearLocked]
      running := by simp
      stranded := by simp }

/-- A configuration that the store refuses takes the worker's base away. -/
theorem Synced.configuration_refused {data : Bytes} (synced : Synced session worker clip)
    (opened : openPacket delivery.allocated worker.cipher delivery.packet =
      some (.configuration data, cipher))
    (refused : ¬ Configures data) :
    Continues (deliver session delivery) cipher (clip.next (.configuration data)) := by
  have handled := handle_configuration synced.present opened
  have step : deliver session delivery =
      { worker := some ⟨cipher, { worker.clock with haveBase := false }⟩
        store := session.store } := by
    by_cases empty : data = []
    · simp [deliver, handled, empty]
    · simp [deliver, handled, empty, step, configure_refused refused]
  refine ⟨⟨cipher, { worker.clock with haveBase := false }⟩, rfl, ?_⟩
  rw [step]
  have kept : clip.next (.configuration data) ≠ .waiting →
      session.store.mux = true ∧ session.store.havePts = true := by
    cases clip with
    | waiting => exact fun other => absurd rfl other
    | running last =>
        obtain ⟨mux, timed, _⟩ := synced.running last rfl
        exact fun _ => ⟨mux, timed⟩
    | stranded =>
        obtain ⟨mux, timed, _⟩ := synced.stranded rfl
        exact fun _ => ⟨mux, timed⟩
  refine
    { present := rfl, represents := synced.represents, configured := synced.configured
      waiting := fun waits => ?_, running := fun micros runs => ?_
      stranded := fun lost => ?_ }
  · cases clip with
    | waiting => exact synced.waiting rfl
    | running last => simp [Clip.next, refused] at waits
    | stranded => simp [Clip.next, refused] at waits
  · cases clip with
    | waiting => cases runs
    | running last => simp [Clip.next, refused] at runs
    | stranded => simp [Clip.next, refused] at runs
  · obtain ⟨mux, timed⟩ := kept (by rw [lost]; exact nofun)
    exact ⟨mux, timed, rfl⟩

theorem Synced.other (synced : Synced session worker clip)
    (opened : openPacket delivery.allocated worker.cipher delivery.packet =
      some (.other, cipher)) :
    Continues (deliver session delivery) cipher clip := by
  have handled := handle_eq synced.present opened
  simp only [rebase, Option.bind_none] at handled
  have step : deliver session delivery =
      { worker := some ⟨cipher, worker.clock⟩, store := session.store } := by
    simp [deliver, handled]
  refine ⟨⟨cipher, worker.clock⟩, rfl, ?_⟩
  rw [step]
  exact
    { present := rfl, represents := synced.represents, configured := synced.configured
      waiting := synced.waiting, running := synced.running, stranded := synced.stranded }

/-! ## One access unit -/

theorem Synced.handle_accessUnit {data : Bytes} {micros : Nat}
    (synced : Synced session worker clip)
    (opened : openPacket delivery.allocated worker.cipher delivery.packet =
      some (.accessUnit data micros, cipher)) :
    ∃ base, base ≤ micros ∧
      session.handle delivery = (some ⟨cipher, { haveBase := true, base := base }⟩,
        some (.frame delivery.run data (micros - base))) ∧
      deliver session delivery =
        { worker := some ⟨cipher, { haveBase := true, base := base }⟩
          store := (frame delivery.run data (micros - base) session.store).2 } ∧
      base = if worker.clock.haveBase then min worker.clock.base micros else micros := by
  obtain ⟨nonempty, _, _⟩ := accessUnit_bounds opened
  obtain ⟨base, below, clock, callback, known⟩ := rebase_accessUnit worker.clock data micros
  have handled := handle_eq synced.present opened
  rw [clock, callback] at handled
  simp only [Option.bind_some, videoCall, if_neg nonempty, one_ne_zero, if_false] at handled
  exact ⟨base, below, handled, by simp [deliver, handled, step], known⟩

theorem Synced.due {data : Bytes} {micros base : Nat} (synced : Synced session worker clip)
    (opened : openPacket delivery.allocated worker.cipher delivery.packet =
      some (.accessUnit data micros, cipher))
    (key : session.store.mux = true ∨ naluType 5 data = true) :
    Due session.store data (micros - base) := by
  obtain ⟨nonempty, small, stamp⟩ := accessUnit_bounds opened
  have inRange := delivery.packet.micros_lt
  exact
    { nonempty := nonempty
      small := small
      inRange := by
        unfold int64Max
        omega
      configured := synced.configured
      key := key }

/-- While the store waits for a key frame, it takes nothing else. -/
theorem Synced.accessUnit_waits {data : Bytes} {micros : Nat}
    (synced : Synced session worker .waiting)
    (opened : openPacket delivery.allocated worker.cipher delivery.packet =
      some (.accessUnit data micros, cipher))
    (noKey : naluType 5 data = false) :
    ¬ UnitAccepted session delivery ∧ Continues (deliver session delivery) cipher .waiting := by
  obtain ⟨base, _, handled, step, _⟩ := synced.handle_accessUnit opened
  obtain ⟨noMux, untimed⟩ := synced.waiting rfl
  obtain ⟨nonempty, small, stamp⟩ := accessUnit_bounds opened
  have inRange := delivery.packet.micros_lt
  have valid := frame_valid nonempty small (show micros - base ≤ int64Max by
    unfold int64Max
    omega)
  have result : frame delivery.run data (micros - base) session.store = (0, session.store) := by
    simp [frame, if_neg valid, synced.configured, noMux, noKey]
  refine ⟨?_, ⟨cipher, { haveBase := true, base := base }⟩, rfl, ?_⟩
  · rw [UnitAccepted, handled]
    rintro ⟨taken, _⟩
    rw [result] at taken
    cases taken
  · rw [step, result]
    exact
      { present := rfl, represents := synced.represents, configured := synced.configured
        waiting := synced.waiting, running := by simp, stranded := by simp }

/-- An access unit that is due and later than the last one is taken. -/
theorem Synced.accessUnit_taken {data : Bytes} {micros : Nat}
    (synced : Synced session worker clip)
    (opened : openPacket delivery.allocated worker.cipher delivery.packet =
      some (.accessUnit data micros, cipher))
    (succeeds : delivery.run.Succeeds) (allows : clip.Allows (.accessUnit data micros)) :
    UnitAccepted session delivery ∧
      Continues (deliver session delivery) cipher (.running micros) := by
  obtain ⟨base, below, handled, step, known⟩ := synced.handle_accessUnit opened
  obtain ⟨stream, represents⟩ := synced.represents
  obtain ⟨key, fresh⟩ : (session.store.mux = true ∨ naluType 5 data = true) ∧
      ¬(session.store.havePts = true ∧ micros - base ≤ session.store.lastPts) := by
    cases clip with
    | waiting =>
        refine ⟨.inr allows, ?_⟩
        simp [(synced.waiting rfl).2]
    | running before =>
        have later : before < micros := allows
        obtain ⟨mux, _, haveBase, baseBelow, lastPts⟩ := synced.running before rfl
        rw [haveBase, if_pos rfl] at known
        exact ⟨.inl mux, by omega⟩
    | stranded => exact allows.elim
  obtain ⟨result, latest, mux, config, timed, lastPts⟩ :=
    frame_succeeds represents succeeds
      (synced.due opened key : Due session.store data (micros - base)) fresh
  refine ⟨?_, ⟨cipher, { haveBase := true, base := base }⟩, rfl, ?_⟩
  · rw [UnitAccepted, handled]
    exact ⟨result, latest⟩
  · rw [step]
    obtain ⟨next, _, stored⟩ := represents.frame delivery.run data (micros - base)
    exact
      { present := rfl
        represents := ⟨next, stored⟩
        configured := by
          rw [config]
          exact synced.configured
        waiting := by simp
        running := by
          rintro _ ⟨rfl⟩
          exact ⟨mux, timed, rfl, below, lastPts⟩
        stranded := by simp }

/-- An access unit that is not later than the last one is refused, whatever the worker
does to its base, and so is each one behind a configuration that was refused. -/
theorem Synced.accessUnit_refused {data : Bytes} {micros : Nat}
    (synced : Synced session worker clip)
    (opened : openPacket delivery.allocated worker.cipher delivery.packet =
      some (.accessUnit data micros, cipher))
    (started : clip ≠ .waiting) (refused : ¬ clip.Allows (.accessUnit data micros)) :
    ¬ UnitAccepted session delivery := by
  obtain ⟨base, _, handled, _, known⟩ := synced.handle_accessUnit opened
  obtain ⟨mux, timed, stale⟩ : session.store.mux = true ∧ session.store.havePts = true ∧
      micros - base ≤ session.store.lastPts := by
    cases clip with
    | waiting => exact absurd rfl started
    | running before =>
        have notLater : micros ≤ before := not_lt.mp refused
        obtain ⟨mux, timed, haveBase, baseBelow, lastPts⟩ := synced.running before rfl
        rw [haveBase, if_pos rfl] at known
        exact ⟨mux, timed, by omega⟩
    | stranded =>
        obtain ⟨mux, timed, lost⟩ := synced.stranded rfl
        rw [lost, if_neg (by decide)] at known
        exact ⟨mux, timed, by omega⟩
  have result : frame delivery.run data (micros - base) session.store = (-1, session.store) :=
    frame_stale (synced.due opened (.inl mux)) mux timed stale
  rw [UnitAccepted, handled]
  rintro ⟨taken, _⟩
  rw [result] at taken
  cases taken

/-! ## Whole connections -/

/-- A message that the clip allows is taken and moves it on. -/
theorem Synced.allowed (synced : Synced session worker clip)
    (opened : openPacket delivery.allocated worker.cipher delivery.packet =
      some (message, cipher))
    (allocated : delivery.allocated = true) (succeeds : delivery.run.Succeeds)
    (allows : clip.Allows message) :
    UnitAccepted session delivery ∧
      Continues (deliver session delivery) cipher (clip.next message) := by
  cases message with
  | other =>
      have handled := handle_eq synced.present opened
      have next : clip.next .other = clip := by cases clip <;> rfl
      rw [next]
      refine ⟨?_, synced.other opened⟩
      rw [UnitAccepted, handled]
      trivial
  | configuration data =>
      have accepted : UnitAccepted session delivery := by
        rw [UnitAccepted, handle_configuration synced.present opened]
        split <;> trivial
      by_cases configures : Configures data
      · have next : clip.next (.configuration data) = .waiting := by
          cases clip <;> simp [Clip.next, configures]
        rw [next]
        exact ⟨accepted,
          synced_configuration synced.present synced.represents opened allocated configures⟩
      · exact ⟨accepted, synced.configuration_refused opened configures⟩
  | accessUnit data micros =>
      have next : clip.next (.accessUnit data micros) = .running micros := by
        cases clip with
        | waiting => exact if_pos allows
        | running last => rfl
        | stranded => exact allows.elim
      rw [next]
      exact synced.accessUnit_taken opened succeeds allows

theorem Synced.refused (synced : Synced session worker clip)
    (opened : openPacket delivery.allocated worker.cipher delivery.packet =
      some (message, cipher))
    (refused : ¬ clip.Allows message) : ¬ UnitAccepted session delivery := by
  obtain ⟨data, micros, rfl⟩ : ∃ data micros, message = .accessUnit data micros := by
    cases message with
    | accessUnit data micros => exact ⟨data, micros, rfl⟩
    | configuration data => exact absurd (by cases clip <;> trivial) refused
    | other => exact absurd (by cases clip <;> trivial) refused
  by_cases waits : clip = .waiting
  · subst waits
    have noKey : naluType 5 data = false := Bool.eq_false_iff.mpr refused
    exact (synced.accessUnit_waits opened noKey).1
  · exact synced.accessUnit_refused opened waits refused

/-- From any state in step on, all access units are taken exactly if the clip allows all
messages. -/
theorem Synced.guarded_iff {deliveries : List Delivery} {messages : List Message}
    (synced : Synced session worker clip)
    (opened : openAll worker.cipher deliveries = some messages)
    (succeeds : ∀ delivery ∈ deliveries, delivery.allocated = true ∧ delivery.run.Succeeds) :
    Machine.Guarded deliver UnitAccepted session deliveries ↔
      Machine.Guarded Clip.next Clip.Allows clip messages := by
  induction deliveries generalizing session worker clip messages with
  | nil =>
      cases opened
      exact Iff.rfl
  | cons delivery rest inductionHypothesis =>
      obtain ⟨message, cipher, tail, openedFirst, openedRest, rfl⟩ := openAll_cons opened
      obtain ⟨allocated, succeedsFirst⟩ := succeeds delivery List.mem_cons_self
      by_cases allows : clip.Allows message
      · obtain ⟨accepted, next, rfl, later⟩ :=
          synced.allowed openedFirst allocated succeedsFirst allows
        exact and_congr (iff_of_true accepted allows) (inductionHypothesis later openedRest
          fun other membership => succeeds other (List.mem_cons_of_mem _ membership))
      · have refused := synced.refused openedFirst allows
        exact iff_of_false (fun guarded => refused guarded.1) fun guarded => allows guarded.1

theorem Synced.keyHanded_eq (synced : Synced session worker clip)
    (opened : openPacket delivery.allocated worker.cipher delivery.packet =
      some (message, cipher)) : keyHanded (session.handle delivery).2 = message.isKey := by
  cases message with
  | other =>
      rw [handle_eq synced.present opened]
      rfl
  | configuration data =>
      rw [handle_configuration synced.present opened]
      split <;> rfl
  | accessUnit data micros =>
      obtain ⟨base, _, handled, _, _⟩ := synced.handle_accessUnit opened
      rw [handled]
      rfl

theorem Synced.still_waiting (synced : Synced session worker .waiting)
    (opened : openPacket delivery.allocated worker.cipher delivery.packet =
      some (message, cipher))
    (allocated : delivery.allocated = true) (succeeds : delivery.run.Succeeds)
    (noKey : message.isKey = false) :
    Clip.next .waiting message = .waiting ∧
      Continues (deliver session delivery) cipher .waiting := by
  cases message with
  | other => exact ⟨rfl, (synced.allowed opened allocated succeeds trivial).2⟩
  | configuration data => exact ⟨rfl, (synced.allowed opened allocated succeeds trivial).2⟩
  | accessUnit data micros =>
      exact ⟨if_neg (Bool.eq_false_iff.mp noKey), (synced.accessUnit_waits opened noKey).2⟩

theorem Synced.accepted_iff {deliveries : List Delivery} {messages : List Message}
    (synced : Synced session worker .waiting)
    (opened : openAll worker.cipher deliveries = some messages)
    (succeeds : ∀ delivery ∈ deliveries, delivery.allocated = true ∧ delivery.run.Succeeds) :
    UnitsAccepted session deliveries ↔ ClipsFollow messages := by
  induction deliveries generalizing session worker messages with
  | nil =>
      cases opened
      exact Iff.rfl
  | cons delivery rest inductionHypothesis =>
      have guarded := synced.guarded_iff opened succeeds
      obtain ⟨message, cipher, tail, openedFirst, openedRest, rfl⟩ := openAll_cons opened
      obtain ⟨allocated, succeedsFirst⟩ := succeeds delivery List.mem_cons_self
      have handed := synced.keyHanded_eq openedFirst
      cases key : message.isKey with
      | true =>
          refine (Machine.guardedFrom_start ?_).trans (guarded.trans
            (Machine.guardedFrom_start ?_).symm)
          · exact handed.trans key
          · exact key
      | false =>
          obtain ⟨waits, next, rfl, later⟩ :=
            synced.still_waiting openedFirst allocated succeedsFirst key
          have followsRest := inductionHypothesis later openedRest fun other membership =>
            succeeds other (List.mem_cons_of_mem _ membership)
          unfold ClipsFollow at followsRest
          nth_rewrite 1 [← waits] at followsRest
          refine (Machine.guardedFrom_skip ?_).trans (followsRest.trans
            (Machine.guardedFrom_skip ?_).symm)
          · exact handed.trans key
          · exact key

/-- On a connection that begins with a configuration that the store accepts, every access
unit from the first key frame on is taken exactly if the clips follow each other. -/
theorem units_accepted_iff (calls : List Call) (worker : Worker) (deliveries : List Delivery)
    (first : Bytes) (messages : List Message)
    (opened : openAll worker.cipher deliveries = some (.configuration first :: messages))
    (configures : Configures first)
    (succeeds : ∀ delivery ∈ deliveries, delivery.allocated = true ∧ delivery.run.Succeeds) :
    UnitsAccepted ⟨some worker, after calls⟩ deliveries ↔ ClipsFollow messages := by
  cases deliveries with
  | nil => cases opened
  | cons delivery rest =>
      obtain ⟨allocated, _⟩ := succeeds delivery List.mem_cons_self
      obtain ⟨message, cipher, tail, openedFirst, openedRest, equality⟩ := openAll_cons opened
      cases equality
      have handled := @handle_configuration ⟨some worker, Video.after calls⟩ worker delivery cipher
        first rfl openedFirst
      have noKey : keyHanded (Session.handle ⟨some worker, Video.after calls⟩ delivery).2 =
          false := by
        rw [handled, if_neg (configuration_nonempty configures)]
        rfl
      obtain ⟨next, rfl, synced⟩ := @synced_configuration ⟨some worker, Video.after calls⟩ worker
        delivery cipher first rfl (represents_after calls) openedFirst allocated configures
      refine (Machine.guardedFrom_skip ?_).trans ?_
      · exact noKey
      · exact synced.accepted_iff openedRest fun other membership =>
          succeeds other (List.mem_cons_of_mem _ membership)

/-! ## A clip that restarts -/

def smallPacket (type seconds : UInt8) (payload : Bytes) (small : payload.length < 256) :
    Packet where
  header := [payload.length.toUInt8, 0, 0, 0, type, 0, 0, 0, 0, 0, 0, 0, seconds, 0, 0, 0] ++
    List.replicate 112 0
  payload := payload
  header_length := rfl
  payload_length := by
    simp only [littleEndian, List.drop_zero, List.cons_append, List.nil_append, List.take_succ_cons,
      List.take_zero, List.foldr_cons, List.foldr_nil, Nat.toUInt8, UInt8.toNat_ofNat']
    simp
    omega

def testConfiguration : Bytes :=
  [1, 0x42, 0, 0x1e, 0xff, 0xe1, 0, 4, 0x67, 0x42, 0, 0x1e, 1, 0, 2, 0x68, 0]

def testFrame : Bytes := [0, 0, 0, 2, 0x65, 0x11]

def testWorker : Worker := { cipher := { keystream := fun _ => 0, used := 0 } }

/-- One configuration, then a key frame at each of the given seconds. -/
def testDeliveries (seconds : List UInt8) : List Delivery :=
  { packet := smallPacket 1 0 testConfiguration (by decide), run := sampleRun 1 1 } ::
    seconds.map fun second =>
      { packet := smallPacket 0 second testFrame (by decide), run := sampleRun 1 1 }

def convertedFrame : Bytes := [0, 0, 0, 1, 0x65, 0x11]

theorem sampleRun_succeeds (first second : UInt8) : (sampleRun first second).Succeeds where
  opens :=
    { decoderOpened := rfl
      packetSent := rfl
      width := by simp [sampleRun]
      height := by simp [sampleRun]
      containerOpened := rfl
      header := rfl
      headerFits :=
        { reallocated := by simp [sampleRun]
          nonempty := by simp [sampleRun, chunkBytes]
          small := by simp [sampleRun, chunkBytes, partLimit] } }
  packs :=
    { packetAllocated := rfl
      written := rfl
      drained := rfl
      fits :=
        { reallocated := by simp [sampleRun]
          nonempty := by simp [sampleRun, chunkBytes]
          small := by simp [sampleRun, chunkBytes, partLimit] } }

theorem testDeliveries_succeed (seconds : List UInt8) :
    ∀ delivery ∈ testDeliveries seconds, delivery.allocated = true ∧ delivery.run.Succeeds := by
  intro delivery membership
  rcases List.mem_cons.mp membership with rfl | frame
  · exact ⟨rfl, sampleRun_succeeds 1 1⟩
  · obtain ⟨second, _, rfl⟩ := List.mem_map.mp frame
    exact ⟨rfl, sampleRun_succeeds 1 1⟩

theorem units_accepted_iff_test :
    UnitsAccepted ⟨some testWorker, after []⟩ (testDeliveries [100, 101]) ↔
      ClipsFollow [.accessUnit convertedFrame 100000000, .accessUnit convertedFrame 101000000] :=
  units_accepted_iff [] testWorker (testDeliveries [100, 101]) sampleConfig _ (by decide +kernel)
    (by decide +kernel) (testDeliveries_succeed [100, 101])

/-- The clock of the third frame restarts; its time stamp differs from the one
before, but the store refuses it. -/
theorem clip_clock_restart_refused :
    openAll testWorker.cipher (testDeliveries [100, 101, 1]) =
        some [.configuration sampleConfig, .accessUnit convertedFrame 100000000,
          .accessUnit convertedFrame 101000000, .accessUnit convertedFrame 1000000] ∧
      Configures sampleConfig ∧
      (∀ delivery ∈ testDeliveries [100, 101, 1],
        delivery.allocated = true ∧ delivery.run.Succeeds) ∧
      ¬ UnitsAccepted ⟨some testWorker, after []⟩ (testDeliveries [100, 101, 1]) :=
  ⟨by decide +kernel, by decide +kernel, testDeliveries_succeed [100, 101, 1],
    by
      unfold UnitsAccepted
      decide +kernel⟩

end AirTizen.Mirror

import AirTizen.Reverse.Channel

/-!
# Photo sessions on the reverse channel

A connection records the photo session that it saw last and closes it with a
`photo/stopped` event.  The record has room for one session: one that is followed
by another between two polls is overwritten and never closed.
-/

namespace AirTizen.Reverse

open CText AirTizen.Media Machine

/-! ## What was seen and said -/

inductive Mark where
  /-- The upgrade or a poll finds it active and unfailed, and records it. -/
  | seen (id : Nat)
  /-- A `photo/stopped` event carries it. -/
  | stopped (id : Nat)
  deriving DecidableEq

def Mark.id : Mark → Nat
  | .seen id | .stopped id => id

def Mark.recordedId : Mark → Option Nat
  | .seen id => some id
  | .stopped _ => none

def recorded (ledger : List Mark) : Option Nat := (ledger.filterMap Mark.recordedId).getLast?

def lastMark (ledger : List Mark) (id : Nat) : Option Mark :=
  (ledger.filter fun mark => mark.id = id).getLast?

def Event.closes (event : Event) : Option Nat :=
  if event.category = ascii "photo" ∧ event.state = ascii "stopped" then event.sessionId else none

def Channel.pollMarks (channel : Channel) : Polled → List Mark
  | .event event => event.closes.toList.map Mark.stopped
  | .quiet =>
      if channel.connection.reverse = .upgraded ∧ channel.connection.eventWaiting = false ∧
          showsPhoto channel.photo.state channel.connection.eventSession = true then
        [.seen channel.photo.state.sessionId]
      else []
  | .remove => []

def Channel.marks (channel : Channel) : Action → List Mark
  | .playback _ | .photo _ => []
  | .request request =>
      if channel.connected = true ∧ channel.connection.reverse = .plain then
        match reverseUpgrade request channel.playback channel.photo.state channel.connection with
        | none => []
        | some connection =>
            if showsPhoto channel.photo.state connection.eventSession then
              [.seen channel.photo.state.sessionId]
            else []
      else []
  | .poll now allocated _ =>
      if channel.connected = true then
        channel.pollMarks
          (reversePoll now allocated channel.playback channel.photo.state channel.connection).1
      else []

structure Observed where
  channel : Channel
  ledger : List Mark := []

def Observed.step (observed : Observed) (action : Action) : Observed where
  channel := observed.channel.step action
  ledger := observed.ledger ++ observed.channel.marks action

def Observed.accepted (playback : PlaybackState) (photo : PhotoStore) : Observed :=
  { channel := .accepted playback photo }

/-- An unfailed photo of the session with this number is on screen. -/
def running (photo : PhotoState) (id : Nat) : Prop :=
  photo.active = true ∧ photo.failed = false ∧ photo.sessionId = id

instance (photo : PhotoState) (id : Nat) : Decidable (running photo id) :=
  inferInstanceAs (Decidable (_ ∧ _ ∧ _))

/-- Every poll closes the session that it stops seeing, and no other one: a
recorded session is closed before another one is recorded, and before a poll
finds nothing to say; an event closes a session that was seen since it was
closed last, and that is not on screen. -/
def ClosesOnce (observed : Observed) : Action → Prop
  | .playback _ | .photo _ | .request _ => True
  | .poll now allocated delivered =>
      let channel := observed.channel
      let marks := channel.marks (.poll now allocated delivered)
      let polled :=
        (reversePoll now allocated channel.playback channel.photo.state channel.connection).1
      (∀ old ∈ recorded observed.ledger, ∀ new, .seen new ∈ marks → new ≠ old →
        lastMark observed.ledger old = some (.stopped old)) ∧
      (channel.connected = true → polled = .quiet → channel.connection.eventWaiting = false →
        showsPhoto channel.photo.state channel.connection.eventSession = false →
          ∀ id ∈ recorded observed.ledger, lastMark observed.ledger id = some (.stopped id)) ∧
      ∀ id, .stopped id ∈ marks →
        ¬ running channel.photo.state id ∧ lastMark observed.ledger id = some (.seen id)

/-- The photo on screen belongs to the session of the connection exactly if it has
the recorded number; without memory for an event the number of another client's
session does not matter. -/
def Connection.Matches (connection : Connection) (photo : PhotoState) (allocated : Bool) : Prop :=
  if photo.session = connection.eventSession then photo.sessionId = connection.photoSession
  else allocated = true → photo.sessionId ≠ connection.photoSession

instance (connection : Connection) (photo : PhotoState) (allocated : Bool) :
    Decidable (connection.Matches photo allocated) :=
  inferInstanceAs (Decidable (if photo.session = connection.eventSession then
      photo.sessionId = connection.photoSession
    else allocated = true → photo.sessionId ≠ connection.photoSession))

/-- The photo that is on screen unfailed when a poll reads the photo state, with a
recorded session that is not closed, matches the record. -/
def SameSession (observed : Observed) : Action → Prop
  | .playback _ | .photo _ | .request _ => True
  | .poll _ allocated _ =>
      observed.channel.connected = true →
        observed.channel.connection.reverse = .upgraded ∧
          observed.channel.connection.eventWaiting = false ∧
          observed.channel.connection.photoSeen = true →
        observed.channel.photo.state.active = true ∧ observed.channel.photo.state.failed = false →
          observed.channel.connection.Matches observed.channel.photo.state allocated

instance sameSessionDecidable (observed : Observed) :
    (action : Action) → Decidable (SameSession observed action)
  | .playback _ | .photo _ | .request _ => inferInstanceAs (Decidable True)
  | .poll _ allocated _ =>
      inferInstanceAs (Decidable (_ = true → _ ∧ _ ∧ _ → _ ∧ _ →
        observed.channel.connection.Matches observed.channel.photo.state allocated))

/-! ## The ledger -/

section Ledger

variable {ledger : List Mark} {id : Nat}

@[simp]
theorem recorded_nil : recorded [] = none := rfl

@[simp]
theorem recorded_seen : recorded (ledger ++ [.seen id]) = some id := by
  rw [recorded, List.filterMap_append]
  exact List.getLast?_concat

@[simp]
theorem recorded_stopped : recorded (ledger ++ [.stopped id]) = recorded ledger := by
  rw [recorded, List.filterMap_append]
  exact congrArg List.getLast? (List.append_nil _)

theorem lastMark_concat (mark : Mark) : lastMark (ledger ++ [mark]) mark.id = some mark := by
  rw [lastMark, List.filter_append, List.filter_cons_of_pos (by simp), List.filter_nil]
  exact List.getLast?_concat

end Ledger

/-! ## Polls -/

inductive PollOutcome (playback : PlaybackState) (photo : PhotoState) (connection : Connection)
    (allocated : Bool) : Polled → Connection → Prop where
  | broken (broken : connection.reverse = .broken) :
      PollOutcome playback photo connection allocated .remove connection
  | plain (plain : connection.reverse = .plain) :
      PollOutcome playback photo connection allocated .quiet connection
  | waiting (waits : connection.eventWaiting = true) {polled : Polled}
      (silent : polled = .remove ∨ polled = .quiet) :
      PollOutcome playback photo connection allocated polled connection
  | shown (upgraded : connection.reverse = .upgraded) (answered : connection.eventWaiting = false)
      (shows : showsPhoto photo connection.eventSession = true) :
      PollOutcome playback photo connection allocated .quiet
        { connection with photoSeen := true, photoSession := photo.sessionId }
  | unchanged (hidden : showsPhoto photo connection.eventSession = false)
      (unseen : connection.photoSeen = false) :
      PollOutcome playback photo connection allocated .quiet connection
  | unallocated (hidden : showsPhoto photo connection.eventSession = false)
      (refused : allocated = false) :
      PollOutcome playback photo connection allocated .remove
        { connection with photoSeen := false }
  | sent (upgraded : connection.reverse = .upgraded) (answered : connection.eventWaiting = false)
      (hidden : showsPhoto photo connection.eventSession = false) (memory : allocated = true)
      (time : Nat) :
      PollOutcome playback photo connection allocated (.event (eventOf connection playback))
        { connection with
          photoSeen := false
          eventState := some (playerState playback)
          eventGeneration := playback.generation
          eventWaiting := true
          eventTime := time }

theorem pollOutcome (now : Nat) (allocated : Bool) (playback : PlaybackState) (photo : PhotoState)
    (connection : Connection) :
    PollOutcome playback photo connection allocated
      (reversePoll now allocated playback photo connection).1
      (reversePoll now allocated playback photo connection).2 := by
  unfold reversePoll
  by_cases broken : connection.reverse = .broken
  · rw [if_pos broken]
    exact .broken broken
  rw [if_neg broken]
  by_cases plain : connection.reverse = .plain
  · rw [if_pos plain]
    exact .plain plain
  rw [if_neg plain]
  have upgraded : connection.reverse = .upgraded := by
    cases direction : connection.reverse with
    | plain => exact absurd direction plain
    | upgraded => rfl
    | broken => exact absurd direction broken
  by_cases waiting : connection.eventWaiting = true
  · rw [if_pos waiting]
    refine .waiting waiting ?_
    by_cases late : overdue now connection.eventTime = true
    · exact .inl (if_pos late)
    · exact .inr (if_neg late)
  rw [if_neg waiting]
  by_cases shown : showsPhoto photo connection.eventSession = true
  · rw [if_pos shown]
    exact .shown upgraded (by simpa using waiting) shown
  rw [if_neg shown]
  by_cases unchanged : (!connection.photoSeen && some (playerState playback) ==
      connection.eventState && playback.generation == connection.eventGeneration) = true
  · rw [if_pos unchanged]
    simp only [Bool.and_eq_true, Bool.not_eq_true'] at unchanged
    exact .unchanged (by simpa using shown) unchanged.1.1
  rw [if_neg unchanged]
  by_cases memory : (!allocated) = true
  · rw [if_pos memory]
    exact .unallocated (by simpa using shown) (by simpa using memory)
  · rw [if_neg memory]
    exact .sent upgraded (by simpa using waiting) (by simpa using shown) (by simpa using memory) now

theorem polled_connection (channel : Channel) (now : Nat) (allocated delivered : Bool) :
    (channel.polled now allocated delivered).connection =
        (reversePoll now allocated channel.playback channel.photo.state channel.connection).2 ∧
      (channel.polled now allocated delivered).photo = channel.photo ∧
      ((channel.polled now allocated delivered).connected = true →
        (reversePoll now allocated channel.playback channel.photo.state channel.connection).1 ≠
          .remove) := by
  unfold Channel.polled
  split
  next after result =>
    rw [result]
    exact ⟨rfl, rfl, fun connected => by cases connected⟩
  next after result =>
    rw [result]
    exact ⟨rfl, rfl, fun _ same => by cases same⟩
  next event after result =>
    rw [result]
    exact ⟨rfl, rfl, fun _ same => by cases same⟩

theorem eventOf_closes (connection : Connection) (playback : PlaybackState) :
    (eventOf connection playback).closes =
      if connection.photoSeen then some connection.photoSession else none := by
  unfold eventOf Event.closes
  cases connection.photoSeen with
  | true => rfl
  | false =>
      have other : ascii "video" ≠ ascii "photo" := by decide
      exact if_neg fun photo => other photo.1

/-! ## The record of a connection -/

/-- The flag and the number of a connection are the end of its ledger. -/
structure Marked (observed : Observed) : Prop where
  plain : observed.channel.connection.reverse = .plain →
    observed.ledger = [] ∧ observed.channel.connection.photoSeen = false
  seen : observed.channel.connected = true →
    observed.channel.connection.photoSeen = true →
      ∃ front, observed.ledger = front ++ [.seen observed.channel.connection.photoSession]
  closed : observed.channel.connected = true →
    observed.channel.connection.photoSeen = false →
      observed.ledger = [] ∨
        ∃ front, observed.ledger = front ++ [.stopped observed.channel.connection.photoSession] ∧
          recorded front = some observed.channel.connection.photoSession

theorem marked_accepted (playback : PlaybackState) (photo : PhotoStore) :
    Marked (Observed.accepted playback photo) where
  plain _ := ⟨rfl, rfl⟩
  seen _ shows := by cases shows
  closed _ _ := .inl rfl

theorem Marked.keep {observed after : Observed} (marked : Marked observed)
    (connected : after.channel.connected = true → observed.channel.connected = true)
    (ledger : after.ledger = observed.ledger)
    (record : after.channel.connection.photoSeen = observed.channel.connection.photoSeen ∧
      after.channel.connection.photoSession = observed.channel.connection.photoSession)
    (plain : after.channel.connection.reverse = .plain →
      observed.channel.connection.reverse = .plain) : Marked after := by
  refine ⟨fun apart => ?_, fun stays => ?_, fun stays => ?_⟩
  · rw [ledger, record.1]
    exact marked.plain (plain apart)
  · rw [ledger, record.1, record.2]
    exact marked.seen (connected stays)
  · rw [ledger, record.1, record.2]
    exact marked.closed (connected stays)

theorem Marked.poll {observed : Observed} (marked : Marked observed) (now : Nat)
    (allocated delivered : Bool) (connected : observed.channel.connected = true) :
    Marked
      { channel := observed.channel.polled now allocated delivered
        ledger := observed.ledger ++ observed.channel.pollMarks
          (reversePoll now allocated observed.channel.playback observed.channel.photo.state
            observed.channel.connection).1 } := by
  obtain ⟨connection, _, kept⟩ := polled_connection observed.channel now allocated delivered
  have outcome := pollOutcome now allocated observed.channel.playback
    observed.channel.photo.state observed.channel.connection
  generalize observed.channel.polled now allocated delivered = after at connection kept ⊢
  generalize reversePoll now allocated observed.channel.playback observed.channel.photo.state
    observed.channel.connection = result at connection kept outcome ⊢
  obtain ⟨polled, next⟩ := result
  simp only at connection kept outcome ⊢
  cases outcome with
  | broken broken =>
      exact marked.keep (fun _ => connected) (List.append_nil _)
        (by rw [connection]; exact ⟨rfl, rfl⟩) (by rw [connection]; exact id)
  | plain plain =>
      refine marked.keep (fun _ => connected) ?_ (by rw [connection]; exact ⟨rfl, rfl⟩)
        (by rw [connection]; exact id)
      rw [Channel.pollMarks, if_neg (by simp [plain]), List.append_nil]
  | waiting waits silent =>
      refine marked.keep (fun _ => connected) ?_ (by rw [connection]; exact ⟨rfl, rfl⟩)
        (by rw [connection]; exact id)
      rcases silent with rfl | rfl
      · exact List.append_nil _
      · rw [Channel.pollMarks, if_neg (by simp [waits]), List.append_nil]
  | shown upgraded answered shows =>
      rw [Channel.pollMarks, if_pos ⟨upgraded, answered, shows⟩]
      refine ⟨fun plain => ?_, fun _ _ => ?_, fun _ unseen => ?_⟩
      · rw [connection, upgraded] at plain
        cases plain
      · rw [connection]
        exact ⟨_, rfl⟩
      · rw [connection] at unseen
        cases unseen
  | unchanged hidden unseen =>
      refine marked.keep (fun _ => connected) ?_ (by rw [connection]; exact ⟨rfl, rfl⟩)
        (by rw [connection]; exact id)
      rw [Channel.pollMarks, if_neg (by simp [hidden]), List.append_nil]
  | unallocated hidden refused =>
      refine ⟨fun plain => ?_, fun removed => absurd rfl (kept removed),
        fun removed => absurd rfl (kept removed)⟩
      rw [connection] at plain ⊢
      exact ⟨by rw [(marked.plain plain).1]; rfl, rfl⟩
  | sent upgraded answered hidden memory time =>
      refine ⟨fun plain => ?_, fun _ seen => ?_, fun _ _ => ?_⟩
      · rw [connection, upgraded] at plain
        cases plain
      · rw [connection] at seen
        cases seen
      rw [connection, Channel.pollMarks, eventOf_closes]
      cases seen : observed.channel.connection.photoSeen with
      | true =>
          obtain ⟨front, ledger⟩ := marked.seen connected seen
          right
          refine ⟨observed.ledger, rfl, ?_⟩
          rw [ledger]
          exact recorded_seen
      | false =>
          have closed := marked.closed connected seen
          rwa [if_neg Bool.false_ne_true, Option.toList, List.map_nil, List.append_nil]

theorem reverseUpgrade_record {request : Request} {playback : PlaybackState}
    {photo : PhotoState} {connection after : Connection}
    (upgrade : reverseUpgrade request playback photo connection = some after) :
    after.reverse = .upgraded ∧
      after.photoSeen = (showsPhoto photo after.eventSession || connection.photoSeen) ∧
      (showsPhoto photo after.eventSession = true → after.photoSession = photo.sessionId) := by
  unfold reverseUpgrade at upgrade
  split at upgrade
  · cases upgrade
  · split at upgrade
    · cases upgrade
    · cases upgrade
      exact ⟨rfl, rfl, fun shows => if_pos shows⟩

theorem Marked.request {observed : Observed} (marked : Marked observed) (request : Request)
    (connected : observed.channel.connected = true) :
    Marked
      { channel := observed.channel.receive request
        ledger := observed.ledger ++ observed.channel.marks (.request request) } := by
  have stays : ∀ after : Observed,
      after.channel.connected = true → observed.channel.connected = true := fun _ _ => connected
  by_cases plain : observed.channel.connection.reverse = .plain
  · rw [Channel.marks, if_pos ⟨connected, plain⟩, Channel.receive, connRequest,
      if_neg (not_not_intro plain)]
    cases upgrade : reverseUpgrade request observed.channel.playback
        observed.channel.photo.state observed.channel.connection with
    | none => exact marked.keep (stays _) (List.append_nil _) ⟨rfl, rfl⟩ id
    | some after =>
        obtain ⟨upgraded, seen, session⟩ := reverseUpgrade_record upgrade
        obtain ⟨ledger, unseen⟩ := marked.plain plain
        rw [unseen, Bool.or_false] at seen
        simp only [Option.getD_some]
        refine ⟨fun again => ?_, fun _ shows => ?_, fun _ hides => ?_⟩
        · rw [upgraded] at again
          cases again
        · rw [seen] at shows
          rw [if_pos shows, session shows]
          exact ⟨_, rfl⟩
        · rw [seen] at hides
          left
          show observed.ledger ++ (if _ then _ else []) = []
          rw [ledger, hides]
          rfl
  · have nothing : observed.channel.marks (.request request) = [] :=
      if_neg fun both => plain both.2
    rw [nothing, List.append_nil, Channel.receive, connRequest, if_pos plain]
    by_cases answer : request.url.isNone = true
    · rw [if_pos answer]
      exact marked.keep (stays _) rfl ⟨rfl, rfl⟩ id
    · rw [if_neg answer]
      refine marked.keep (stays _) rfl ⟨rfl, rfl⟩ fun broken => ?_
      cases broken

theorem Marked.step {observed : Observed} (marked : Marked observed) (action : Action) :
    Marked (observed.step action) := by
  cases action with
  | playback call | photo call => exact marked.keep id (List.append_nil _) ⟨rfl, rfl⟩ id
  | request request =>
      by_cases connected : observed.channel.connected = true
      · have step : observed.channel.step (.request request) =
            observed.channel.receive request := if_pos connected
        rw [Observed.step, step]
        exact marked.request request connected
      · have step : observed.channel.step (.request request) = observed.channel :=
          if_neg connected
        rw [Observed.step, step, Channel.marks, if_neg fun both => connected both.1]
        exact marked.keep id (List.append_nil _) ⟨rfl, rfl⟩ id
  | poll now allocated delivered =>
      by_cases connected : observed.channel.connected = true
      · have step : observed.channel.step (.poll now allocated delivered) =
            observed.channel.polled now allocated delivered := if_pos connected
        rw [Observed.step, step, Channel.marks, if_pos connected]
        exact marked.poll now allocated delivered connected
      · have step : observed.channel.step (.poll now allocated delivered) = observed.channel :=
          if_neg connected
        rw [Observed.step, step, Channel.marks, if_neg connected]
        exact marked.keep id (List.append_nil _) ⟨rfl, rfl⟩ id

/-! ## Every poll -/

theorem showsPhoto_iff (photo : PhotoState) (session : Bytes) :
    showsPhoto photo session = true ↔
      photo.active = true ∧ photo.failed = false ∧ photo.session = session := by
  unfold showsPhoto
  simp only [Bool.and_eq_true, Bool.not_eq_true', beq_iff_eq, and_assoc]

theorem Marked.lastMark_recorded {observed : Observed} (marked : Marked observed)
    (connected : observed.channel.connected = true)
    (unseen : observed.channel.connection.photoSeen = false) :
    ∀ id ∈ recorded observed.ledger, lastMark observed.ledger id = some (.stopped id) := by
  intro id membership
  rcases marked.closed connected unseen with empty | ⟨front, ledger, last⟩
  · rw [empty] at membership
    cases membership
  · rw [ledger, recorded_stopped, last] at membership
    cases membership
    rw [ledger]
    exact lastMark_concat (.stopped _)

theorem Marked.open_recorded {observed : Observed} (marked : Marked observed)
    (connected : observed.channel.connected = true)
    (seen : observed.channel.connection.photoSeen = true) :
    recorded observed.ledger = some observed.channel.connection.photoSession ∧
      lastMark observed.ledger observed.channel.connection.photoSession =
        some (.seen observed.channel.connection.photoSession) := by
  obtain ⟨front, ledger⟩ := marked.seen connected seen
  rw [ledger]
  exact ⟨recorded_seen, lastMark_concat (.seen _)⟩

/-- A poll that sees a photo has closed the one it saw before exactly if it is the
same one, or was closed by then. -/
theorem Marked.shown_iff {observed : Observed} (marked : Marked observed)
    (connected : observed.channel.connected = true) (id : Nat) :
    (∀ old ∈ recorded observed.ledger, ∀ new, .seen new ∈ [Mark.seen id] → new ≠ old →
        lastMark observed.ledger old = some (.stopped old)) ↔
      (observed.channel.connection.photoSeen = true →
        id = observed.channel.connection.photoSession) := by
  cases seen : observed.channel.connection.photoSeen with
  | false =>
      refine iff_of_true ?_ fun absent => by cases absent
      intro old membership _ _ _
      exact marked.lastMark_recorded connected seen old membership
  | true =>
      obtain ⟨last, mark⟩ := marked.open_recorded connected seen
      constructor
      · intro closed _
        by_contra different
        have stopped := closed _ last id (List.mem_singleton.mpr rfl) different
        rw [mark] at stopped
        cases stopped
      · intro same old membership new isSeen different
        rw [last] at membership
        cases membership
        cases List.mem_singleton.mp isSeen
        exact absurd (same rfl) different

section Polls

variable {observed : Observed} {allocated : Bool}

/-- What `ClosesOnce` asks of a poll with this result, while connected. -/
def PollCloses (observed : Observed) (polled : Polled) : Prop :=
  (∀ old ∈ recorded observed.ledger, ∀ new, .seen new ∈ observed.channel.pollMarks polled →
    new ≠ old → lastMark observed.ledger old = some (.stopped old)) ∧
  (polled = .quiet → observed.channel.connection.eventWaiting = false →
    showsPhoto observed.channel.photo.state observed.channel.connection.eventSession = false →
      ∀ id ∈ recorded observed.ledger, lastMark observed.ledger id = some (.stopped id)) ∧
  ∀ id, .stopped id ∈ observed.channel.pollMarks polled →
    ¬ running observed.channel.photo.state id ∧ lastMark observed.ledger id = some (.seen id)

/-- What `SameSession` asks of a poll, while connected. -/
def PollMatches (observed : Observed) (allocated : Bool) : Prop :=
  observed.channel.connection.reverse = .upgraded ∧
      observed.channel.connection.eventWaiting = false ∧
      observed.channel.connection.photoSeen = true →
    observed.channel.photo.state.active = true ∧ observed.channel.photo.state.failed = false →
      observed.channel.connection.Matches observed.channel.photo.state allocated

theorem pollCloses_silent {polled : Polled} (silent : observed.channel.pollMarks polled = [])
    (quiet : polled = .quiet → observed.channel.connection.eventWaiting = false →
      showsPhoto observed.channel.photo.state observed.channel.connection.eventSession = false →
        ∀ id ∈ recorded observed.ledger, lastMark observed.ledger id = some (.stopped id)) :
    PollCloses observed polled := by
  unfold PollCloses
  rw [silent]
  refine ⟨fun old _ new seen => ?_, quiet, fun id stopped => ?_⟩
  · cases seen
  · cases stopped

theorem Marked.shown_closes (marked : Marked observed)
    (connected : observed.channel.connected = true)
    (upgraded : observed.channel.connection.reverse = .upgraded)
    (answered : observed.channel.connection.eventWaiting = false)
    (shows : showsPhoto observed.channel.photo.state
      observed.channel.connection.eventSession = true) :
    PollCloses observed .quiet ↔ PollMatches observed allocated := by
  have marks : observed.channel.pollMarks .quiet =
      [.seen observed.channel.photo.state.sessionId] := if_pos ⟨upgraded, answered, shows⟩
  obtain ⟨active, unfailed, session⟩ := (showsPhoto_iff _ _).mp shows
  unfold PollCloses
  rw [marks]
  constructor
  · intro closes reads _
    rw [Connection.Matches, if_pos session]
    exact (marked.shown_iff connected _).mp closes.1 reads.2.2
  · intro same
    refine ⟨(marked.shown_iff connected _).mpr fun seen => ?_, ?_, ?_⟩
    · have fits := same ⟨upgraded, answered, seen⟩ ⟨active, unfailed⟩
      rwa [Connection.Matches, if_pos session] at fits
    · intro _ _ hidden
      rw [shows] at hidden
      cases hidden
    · intro id stopped
      cases List.mem_singleton.mp stopped

theorem session_ne_of_hidden {photo : PhotoState} {session : Bytes}
    (hidden : showsPhoto photo session = false) (onScreen : photo.active = true ∧ photo.failed = false) :
    photo.session ≠ session := by
  intro same
  rw [(showsPhoto_iff _ _).mpr ⟨onScreen.1, onScreen.2, same⟩] at hidden
  cases hidden

theorem Marked.sent_closes (marked : Marked observed)
    (connected : observed.channel.connected = true)
    (upgraded : observed.channel.connection.reverse = .upgraded)
    (answered : observed.channel.connection.eventWaiting = false)
    (hidden : showsPhoto observed.channel.photo.state
      observed.channel.connection.eventSession = false) (memory : allocated = true) :
    PollCloses observed
        (.event (eventOf observed.channel.connection observed.channel.playback)) ↔
      PollMatches observed allocated := by
  have marks : observed.channel.pollMarks
      (.event (eventOf observed.channel.connection observed.channel.playback)) =
        (if observed.channel.connection.photoSeen then
          some observed.channel.connection.photoSession else none).toList.map Mark.stopped := by
    rw [Channel.pollMarks, eventOf_closes]
  cases seen : observed.channel.connection.photoSeen with
  | false =>
      rw [seen] at marks
      refine iff_of_true (pollCloses_silent marks fun quiet => ?_) fun reads => ?_
      · cases quiet
      · rw [seen] at reads
        cases reads.2.2
  | true =>
      rw [seen] at marks
      unfold PollCloses
      rw [marks]
      constructor
      · intro closes _ onScreen
        rw [Connection.Matches, if_neg (session_ne_of_hidden hidden onScreen)]
        intro _ same
        exact (closes.2.2 _ (List.mem_singleton.mpr rfl)).1 ⟨onScreen.1, onScreen.2, same⟩
      · intro same
        refine ⟨fun old _ new isSeen => ?_, fun quiet => ?_, fun id stopped => ?_⟩
        · cases List.mem_singleton.mp isSeen
        · cases quiet
        · cases List.mem_singleton.mp stopped
          refine ⟨?_, (marked.open_recorded connected seen).2⟩
          rintro ⟨active, unfailed, number⟩
          have fits := same ⟨upgraded, answered, seen⟩ ⟨active, unfailed⟩
          rw [Connection.Matches,
            if_neg (session_ne_of_hidden hidden ⟨active, unfailed⟩)] at fits
          exact fits memory number

/-- How a poll ends decides both sides. -/
theorem Marked.poll_closes (marked : Marked observed)
    (connected : observed.channel.connected = true) {polled : Polled} {next : Connection}
    (outcome : PollOutcome observed.channel.playback observed.channel.photo.state
      observed.channel.connection allocated polled next) :
    PollCloses observed polled ↔ PollMatches observed allocated := by
  cases outcome with
  | broken broken =>
      refine iff_of_true (pollCloses_silent rfl fun quiet => ?_) fun reads => ?_
      · cases quiet
      · rw [broken] at reads
        cases reads.1
  | plain plain =>
      refine iff_of_true (pollCloses_silent (if_neg (by simp [plain])) fun _ _ _ => ?_) fun reads => ?_
      · exact marked.lastMark_recorded connected (marked.plain plain).2
      · rw [plain] at reads
        cases reads.1
  | waiting waits quiet =>
      refine iff_of_true (pollCloses_silent ?_ fun _ answered => ?_) fun reads => ?_
      · rcases quiet with rfl | rfl
        · rfl
        · exact if_neg (by simp [waits])
      · rw [waits] at answered
        cases answered
      · rw [waits] at reads
        cases reads.2.1
  | shown upgraded answered shows => exact marked.shown_closes connected upgraded answered shows
  | unchanged hidden unseen =>
      refine iff_of_true (pollCloses_silent (if_neg (by simp [hidden])) fun _ _ _ => ?_) fun reads => ?_
      · exact marked.lastMark_recorded connected unseen
      · rw [unseen] at reads
        cases reads.2.2
  | unallocated hidden refused =>
      refine iff_of_true (pollCloses_silent rfl fun quiet => ?_) fun _ onScreen => ?_
      · cases quiet
      · rw [Connection.Matches, if_neg (session_ne_of_hidden hidden onScreen)]
        intro memory
        rw [refused] at memory
        cases memory
  | sent upgraded answered hidden memory time =>
      exact marked.sent_closes connected upgraded answered hidden memory

end Polls

theorem closesOnce_iff {observed : Observed} (action : Action) (marked : Marked observed) :
    ClosesOnce observed action ↔ SameSession observed action := by
  cases action with
  | playback call | photo call | request request => exact Iff.rfl
  | poll now allocated delivered =>
      by_cases connected : observed.channel.connected = true
      · simp only [ClosesOnce, SameSession, Channel.marks, connected, forall_const, if_true]
        exact marked.poll_closes connected (pollOutcome now allocated observed.channel.playback
          observed.channel.photo.state observed.channel.connection)
      · refine iff_of_true ?_ fun connects => absurd connects connected
        simp only [ClosesOnce, Channel.marks, if_neg connected]
        refine ⟨?_, fun connects => absurd connects connected, ?_⟩
        · intro old _ new seen
          cases seen
        · intro id stopped
          cases stopped

/-- Every photo session that a connection records is closed exactly once, in every
run whose polls do not find the recorded session replaced by another one. -/
theorem photo_closed_once_iff (playback : PlaybackState) (photo : PhotoStore)
    (actions : List Action) :
    Guarded Observed.step ClosesOnce (Observed.accepted playback photo) actions ↔
      Guarded Observed.step SameSession (Observed.accepted playback photo) actions := by
  have preserved : ∀ {observed : Observed}, Marked observed → ∀ action,
      Marked (observed.step action) := fun marked action => marked.step action
  exact guarded_congr preserved (marked_accepted playback photo)
    (fun _ action marked => closesOnce_iff action marked) actions

def photoClient : Request :=
  { method := some (ascii "POST"), url := some (ascii "/reverse"), session := some (ascii "p") }

/-- The client stops its photo and puts it again after a poll saw it. -/
def photoRestarted : List Action :=
  [.request photoClient, .photo (.put { session := some (ascii "p"), upload := .of onePixel }),
    .poll 100 true true, .photo .reset,
    .photo (.put { session := some (ascii "p"), upload := .of onePixel })]

/-- The next poll records session 2, and session 1 is never closed. -/
theorem restarted_photo_unclosed :
    ¬ ∀ (playback : PlaybackState) (photo : PhotoStore) (actions : List Action),
      Guarded Observed.step ClosesOnce (Observed.accepted playback photo) actions := by
  intro closed
  have poll := (guarded_append.mp (closed {} {} (photoRestarted ++ [.poll 101 true true]))).2.1
  have stopped := poll.1 1 (by decide +kernel) 2 (by decide +kernel) (by decide)
  have unclosed : lastMark
      (run Observed.step (Observed.accepted {} {}) photoRestarted).ledger 1 =
        some (.seen 1) := by decide +kernel
  rw [unclosed] at stopped
  cases stopped

end AirTizen.Reverse

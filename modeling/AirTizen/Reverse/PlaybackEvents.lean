import AirTizen.Reverse.Channel

/-!
# Playback events on the reverse channel

A quiet connection has told its client the current playback state, as long as
no poll closes a photo while a change of the playback waits to be reported: the
photo event records that change as if it had carried it.
-/

namespace AirTizen.Reverse

open CText AirTizen.Media Machine

variable {channel : Channel} {connection : Connection} {now : Nat} {allocated : Bool}

def Channel.closesPhoto (channel : Channel) : Bool :=
  channel.connection.reverse == .upgraded && !channel.connection.eventWaiting &&
    !showsPhoto channel.photo.state channel.connection.eventSession && channel.connection.photoSeen

/-- A poll that sends a photo event finds no playback state that it would have
to report. -/
def Reported (channel : Channel) : Action → Prop
  | .poll _ allocated _ =>
      channel.closesPhoto = true → allocated = true →
        channel.connection.eventState = some (playerState channel.playback)
  | .playback _ | .photo _ | .request _ => True

instance reportedDecidable (channel : Channel) :
    (action : Action) → Decidable (Reported channel action)
  | .poll _ allocated _ =>
      inferInstanceAs (Decidable (channel.closesPhoto = true → allocated = true → _))
  | .playback _ | .photo _ | .request _ => inferInstanceAs (Decidable True)

/-- A poll has nothing to say on an upgraded connection without an outstanding
event or a photo of its session. -/
structure Channel.Quiet (channel : Channel) (now : Nat) (allocated : Bool) : Prop where
  upgraded : channel.connection.reverse = .upgraded
  answered : channel.connection.eventWaiting = false
  hidden : showsPhoto channel.photo.state channel.connection.eventSession = false
  silent : (reversePoll now allocated channel.playback channel.photo.state
    channel.connection).1 = .quiet

structure Recorded (channel : Channel) : Prop where
  untold : channel.connection.reverse = .plain → channel.sent = []
  carried : channel.connection.reverse = .upgraded →
    channel.carried = channel.connection.eventState.map PlayerState.name

theorem connRequest_of_ne_plain (request : Request) (playback : PlaybackState)
    (photo : PhotoState) (upgraded : connection.reverse ≠ .plain) :
    (connRequest request playback photo connection).eventState = connection.eventState ∧
      ((connRequest request playback photo connection).reverse = connection.reverse ∨
        (connRequest request playback photo connection).reverse = .broken) := by
  unfold connRequest
  rw [if_pos upgraded]
  by_cases answer : request.url.isNone = true
  · rw [if_pos answer]
    exact ⟨rfl, .inl rfl⟩
  · rw [if_neg answer]
    exact ⟨rfl, .inr rfl⟩

/-- A poll that says nothing has nothing new to say. -/
theorem Channel.Quiet.eventState (quiet : channel.Quiet now allocated) :
    channel.connection.eventState = some (playerState channel.playback) := by
  have silent := quiet.silent
  unfold reversePoll at silent
  rw [if_neg (by simp [quiet.upgraded]), if_neg (by simp [quiet.upgraded]),
    if_neg (by simp [quiet.answered]), if_neg (by simp [quiet.hidden])] at silent
  by_cases unchanged : (!channel.connection.photoSeen &&
      some (playerState channel.playback) == channel.connection.eventState &&
      channel.playback.generation == channel.connection.eventGeneration) = true
  · simp only [Bool.and_eq_true, beq_iff_eq] at unchanged
    exact unchanged.1.2.symm
  · rw [if_neg unchanged] at silent
    by_cases memory : (!allocated) = true
    · rw [if_pos memory] at silent
      cases silent
    · rw [if_neg memory] at silent
      cases silent

/-- What a poll of an upgraded connection does: it sends an event and records
the playback state, or it keeps the recorded one. -/
theorem reversePoll_cases (now : Nat) (allocated : Bool) (playback : PlaybackState)
    (photo : PhotoState) (upgraded : connection.reverse = .upgraded) :
    (connection.eventWaiting = false ∧ showsPhoto photo connection.eventSession = false ∧
      allocated = true ∧
      ∃ after, reversePoll now allocated playback photo connection =
          (.event (eventOf connection playback), after) ∧
        after.reverse = .upgraded ∧ after.eventState = some (playerState playback)) ∨
    ∃ polled after, reversePoll now allocated playback photo connection = (polled, after) ∧
      (polled = .remove ∨ polled = .quiet) ∧
      after.reverse = .upgraded ∧ after.eventState = connection.eventState := by
  unfold reversePoll
  rw [if_neg (by simp [upgraded]), if_neg (by simp [upgraded])]
  by_cases waiting : connection.eventWaiting = true
  · rw [if_pos waiting]
    right
    refine ⟨_, _, rfl, ?_, upgraded, rfl⟩
    by_cases late : overdue now connection.eventTime = true
    · exact .inl (if_pos late)
    · exact .inr (if_neg late)
  rw [if_neg waiting]
  by_cases shown : showsPhoto photo connection.eventSession = true
  · rw [if_pos shown]
    exact .inr ⟨_, _, rfl, .inr rfl, upgraded, rfl⟩
  rw [if_neg shown]
  by_cases unchanged : (!connection.photoSeen && some (playerState playback) ==
      connection.eventState && playback.generation == connection.eventGeneration) = true
  · rw [if_pos unchanged]
    exact .inr ⟨_, _, rfl, .inr rfl, upgraded, rfl⟩
  rw [if_neg unchanged]
  by_cases memory : (!allocated) = true
  · rw [if_pos memory]
    exact .inr ⟨_, _, rfl, .inl rfl, upgraded, rfl⟩
  · rw [if_neg memory]
    left
    exact ⟨by simpa using waiting, by simpa using shown, by simpa using memory,
      _, rfl, upgraded, rfl⟩

theorem eventOf_isVideo (connection : Connection) (playback : PlaybackState) :
    (eventOf connection playback).isVideo = !connection.photoSeen := by
  unfold eventOf Event.isVideo
  cases connection.photoSeen <;> rfl

theorem carried_send (channel : Channel) (delivered : Bool) (event : Event)
    (connection : Connection) :
    (channel.send delivered event connection).carried =
      if event.isVideo then some event.state else channel.carried := by
  unfold Channel.carried Channel.send
  rw [List.filter_append]
  by_cases video : event.isVideo = true
  · rw [List.filter_cons_of_pos video, List.filter_nil, List.getLast?_concat, if_pos video]
  · rw [List.filter_cons_of_neg video, List.filter_nil, List.append_nil, if_neg video]

theorem Recorded.receive (recorded : Recorded channel) (request : Request) :
    Recorded (channel.receive request) := by
  by_cases plain : channel.connection.reverse = .plain
  · have empty := recorded.untold plain
    refine ⟨fun _ => empty, fun _ => ?_⟩
    simp only [Channel.receive, Channel.carried, empty, if_pos plain, List.filter_nil,
      List.getLast?_nil]
  · obtain ⟨eventState, reverse⟩ :=
      connRequest_of_ne_plain request channel.playback channel.photo.state plain
    constructor
    · intro becomesPlain
      rcases reverse with same | broken
      · exact absurd (same.symm.trans becomesPlain) plain
      · exact absurd (broken.symm.trans becomesPlain) (by decide)
    · intro upgraded
      have before : channel.connection.reverse = .upgraded := by
        rcases reverse with same | broken
        · exact same.symm.trans upgraded
        · exact absurd (broken.symm.trans upgraded) (by decide)
      have told := recorded.carried before
      simp only [Channel.receive, Channel.carried, if_neg plain] at told ⊢
      rw [eventState]
      exact told

/-- A poll tells the state that it records, unless it closes a photo. -/
theorem Recorded.polled (recorded : Recorded channel) (delivered : Bool)
    (reported : channel.closesPhoto = true → allocated = true →
      channel.connection.eventState = some (playerState channel.playback)) :
    Recorded (channel.polled now allocated delivered) := by
  cases direction : channel.connection.reverse with
  | plain =>
      have same : channel.polled now allocated delivered = channel := by
        simp [Channel.polled, reversePoll, direction]
      rw [same]
      exact recorded
  | broken =>
      have same : channel.polled now allocated delivered = { channel with connected := false } := by
        simp [Channel.polled, reversePoll, direction]
      rw [same]
      exact ⟨recorded.untold, recorded.carried⟩
  | upgraded =>
      have told := recorded.carried direction
      rcases reversePoll_cases now allocated channel.playback channel.photo.state direction with
        ⟨answered, hidden, memory, after, result, upgraded, eventState⟩ |
        ⟨polled, after, result, silent, upgraded, eventState⟩
      · have same : channel.polled now allocated delivered =
            channel.send delivered (eventOf channel.connection channel.playback) after := by
          simp only [Channel.polled, result]
        rw [same]
        refine ⟨fun plain => by simp [Channel.send, upgraded] at plain, fun _ => ?_⟩
        rw [carried_send, eventOf_isVideo]
        simp only [Channel.send, eventState, Option.map_some]
        by_cases seen : channel.connection.photoSeen = true
        · have closes : channel.closesPhoto = true := by
            simp [Channel.closesPhoto, direction, answered, hidden, seen]
          rw [if_neg (by simp [seen]), told, reported closes memory, Option.map_some]
        · rw [if_pos (by simpa using seen)]
          simp [eventOf, seen]
      · have same : channel.polled now allocated delivered =
            { channel with
              connection := after
              connected := if polled = .remove then false else channel.connected } := by
          rcases silent with rfl | rfl <;> simp [Channel.polled, result]
        rw [same]
        refine ⟨fun plain => by simp [upgraded] at plain, fun _ => ?_⟩
        simp only [Channel.carried, eventState]
        exact told

theorem Recorded.step (recorded : Recorded channel) (action : Action)
    (reported : Reported channel action) : Recorded (channel.step action) := by
  cases action with
  | playback call => exact ⟨recorded.untold, recorded.carried⟩
  | photo call => exact ⟨recorded.untold, recorded.carried⟩
  | request request =>
      unfold Channel.step
      by_cases connected : channel.connected = true
      · simp only [if_pos connected]
        exact recorded.receive request
      · simp only [if_neg connected]
        exact recorded
  | poll now allocated delivered =>
      unfold Channel.step
      by_cases connected : channel.connected = true
      · simp only [if_pos connected]
        exact recorded.polled delivered reported
      · simp only [if_neg connected]
        exact recorded

theorem recorded_accepted (playback : PlaybackState) (photo : PhotoStore) :
    Recorded (Channel.accepted playback photo) :=
  ⟨fun _ => rfl, fun upgraded => by cases upgraded⟩

/-- Whenever a poll has nothing to say on an idle connection, the client was
told the current playback state, in every run in which no photo event takes the
place of a playback event. -/
theorem playback_state_told {playback : PlaybackState} {photo : PhotoStore}
    {actions : List Action}
    (reported : Guarded Channel.step Reported (Channel.accepted playback photo) actions)
    {now : Nat} {allocated : Bool}
    (quiet : (run Channel.step (Channel.accepted playback photo) actions).Quiet now allocated) :
    (run Channel.step (Channel.accepted playback photo) actions).carried =
      some (playerState
        (run Channel.step (Channel.accepted playback photo) actions).playback).name := by
  have recorded : Recorded (run Channel.step (Channel.accepted playback photo) actions) := by
    apply Guarded.run_invariant _ reported (recorded_accepted playback photo)
    intro channel action recorded admitted
    exact recorded.step action admitted
  rw [recorded.carried quiet.upgraded, quiet.eventState, Option.map_some]

def upgradeRequest : Request :=
  { method := some (ascii "POST"), url := some (ascii "/reverse"), session := some (ascii "s") }

/-- A client that acknowledges an event: a response has no URL. -/
def acknowledgement : Request := { method := some (ascii "HTTP/1.1"), url := none }

/-- A photo of the session is closed, then a film is loaded. -/
def filmActions : List Action :=
  [.request upgradeRequest,
    .photo (.put { session := some (ascii "s"), upload := .of onePixel }), .poll 100 true true,
    .photo .reset, .poll 101 true true, .request acknowledgement,
    .playback (.play (some (ascii "http://tv/film")) (.finite 0)), .poll 102 true true,
    .request acknowledgement]

theorem playback_state_told_film :
    (run Channel.step (Channel.accepted {} {}) filmActions).carried =
      some (playerState
        (run Channel.step (Channel.accepted {} {}) filmActions).playback).name :=
  @playback_state_told {} {} filmActions (by decide +kernel) 103 true
    ⟨by decide +kernel, by decide +kernel, by decide +kernel, by decide +kernel⟩

example : (run Channel.step (Channel.accepted {} {}) filmActions).sent.map Event.category =
    [ascii "photo", ascii "video"] := by decide +kernel

/-- A photo of the session is on screen when its client starts a film. -/
def photoThenFilm : List Action :=
  [.request upgradeRequest,
    .photo (.put { session := some (ascii "s"), upload := .of onePixel }), .poll 100 true true,
    .playback (.play (some (ascii "http://tv/film")) (.finite 0)), .photo .reset,
    .poll 101 true true, .request acknowledgement]

/-- The client of a quiet connection believes that nothing plays while the film
is loading. -/
theorem loading_state_untold :
    ¬ ∀ (playback : PlaybackState) (photo : PhotoStore) (actions : List Action) (now : Nat)
        (allocated : Bool),
      (run Channel.step (Channel.accepted playback photo) actions).Quiet now allocated →
        (run Channel.step (Channel.accepted playback photo) actions).carried =
          some (playerState
            (run Channel.step (Channel.accepted playback photo) actions).playback).name := by
  intro told
  have quiet : (run Channel.step (Channel.accepted {} {}) photoThenFilm).Quiet 102 true :=
    ⟨by decide +kernel, by decide +kernel, by decide +kernel, by decide +kernel⟩
  have wrong := told {} {} photoThenFilm 102 true quiet
  have carried : (run Channel.step (Channel.accepted {} {}) photoThenFilm).carried =
      some (ascii "stopped") := by decide +kernel
  have current : playerState (run Channel.step (Channel.accepted {} {}) photoThenFilm).playback =
      .loading := by decide +kernel
  rw [carried, current] at wrong
  exact absurd wrong (by decide)

end AirTizen.Reverse

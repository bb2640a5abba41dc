import AirTizen.Page.Seek

/-!
# Commands since an application

Within one session the counter moves with every accepted rate or seek command,
so `Share.moved` counts the commands behind the snapshot that the page applied.
-/

namespace AirTizen.Page

open Binary64 AirTizen.Media Machine

def acceptsCommand : PlaybackCall → Bool
  | .rate value => value = .finite 0 || value = .finite 1
  | .seek position => position.inRange 604800
  | _ => false

/-- The call neither ends the session nor starts another one. -/
def keepsSession : PlaybackCall → Bool
  | .play url fraction => !fraction.inRange 1 || !url.any playableUrl
  | .stop => false
  | _ => true

/-- The event keeps the session, and the page applies nothing. -/
def Event.waits : Event → Bool
  | .call made => keepsSession made
  | .poll view | .metadata view => view.val.readyState < 1

/-- Commands accepted since the last application. -/
structure Commands where
  /-- Those in the last snapshot. -/
  shown : Nat := 0
  total : Nat := 0

def Commands.step (commands : Commands) : Event → Commands
  | .call call =>
      if acceptsCommand call then { commands with total := commands.total + 1 } else commands
  | .poll _ => { commands with shown := commands.total }
  | .metadata _ => commands

theorem nextUnsigned_lt (number : Nat) : nextUnsigned number < 2 ^ 32 :=
  Nat.mod_lt _ (by decide)

theorem call_command {call : PlaybackCall} (keeps : keepsSession call = true)
    (store : PlaybackState) :
    (call.step store).generation = store.generation ∧
      (call.step store).command =
        if acceptsCommand call then nextUnsigned store.command else store.command := by
  cases call with
  | play url fraction =>
      have refused : (Media.play url fraction store).2 = store := by
        cases url with
        | none => rfl
        | some url =>
            have invalid : (!fraction.inRange 1 || !playableUrl url) = true := keeps
            simp only [Media.play, if_pos invalid]
      simp [PlaybackCall.step, PlaybackCall.run, refused, acceptsCommand]
  | stop => cases keeps
  | rate value =>
      unfold PlaybackCall.step PlaybackCall.run Media.rate acceptsCommand
      by_cases refused : value ≠ .finite 0 ∧ value ≠ .finite 1
      · simp [refused]
      · have accepted : value = .finite 0 ∨ value = .finite 1 := by tauto
        simp [refused, accepted]
  | seek position =>
      unfold PlaybackCall.step PlaybackCall.run Media.seek acceptsCommand
      by_cases accepted : position.inRange 604800 = true
      · simp [accepted]
      · simp [accepted]
  | report generation position duration ready failed ended =>
      rcases report_cases generation position duration ready failed ended store with
        ⟨_, same⟩ | ⟨_, _, _, new⟩
      · simp [PlaybackCall.step, PlaybackCall.run, same, acceptsCommand]
      · simp [PlaybackCall.step, PlaybackCall.run, new, acceptsCommand]

theorem call_command_lt {call : PlaybackCall} {store : PlaybackState}
    (bounded : store.command < 2 ^ 32) : (call.step store).command < 2 ^ 32 := by
  by_cases keeps : keepsSession call = true
  · rw [(call_command keeps store).2]
    split
    · exact nextUnsigned_lt _
    · exact bounded
  · cases call with
    | play url fraction =>
        rcases play_cases url fraction store with ⟨_, same⟩ | ⟨_, _, _, _, new⟩
        · simpa [PlaybackCall.step, PlaybackCall.run, same] using bounded
        · simp [PlaybackCall.step, PlaybackCall.run, new]
    | stop => exact Nat.two_pow_pos 32
    | rate value => exact absurd rfl keeps
    | seek position => exact absurd rfl keeps
    | report generation position duration ready failed ended => exact absurd rfl keeps

theorem run_command_lt (events : List Event) :
    (run Screen.step {} events).store.command < 2 ^ 32 := by
  have step (screen : Screen) (event : Event) (bounded : screen.store.command < 2 ^ 32) :
      (screen.step event).store.command < 2 ^ 32 := by
    cases event with
    | call call => exact call_command_lt bounded
    | poll view => exact bounded
    | metadata view => exact bounded
  exact @run_invariant _ _ Screen.step (fun screen => screen.store.command < 2 ^ 32) step {}
    (Nat.two_pow_pos 32) events

/-! ## The last snapshot -/

/-- The page holds a snapshot of the running session, and `since` commands were
accepted behind it. -/
structure Viewed (screen : Screen) (state : Session) (since : Nat) : Prop where
  snapshot : screen.share.state = some state
  same : state.generation = screen.store.generation
  bounded : state.command < 2 ^ 32
  counted : screen.store.command = (state.command + since) % 2 ^ 32

theorem viewed_poll {screen : Screen} (active : screen.store.active = true)
    (bounded : screen.store.command < 2 ^ 32) (view : View) :
    Viewed (screen.poll view) (session screen.store) 0 :=
  { snapshot := poll_state view active
    same := rfl
    bounded := bounded
    counted := (Nat.mod_eq_of_lt bounded).symm }

theorem Viewed.call {screen : Screen} {state : Session} {since : Nat}
    (viewed : Viewed screen state since) {call : PlaybackCall} (keeps : keepsSession call = true) :
    Viewed (screen.call call) state (if acceptsCommand call then since + 1 else since) := by
  obtain ⟨generation, command⟩ := call_command keeps screen.store
  have counted := viewed.counted
  refine ⟨viewed.snapshot, viewed.same.trans generation.symm, viewed.bounded, ?_⟩
  simp only [Screen.call, command]
  split
  · unfold nextUnsigned
    omega
  · exact counted

theorem Viewed.run {calls : List PlaybackCall} (keeps : ∀ call ∈ calls, keepsSession call = true)
    {screen : Screen} {state : Session} {since : Nat} (viewed : Viewed screen state since) :
    Viewed (run Screen.step screen (calls.map .call)) state
      (since + calls.countP acceptsCommand) := by
  induction calls generalizing screen since with
  | nil => exact viewed
  | cons call rest inductionHypothesis =>
      have next := inductionHypothesis
        (fun later membership => keeps later (List.mem_cons_of_mem _ membership))
        (viewed.call (keeps call List.mem_cons_self))
      have counted : (if acceptsCommand call then since + 1 else since) +
          rest.countP acceptsCommand = since + (call :: rest).countP acceptsCommand := by
        rw [List.countP_cons]
        split <;> omega
      rw [counted] at next
      exact next

/-! ## The counter that the page remembers -/

/-- The page remembers the counter of the snapshot that it applied last, and the
session is still the same. -/
structure Remembered (screen : Screen) (state : Session) (command : Nat)
    (commands : Commands) : Prop where
  snapshot : screen.share.state = some state
  same : state.generation = screen.store.generation
  remembered : screen.share.command = some command
  bounded : command < 2 ^ 32
  shown : state.command = (command + commands.shown) % 2 ^ 32
  total : screen.store.command = (command + commands.total) % 2 ^ 32

/-- A poll that applies its snapshot remembers the counter of this instant. -/
theorem remembered_poll {screen : Screen} (active : screen.store.active = true)
    (bounded : screen.store.command < 2 ^ 32) {view : View} (loaded : 1 ≤ view.readyState) :
    Remembered (screen.poll view) (session screen.store) screen.store.command {} :=
  { snapshot := poll_state view active
    same := rfl
    remembered := by rw [poll_command_eq view active, if_pos loaded]
    bounded := bounded
    shown := (Nat.mod_eq_of_lt bounded).symm
    total := (Nat.mod_eq_of_lt bounded).symm }

theorem Viewed.metadata {screen : Screen} {state : Session} {since : Nat}
    (viewed : Viewed screen state since) (source : screen.share.hasSource = true) {view : View}
    (loaded : 1 ≤ view.readyState) :
    Remembered (screen.metadata view) state state.command { total := since } := by
  have remembered : (screen.metadata view).share.command = some state.command := by
    rw [metadata_command_eq source, if_pos (by simp [Share.applies, viewed.snapshot, loaded]),
      viewed.snapshot, Option.map_some]
  exact
    { snapshot := (metadata_state screen view).trans viewed.snapshot
      same := viewed.same
      remembered := remembered
      bounded := viewed.bounded
      shown := (Nat.mod_eq_of_lt viewed.bounded).symm
      total := viewed.counted }

variable {screen : Screen} {state : Session} {command : Nat} {commands : Commands}

theorem Remembered.call (remembered : Remembered screen state command commands)
    {call : PlaybackCall} (keeps : keepsSession call = true) :
    Remembered (screen.call call) state command (commands.step (.call call)) := by
  obtain ⟨generation, counter⟩ := call_command keeps screen.store
  have total := remembered.total
  have counted : (screen.call call).store.command =
      (command + (commands.step (.call call)).total) % 2 ^ 32 := by
    simp only [Screen.call, counter, Commands.step]
    split
    · simp only [nextUnsigned]
      omega
    · exact total
  exact
    { snapshot := remembered.snapshot
      same := remembered.same.trans generation.symm
      remembered := remembered.remembered
      bounded := remembered.bounded
      shown := by
        have same : (commands.step (.call call)).shown = commands.shown := by
          simp only [Commands.step]
          split <;> rfl
        rw [same]
        exact remembered.shown
      total := counted }

theorem Remembered.poll (remembered : Remembered screen state command commands)
    {view : FiniteView} (loading : view.val.readyState < 1) :
    Remembered (screen.poll view.val) (session screen.store) command
      (commands.step (.poll view)) := by
  have kept : (screen.poll view.val).share.state = some (session screen.store) ∧
      (screen.poll view.val).share.command = screen.share.command := by
    by_cases active : screen.store.active = true
    · refine ⟨poll_state view.val active, ?_⟩
      rw [poll_command_eq view.val active, if_neg (by omega)]
      have unchanged : screen.share.changed (session screen.store) = false := by
        simp [Share.changed, remembered.snapshot, remembered.same, session]
      simp [Share.adopt, unchanged]
    · have inactive : screen.store.active = false := by simpa using active
      obtain ⟨taken, same, _⟩ :=
        @update_inactive screen.share (session screen.store) inactive view.val
      exact ⟨taken, same⟩
  exact
    { snapshot := kept.1
      same := rfl
      remembered := kept.2.trans remembered.remembered
      bounded := remembered.bounded
      shown := remembered.total
      total := remembered.total }

theorem Remembered.metadata (remembered : Remembered screen state command commands)
    {view : View} (loading : view.readyState < 1) :
    Remembered (screen.metadata view) state command commands := by
  have kept : (screen.metadata view).share.command = screen.share.command := by
    by_cases source : screen.share.hasSource = true
    · rw [metadata_command_eq source, if_neg (by simp [Share.applies]; omega)]
    · simp [Screen.metadata, Screen.observe, Share.loadedMetadata, source]
  exact
    { snapshot := (metadata_state screen view).trans remembered.snapshot
      same := remembered.same
      remembered := kept.trans remembered.remembered
      bounded := remembered.bounded
      shown := remembered.shown
      total := remembered.total }

theorem Remembered.step (remembered : Remembered screen state command commands) {event : Event}
    (waits : event.waits = true) :
    ∃ next, Remembered (screen.step event) next command (commands.step event) := by
  cases event with
  | call call => exact ⟨state, remembered.call waits⟩
  | poll view => exact ⟨_, remembered.poll (of_decide_eq_true waits)⟩
  | metadata view => exact ⟨state, remembered.metadata (of_decide_eq_true waits)⟩

theorem Remembered.run {events : List Event} (waits : ∀ event ∈ events, event.waits = true)
    (remembered : Remembered screen state command commands) :
    ∃ next, Remembered (run Screen.step screen events) next command
      (run Commands.step commands events) := by
  induction events generalizing screen state commands with
  | nil => exact ⟨state, remembered⟩
  | cons event rest inductionHypothesis =>
      obtain ⟨next, stepped⟩ := remembered.step (waits event List.mem_cons_self)
      exact inductionHypothesis (fun later membership =>
        waits later (List.mem_cons_of_mem _ membership)) stepped

/-! ## Commands and `moved` -/

/-- The counter has moved unless the number of commands divides by 2^32. -/
theorem moved_iff {share : Share} {next : Session} {count : Nat}
    (unchanged : share.changed next = false) (remembered : share.command = some command)
    (bounded : command < 2 ^ 32) (counted : next.command = (command + count) % 2 ^ 32)
    (view : View) :
    share.moved next view = true ↔
      1 ≤ view.readyState ∧ next.seek.nonneg = true ∧ ¬ 2 ^ 32 ∣ count := by
  have different : some command ≠ some next.command ↔ ¬ 2 ^ 32 ∣ count := by
    rw [counted, ne_eq, Option.some.injEq]
    omega
  simp only [Share.moved, unchanged, remembered, Bool.and_eq_true, decide_eq_true_eq,
    Bool.not_false, Option.isSome_some, and_true, different, and_assoc]

/-- Behind an application, as long as the session is the same and the page applies
nothing else, a poll or `loadedmetadata` sees a moved counter exactly if the
snapshot that it uses has a seek position in force and contains further rate or
seek commands, their number no multiple of 2^32. -/
theorem Remembered.moved_iff_commands (remembered : Remembered screen state command commands)
    {after : List Event} (waits : ∀ event ∈ after, event.waits = true) {last : Screen}
    (reached : last = Machine.run Screen.step screen after) (view : View) :
    (last.share.moved (session last.store) view = true ↔
      1 ≤ view.readyState ∧ last.store.seek.nonneg = true ∧
        ¬ 2 ^ 32 ∣ (Machine.run Commands.step commands after).total) ∧
    ((last.share.state.any fun state => last.share.moved state view) = true ↔
      1 ≤ view.readyState ∧ (last.share.state.any fun state => state.seek.nonneg) = true ∧
        ¬ 2 ^ 32 ∣ (Machine.run Commands.step commands after).shown) := by
  obtain ⟨next, kept⟩ := remembered.run waits
  rw [← reached] at kept
  have sameSession : last.share.changed (session last.store) = false := by
    simp [Share.changed, kept.snapshot, kept.same, session]
  have sameSnapshot : last.share.changed next = false := by
    simp [Share.changed, kept.snapshot]
  refine ⟨moved_iff sameSession kept.remembered kept.bounded kept.total view, ?_⟩
  rw [kept.snapshot, Option.any_some, Option.any_some]
  exact moved_iff sameSnapshot kept.remembered kept.bounded kept.shown view

/-- In every run, a poll with loaded metadata is an application. -/
theorem applied_by_poll {before : List Event} {view : FiniteView}
    (active : (Machine.run Screen.step {} before).store.active = true)
    (loaded : 1 ≤ view.val.readyState) :
    ∃ state command,
      Remembered (Machine.run Screen.step {} (before ++ [.poll view])) state command {} := by
  rw [run_append]
  exact ⟨_, _, remembered_poll active (run_command_lt before) loaded⟩

/-- In every run, so is `loadedmetadata` behind a poll, whatever commands came in between. -/
theorem applied_by_metadata {before : List Event} {view loadedView : FiniteView}
    (active : (Machine.run Screen.step {} before).store.active = true)
    {calls : List PlaybackCall} (keeps : ∀ call ∈ calls, keepsSession call = true)
    {screen : Screen}
    (reached : screen = Machine.run Screen.step {} (before ++ .poll view :: calls.map .call))
    (source : screen.share.hasSource = true) (loaded : 1 ≤ loadedView.val.readyState) :
    ∃ state command, Remembered (screen.step (.metadata loadedView)) state command
      { total := calls.countP acceptsCommand } := by
  rw [run_append, run_cons] at reached
  have viewed := (viewed_poll active (run_command_lt before) view.val).run keeps
  have same : screen = Machine.run Screen.step
      ((Machine.run Screen.step {} before).poll view.val) (calls.map .call) := reached
  rw [Nat.zero_add, ← same] at viewed
  exact ⟨_, _, viewed.metadata source loaded⟩

end AirTizen.Page

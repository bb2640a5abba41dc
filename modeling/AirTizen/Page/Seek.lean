import AirTizen.Library.Machine
import AirTizen.Page.Share

/-!
# Seek commands and the page

Seek and rate commands share one counter, and the position of the last seek
stays in the snapshot.  The page applies it again when a rate command has moved
the counter; otherwise every seek is applied at most once.
-/

namespace AirTizen.Page

open Binary64 AirTizen.Media Machine

abbrev FiniteView : Type :=
  { view : View // 1 ≤ view.readyState → view.duration.isFinite = true }

/-- An assignment from `state.seek`: how many seek commands the snapshot
applied before it contained, and how many this one does. -/
structure Assignment where
  applied : Nat
  seek : Nat
  deriving DecidableEq

/-- The playback store and the page, with the books of an observer. -/
structure Screen where
  store : PlaybackState := {}
  share : Share := {}
  /-- Seek commands accepted so far. -/
  accepted : Nat := 0
  /-- Those accepted before the snapshot in `share.state` was taken. -/
  shown : Nat := 0
  /-- Those in the snapshot that `apply` used last. -/
  applied : Nat := 0
  assignments : List Assignment := []

/-- A call of the receiver, a status poll, or `loadedmetadata`; the page reads
the element as the view says. -/
inductive Event where
  | call (call : PlaybackCall)
  | poll (view : FiniteView)
  | metadata (view : FiniteView)

def Effect.isSeek : Effect → Bool
  | .seek _ => true
  | _ => false

def acceptsSeek : PlaybackCall → Bool
  | .seek position => position.inRange 604800
  | _ => false

def Screen.call (screen : Screen) (call : PlaybackCall) : Screen :=
  { screen with
    store := call.step screen.store
    accepted := if acceptsSeek call then screen.accepted + 1 else screen.accepted }

/-- The handler has run: its effects are written down. -/
def Screen.observe (screen : Screen) (applies : Bool) (result : Share × List Effect) : Screen :=
  { screen with
    share := result.1
    applied := if applies then screen.shown else screen.applied
    assignments :=
      if result.2.any Effect.isSeek then
        screen.assignments ++ [⟨screen.applied, screen.shown⟩]
      else screen.assignments }

def Screen.poll (screen : Screen) (view : View) : Screen :=
  ({ screen with shown := screen.accepted }).observe
    (screen.store.active && 1 ≤ view.readyState)
    (screen.share.update (some (session screen.store)) view)

def Screen.metadata (screen : Screen) (view : View) : Screen :=
  screen.observe (screen.share.hasSource && screen.share.applies view)
    (screen.share.loadedMetadata view)

def Screen.step (screen : Screen) : Event → Screen
  | .call call => screen.call call
  | .poll view => screen.poll view.val
  | .metadata view => screen.metadata view.val

/-- Every seek command sets the position at most once, and the position is set
only when a seek command was accepted since the snapshot applied before. -/
structure Screen.Once (screen : Screen) : Prop where
  distinct : (screen.assignments.map Assignment.seek).Nodup
  answers : ∀ assignment ∈ screen.assignments, assignment.applied < assignment.seek

/-- A seek position is in force in the session, and the page remembers another
command counter of the same session. -/
def Share.moved (share : Share) (next : Session) (view : View) : Bool :=
  1 ≤ view.readyState && next.seek.nonneg && !share.changed next && share.command.isSome &&
    share.command ≠ some next.command

/-- No command moves the counter of a session whose seek position was applied,
unless it is a newer seek. -/
def Unrepeated (screen : Screen) : Event → Prop
  | .call _ => True
  | .poll view =>
      screen.store.active = true → screen.applied = screen.accepted →
        screen.share.moved (session screen.store) view.val = false
  | .metadata view =>
      screen.share.hasSource = true → screen.applied = screen.shown →
        (screen.share.state.any fun state => screen.share.moved state view.val) = false

instance unrepeatedDecidable (screen : Screen) :
    (event : Event) → Decidable (Unrepeated screen event)
  | .call _ => inferInstanceAs (Decidable True)
  | .poll _ | .metadata _ => inferInstanceAs (Decidable (_ = true → _ = _ → _ = false))

/-! ## The handler -/

/-- When `apply` sets the position. -/
theorem apply_isSeek (share : Share) (view : View) :
    (share.apply view).2.any Effect.isSeek = true ↔
      ∃ state ∈ share.state, 1 ≤ view.readyState ∧ some state.command ≠ share.command ∧
        state.seek.nonneg = true ∧ view.duration.isFinite = true := by
  cases known : share.state with
  | none => simp [Share.apply, known]
  | some state =>
      by_cases loading : view.readyState < 1
      · simp [Share.apply, known, loading]
      · have loaded : 1 ≤ view.readyState := by omega
        have running : ((if state.rate = .finite 0 then [Effect.pause]
            else if view.paused && !view.ended && state.active then [Effect.play]
            else []).any Effect.isSeek) = false := by
          split
          · rfl
          · split <;> rfl
        simp only [Share.apply, known, if_neg loading, List.any_append, running, Bool.or_false,
          Option.mem_def, Option.some.injEq, exists_eq_left', loaded, true_and]
        by_cases sets : some state.command ≠ share.command ∧ state.seek.nonneg = true ∧
            view.duration.isFinite = true
        · simp only [if_pos sets, List.any_cons, List.any_nil, Effect.isSeek, Bool.or_false,
            true_iff]
          exact sets
        · simp only [if_neg sets, List.any_nil, Bool.false_eq_true, false_iff]
          exact sets

theorem adopt_cases (share : Share) (next : Session) :
    (share.adopt next).1.state = some next ∧ (share.adopt next).2.any Effect.isSeek = false ∧
      ((share.changed next = true ∧ (share.adopt next).1.command = none) ∨
        (share.changed next = false ∧ (share.adopt next).1.command = share.command)) := by
  unfold Share.adopt
  by_cases changed : share.changed next = true
  · rw [if_pos changed]
    exact ⟨rfl, rfl, .inl ⟨changed, rfl⟩⟩
  · rw [if_neg changed]
    exact ⟨rfl, rfl, .inr ⟨by simpa using changed, rfl⟩⟩

/-- A new session is not compared with the old one. -/
theorem adopt_moved (share : Share) (next : Session) (view : View) :
    (share.adopt next).1.moved next view = share.moved next view := by
  unfold Share.adopt
  by_cases changed : share.changed next = true
  · simp [Share.moved, changed]
  · have unchanged (command : Option Nat) (source : Option CText.Bytes) (overlay : Bool) :
        Share.changed ⟨some next, command, source, overlay⟩ next = false := by
      simp [Share.changed]
    rw [if_neg changed]
    simp only [Bool.not_eq_true] at changed
    simp only [Share.moved, changed, unchanged]

theorem update_active (share : Share) {next : Session} (active : next.active = true)
    (view : View) :
    (share.update (some next) view).1 = ((share.adopt next).1.apply view).1 ∧
      (share.update (some next) view).2.any Effect.isSeek =
        ((share.adopt next).1.apply view).2.any Effect.isSeek := by
  have silent := (adopt_cases share next).2.1
  simp [Share.update, active, List.any_append, silent]

theorem update_inactive (share : Share) {next : Session} (inactive : next.active = false)
    (view : View) :
    (share.update (some next) view).1.state = some next ∧
      (share.update (some next) view).1.command = share.command ∧
      (share.update (some next) view).1.hasSource = false ∧
      (share.update (some next) view).2.any Effect.isSeek = false := by
  simp only [Share.update, inactive, Bool.not_false, if_true]
  unfold Share.close
  by_cases source : share.hasSource = true
  · rw [if_pos source]
    exact ⟨rfl, rfl, rfl, rfl⟩
  · rw [if_neg source]
    exact ⟨rfl, rfl, Bool.not_eq_true _ ▸ source, rfl⟩

theorem loadedMetadata_cases (share : Share) (view : View) :
    (share.hasSource = false ∧ share.loadedMetadata view = (share, [])) ∨
    (share.hasSource = true ∧ (share.loadedMetadata view).1 = (share.apply view).1 ∧
      (share.loadedMetadata view).2.any Effect.isSeek =
        (share.apply view).2.any Effect.isSeek) := by
  unfold Share.loadedMetadata
  by_cases source : share.hasSource = true
  · right
    rw [if_neg (by simp [source])]
    refine ⟨source, rfl, ?_⟩
    simp only [List.any_append]
    cases share.state with
    | none => rfl
    | some state =>
        simp only
        split <;> rfl
  · left
    rw [if_pos (by simpa using source)]
    exact ⟨by simpa using source, rfl⟩

/-! ## What the page has seen of the commands -/

/-- What store, page and books have to do with each other; `restarted` counts the
seek commands accepted before the last `play` or `stop`. -/
structure Tracked (screen : Screen) (restarted : Nat) : Prop where
  once : screen.Once
  assigned : ∀ assignment ∈ screen.assignments, assignment.seek ≤ screen.applied
  applied_le : screen.applied ≤ screen.shown
  shown_le : screen.shown ≤ screen.accepted
  restarted_le : restarted ≤ screen.accepted
  sought : screen.store.active = true → screen.store.seek.nonneg = true →
    restarted < screen.accepted
  renewed : ∀ state ∈ screen.share.state, state.generation ≠ screen.store.generation →
    screen.shown ≤ restarted
  first : screen.share.state = none → screen.share.command = none
  unapplied : screen.share.command = none → screen.applied ≤ restarted
  pending : screen.share.command = none → ∀ state ∈ screen.share.state,
    state.active = true → state.seek.nonneg = true → screen.applied < screen.shown
  playing : screen.share.hasSource = true → ∀ state ∈ screen.share.state, state.active = true

theorem tracked_initial : Tracked {} 0 :=
  { once := ⟨List.nodup_nil, fun _ membership => by cases membership⟩
    assigned := fun _ membership => by cases membership
    applied_le := Nat.le_refl _
    shown_le := Nat.le_refl _
    restarted_le := Nat.le_refl _
    sought := fun active => by cases active
    renewed := fun _ membership => by cases membership
    first := fun _ => rfl
    unapplied := fun _ => Nat.le_refl _
    pending := fun _ _ membership => by cases membership
    playing := fun source => by cases source }

/-- What a call does to the session: a new one, a seek, or neither. -/
theorem call_cases (call : PlaybackCall) (store : PlaybackState) :
    (acceptsSeek call = false ∧ (call.step store).seek = .finite (-1)) ∨
    (acceptsSeek call = true ∧ (call.step store).generation = store.generation ∧
      (call.step store).active = store.active) ∨
    (acceptsSeek call = false ∧ (call.step store).generation = store.generation ∧
      ((call.step store).active = true → store.active = true) ∧
      (call.step store).seek = store.seek) := by
  cases call with
  | play url fraction =>
      rcases play_cases url fraction store with ⟨_, same⟩ | ⟨_, text, _, _, new⟩
      · refine .inr (.inr ⟨rfl, ?_⟩)
        simp [PlaybackCall.step, PlaybackCall.run, same]
      · refine .inl ⟨rfl, ?_⟩
        simp only [PlaybackCall.step, PlaybackCall.run, new]
  | stop => exact .inl ⟨rfl, rfl⟩
  | rate value =>
      refine .inr (.inr ⟨rfl, ?_⟩)
      rcases rate_cases value store with ⟨_, same⟩ | ⟨_, new⟩
      · simp [PlaybackCall.step, PlaybackCall.run, same]
      · simp [PlaybackCall.step, PlaybackCall.run, new]
  | seek position =>
      rcases seek_cases position store with ⟨_, same⟩ | ⟨_, _, new⟩
      · by_cases inRange : position.inRange 604800 = true
        · exact .inr (.inl ⟨inRange, by simp [PlaybackCall.step, PlaybackCall.run, same]⟩)
        · refine .inr (.inr ⟨by simpa [acceptsSeek] using inRange, ?_⟩)
          simp [PlaybackCall.step, PlaybackCall.run, same]
      · refine .inr (.inl ⟨by assumption, ?_⟩)
        simp [PlaybackCall.step, PlaybackCall.run, new]
  | report generation position duration ready failed ended =>
      refine .inr (.inr ⟨rfl, ?_⟩)
      rcases report_cases generation position duration ready failed ended store with
        ⟨_, same⟩ | ⟨_, active, _, new⟩
      · simp [PlaybackCall.step, PlaybackCall.run, same]
      · simp [PlaybackCall.step, PlaybackCall.run, new, active]

/-- A call moves only what belongs to the store. -/
theorem Tracked.call {screen : Screen} {restarted : Nat} (tracked : Tracked screen restarted)
    (call : PlaybackCall) : ∃ later, Tracked (screen.call call) later := by
  have grows : screen.accepted ≤ (screen.call call).accepted := by
    unfold Screen.call
    simp only
    split <;> omega
  have moved (later : Nat) (forward : restarted ≤ later)
      (bounded : later ≤ (screen.call call).accepted)
      (sought : (call.step screen.store).active = true →
        (call.step screen.store).seek.nonneg = true → later < (screen.call call).accepted)
      (renewed : ∀ state ∈ screen.share.state,
        state.generation ≠ (call.step screen.store).generation → screen.shown ≤ later) :
      Tracked (screen.call call) later :=
    { once := ⟨tracked.once.distinct, tracked.once.answers⟩
      assigned := tracked.assigned
      applied_le := tracked.applied_le
      shown_le := tracked.shown_le.trans grows
      restarted_le := bounded
      sought := sought
      renewed := renewed
      first := tracked.first
      unapplied := fun command => (tracked.unapplied command).trans forward
      pending := tracked.pending
      playing := tracked.playing }
  rcases call_cases call screen.store with
    ⟨notSeek, seek⟩ | ⟨isSeek, generation, active⟩ | ⟨notSeek, generation, active, seek⟩
  · refine ⟨screen.accepted, moved _ tracked.restarted_le grows ?_ ?_⟩
    · intro _ nonneg
      rw [seek] at nonneg
      exact absurd nonneg (by decide)
    · exact fun _ _ _ => tracked.shown_le
  · have accepted : (screen.call call).accepted = screen.accepted + 1 := by
      simp [Screen.call, isSeek]
    have bounded := tracked.restarted_le
    refine ⟨restarted, moved _ (Nat.le_refl _) (by omega) (fun _ _ => by omega) ?_⟩
    rw [generation]
    exact tracked.renewed
  · have accepted : (screen.call call).accepted = screen.accepted := by
      simp [Screen.call, notSeek]
    refine ⟨restarted, moved _ (Nat.le_refl _) ?_ ?_ ?_⟩
    · rw [accepted]
      exact tracked.restarted_le
    · intro isActive nonneg
      rw [accepted]
      exact tracked.sought (active isActive) (seek ▸ nonneg)
    · rw [generation]
      exact tracked.renewed

/-- The position is set only for a seek that was not applied: the books stay
in order. -/
theorem Screen.Once.observe {screen : Screen} (once : screen.Once)
    (assigned : ∀ assignment ∈ screen.assignments, assignment.seek ≤ screen.applied)
    {applies : Bool} {result : Share × List Effect}
    (fresh : result.2.any Effect.isSeek = true → screen.applied < screen.shown) :
    (screen.observe applies result).Once := by
  unfold Screen.observe
  by_cases sets : result.2.any Effect.isSeek = true
  · have newer := fresh sets
    simp only [if_pos sets]
    constructor
    · simp only [List.map_append, List.map_cons, List.map_nil]
      rw [List.nodup_append]
      refine ⟨once.distinct, List.nodup_singleton _, ?_⟩
      intro seek earlier other membership same
      obtain ⟨assignment, known, rfl⟩ := List.mem_map.mp earlier
      have older := assigned assignment known
      rw [List.mem_singleton] at membership
      omega
    · intro assignment membership
      rcases List.mem_append.mp membership with known | new
      · exact once.answers assignment known
      · rw [List.mem_singleton] at new
        rw [new]
        exact newer
  · simp only [if_neg sets]
    exact ⟨once.distinct, once.answers⟩

theorem observe_assigned {screen : Screen}
    (assigned : ∀ assignment ∈ screen.assignments, assignment.seek ≤ screen.applied)
    (ordered : screen.applied ≤ screen.shown) {applies : Bool} {result : Share × List Effect}
    (applied : result.2.any Effect.isSeek = true → applies = true) :
    ∀ assignment ∈ (screen.observe applies result).assignments,
      assignment.seek ≤ (screen.observe applies result).applied := by
  unfold Screen.observe
  have later : screen.applied ≤ if applies = true then screen.shown else screen.applied := by
    split <;> omega
  intro assignment membership
  by_cases sets : result.2.any Effect.isSeek = true
  · simp only [if_pos sets] at membership
    rcases List.mem_append.mp membership with known | new
    · exact (assigned assignment known).trans later
    · rw [List.mem_singleton] at new
      rw [new]
      simp [applied sets]
  · simp only [if_neg sets] at membership
    exact (assigned assignment membership).trans later

theorem observe_applied_le {screen : Screen} (ordered : screen.applied ≤ screen.shown)
    {applies : Bool} {result : Share × List Effect} :
    (screen.observe applies result).applied ≤ (screen.observe applies result).shown := by
  unfold Screen.observe
  simp only
  split
  · exact Nat.le_refl _
  · exact ordered

/-- A position that `apply` sets comes from a seek that was not applied, unless
the counter has moved. -/
theorem apply_fresh {share : Share} {view : View} {applied shown : Nat}
    (pending : share.command = none → ∀ state ∈ share.state, state.seek.nonneg = true →
      applied < shown)
    (ordered : applied ≤ shown)
    (unmoved : applied = shown → ∀ state ∈ share.state, share.moved state view = false)
    (sets : (share.apply view).2.any Effect.isSeek = true) : applied < shown := by
  obtain ⟨state, known, loaded, different, nonneg, _⟩ := (apply_isSeek share view).mp sets
  cases command : share.command with
  | none => exact pending command state known nonneg
  | some remembered =>
      by_contra notFresh
      have same := unmoved (by omega) state known
      rw [command] at different
      have unchanged : share.changed state = false := by
        have known : share.state = some state := known
        simp [Share.changed, known]
      simp only [Share.moved, unchanged, loaded, decide_true, nonneg, command,
        Option.isSome_some, Bool.not_false, Bool.and_self, Bool.true_and] at same
      exact absurd (decide_eq_true different.symm) (by simpa using same)

theorem Tracked.poll_inactive {screen : Screen} {restarted : Nat}
    (tracked : Tracked screen restarted) (view : View) (inactive : screen.store.active = false) :
    Tracked (screen.poll view) restarted := by
  obtain ⟨state, command, source, silent⟩ :=
    @update_inactive screen.share (session screen.store) inactive view
  have result : screen.poll view =
      { screen with
        shown := screen.accepted
        share := (screen.share.update (some (session screen.store)) view).1 } := by
    simp [Screen.poll, Screen.observe, inactive, silent]
  rw [result]
  exact
    { once := ⟨tracked.once.distinct, tracked.once.answers⟩
      assigned := tracked.assigned
      applied_le := tracked.applied_le.trans tracked.shown_le
      shown_le := Nat.le_refl _
      restarted_le := tracked.restarted_le
      sought := tracked.sought
      renewed := by
        intro other membership different
        rw [state] at membership
        cases membership
        exact absurd rfl different
      first := fun absent => by simp [state] at absent
      unapplied := fun absent => tracked.unapplied (command ▸ absent)
      pending := by
        intro _ other membership active
        rw [state] at membership
        cases membership
        exact absurd (inactive.symm.trans active) (by decide)
      playing := fun present => by simp [source] at present }

/-- An active session whose position the page has not applied was renewed after
the last one that it did apply. -/
theorem Tracked.unapplied_adopt {screen : Screen} {restarted : Nat}
    (tracked : Tracked screen restarted)
    (absent : (screen.share.adopt (session screen.store)).1.command = none) :
    screen.applied ≤ restarted := by
  obtain ⟨_, _, ⟨changed, _⟩ | ⟨_, same⟩⟩ := adopt_cases screen.share (session screen.store)
  · cases known : screen.share.state with
    | none => exact tracked.unapplied (tracked.first known)
    | some state =>
        simp only [Share.changed, known, decide_eq_true_eq] at changed
        exact tracked.applied_le.trans (tracked.renewed state known changed)
  · exact tracked.unapplied (same ▸ absent)

theorem poll_state {screen : Screen} (view : View) (active : screen.store.active = true) :
    (screen.poll view).share.state = some (session screen.store) := by
  obtain ⟨shareEq, _⟩ := @update_active screen.share (session screen.store) active view
  obtain ⟨adopted, _, _⟩ := adopt_cases screen.share (session screen.store)
  obtain ⟨state, _, _⟩ := apply_share (screen.share.adopt (session screen.store)).1 view
  unfold Screen.poll Screen.observe
  rw [shareEq, state, adopted]

theorem poll_command_eq {screen : Screen} (view : View) (active : screen.store.active = true) :
    (screen.poll view).share.command =
      if 1 ≤ view.readyState then some screen.store.command
      else (screen.share.adopt (session screen.store)).1.command := by
  obtain ⟨shareEq, _⟩ := @update_active screen.share (session screen.store) active view
  obtain ⟨adopted, _, _⟩ := adopt_cases screen.share (session screen.store)
  obtain ⟨_, _, command⟩ := apply_share (screen.share.adopt (session screen.store)).1 view
  have applies : (screen.share.adopt (session screen.store)).1.applies view =
      decide (1 ≤ view.readyState) := by
    simp [Share.applies, adopted]
  unfold Screen.poll Screen.observe
  rw [shareEq, command, applies, adopted]
  simp [session]

theorem poll_command {screen : Screen} (view : View) (active : screen.store.active = true)
    (absent : (screen.poll view).share.command = none) :
    (screen.share.adopt (session screen.store)).1.command = none ∧
      (screen.poll view).applied = screen.applied := by
  rw [poll_command_eq view active] at absent
  by_cases loaded : 1 ≤ view.readyState
  · simp [loaded] at absent
  · exact ⟨by simpa [loaded] using absent, by simp [Screen.poll, Screen.observe, loaded]⟩

theorem Tracked.pending_adopt {screen : Screen} {restarted : Nat}
    (tracked : Tracked screen restarted) (active : screen.store.active = true)
    (absent : (screen.share.adopt (session screen.store)).1.command = none)
    (nonneg : screen.store.seek.nonneg = true) : screen.applied < screen.accepted :=
  (tracked.unapplied_adopt absent).trans_lt (tracked.sought active nonneg)

theorem Tracked.poll_fresh {screen : Screen} {restarted : Nat}
    (tracked : Tracked screen restarted) (view : View) (active : screen.store.active = true)
    (unmoved : screen.applied = screen.accepted →
      screen.share.moved (session screen.store) view = false)
    (sets : (screen.share.update (some (session screen.store)) view).2.any Effect.isSeek = true) :
    screen.applied < screen.accepted := by
  obtain ⟨_, setsEq⟩ := @update_active screen.share (session screen.store) active view
  obtain ⟨adopted, _, _⟩ := adopt_cases screen.share (session screen.store)
  rw [setsEq] at sets
  apply apply_fresh _ (tracked.applied_le.trans tracked.shown_le) _ sets
  · intro absent other membership nonneg
    rw [adopted] at membership
    cases membership
    exact tracked.pending_adopt active absent nonneg
  · intro same other membership
    rw [adopted] at membership
    cases membership
    rw [adopt_moved]
    exact unmoved same

theorem Tracked.poll_active {screen : Screen} {restarted : Nat}
    (tracked : Tracked screen restarted) (view : View) (active : screen.store.active = true)
    (unmoved : screen.applied = screen.accepted →
      screen.share.moved (session screen.store) view = false) :
    Tracked (screen.poll view) restarted := by
  have ordered : screen.applied ≤ screen.accepted := tracked.applied_le.trans tracked.shown_le
  have effective : (screen.share.update (some (session screen.store)) view).2.any Effect.isSeek =
      true → (screen.store.active && decide (1 ≤ view.readyState)) = true := by
    intro sets
    rw [(@update_active screen.share (session screen.store) active view).2] at sets
    obtain ⟨_, _, loaded, _⟩ := (apply_isSeek _ view).mp sets
    simp [active, loaded]
  have once : Screen.Once { screen with shown := screen.accepted } :=
    ⟨tracked.once.distinct, tracked.once.answers⟩
  exact
    { once := once.observe tracked.assigned (tracked.poll_fresh view active unmoved)
      assigned := @observe_assigned { screen with shown := screen.accepted }
        tracked.assigned ordered _ _ effective
      applied_le := observe_applied_le ordered
      shown_le := Nat.le_refl _
      restarted_le := tracked.restarted_le
      sought := tracked.sought
      renewed := by
        intro other membership different
        rw [poll_state view active] at membership
        cases membership
        exact absurd rfl different
      first := fun absent => by simp [poll_state view active] at absent
      unapplied := by
        intro absent
        obtain ⟨adoptedAbsent, kept⟩ := poll_command view active absent
        rw [kept]
        exact tracked.unapplied_adopt adoptedAbsent
      pending := by
        intro absent other membership _ nonneg
        rw [poll_state view active] at membership
        cases membership
        obtain ⟨adoptedAbsent, kept⟩ := poll_command view active absent
        rw [kept]
        exact tracked.pending_adopt active adoptedAbsent nonneg
      playing := by
        intro _ other membership
        rw [poll_state view active] at membership
        cases membership
        exact active }

theorem metadata_state (screen : Screen) (view : View) :
    (screen.metadata view).share.state = screen.share.state := by
  unfold Screen.metadata Screen.observe
  rcases loadedMetadata_cases screen.share view with ⟨_, result⟩ | ⟨_, shareEq, _⟩
  · rw [result]
  · obtain ⟨state, _, _⟩ := apply_share screen.share view
    rw [shareEq, state]

theorem metadata_command_eq {screen : Screen} {view : View}
    (source : screen.share.hasSource = true) :
    (screen.metadata view).share.command =
      if screen.share.applies view then screen.share.state.map Session.command
      else screen.share.command := by
  obtain ⟨_, _, command⟩ := apply_share screen.share view
  rcases loadedMetadata_cases screen.share view with ⟨absentSource, _⟩ | ⟨_, shareEq, _⟩
  · exact absurd (source.symm.trans absentSource) (by decide)
  · unfold Screen.metadata Screen.observe
    rw [shareEq, command]

theorem metadata_command {screen : Screen} {view : View} (source : screen.share.hasSource = true)
    (absent : (screen.metadata view).share.command = none) :
    screen.share.command = none ∧ (screen.metadata view).applied = screen.applied := by
  rw [metadata_command_eq source] at absent
  by_cases applies : screen.share.applies view = true
  · simp only [applies, if_true, Option.map_eq_none_iff] at absent
    simp [Share.applies, absent] at applies
  · simp only [applies, Bool.false_eq_true, if_false] at absent
    exact ⟨absent, by simp [Screen.metadata, Screen.observe, applies]⟩

theorem Tracked.metadata {screen : Screen} {restarted : Nat}
    (tracked : Tracked screen restarted) (view : View)
    (unmoved : screen.share.hasSource = true → screen.applied = screen.shown →
      (screen.share.state.any fun state => screen.share.moved state view) = false) :
    Tracked (screen.metadata view) restarted := by
  rcases loadedMetadata_cases screen.share view with
    ⟨source, result⟩ | ⟨source, shareEq, setsEq⟩
  · have same : screen.metadata view = screen := by
      simp [Screen.metadata, Screen.observe, source, result]
    rw [same]
    exact tracked
  have fresh : (screen.share.loadedMetadata view).2.any Effect.isSeek = true →
      screen.applied < screen.shown := by
    intro sets
    rw [setsEq] at sets
    apply apply_fresh _ tracked.applied_le _ sets
    · intro absent other membership nonneg
      apply tracked.pending absent other membership _ nonneg
      exact tracked.playing source other membership
    · intro same other membership
      exact (Option.any_eq_false _ _).mp (unmoved source same) other membership
  have effective : (screen.share.loadedMetadata view).2.any Effect.isSeek = true →
      (screen.share.hasSource && screen.share.applies view) = true := by
    intro sets
    rw [setsEq] at sets
    obtain ⟨other, known, loaded, _⟩ := (apply_isSeek _ view).mp sets
    have known : screen.share.state = some other := known
    simp [source, Share.applies, known, loaded]
  exact
    { once := tracked.once.observe tracked.assigned fresh
      assigned := observe_assigned tracked.assigned tracked.applied_le effective
      applied_le := observe_applied_le tracked.applied_le
      shown_le := tracked.shown_le
      restarted_le := tracked.restarted_le
      sought := tracked.sought
      renewed := by
        rw [metadata_state]
        exact tracked.renewed
      first := by
        intro absent
        rw [metadata_state] at absent
        have none := tracked.first absent
        obtain ⟨_, _, command⟩ := apply_share screen.share view
        unfold Screen.metadata Screen.observe
        rw [shareEq, command]
        simp [Share.applies, absent, none]
      unapplied := by
        intro absent
        obtain ⟨before, kept⟩ := metadata_command source absent
        rw [kept]
        exact tracked.unapplied before
      pending := by
        intro absent
        obtain ⟨before, kept⟩ := metadata_command source absent
        rw [kept, metadata_state]
        exact tracked.pending before
      playing := by
        intro _
        rw [metadata_state]
        exact tracked.playing source }

theorem Tracked.step {screen : Screen} {restarted : Nat} (tracked : Tracked screen restarted)
    (event : Event) (unrepeated : Unrepeated screen event) :
    ∃ later, Tracked (screen.step event) later := by
  cases event with
  | call call => exact tracked.call call
  | poll view =>
      by_cases active : screen.store.active = true
      · exact ⟨restarted, tracked.poll_active view.val active (unrepeated active)⟩
      · exact ⟨restarted, tracked.poll_inactive view.val (by simpa using active)⟩
  | metadata view => exact ⟨restarted, tracked.metadata view.val unrepeated⟩

/-! ## A counter that has moved -/

def Screen.Repeated (screen : Screen) : Prop :=
  ∃ assignment ∈ screen.assignments, assignment.seek ≤ assignment.applied

theorem Screen.Repeated.not_once {screen : Screen} (repeated : screen.Repeated) :
    ¬ screen.Once := by
  intro once
  obtain ⟨assignment, membership, old⟩ := repeated
  have new := once.answers assignment membership
  omega

theorem Screen.Repeated.observe {screen : Screen} (repeated : screen.Repeated) (applies : Bool)
    (result : Share × List Effect) : (screen.observe applies result).Repeated := by
  obtain ⟨assignment, membership, old⟩ := repeated
  refine ⟨assignment, ?_, old⟩
  unfold Screen.observe
  by_cases sets : result.2.any Effect.isSeek = true
  · simp only [if_pos sets]
    exact List.mem_append_left _ membership
  · simp only [if_neg sets]
    exact membership

theorem Screen.Repeated.step {screen : Screen} (repeated : screen.Repeated) (event : Event) :
    (screen.step event).Repeated := by
  have shown : Screen.Repeated { screen with shown := screen.accepted } := repeated
  cases event with
  | call call => exact repeated
  | poll view => exact shown.observe _ _
  | metadata view => exact repeated.observe _ _

theorem apply_moved {share : Share} {state : Session} {view : FiniteView}
    (known : share.state = some state) (moved : share.moved state view.val = true) :
    (share.apply view.val).2.any Effect.isSeek = true := by
  apply (apply_isSeek share view.val).mpr
  simp only [Share.moved, Bool.and_eq_true, decide_eq_true_eq] at moved
  obtain ⟨⟨⟨⟨loaded, nonneg⟩, _⟩, _⟩, different⟩ := moved
  exact ⟨state, known, loaded, Ne.symm different, nonneg, view.property loaded⟩

theorem repeated_of_moved {screen : Screen} {event : Event}
    (moved : ¬ Unrepeated screen event) : (screen.step event).Repeated := by
  cases event with
  | call call => exact absurd trivial moved
  | poll view =>
      simp only [Unrepeated, Classical.not_imp, Bool.not_eq_false] at moved
      obtain ⟨active, same, moved⟩ := moved
      have sets : (screen.share.update (some (session screen.store)) view.val).2.any
          Effect.isSeek = true := by
        rw [(@update_active screen.share (session screen.store) active view.val).2]
        apply apply_moved (adopt_cases _ _).1
        rw [adopt_moved]
        exact moved
      refine ⟨⟨screen.applied, screen.accepted⟩, ?_, by simp [same]⟩
      unfold Screen.step Screen.poll Screen.observe
      simp only [if_pos sets]
      exact List.mem_append_right _ (List.mem_singleton_self _)
  | metadata view =>
      simp only [Unrepeated, Classical.not_imp, Bool.not_eq_false] at moved
      obtain ⟨source, same, moved⟩ := moved
      obtain ⟨state, known, moved⟩ := (Option.any_eq_true _ _).mp moved
      rcases loadedMetadata_cases screen.share view.val with ⟨absent, _⟩ | ⟨_, _, setsEq⟩
      · simp [source] at absent
      · have sets : (screen.share.loadedMetadata view.val).2.any Effect.isSeek = true := by
          rw [setsEq]
          exact apply_moved known moved
        refine ⟨⟨screen.applied, screen.shown⟩, ?_, by simp [same]⟩
        unfold Screen.step Screen.metadata Screen.observe
        simp only [if_pos sets]
        exact List.mem_append_right _ (List.mem_singleton_self _)

/-- Either no command has moved the counter of an applied seek, or a position
was set twice. -/
theorem tracked_or_repeated (events : List Event) :
    (Guarded Screen.step Unrepeated {} events ∧
      ∃ restarted, Tracked (run Screen.step {} events) restarted) ∨
    (¬ Guarded Screen.step Unrepeated {} events ∧ (run Screen.step {} events).Repeated) := by
  induction events using List.reverseRecOn with
  | nil => exact .inl ⟨trivial, 0, tracked_initial⟩
  | append_singleton events event inductionHypothesis =>
      simp only [guarded_append, run_append, run_cons, run_nil, Guarded, and_true]
      rcases inductionHypothesis with ⟨guarded, restarted, tracked⟩ | ⟨unguarded, repeated⟩
      · by_cases unrepeated : Unrepeated (run Screen.step {} events) event
        · exact .inl ⟨⟨guarded, unrepeated⟩, tracked.step event unrepeated⟩
        · exact .inr ⟨fun both => unrepeated both.2, repeated_of_moved unrepeated⟩
      · exact .inr ⟨fun both => unguarded both.1, repeated.step event⟩

/-- In every run, every seek command sets the position at most once and no other
command does, exactly if no command but a seek moves the counter of a session
whose seek position the page has applied. -/
theorem seeks_applied_once_iff (events : List Event) :
    (run Screen.step {} events).Once ↔ Guarded Screen.step Unrepeated {} events := by
  rcases tracked_or_repeated events with ⟨guarded, restarted, tracked⟩ | ⟨unguarded, repeated⟩
  · exact iff_of_true tracked.once guarded
  · exact iff_of_false repeated.not_once unguarded

def loadedView : FiniteView := ⟨⟨4, .finite 10, false, false⟩, fun _ => rfl⟩

def pauseAfterSeek : List Event :=
  [.call (.play (some (CText.ascii "http://tv/film")) (.finite 0)), .poll loadedView,
    .call (.seek (.finite (3 / 2))), .poll loadedView,
    .call (.rate (.finite 0)), .poll loadedView]

/-- The pause sends the film back to the position of the seek. -/
theorem pause_repeats_seek : ¬ ∀ events : List Event, (run Screen.step {} events).Once := by
  intro once
  have assignments : (run Screen.step {} pauseAfterSeek).assignments = [⟨0, 1⟩, ⟨1, 1⟩] := by
    decide +kernel
  have distinct := (once pauseAfterSeek).distinct
  rw [assignments] at distinct
  exact absurd distinct (by decide)

end AirTizen.Page

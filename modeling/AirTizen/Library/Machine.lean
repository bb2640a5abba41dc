import Mathlib.Data.List.Basic

/-!
# Deterministic machines and their runs

A machine is a step function on states and events.  Choices of the environment
are part of the events, so a nondeterministic system is a machine as well: a
statement about every run is a statement about every list of events.
-/

namespace Machine

universe u v w

variable {State : Type u} {Event : Type v} {Output : Type w}

/-- The state reached from `state` by the events in order. -/
def run (step : State → Event → State) (state : State) (events : List Event) : State :=
  events.foldl step state

@[simp]
theorem run_nil (step : State → Event → State) (state : State) :
    run step state [] = state := rfl

@[simp]
theorem run_cons (step : State → Event → State) (state : State)
    (event : Event) (rest : List Event) :
    run step state (event :: rest) = run step (step state event) rest := rfl

theorem run_append (step : State → Event → State) (state : State)
    (first second : List Event) :
    run step state (first ++ second) = run step (run step state first) second :=
  List.foldl_append

/-- What every step preserves holds after every run. -/
theorem run_invariant {step : State → Event → State} {Invariant : State → Prop}
    (preserved : ∀ state event, Invariant state → Invariant (step state event))
    {state : State} (initial : Invariant state) (events : List Event) :
    Invariant (run step state events) := by
  induction events generalizing state with
  | nil => exact initial
  | cons event rest inductionHypothesis =>
      exact inductionHypothesis (preserved state event initial)

/-- Every event of the run is taken in a state whose guard admits it. -/
def Guarded (step : State → Event → State) (guard : State → Event → Prop) :
    State → List Event → Prop
  | _, [] => True
  | state, event :: rest => guard state event ∧ Guarded step guard (step state event) rest

instance guardedDecidable (step : State → Event → State) (guard : State → Event → Prop)
    [∀ state event, Decidable (guard state event)] :
    (state : State) → (events : List Event) → Decidable (Guarded step guard state events)
  | _, [] => inferInstanceAs (Decidable True)
  | state, event :: rest =>
      have := guardedDecidable step guard (step state event) rest
      inferInstanceAs (Decidable (guard state event ∧ _))

theorem guarded_append {step : State → Event → State} {guard : State → Event → Prop}
    {state : State} {first second : List Event} :
    Guarded step guard state (first ++ second) ↔
      Guarded step guard state first ∧
        Guarded step guard (run step state first) second := by
  induction first generalizing state with
  | nil => simp [Guarded]
  | cons event rest inductionHypothesis =>
      simp only [List.cons_append, Guarded, inductionHypothesis, run_cons, and_assoc]

def GuardedFrom (step : State → Event → State) (start : State → Event → Bool)
    (guard : State → Event → Prop) : State → List Event → Prop
  | _, [] => True
  | state, event :: rest =>
      if start state event then Guarded step guard state (event :: rest)
      else GuardedFrom step start guard (step state event) rest

instance guardedFromDecidable (step : State → Event → State) (start : State → Event → Bool)
    (guard : State → Event → Prop) [∀ state event, Decidable (guard state event)] :
    (state : State) → (events : List Event) →
      Decidable (GuardedFrom step start guard state events)
  | _, [] => inferInstanceAs (Decidable True)
  | state, event :: rest =>
      have := guardedFromDecidable step start guard (step state event) rest
      inferInstanceAs (Decidable (if start state event then _ else _))

theorem guardedFrom_start {step : State → Event → State} {start : State → Event → Bool}
    {guard : State → Event → Prop} {state : State} {event : Event} {rest : List Event}
    (starts : start state event = true) :
    GuardedFrom step start guard state (event :: rest) ↔
      Guarded step guard state (event :: rest) := by
  rw [GuardedFrom, if_pos starts]

theorem guardedFrom_skip {step : State → Event → State} {start : State → Event → Bool}
    {guard : State → Event → Prop} {state : State} {event : Event} {rest : List Event}
    (waits : start state event = false) :
    GuardedFrom step start guard state (event :: rest) ↔
      GuardedFrom step start guard (step state event) rest := by
  rw [GuardedFrom, if_neg (by simp [waits])]

/-- An invariant that only admitted steps preserve holds after guarded runs. -/
theorem Guarded.run_invariant {step : State → Event → State}
    {guard : State → Event → Prop} {Invariant : State → Prop}
    (preserved : ∀ state event, Invariant state → guard state event →
      Invariant (step state event))
    {state : State} {events : List Event} (guarded : Guarded step guard state events)
    (initial : Invariant state) : Invariant (run step state events) := by
  induction events generalizing state with
  | nil => exact initial
  | cons event rest inductionHypothesis =>
      exact inductionHypothesis guarded.2 (preserved state event initial guarded.1)

/-- Guards that agree wherever the invariant holds admit the same runs. -/
theorem guarded_congr {step : State → Event → State} {first second : State → Event → Prop}
    {Invariant : State → Prop}
    (preserved : ∀ {state}, Invariant state → ∀ event, Invariant (step state event))
    {state : State} (initial : Invariant state)
    (agree : ∀ state event, Invariant state → (first state event ↔ second state event))
    (events : List Event) :
    Guarded step first state events ↔ Guarded step second state events := by
  induction events generalizing state with
  | nil => exact Iff.rfl
  | cons event rest inductionHypothesis =>
      exact and_congr (agree state event initial)
        (inductionHypothesis (preserved initial event))

/-- The property holds in every state that the run reaches, its first one included. -/
def Throughout (step : State → Event → State) (property : State → Prop) :
    State → List Event → Prop
  | state, [] => property state
  | state, event :: rest => property state ∧ Throughout step property (step state event) rest

/-- A property that admitted steps keep and other steps break holds throughout
exactly the guarded runs. -/
theorem throughout_iff_guarded {step : State → Event → State} {guard : State → Event → Prop}
    {property Invariant : State → Prop}
    (holds : ∀ state, Invariant state → property state)
    (preserved : ∀ state event, Invariant state → guard state event →
      Invariant (step state event))
    (needed : ∀ state event, Invariant state → ¬ guard state event →
      ¬ property (step state event))
    {state : State} (initial : Invariant state) (events : List Event) :
    Throughout step property state events ↔ Guarded step guard state events := by
  induction events generalizing state with
  | nil => exact iff_of_true (holds state initial) trivial
  | cons event rest inductionHypothesis =>
      by_cases admitted : guard state event
      · have next := preserved state event initial admitted
        exact and_congr (iff_of_true (holds state initial) admitted) (inductionHypothesis next)
      · refine iff_of_false (fun throughout => ?_) (fun guarded => admitted guarded.1)
        apply needed state event initial admitted
        cases rest with
        | nil => exact throughout.2
        | cons next later => exact throughout.2.1

theorem Throughout.last {step : State → Event → State} {property : State → Prop}
    {state : State} {events : List Event} (throughout : Throughout step property state events) :
    property (run step state events) := by
  induction events generalizing state with
  | nil => exact throughout
  | cons event rest inductionHypothesis => exact inductionHypothesis throughout.2

theorem throughout_concat {step : State → Event → State} {property : State → Prop}
    {state : State} {events : List Event} {event : Event} :
    Throughout step property state (events ++ [event]) ↔
      Throughout step property state events ∧
        property (step (run step state events) event) := by
  induction events generalizing state with
  | nil => simp [Throughout]
  | cons first rest inductionHypothesis =>
      simp only [List.cons_append, Throughout, inductionHypothesis, run_cons, and_assoc]

/-- Everything the steps of a run put out, in order. -/
def outputs (step : State → Event → State) (emit : State → Event → List Output) :
    State → List Event → List Output
  | _, [] => []
  | state, event :: rest => emit state event ++ outputs step emit (step state event) rest

theorem outputs_append (step : State → Event → State) (emit : State → Event → List Output)
    (state : State) (first second : List Event) :
    outputs step emit state (first ++ second) =
      outputs step emit state first ++
        outputs step emit (run step state first) second := by
  induction first generalizing state with
  | nil => rfl
  | cons event rest inductionHypothesis =>
      simp only [List.cons_append, outputs, inductionHypothesis, run_cons, List.append_assoc]

/-- What every step puts out holds of everything that a run puts out. -/
theorem outputs_forall {step : State → Event → State} {emit : State → Event → List Output}
    {Invariant : State → Prop} {property : Output → Prop}
    (preserved : ∀ state event, Invariant state →
      Invariant (step state event) ∧ ∀ output ∈ emit state event, property output)
    {state : State} (initial : Invariant state) (events : List Event) :
    ∀ output ∈ outputs step emit state events, property output := by
  induction events generalizing state with
  | nil =>
      intro output membership
      exact absurd membership List.not_mem_nil
  | cons event rest inductionHypothesis =>
      obtain ⟨next, now⟩ := preserved state event initial
      intro output membership
      rcases List.mem_append.mp membership with here | later
      · exact now output here
      · exact inductionHypothesis next output later

/-- How many steps of the run change the observed value. -/
def changes {Value : Type w} [DecidableEq Value] (step : State → Event → State)
    (observe : State → Value) : State → List Event → Nat
  | _, [] => 0
  | state, event :: rest =>
      (if observe (step state event) = observe state then 0 else 1) +
        changes step observe (step state event) rest

theorem changes_append {Value : Type w} [DecidableEq Value] (step : State → Event → State)
    (observe : State → Value) (state : State) (first second : List Event) :
    changes step observe state (first ++ second) =
      changes step observe state first +
        changes step observe (run step state first) second := by
  induction first generalizing state with
  | nil => simp [changes]
  | cons event rest inductionHypothesis =>
      simp only [List.cons_append, changes, inductionHypothesis, run_cons, Nat.add_assoc]

end Machine

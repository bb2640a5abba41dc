import Mathlib.Data.List.Basic

/-!
# Computations that call operations

A computation either ends with a result or asks its environment for one
operation and goes on with the answer.  What holds of every branch holds of the
operations that any environment sees.
-/

universe u v w x

inductive Interaction (Operation : Type u) (Answer : Operation → Type v) (Result : Type w) where
  | done (result : Result)
  | ask (operation : Operation) (next : Answer operation → Interaction Operation Answer Result)

namespace Interaction

variable {Operation : Type u} {Answer : Operation → Type v} {Result : Type w} {State : Type x}

abbrev Environment (Operation : Type u) (Answer : Operation → Type v) (State : Type x) :=
  (operation : Operation) → State → Answer operation × State

/-- The result, and the state the environment is left in. -/
def run (environment : Environment Operation Answer State) :
    Interaction Operation Answer Result → State → Result × State
  | done result, state => (result, state)
  | ask operation next, state =>
      run environment (next (environment operation state).1) (environment operation state).2

/-- The operations that were asked for, in order. -/
def trace (environment : Environment Operation Answer State) :
    Interaction Operation Answer Result → State → List Operation
  | done _, _ => []
  | ask operation next, state =>
      operation ::
        trace environment (next (environment operation state).1) (environment operation state).2

@[simp]
theorem run_done (environment : Environment Operation Answer State) (result : Result)
    (state : State) :
    (done result : Interaction Operation Answer Result).run environment state =
      (result, state) := rfl

@[simp]
theorem run_ask (environment : Environment Operation Answer State) (operation : Operation)
    (next : Answer operation → Interaction Operation Answer Result) (state : State) :
    (ask operation next).run environment state =
      (next (environment operation state).1).run environment (environment operation state).2 :=
  rfl

@[simp]
theorem trace_done (environment : Environment Operation Answer State) (result : Result)
    (state : State) :
    (done result : Interaction Operation Answer Result).trace environment state = [] := rfl

/-- Every operation the computation can ask for is allowed. -/
def Asks (Allowed : Operation → Prop) : Interaction Operation Answer Result → Prop
  | done _ => True
  | ask operation next => Allowed operation ∧ ∀ answer, Asks Allowed (next answer)

theorem Asks.mono {Allowed Wider : Operation → Prop}
    {computation : Interaction Operation Answer Result} (asks : computation.Asks Allowed)
    (wider : ∀ operation, Allowed operation → Wider operation) : computation.Asks Wider := by
  induction computation with
  | done result => trivial
  | ask asked next inductionHypothesis =>
      exact ⟨wider asked asks.1, fun answer => inductionHypothesis answer (asks.2 answer)⟩

theorem Asks.ite {Allowed : Operation → Prop} {condition : Prop} [Decidable condition]
    {yes no : Interaction Operation Answer Result} (first : condition → yes.Asks Allowed)
    (second : ¬ condition → no.Asks Allowed) :
    (if condition then yes else no).Asks Allowed := by
  split
  next holds => exact first holds
  next fails => exact second fails

theorem Asks.of_mem_trace {Allowed : Operation → Prop}
    {computation : Interaction Operation Answer Result} (asks : computation.Asks Allowed)
    {environment : Environment Operation Answer State} {state : State} {operation : Operation}
    (membership : operation ∈ computation.trace environment state) : Allowed operation := by
  induction computation generalizing state with
  | done result => simp [trace] at membership
  | ask asked next inductionHypothesis =>
      rcases List.mem_cons.mp membership with rfl | later
      · exact asks.1
      · exact inductionHypothesis _ (asks.2 _) later

def AsksAtMost (counted : Operation → Bool) :
    Nat → Interaction Operation Answer Result → Prop
  | _, done _ => True
  | 0, ask operation next =>
      counted operation = false ∧ ∀ answer, AsksAtMost counted 0 (next answer)
  | bound + 1, ask operation next =>
      ∀ answer,
        AsksAtMost counted (if counted operation then bound else bound + 1) (next answer)

theorem AsksAtMost.ite {counted : Operation → Bool} {bound : Nat} {condition : Prop}
    [Decidable condition] {yes no : Interaction Operation Answer Result}
    (first : yes.AsksAtMost counted bound) (second : no.AsksAtMost counted bound) :
    (if condition then yes else no).AsksAtMost counted bound := by
  split
  · exact first
  · exact second

theorem AsksAtMost.countP_trace_le {counted : Operation → Bool} {bound : Nat}
    {computation : Interaction Operation Answer Result}
    (bounded : computation.AsksAtMost counted bound)
    (environment : Environment Operation Answer State) (state : State) :
    (computation.trace environment state).countP counted ≤ bound := by
  induction computation generalizing bound state with
  | done result => simp [trace]
  | ask asked next inductionHypothesis =>
      rw [trace, List.countP_cons]
      cases bound with
      | zero =>
          have later := inductionHypothesis _ (bounded.2 (environment asked state).1)
            (environment asked state).2
          simpa [bounded.1] using later
      | succ bound =>
          have later := inductionHypothesis _ (bounded (environment asked state).1)
            (environment asked state).2
          split at later
          next isCounted => simpa [isCounted] using later
          next notCounted => simpa [notCounted] using later

end Interaction

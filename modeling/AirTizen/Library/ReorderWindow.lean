import Mathlib.Data.List.Pairwise
import Mathlib.Algebra.Order.Group.Int
import Mathlib.Tactic.Ring
import AirTizen.Library.Machine

/-!
# Putting a numbered stream in order

Values of a stream arrive under their numbers in any order.  A window in front of the
reader keeps what has come too early, gives the numbers out one after the other, and gives
up those that did not come.  On the wire a number is only known modulo the size of its
field.
-/

universe u

/-! ## Numbers of a field -/

namespace SerialNumber

/-- The signed distance of two numbers, as far as their fields tell. -/
def distance (modulus : Nat) (first second : Int) : Int := Int.bmod (first - second) modulus

variable {modulus : Nat} {number origin first second : Int}

/-- Numbers that are less than half of the field apart have this distance. -/
theorem distance_eq (numberField : first = number % modulus) (originField : second = origin % modulus)
    (above : -(modulus / 2) ≤ number - origin) (below : number - origin < (modulus + 1) / 2) :
    distance modulus first second = number - origin := by
  rw [distance, numberField, originField, Int.emod_sub_bmod, Int.sub_emod_bmod]
  apply Int.bmod_eq_of_le above below

end SerialNumber

/-! ## The window -/

/-- The values from the next number on.  Something newer than the next number has arrived
only if the newest number has. -/
@[ext]
structure ReorderWindow (α : Type u) (capacity : Nat) where
  next : Int
  stop : Int
  held : Int → Option α
  ordered : next ≤ stop
  short : stop ≤ next + capacity
  inside : ∀ number, (held number).isSome → next ≤ number ∧ number < stop
  newest : next < stop → (held (stop - 1)).isSome

namespace ReorderWindow

variable {α : Type u} {capacity : Nat}

def empty (capacity : Nat) (number : Int) : ReorderWindow α capacity where
  next := number
  stop := number
  held := fun _ => none
  ordered := le_refl number
  short := by omega
  inside := fun _ present => by simp at present
  newest := fun behind => absurd behind (lt_irrefl number)

theorem empty_due (capacity : Nat) (number : Int) :
    (empty capacity number : ReorderWindow α capacity).next ≤ number := le_refl number

theorem empty_near (positive : 0 < capacity) (number : Int) :
    number < (empty capacity number : ReorderWindow α capacity).next + capacity :=
  Int.lt_add_of_pos_right number (by exact_mod_cast positive)

def insert (window : ReorderWindow α capacity) (number : Int) (value : α)
    (due : window.next ≤ number) (near : number < window.next + capacity) :
    ReorderWindow α capacity where
  next := window.next
  stop := max window.stop (number + 1)
  held := Function.update window.held number (some value)
  ordered := le_trans window.ordered (le_max_left _ _)
  short := max_le window.short (by omega)
  inside := fun other present => by
    by_cases same : other = number
    · subst same
      exact ⟨due, lt_of_lt_of_le (Int.lt_succ other) (le_max_right _ _)⟩
    · rw [Function.update_of_ne same] at present
      have within := window.inside other present
      exact ⟨within.1, lt_of_lt_of_le within.2 (le_max_left _ _)⟩
  newest := fun behind => by
    rcases le_total (number + 1) window.stop with older | newer
    · rw [max_eq_left older] at behind ⊢
      by_cases same : window.stop - 1 = number
      · rw [same, Function.update_self]
        rfl
      · rw [Function.update_of_ne same]
        apply window.newest behind
    · rw [max_eq_right newer, add_sub_cancel_right, Function.update_self]
      rfl

@[simp]
theorem insert_next (window : ReorderWindow α capacity) {number : Int} (value : α)
    (due : window.next ≤ number) (near : number < window.next + capacity) :
    (window.insert number value due near).next = window.next := rfl

@[simp]
theorem insert_stop (window : ReorderWindow α capacity) {number : Int} (value : α)
    (due : window.next ≤ number) (near : number < window.next + capacity) :
    (window.insert number value due near).stop = max window.stop (number + 1) := rfl

@[simp]
theorem insert_held (window : ReorderWindow α capacity) {number : Int} (value : α)
    (due : window.next ≤ number) (near : number < window.next + capacity) :
    (window.insert number value due near).held =
      Function.update window.held number (some value) := rfl

/-- The window that has room for a number: an empty one where it is too far ahead. -/
def room (window : ReorderWindow α capacity) (number : Int) : ReorderWindow α capacity :=
  if window.next + capacity ≤ number then empty capacity number else window

theorem room_due {window : ReorderWindow α capacity} {number : Int} (due : window.next ≤ number) :
    (window.room number).next ≤ number := by
  rw [room]
  split
  · exact le_refl number
  · exact due

theorem room_near (positive : 0 < capacity) (window : ReorderWindow α capacity) (number : Int) :
    number < (window.room number).next + capacity := by
  rw [room]
  split
  · exact Int.lt_add_of_pos_right number (by exact_mod_cast positive)
  · next inside => exact Int.not_le.mp inside

def accept (window : ReorderWindow α capacity) (number : Int) (value : Option α)
    (due : window.next ≤ number) (near : number < window.next + capacity) :
    ReorderWindow α capacity :=
  match window.held number, value with
  | none, some value => window.insert number value due near
  | _, _ => window

/-- A value arrives, or something under its number that cannot be read. -/
def arrive (positive : 0 < capacity) (window : ReorderWindow α capacity) (number : Int)
    (value : Option α) : ReorderWindow α capacity :=
  if late : number < window.next then window
  else
    (window.room number).accept number value (room_due (Int.not_lt.mp late))
      (room_near positive window number)

def contents (window : ReorderWindow α capacity) : List (Int × Option α) :=
  (List.range (window.stop - window.next).toNat).map fun index : Nat =>
    (window.next + index, window.held (window.next + index))

theorem mem_contents {window : ReorderWindow α capacity} {entry : Int × Option α} :
    entry ∈ window.contents ↔
      window.next ≤ entry.1 ∧ entry.1 < window.stop ∧ entry.2 = window.held entry.1 := by
  rw [contents, List.mem_map]
  constructor
  · rintro ⟨index, inside, rfl⟩
    have position := List.mem_range.mp inside
    refine ⟨?_, ?_, rfl⟩
    · omega
    · omega
  · rintro ⟨due, known, value⟩
    refine ⟨(entry.1 - window.next).toNat, List.mem_range.mpr (by omega), ?_⟩
    have position : window.next + ((entry.1 - window.next).toNat : Int) = entry.1 := by
      omega
    rw [position, ← value]

theorem contents_ordered (window : ReorderWindow α capacity) :
    (window.contents.map Prod.fst).Pairwise (· < ·) := by
  rw [contents, List.map_map, List.pairwise_map]
  apply List.pairwise_lt_range.imp
  intro first second earlier
  simpa using earlier

def advance (window : ReorderWindow α capacity) (behind : window.next < window.stop) :
    ReorderWindow α capacity where
  next := window.next + 1
  stop := window.stop
  held := Function.update window.held window.next none
  ordered := behind
  short := le_trans window.short (by omega)
  inside := fun other present => by
    by_cases same : other = window.next
    · rw [same, Function.update_self] at present
      exact absurd present (by simp)
    · rw [Function.update_of_ne same] at present
      have within := window.inside other present
      exact ⟨lt_of_le_of_ne within.1 (Ne.symm same), within.2⟩
  newest := fun further => by
    have other : window.stop - 1 ≠ window.next := by omega
    rw [Function.update_of_ne other]
    apply window.newest behind

@[simp]
theorem advance_next (window : ReorderWindow α capacity) (behind : window.next < window.stop) :
    (window.advance behind).next = window.next + 1 := rfl

@[simp]
theorem advance_stop (window : ReorderWindow α capacity) (behind : window.next < window.stop) :
    (window.advance behind).stop = window.stop := rfl

@[simp]
theorem advance_held (window : ReorderWindow α capacity) (behind : window.next < window.stop) :
    (window.advance behind).held = Function.update window.held window.next none := rfl

theorem contents_advance (window : ReorderWindow α capacity)
    (behind : window.next < window.stop) :
    window.contents = (window.next, window.held window.next) ::
      (window.advance behind).contents := by
  have length : (window.stop - window.next).toNat =
      (window.stop - (window.next + 1)).toNat + 1 := by
    omega
  rw [contents, length, List.range_succ_eq_map, List.map_cons, List.map_map, contents]
  congr 1
  · simp
  · apply List.map_congr_left
    intro index _
    have number : window.next + ((index.succ : Nat) : Int) = window.next + 1 + index := by
      push_cast
      ring
    have other : window.next + 1 + (index : Int) ≠ window.next := by omega
    dsimp only [Function.comp_apply, advance_next, advance_held]
    rw [number, Function.update_of_ne other]

theorem eq_empty {window : ReorderWindow α capacity} (done : window.next = window.stop) :
    window = empty capacity window.stop := by
  apply ReorderWindow.ext
  · exact done
  · rfl
  · funext number
    cases present : window.held number with
    | none => rfl
    | some value =>
        have within := window.inside number (by rw [present]; rfl)
        exact absurd (lt_of_le_of_lt within.1 within.2) (by omega)

theorem contents_empty {window : ReorderWindow α capacity} (done : window.next = window.stop) :
    window.contents = [] := by
  rw [contents, done, sub_self]
  rfl

/-! ## A reader's window over a run -/

inductive Event (α : Type u) where
  | arrive (number : Int) (value : Option α)
  | drain

/-- Without a window the reader waits for a first value, and its window begins there. -/
def step (positive : 0 < capacity) (window : Option (ReorderWindow α capacity)) :
    Event α → Option (ReorderWindow α capacity)
  | .arrive number value =>
      match window, value with
      | some window, value => some (window.arrive positive number value)
      | none, some value => some ((empty capacity number).arrive positive number (some value))
      | none, none => none
  | .drain => window.map fun window => empty capacity window.stop

def emit (window : Option (ReorderWindow α capacity)) : Event α → List (Int × Option α)
  | .arrive _ _ => []
  | .drain => window.elim [] contents

section

variable {positive : 0 < capacity} {window : ReorderWindow α capacity} {number : Int}
  {value : Option α}

theorem room_held {other : Int} {held : α}
    (present : (window.room number).held other = some held) : window.held other = some held := by
  rw [room] at present
  split at present
  · exact absurd present (by simp [empty])
  · exact present

theorem accept_known {due : window.next ≤ number} {near : number < window.next + capacity}
    {held : α} (present : window.held number = some held) :
    window.accept number value due near = window := by
  unfold accept
  rw [present]

theorem accept_unread {due : window.next ≤ number} {near : number < window.next + capacity} :
    window.accept number none due near = window := by
  unfold accept
  split
  · next conflict => cases conflict
  · rfl

theorem accept_first {due : window.next ≤ number} {near : number < window.next + capacity}
    {value : α} (missing : window.held number = none) :
    window.accept number (some value) due near = window.insert number value due near := by
  unfold accept
  rw [missing]

theorem accept_next {due : window.next ≤ number} {near : number < window.next + capacity} :
    (window.accept number value due near).next = window.next := by
  unfold accept
  split
  · rfl
  · rfl

theorem arrive_late (late : number < window.next) :
    window.arrive positive number value = window :=
  dif_pos late

theorem arrive_due (due : window.next ≤ number) :
    window.arrive positive number value =
      (window.room number).accept number value (room_due due) (room_near positive window number) :=
  dif_neg (Int.not_lt.mpr due)

theorem arrive_empty {value : α} :
    (empty capacity number).arrive positive number (some value) =
      (empty capacity number).insert number value (empty_due capacity number)
        (empty_near positive number) := by
  have wide : ¬ number + capacity ≤ number := by
    have some : (0 : Int) < capacity := by exact_mod_cast positive
    omega
  have stays : (empty capacity number : ReorderWindow α capacity).room number =
      empty capacity number := if_neg wide
  rw [arrive_due (empty_due capacity number)]
  simp only [stays]
  exact accept_first rfl

theorem arrive_next : (window.arrive positive number value).next =
    if window.next + capacity ≤ number then number else window.next := by
  have wide : (0 : Int) < capacity := by exact_mod_cast positive
  rcases lt_or_ge number window.next with late | due
  · rw [arrive_late late, if_neg (by omega)]
  · rw [arrive_due due, accept_next, room]
    split
    · rfl
    · rfl

theorem arrive_next_le : window.next ≤ (window.arrive positive number value).next := by
  have wide : (0 : Int) < capacity := by exact_mod_cast positive
  rw [arrive_next]
  split
  · omega
  · exact le_refl _

theorem arrive_stop_le :
    (window.arrive positive number value).stop ≤ max window.stop (number + 1) := by
  rcases lt_or_ge number window.next with late | due
  · rw [arrive_late late]
    exact le_max_left _ _
  · have room : (window.room number).stop ≤ max window.stop (number + 1) := by
      rw [room]
      split
      · exact le_trans (Int.le_add_one (le_refl number)) (le_max_right _ _)
      · exact le_max_left _ _
    rw [arrive_due due]
    unfold accept
    split
    · rw [insert_stop]
      exact max_le room (le_max_right _ _)
    · exact room

theorem arrive_held {other : Int} {held : α}
    (present : (window.arrive positive number value).held other = some held) :
    window.held other = some held ∨ (other = number ∧ value = some held) := by
  rcases lt_or_ge number window.next with late | due
  · rw [arrive_late late] at present
    exact Or.inl present
  · rw [arrive_due due] at present
    unfold accept at present
    split at present
    · next vacant =>
        by_cases same : other = number
        · subst same
          rw [insert_held, Function.update_self] at present
          exact Or.inr ⟨rfl, present⟩
        · rw [insert_held, Function.update_of_ne same] at present
          exact Or.inl (room_held present)
    · exact Or.inl (room_held present)

theorem held_of_arrive {value : α} (due : window.next ≤ number)
    (missing : window.held number = none) :
    (window.arrive positive number (some value)).held number = some value := by
  have vacant : (window.room number).held number = none := by
    rw [room]
    split
    · rfl
    · exact missing
  rw [arrive_due due, accept_first vacant, insert_held, Function.update_self]

end

/-- The numbers that a reader may still take. -/
def Ahead (window : Option (ReorderWindow α capacity)) (number : Int) : Prop :=
  ∀ present, window = some present → present.next ≤ number

theorem ahead_of_step {positive : 0 < capacity} {window : Option (ReorderWindow α capacity)}
    {event : Event α} {number : Int} (ahead : Ahead (step positive window event) number) :
    Ahead window number := by
  rintro present rfl
  cases event with
  | arrive arrived value => exact le_trans arrive_next_le (ahead _ rfl)
  | drain => exact le_trans present.ordered (ahead _ rfl)

/-- The numbers are taken in increasing order, each of them once. -/
theorem outputs_ordered (positive : 0 < capacity) (window : Option (ReorderWindow α capacity))
    (events : List (Event α)) :
    ((Machine.outputs (step positive) emit window events).map Prod.fst).Pairwise (· < ·) ∧
      ∀ output ∈ Machine.outputs (step positive) emit window events, Ahead window output.1 := by
  induction events generalizing window with
  | nil => simp [Machine.outputs]
  | cons event rest inductionHypothesis =>
      have later := inductionHypothesis (step positive window event)
      have behind : ∀ output ∈ Machine.outputs (step positive) emit (step positive window event)
          rest, Ahead window output.1 :=
        fun output membership => ahead_of_step (later.2 output membership)
      rw [Machine.outputs]
      cases event with
      | arrive number value => exact ⟨later.1, behind⟩
      | drain =>
          cases window with
          | none => exact ⟨later.1, behind⟩
          | some present =>
              rw [List.map_append, List.pairwise_append]
              refine ⟨⟨present.contents_ordered, later.1, ?_⟩, ?_⟩
              · intro first inFront second following
                obtain ⟨entry, member, rfl⟩ := List.mem_map.mp inFront
                obtain ⟨output, membership, rfl⟩ := List.mem_map.mp following
                have before := (mem_contents.mp member).2.1
                exact lt_of_lt_of_le before (later.2 output membership _ rfl)
              · intro output membership
                rcases List.mem_append.mp membership with member | following
                · rintro _ ⟨⟩
                  exact (mem_contents.mp member).1
                · exact behind output following

theorem contents_insert_empty {first number : Int} (value : α) (due : first ≤ number)
    (near : number < first + capacity) :
    ((empty capacity first).insert number value due near).contents =
      ((List.range (number - first).toNat).map fun index : Nat => (first + index, none)) ++
        [(number, some value)] := by
  have length : (max first (number + 1) - first).toNat = (number - first).toNat + 1 := by omega
  have last : first + ((number - first).toNat : Int) = number := by omega
  have cells : ((empty capacity first).insert number value due near).contents =
      (List.range (max first (number + 1) - first).toNat).map fun index : Nat =>
        (first + (index : Int),
          Function.update (fun _ => none) number (some value) (first + (index : Int))) := rfl
  rw [cells, length, List.range_succ, List.map_append, List.map_singleton, last,
    Function.update_self]
  congr 1
  apply List.map_congr_left
  intro index inside
  have position := List.mem_range.mp inside
  rw [Function.update_of_ne (by omega)]

/-- A number that has got its value, or that nobody waits for any more. -/
def Settled (window : Option (ReorderWindow α capacity)) (number : Int) : Prop :=
  ∃ present, window = some present ∧ (number < present.next ∨ (present.held number).isSome)

theorem settled_arrive {positive : 0 < capacity} (window : Option (ReorderWindow α capacity))
    (number : Int) (value : α) :
    Settled (step positive window (.arrive number (some value))) number := by
  cases window with
  | none =>
      refine ⟨_, rfl, Or.inr ?_⟩
      rw [arrive_empty, insert_held, Function.update_self]
      rfl
  | some present =>
      refine ⟨_, rfl, ?_⟩
      rcases lt_or_ge number present.next with late | due
      · rw [arrive_late late]
        exact Or.inl late
      · right
        cases known : present.held number with
        | none =>
            rw [held_of_arrive due known]
            rfl
        | some held =>
            have stays : present.room number = present := by
              have within := present.inside number (by rw [known]; rfl)
              exact if_neg (Int.not_le.mpr (lt_of_lt_of_le within.2 present.short))
            have kept : (present.room number).held number = some held := by
              rw [stays]
              exact known
            rw [arrive_due due, accept_known kept, kept]
            rfl

theorem Settled.step {positive : 0 < capacity} {window : Option (ReorderWindow α capacity)}
    {number : Int} (settled : Settled window number) (event : Event α) :
    Settled (step positive window event) number := by
  obtain ⟨present, rfl, known⟩ := settled
  cases event with
  | drain =>
      refine ⟨_, rfl, Or.inl ?_⟩
      rcases known with before | held
      · exact lt_of_lt_of_le before present.ordered
      · exact (present.inside number held).2
  | arrive arrived value =>
      refine ⟨_, rfl, ?_⟩
      rcases known with before | held
      · exact Or.inl (lt_of_lt_of_le before arrive_next_le)
      · rcases lt_or_ge arrived present.next with late | due
        · rw [arrive_late late]
          exact Or.inr held
        · by_cases far : present.next + capacity ≤ arrived
          · left
            rw [arrive_next, if_pos far]
            exact lt_of_lt_of_le (present.inside number held).2 (le_trans present.short far)
          · right
            have stays : present.room arrived = present := if_neg far
            rw [arrive_due due]
            unfold accept
            split
            · rw [insert_held]
              by_cases same : number = arrived
              · rw [same, Function.update_self]
                rfl
              · rw [Function.update_of_ne same, stays]
                exact held
            · rw [stays]
              exact held

theorem settled_run (positive : 0 < capacity) {number : Int} {value : α}
    {events : List (Event α)} (arrived : Event.arrive number (some value) ∈ events)
    (window : Option (ReorderWindow α capacity)) :
    Settled (Machine.run (step positive) window events) number := by
  induction events generalizing window with
  | nil => exact absurd arrived List.not_mem_nil
  | cons event rest inductionHypothesis =>
      rw [Machine.run_cons]
      rcases List.mem_cons.mp arrived with rfl | later
      · have kept : ∀ (state : Option (ReorderWindow α capacity)) (event : Event α),
            Settled state number → Settled (step positive state event) number :=
          fun _ event settled => settled.step event
        exact Machine.run_invariant kept (settled_arrive window number value) rest
      · exact inductionHypothesis later _

theorem outputs_settled (positive : 0 < capacity) {window : Option (ReorderWindow α capacity)}
    {number : Int} (settled : Settled window number) (events : List (Event α)) :
    (number, none) ∉ Machine.outputs (step positive) emit window events := by
  induction events generalizing window with
  | nil => exact List.not_mem_nil
  | cons event rest inductionHypothesis =>
      rw [Machine.outputs, List.mem_append]
      rintro (now | later)
      · obtain ⟨present, rfl, known⟩ := settled
        cases event with
        | arrive arrived value => exact absurd now List.not_mem_nil
        | drain =>
            obtain ⟨due, -, value⟩ := mem_contents.mp now
            rcases known with before | held
            · exact absurd due (Int.not_le.mpr before)
            · rw [← value] at held
              exact absurd held (by simp)
      · exact inductionHypothesis (settled.step event) later

/-- Every value that is taken was in the window, or has arrived under its number. -/
theorem outputs_source (positive : 0 < capacity) {window : Option (ReorderWindow α capacity)}
    {events : List (Event α)} {number : Int} {value : α}
    (taken : (number, some value) ∈ Machine.outputs (step positive) emit window events) :
    (∃ present, window = some present ∧ present.held number = some value) ∨
      Event.arrive number (some value) ∈ events := by
  induction events generalizing window with
  | nil => exact absurd taken List.not_mem_nil
  | cons event rest inductionHypothesis =>
      rw [Machine.outputs] at taken
      rcases List.mem_append.mp taken with now | later
      · cases event with
        | arrive arrived given => exact absurd now List.not_mem_nil
        | drain =>
            cases window with
            | none => exact absurd now List.not_mem_nil
            | some present => exact Or.inl ⟨present, rfl, (mem_contents.mp now).2.2.symm⟩
      · rcases inductionHypothesis later with ⟨next, reached, held⟩ | member
        · cases event with
          | drain =>
              cases window with
              | none => exact absurd reached (by simp [step])
              | some present =>
                  cases reached
                  exact absurd held (by simp [empty])
          | arrive arrived given =>
              cases window with
              | some present =>
                  cases reached
                  rcases arrive_held held with before | ⟨rfl, rfl⟩
                  · exact Or.inl ⟨present, rfl, before⟩
                  · exact Or.inr List.mem_cons_self
              | none =>
                  cases given with
                  | none => exact absurd reached (by simp [step])
                  | some given =>
                      cases reached
                      rcases arrive_held held with before | ⟨rfl, same⟩
                      · exact absurd before (by simp [empty])
                      · rw [same]
                        exact Or.inr List.mem_cons_self
        · exact Or.inr (List.mem_cons_of_mem _ member)

end ReorderWindow

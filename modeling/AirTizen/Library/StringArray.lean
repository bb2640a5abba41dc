import AirTizen.Library.Buffer
import AirTizen.Library.Text

/-!
# C strings in an array

Searching and scanning a string from an index of a buffer.  The terminator has
to be inside of the buffer; a search that could run past its end fails.
-/

namespace Buffer

open CText

def stringAt (buffer : Bytes) (index : Nat) : Option Bytes :=
  if 0 ∈ buffer.drop index then some (cString (buffer.drop index)) else none

/-- Index of the result of `strstr(buffer+index, needle)`, if it is not null. -/
def strstrAt (needle buffer : Bytes) (index : Nat) : Option (Option Nat) :=
  (stringAt buffer index).map fun text =>
    (strstr needle text).map fun (before, _) => index + before.length

/-- Index of the result of `strchr(buffer+index, wanted)`, if it is not null. -/
def strchrAt (wanted : UInt8) (buffer : Bytes) (index : Nat) : Option (Option Nat) :=
  (stringAt buffer index).map fun text =>
    (strchr wanted text).map fun (before, _) => index + before.length

def skipAt (skipped : UInt8 → Bool) (buffer : Bytes) (index : Nat) : Option Nat :=
  match loaded : load buffer index with
  | none => none
  | some byte => if skipped byte then skipAt skipped buffer (index + 1) else some index
termination_by buffer.length - index
decreasing_by
  have inside : index < buffer.length := (List.getElem?_eq_some_iff.mp loaded).1
  omega

section

variable {buffer front text rest : Bytes} {index : Nat}

theorem stringAt_eq (layout : buffer = front ++ (text ++ 0 :: rest)) (start : front.length = index)
    (whole : 0 ∉ text) : stringAt buffer index = some text := by
  subst start
  have terminated : 0 ∈ text ++ 0 :: rest := List.mem_append_right _ List.mem_cons_self
  rw [stringAt, layout, List.drop_left, if_pos terminated, cString_text, cString_eq whole]

theorem strstrAt_eq (needle : Bytes) (layout : buffer = front ++ (text ++ 0 :: rest))
    (start : front.length = index) (whole : 0 ∉ text) :
    strstrAt needle buffer index =
      some ((strstr needle text).map fun (before, _) => index + before.length) := by
  rw [strstrAt, stringAt_eq layout start whole]
  rfl

theorem strchrAt_eq (wanted : UInt8) (layout : buffer = front ++ (text ++ 0 :: rest))
    (start : front.length = index) (whole : 0 ∉ text) :
    strchrAt wanted buffer index =
      some ((strchr wanted text).map fun (before, _) => index + before.length) := by
  rw [strchrAt, stringAt_eq layout start whole]
  rfl

theorem load_eq {byte : UInt8} (layout : buffer = front ++ byte :: rest)
    (start : front.length = index) : load buffer index = some byte := by
  subst start
  rw [layout]
  exact load_append front (byte :: rest) 0

theorem store_eq {byte : UInt8} (written : UInt8) (layout : buffer = front ++ byte :: rest)
    (start : front.length = index) :
    store buffer index [written] = some (front ++ written :: rest) := by
  subst start
  rw [layout, store_append front (byte :: rest) [written] (Nat.succ_le_succ (Nat.zero_le _))]
  rfl

theorem skipAt_eq {skipped : UInt8 → Bool} (layout : buffer = front ++ (text ++ 0 :: rest))
    (start : front.length = index) (whole : 0 ∉ text) (stops : skipped 0 = false) :
    ∃ stop, skipAt skipped buffer index = some stop ∧
      stringAt buffer stop = some (text.dropWhile skipped) := by
  induction text generalizing front index with
  | nil =>
      unfold skipAt
      rw [load_eq layout start]
      exact ⟨index, by simp [stops], stringAt_eq layout start whole⟩
  | cons byte text inductionHypothesis =>
      have loaded : load buffer index = some byte := load_eq layout start
      unfold skipAt
      rw [loaded]
      by_cases blank : skipped byte = true
      · have layoutNext : buffer = (front ++ [byte]) ++ (text ++ 0 :: rest) := by simp [layout]
        have startNext : (front ++ [byte]).length = index + 1 := by simp [start]
        have wholeNext : 0 ∉ text := fun membership => whole (List.mem_cons_of_mem _ membership)
        simpa [blank] using inductionHypothesis layoutNext startNext wholeNext
      · exact ⟨index, by simp [blank], by simpa [blank] using stringAt_eq layout start whole⟩

end

end Buffer

import Mathlib.Data.List.Basic
import Mathlib.Data.Fin.Basic
import Mathlib.Data.Nat.ModEq

/-!
# Append-only logs with a retention mark, and rings that store them

A log numbers its entries from one and only ever grows.  Entries below its mark
may have been dropped; the others can be read.  A ring of `size` stamped slots
represents such a log: entry `s` sits in slot `s % size`, and a slot holds
nothing but retained entries.
-/

universe u

/-- An append-only log whose entries from `mark` on are retained. -/
@[ext]
structure RetainedLog (α : Type u) where
  entries : List α
  mark : Nat
  mark_pos : 0 < mark
  mark_le : mark ≤ entries.length + 1

namespace RetainedLog

variable {α : Type u}

def empty : RetainedLog α := ⟨[], 1, Nat.one_pos, Nat.le_refl 1⟩

def latest (log : RetainedLog α) : Nat := log.entries.length

def read (log : RetainedLog α) (number : Nat) : Option α :=
  if log.mark ≤ number then log.entries[number - 1]? else none

@[simp] theorem read_empty (number : Nat) : (empty : RetainedLog α).read number = none := by
  simp [read, empty]

theorem read_isSome_iff (log : RetainedLog α) (number : Nat) :
    (log.read number).isSome = true ↔ log.mark ≤ number ∧ number ≤ log.latest := by
  have positive := log.mark_pos
  unfold read latest
  split
  next retained =>
    simp only [isSome_getElem?, retained, true_and]
    omega
  next dropped => simp [dropped]

theorem read_eq_some_iff (log : RetainedLog α) (number : Nat) (value : α) :
    log.read number = some value ↔
      log.mark ≤ number ∧ log.entries[number - 1]? = some value := by
  unfold read
  split <;> simp_all

theorem bounds_of_read {log : RetainedLog α} {number : Nat} {value : α}
    (found : log.read number = some value) :
    log.mark ≤ number ∧ number ≤ log.latest := by
  rw [← read_isSome_iff, found]
  rfl

/-- Publish one entry, and drop whatever lies below the new mark. -/
def append (log : RetainedLog α) (value : α) (mark : Nat)
    (raised : log.mark ≤ mark) (kept : mark ≤ log.latest + 1) : RetainedLog α where
  entries := log.entries ++ [value]
  mark := mark
  mark_pos := Nat.lt_of_lt_of_le log.mark_pos raised
  mark_le := by simpa [latest] using Nat.le_succ_of_le kept

def dropOldest (log : RetainedLog α) (nonempty : log.mark ≤ log.latest) : RetainedLog α where
  entries := log.entries
  mark := log.mark + 1
  mark_pos := Nat.succ_pos _
  mark_le := Nat.succ_le_succ nonempty

/-- The later log continues the earlier one: entries are only added at the end
and only dropped from the front. -/
structure Extends (earlier later : RetainedLog α) : Prop where
  entries : earlier.entries <+: later.entries
  mark : earlier.mark ≤ later.mark

namespace Extends

theorem refl (log : RetainedLog α) : Extends log log :=
  ⟨List.prefix_rfl, Nat.le_refl _⟩

theorem trans {first second third : RetainedLog α} (early : Extends first second)
    (late : Extends second third) : Extends first third :=
  ⟨early.entries.trans late.entries, early.mark.trans late.mark⟩

theorem latest_le {earlier later : RetainedLog α} (extension : Extends earlier later) :
    earlier.latest ≤ later.latest :=
  extension.entries.length_le

theorem getElem? {earlier later : RetainedLog α} (extension : Extends earlier later)
    {index : Nat} {value : α} (found : earlier.entries[index]? = some value) :
    later.entries[index]? = some value := by
  obtain ⟨added, equality⟩ := extension.entries
  rw [← equality, List.getElem?_append_left (List.getElem?_eq_some_iff.mp found).1]
  exact found

theorem read {earlier later : RetainedLog α} (extension : Extends earlier later)
    {number : Nat} {value : α} (found : earlier.read number = some value) :
    later.read number = none ∨ later.read number = some value := by
  by_cases retained : later.mark ≤ number
  · right
    exact (read_eq_some_iff later number value).mpr
      ⟨retained, extension.getElem? ((read_eq_some_iff earlier number value).mp found).2⟩
  · left
    simp [RetainedLog.read, retained]

end Extends

end RetainedLog

/-- A slot of a ring: the number of the entry last written, and its value
unless it was dropped. -/
structure SlotRing.Slot (α : Type u) where
  stamp : Nat
  value : Option α

abbrev SlotRing (size : Nat) (α : Type u) := Fin size → SlotRing.Slot α

namespace SlotRing

variable {α : Type u} {size : Nat} [NeZero size]

def index (size : Nat) [NeZero size] (number : Nat) : Fin size := Fin.ofNat size number

@[simp] theorem index_val (number : Nat) : (index size number).val = number % size := rfl

theorem index_eq_iff (first second : Nat) :
    index size first = index size second ↔ first % size = second % size := by
  rw [Fin.ext_iff, index_val, index_val]

structure Represents (ring : SlotRing size α) (log : RetainedLog α) : Prop where
  placed : ∀ slot value, (ring slot).value = some value →
    index size (ring slot).stamp = slot ∧ log.read (ring slot).stamp = some value
  retained : ∀ number value, log.read number = some value →
    ring (index size number) = ⟨number, some value⟩

namespace Represents

variable {ring : SlotRing size α} {log : RetainedLog α}

theorem empty (vacant : ∀ slot, (ring slot).value = none) :
    Represents ring RetainedLog.empty where
  placed slot value found := by simp [vacant slot] at found
  retained number value found := by simp at found

theorem index_injective (represents : Represents ring log) {first second : Nat}
    {firstValue secondValue : α} (firstFound : log.read first = some firstValue)
    (secondFound : log.read second = some secondValue)
    (same : index size first = index size second) : first = second := by
  have firstSlot := represents.retained first firstValue firstFound
  have secondSlot := represents.retained second secondValue secondFound
  rw [same, secondSlot] at firstSlot
  exact (congrArg Slot.stamp firstSlot).symm

theorem latest_lt (represents : Represents ring log) (nonempty : log.mark ≤ log.latest) :
    log.latest < log.mark + size := by
  by_contra wide
  have positive := log.mark_pos
  have sizePositive : 0 < size := Nat.pos_of_neZero size
  obtain ⟨low, lowFound⟩ := Option.isSome_iff_exists.mp
    ((log.read_isSome_iff log.mark).mpr ⟨le_rfl, nonempty⟩)
  obtain ⟨high, highFound⟩ := Option.isSome_iff_exists.mp
    ((log.read_isSome_iff (log.mark + size)).mpr ⟨by omega, by omega⟩)
  have same := represents.index_injective lowFound highFound (by simp [index_eq_iff])
  omega

/-- Writing the next entry into its slot represents the longer log; a full ring
drops its oldest entry. -/
theorem append (represents : Represents ring log) (value : α) (mark : Nat)
    (markEquality : mark = max log.mark (log.latest + 2 - size))
    (raised : log.mark ≤ mark) (kept : mark ≤ log.latest + 1) :
    Represents
      (Function.update ring (index size (log.latest + 1)) ⟨log.latest + 1, some value⟩)
      (log.append value mark raised kept) := by
  have sizePositive : 0 < size := Nat.pos_of_neZero size
  have readNew : (log.append value mark raised kept).read (log.latest + 1) = some value := by
    have retained : mark ≤ log.entries.length + 1 := kept
    simp [RetainedLog.read, RetainedLog.append, RetainedLog.latest, retained]
  have readOld : ∀ number, number ≤ log.latest → mark ≤ number →
      (log.append value mark raised kept).read number = log.read number := by
    intro number old retained
    have positive := log.mark_pos
    have inside : number - 1 < log.entries.length := by
      unfold RetainedLog.latest at old
      omega
    simp [RetainedLog.read, RetainedLog.append, retained, raised.trans retained,
      List.getElem?_append_left inside]
  constructor
  · intro slot other held
    by_cases written : slot = index size (log.latest + 1)
    · subst slot
      simp only [Function.update_self, Option.some.injEq] at held ⊢
      subst other
      exact ⟨trivial, readNew⟩
    · rw [Function.update_of_ne written] at held ⊢
      obtain ⟨same, found⟩ := represents.placed slot other held
      have bounds := RetainedLog.bounds_of_read found
      have span := represents.latest_lt (bounds.1.trans bounds.2)
      refine ⟨same, ?_⟩
      rw [readOld _ bounds.2, found]
      by_contra dropped
      -- only the overwritten slot can hold an entry below the new mark
      have full : (ring slot).stamp + size = log.latest + 1 := by omega
      apply written
      rw [← same, index_eq_iff, ← full, Nat.add_mod_right]
  · intro number other found
    have bounds := RetainedLog.bounds_of_read found
    simp only [RetainedLog.append, RetainedLog.latest, List.length_append,
      List.length_singleton] at bounds
    by_cases newest : number = log.latest + 1
    · subst number
      rw [readNew, Option.some.injEq] at found
      subst other
      rw [Function.update_self]
    · have old : number ≤ log.latest := by unfold RetainedLog.latest at *; omega
      have elsewhere : index size number ≠ index size (log.latest + 1) := by
        rw [ne_eq, index_eq_iff]
        intro same
        have divides : size ∣ log.latest + 1 - number :=
          (Nat.modEq_iff_dvd' (by omega)).mp same
        have reaches := Nat.le_of_dvd (by omega) divides
        omega
      rw [Function.update_of_ne elsewhere]
      exact represents.retained number other (by rw [← readOld number old bounds.1, found])

/-- Clearing the slot of the oldest entry represents the log without it. -/
theorem dropOldest (represents : Represents ring log) (nonempty : log.mark ≤ log.latest)
    (slot : Fin size) (oldest : (ring slot).stamp = log.mark)
    (held : (ring slot).value.isSome = true) :
    Represents (Function.update ring slot ⟨(ring slot).stamp, none⟩)
      (log.dropOldest nonempty) := by
  obtain ⟨value, holds⟩ := Option.isSome_iff_exists.mp held
  obtain ⟨slotIndex, slotFound⟩ := represents.placed slot value holds
  constructor
  · intro other kept found
    by_cases same : other = slot
    · subst other
      simp at found
    · rw [Function.update_of_ne same] at found ⊢
      obtain ⟨otherIndex, otherFound⟩ := represents.placed other kept found
      refine ⟨otherIndex, ?_⟩
      have bounds := RetainedLog.bounds_of_read otherFound
      have different : (ring other).stamp ≠ log.mark := by
        intro equality
        exact same (by rw [← otherIndex, ← slotIndex, equality, oldest])
      rw [RetainedLog.read_eq_some_iff] at otherFound ⊢
      refine ⟨?_, otherFound.2⟩
      simp only [RetainedLog.dropOldest]
      omega
  · intro number kept found
    have bounds := RetainedLog.bounds_of_read found
    simp only [RetainedLog.dropOldest] at bounds
    have original : log.read number = some kept := by
      rw [RetainedLog.read_eq_some_iff] at found ⊢
      exact ⟨by omega, found.2⟩
    have elsewhere : index size number ≠ slot := by
      intro same
      have equality := represents.index_injective original slotFound (by rw [same, slotIndex])
      omega
    rw [Function.update_of_ne elsewhere]
    exact represents.retained number kept original

end Represents

end SlotRing

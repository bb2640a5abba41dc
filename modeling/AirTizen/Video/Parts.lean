import Mathlib.Algebra.BigOperators.Fin
import Mathlib.Algebra.Order.BigOperators.Group.Finset
import Mathlib.Data.List.Basic
import AirTizen.Video.Store
import AirTizen.Video.Stream

/-!
# The part table stores the retained fragments

`Stored` relates the 256 slots and the byte total to a log with a retention
mark.  Storing a part appends to the log; eviction drops from its front.
-/

namespace AirTizen.Video

open CText

theorem index_eq_slotOf (seq : Nat) : SlotRing.index partCount seq = slotOf seq := rfl

def Part.fragment (part : Part) : Option Fragment :=
  part.data.map fun bytes => ⟨bytes, part.pts, part.key⟩

def Store.ring (store : Store) : SlotRing partCount Fragment :=
  fun slot => ⟨(store.parts slot).seq, (store.parts slot).fragment⟩

@[simp]
theorem Part.fragment_isSome (part : Part) : part.fragment.isSome = part.data.isSome := by
  simp [Part.fragment]

/-- The part table holds the retained fragments and `totalSize` counts them. -/
structure Stored (store : Store) (log : RetainedLog Fragment) : Prop where
  ring : SlotRing.Represents store.ring log
  sizes : ∀ slot, (store.parts slot).size = ((store.parts slot).data.getD []).length
  total : store.totalSize = ∑ slot, (store.parts slot).size

theorem sum_update (measure : Part → Nat) (parts : Fin partCount → Part)
    (slot : Fin partCount) (part : Part) :
    (∑ other, measure (Function.update parts slot part other)) + measure (parts slot) =
      (∑ other, measure (parts other)) + measure part := by
  rw [← Finset.add_sum_erase Finset.univ _ (Finset.mem_univ slot),
    ← Finset.add_sum_erase Finset.univ (fun other => measure (parts other))
      (Finset.mem_univ slot), Function.update_self]
  have rest : ∑ other ∈ Finset.univ.erase slot, measure (Function.update parts slot part other) =
      ∑ other ∈ Finset.univ.erase slot, measure (parts other) :=
    Finset.sum_congr rfl fun other membership => by
      rw [Function.update_of_ne (Finset.ne_of_mem_erase membership)]
  rw [rest]
  omega

namespace Stored

variable {store : Store} {log : RetainedLog Fragment}

theorem congr (stored : Stored store log) {other : Store} (parts : other.parts = store.parts)
    (total : other.totalSize = store.totalSize) : Stored other log where
  ring := by
    have ring : other.ring = store.ring := by
      funext slot
      simp only [Store.ring, parts]
    rw [ring]
    exact stored.ring
  sizes := by simpa only [parts] using stored.sizes
  total := by simpa only [parts, total] using stored.total

theorem size_le_total (stored : Stored store log) (slot : Fin partCount) :
    (store.parts slot).size ≤ store.totalSize := by
  rw [stored.total]
  exact Finset.single_le_sum (f := fun slot => (store.parts slot).size)
    (fun _ _ => Nat.zero_le _) (Finset.mem_univ slot)

theorem part_found (stored : Stored store log) {slot : Fin partCount} {data : Bytes}
    (held : (store.parts slot).data = some data) :
    slotOf (store.parts slot).seq = slot ∧
      log.read (store.parts slot).seq =
        some ⟨data, (store.parts slot).pts, (store.parts slot).key⟩ :=
  stored.ring.placed slot _ (by simp [Store.ring, Part.fragment, held])

theorem part_of_read (stored : Stored store log) {number : Nat} {fragment : Fragment}
    (found : log.read number = some fragment) :
    store.parts (slotOf number) =
      { data := some fragment.bytes, size := fragment.bytes.length, seq := number,
        pts := fragment.pts, key := fragment.key } := by
  have slot := stored.ring.retained number fragment found
  have size := stored.sizes (slotOf number)
  simp only [index_eq_slotOf, Store.ring, SlotRing.Slot.mk.injEq, Part.fragment,
    Option.map_eq_some_iff] at slot
  obtain ⟨stamp, data, held, equality⟩ := slot
  subst equality
  generalize store.parts (slotOf number) = part at *
  obtain ⟨partData, partSize, partSeq, partPts, partKey⟩ := part
  simp_all

theorem isSome_iff (stored : Stored store log) (slot : Fin partCount) :
    (store.parts slot).data.isSome = true ↔
      slotOf (store.parts slot).seq = slot ∧
        log.mark ≤ (store.parts slot).seq ∧ (store.parts slot).seq ≤ log.latest := by
  constructor
  · intro held
    obtain ⟨data, equality⟩ := Option.isSome_iff_exists.mp held
    obtain ⟨placed, found⟩ := stored.part_found equality
    exact ⟨placed, RetainedLog.bounds_of_read found⟩
  · rintro ⟨placed, bounds⟩
    obtain ⟨fragment, found⟩ :=
      Option.isSome_iff_exists.mp ((log.read_isSome_iff _).mpr bounds)
    have part := stored.part_of_read found
    rw [placed] at part
    rw [part]
    rfl

theorem total_of_single (stored : Stored store log) (single : log.mark = log.latest)
    {fragment : Fragment} (found : log.read log.latest = some fragment) :
    store.totalSize = fragment.bytes.length := by
  rw [stored.total, Finset.sum_eq_single (slotOf log.latest)]
  · rw [stored.part_of_read found]
  · intro slot _ different
    rw [stored.sizes]
    cases held : (store.parts slot).data with
    | none => rfl
    | some data =>
        obtain ⟨placed, retained⟩ := stored.part_found held
        have bounds := RetainedLog.bounds_of_read retained
        have number : (store.parts slot).seq = log.latest := by omega
        rw [number] at placed
        exact absurd placed.symm different
  · simp

theorem total_of_none (stored : Stored store log) (vacant : log.latest < log.mark) :
    store.totalSize = 0 := by
  rw [stored.total]
  refine Finset.sum_eq_zero fun slot _ => ?_
  rw [stored.sizes]
  cases held : (store.parts slot).data with
  | none => rfl
  | some data =>
      have bounds := RetainedLog.bounds_of_read (stored.part_found held).2
      omega

theorem mark_lt (stored : Stored store log)
    (small : ∀ fragment ∈ log.entries, fragment.bytes.length ≤ totalLimit)
    (full : totalLimit < store.totalSize) : log.mark < log.latest := by
  by_contra few
  rcases Nat.lt_or_ge log.latest log.mark with vacant | kept
  · rw [stored.total_of_none vacant] at full
    omega
  · have single : log.mark = log.latest := by omega
    obtain ⟨fragment, found⟩ := Option.isSome_iff_exists.mp
      ((log.read_isSome_iff log.latest).mpr ⟨kept, le_rfl⟩)
    rw [stored.total_of_single single found] at full
    have member := List.mem_of_getElem? ((log.read_eq_some_iff _ _).mp found).2
    have bound := small fragment member
    omega

/-- Storing the pending bytes appends a fragment; a full ring loses its oldest. -/
theorem storePart (stored : Stored store log) (key : Bool) (pts : Nat)
    (numbered : store.sequence = log.latest) (fits : log.latest + 1 < 2 ^ 64)
    (mark : Nat) (markEquality : mark = max log.mark (log.latest + 2 - partCount))
    (raised : log.mark ≤ mark) (kept : mark ≤ log.latest + 1) :
    Stored (storePart key pts store)
      (log.append ⟨store.pending, pts - store.firstPts, key⟩ mark raised kept) := by
  have sequence : (store.sequence + 1) % 2 ^ 64 = log.latest + 1 := by
    rw [numbered, Nat.mod_eq_of_lt fits]
  constructor
  · have ring : (Video.storePart key pts store).ring =
        Function.update store.ring (slotOf (log.latest + 1))
          ⟨log.latest + 1, some ⟨store.pending, pts - store.firstPts, key⟩⟩ := by
      funext slot
      simp only [Store.ring, Video.storePart, sequence]
      by_cases written : slot = slotOf (log.latest + 1)
      · subst slot
        simp [Part.fragment]
      · rw [Function.update_of_ne written, Function.update_of_ne written]
        rfl
    rw [ring]
    exact stored.ring.append _ mark markEquality raised kept
  · intro slot
    simp only [Video.storePart]
    by_cases written : slot = slotOf ((store.sequence + 1) % 2 ^ 64)
    · subst slot
      simp
    · rw [Function.update_of_ne written]
      exact stored.sizes slot
  · have total := sum_update Part.size store.parts
      (slotOf ((store.sequence + 1) % 2 ^ 64))
      { data := some store.pending, size := store.pending.length,
        seq := (store.sequence + 1) % 2 ^ 64, pts := pts - store.firstPts, key := key }
    have whole := stored.total
    have covered := stored.size_le_total (slotOf ((store.sequence + 1) % 2 ^ 64))
    simp only [Video.storePart] at total ⊢
    omega

/-- One round of eviction drops the oldest fragment and touches nothing else. -/
theorem evictOldest (stored : Stored store log) (nonempty : log.mark ≤ log.latest) :
    ∃ parts totalSize, Video.evictOldest store = some { store with parts, totalSize } ∧
      Stored { store with parts, totalSize } (log.dropOldest nonempty) := by
  obtain ⟨oldest, oldestFound⟩ := Option.isSome_iff_exists.mp
    ((log.read_isSome_iff log.mark).mpr ⟨le_rfl, nonempty⟩)
  have oldestPart := stored.part_of_read oldestFound
  have oldestHeld : (store.parts (slotOf log.mark)).data.isSome = true := by
    rw [oldestPart]
    rfl
  unfold Video.evictOldest
  cases scanned : Scan.least (fun slot => (store.parts slot).data.isSome)
      (fun slot => (store.parts slot).seq) (List.finRange partCount) with
  | none =>
      have vacant := Scan.least_eq_none scanned (slotOf log.mark) (List.mem_finRange _)
      rw [oldestHeld] at vacant
      cases vacant
  | some slot =>
      obtain ⟨held, least⟩ := Scan.least_eq_some scanned
      have bounds := ((stored.isSome_iff slot).mp held).2
      have number : (store.parts slot).seq = log.mark := by
        have below := least _ (List.mem_finRange _) oldestHeld
        rw [oldestPart] at below
        exact Nat.le_antisymm below bounds.1
      refine ⟨_, _, rfl, ?_, ?_, ?_⟩
      · have ring : Store.ring { store with
              parts := Function.update store.parts slot
                { store.parts slot with data := none, size := 0 }
              totalSize := store.totalSize - (store.parts slot).size } =
            Function.update store.ring slot ⟨(store.ring slot).stamp, none⟩ := by
          funext other
          by_cases same : other = slot
          · subst other
            simp [Store.ring, Part.fragment]
          · simp [Store.ring, Function.update_of_ne same]
        rw [ring]
        exact stored.ring.dropOldest nonempty slot number (by simpa [Store.ring] using held)
      · intro other
        by_cases same : other = slot
        · subst other
          simp
        · simp only [Function.update_of_ne same]
          exact stored.sizes other
      · have total := sum_update Part.size store.parts slot
          { store.parts slot with data := none, size := 0 }
        have whole := stored.total
        simp only at total ⊢
        omega

/-- The eviction loop drops fragments from the front until the rest fits, and
never the newest one. -/
theorem evict (rounds : Nat) (stored : Stored store log)
    (small : ∀ fragment ∈ log.entries, fragment.bytes.length ≤ totalLimit)
    (nonempty : log.mark ≤ log.latest) (enough : log.latest ≤ log.mark + rounds) :
    ∃ parts totalSize retained,
      Video.evict rounds store = { store with parts, totalSize } ∧
      Stored { store with parts, totalSize } retained ∧
      retained.entries = log.entries ∧ log.mark ≤ retained.mark ∧
      retained.mark ≤ retained.latest ∧ totalSize ≤ totalLimit := by
  induction rounds generalizing store log with
  | zero =>
      refine ⟨store.parts, store.totalSize, log, rfl, stored, rfl, le_rfl, nonempty, ?_⟩
      by_contra full
      have many := stored.mark_lt small (Nat.lt_of_not_le full)
      omega
  | succ rounds inductionHypothesis =>
      unfold Video.evict
      by_cases full : totalLimit < store.totalSize
      · have many := stored.mark_lt small full
        obtain ⟨parts, totalSize, evicted, smaller⟩ := stored.evictOldest nonempty
        obtain ⟨finalParts, finalSize, retained, rest, finalStored, entries, mark, newest, fits⟩ :=
          inductionHypothesis smaller small (Nat.succ_le_of_lt many) (by
            simp only [RetainedLog.dropOldest, RetainedLog.latest] at enough ⊢
            omega)
        refine ⟨finalParts, finalSize, retained, ?_, finalStored, entries,
          (Nat.le_succ _).trans mark, newest, fits⟩
        rw [if_pos full, evicted]
        exact rest
      · rw [if_neg full]
        exact ⟨store.parts, store.totalSize, log, rfl, stored, rfl, le_rfl, nonempty,
          Nat.le_of_not_lt full⟩

end Stored

end AirTizen.Video

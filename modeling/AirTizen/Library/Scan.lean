import Mathlib.Data.Fin.Basic
import Mathlib.Data.List.Basic

/-!
# Linear scans

The two loops that look for an extreme index of a table: one keeps the index
with the least key seen so far, the other the greatest key itself.
-/

namespace Scan

universe u

variable {Index : Type u}

/-- `for (i...) if (wanted(i) && (!best || key(i) < key(best))) best = i;` -/
def least (wanted : Index → Bool) (key : Index → Nat) (indices : List Index) : Option Index :=
  indices.foldl (fun best index =>
    if wanted index && best.all (fun kept => decide (key index < key kept)) then some index
    else best) none

/-- `for (i...) if (wanted(i) && key(i) > best) best = key(i);` -/
def greatest (wanted : Index → Bool) (key : Index → Nat) (indices : List Index) : Nat :=
  indices.foldl (fun best index =>
    if wanted index && decide (best < key index) then key index else best) 0

private theorem foldl_least (wanted : Index → Bool) (key : Index → Nat)
    (indices : List Index) (best : Option Index)
    (bestWanted : ∀ kept ∈ best, wanted kept = true) :
    let result := indices.foldl (fun best index =>
      if wanted index && best.all (fun kept => decide (key index < key kept)) then some index
      else best) best
    (∀ found ∈ result, wanted found = true ∧
      (∀ kept ∈ best, key found ≤ key kept) ∧
      ∀ index ∈ indices, wanted index = true → key found ≤ key index) ∧
    (result = none → best = none ∧ ∀ index ∈ indices, wanted index = false) := by
  induction indices generalizing best with
  | nil => simp_all
  | cons index rest inductionHypothesis =>
      simp only [List.foldl_cons]
      by_cases taken : (wanted index && best.all fun kept => decide (key index < key kept)) = true
      · have better := inductionHypothesis (some index) (by simp_all)
        rw [if_pos taken]
        simp only [Bool.and_eq_true, Option.all_eq_true, decide_eq_true_eq] at taken
        refine ⟨fun found reached => ?_, fun missing => ?_⟩
        · obtain ⟨chosen, belowIndex, belowRest⟩ := better.1 found reached
          have least := belowIndex index rfl
          refine ⟨chosen, fun kept held => (least.trans (taken.2 kept held).le), ?_⟩
          intro other membership otherWanted
          rcases List.mem_cons.mp membership with rfl | inRest
          · exact least
          · exact belowRest other inRest otherWanted
        · exact absurd (better.2 missing).1 (by simp)
      · have same := inductionHypothesis best bestWanted
        rw [if_neg taken]
        refine ⟨fun found reached => ?_, fun missing => ?_⟩
        · obtain ⟨chosen, belowBest, belowRest⟩ := same.1 found reached
          refine ⟨chosen, belowBest, ?_⟩
          intro other membership otherWanted
          rcases List.mem_cons.mp membership with rfl | inRest
          · cases best with
            | none => exact absurd otherWanted (by simpa using taken)
            | some kept =>
                have notBetter : ¬ key other < key kept := by simpa [otherWanted] using taken
                exact (belowBest kept rfl).trans (Nat.le_of_not_lt notBetter)
          · exact belowRest other inRest otherWanted
        · obtain ⟨noBest, noRest⟩ := same.2 missing
          refine ⟨noBest, fun other membership => ?_⟩
          rcases List.mem_cons.mp membership with rfl | inRest
          · simpa [noBest] using taken
          · exact noRest other inRest

theorem least_eq_some {wanted : Index → Bool} {key : Index → Nat} {indices : List Index}
    {found : Index} (result : least wanted key indices = some found) :
    wanted found = true ∧ ∀ index ∈ indices, wanted index = true → key found ≤ key index := by
  have specification := (foldl_least wanted key indices none (by simp)).1 found result
  exact ⟨specification.1, specification.2.2⟩

/-- The scan finds nothing only when nothing is wanted. -/
theorem least_eq_none {wanted : Index → Bool} {key : Index → Nat} {indices : List Index}
    (result : least wanted key indices = none) : ∀ index ∈ indices, wanted index = false :=
  ((foldl_least wanted key indices none (by simp)).2 result).2

private theorem foldl_greatest (wanted : Index → Bool) (key : Index → Nat)
    (indices : List Index) (best : Nat) :
    let result := indices.foldl (fun best index =>
      if wanted index && decide (best < key index) then key index else best) best
    best ≤ result ∧ (∀ index ∈ indices, wanted index = true → key index ≤ result) ∧
      (result = best ∨ ∃ index ∈ indices, wanted index = true ∧ key index = result) := by
  induction indices generalizing best with
  | nil => simp
  | cons index rest inductionHypothesis =>
      simp only [List.foldl_cons]
      by_cases taken : (wanted index && decide (best < key index)) = true
      · rw [if_pos taken]
        obtain ⟨above, bound, attained⟩ := inductionHypothesis (key index)
        simp only [Bool.and_eq_true, decide_eq_true_eq] at taken
        refine ⟨taken.2.le.trans above, ?_, ?_⟩
        · intro other membership otherWanted
          rcases List.mem_cons.mp membership with rfl | inRest
          · exact above
          · exact bound other inRest otherWanted
        · right
          rcases attained with equality | ⟨other, membership, otherWanted, equality⟩
          · exact ⟨index, List.mem_cons_self, taken.1, equality.symm⟩
          · exact ⟨other, List.mem_cons_of_mem _ membership, otherWanted, equality⟩
      · rw [if_neg taken]
        obtain ⟨above, bound, attained⟩ := inductionHypothesis best
        refine ⟨above, ?_, ?_⟩
        · intro other membership otherWanted
          rcases List.mem_cons.mp membership with rfl | inRest
          · have notBetter : ¬ best < key other := by simpa [otherWanted] using taken
            exact (Nat.le_of_not_lt notBetter).trans above
          · exact bound other inRest otherWanted
        · rcases attained with equality | ⟨other, membership, otherWanted, equality⟩
          · exact Or.inl equality
          · exact Or.inr ⟨other, List.mem_cons_of_mem _ membership, otherWanted, equality⟩

theorem key_le_greatest {wanted : Index → Bool} {key : Index → Nat} {indices : List Index}
    {index : Index} (membership : index ∈ indices) (chosen : wanted index = true) :
    key index ≤ greatest wanted key indices :=
  (foldl_greatest wanted key indices 0).2.1 index membership chosen

theorem greatest_attained {wanted : Index → Bool} {key : Index → Nat} {indices : List Index}
    (positive : greatest wanted key indices ≠ 0) :
    ∃ index ∈ indices, wanted index = true ∧ key index = greatest wanted key indices :=
  (foldl_greatest wanted key indices 0).2.2.resolve_left positive

end Scan

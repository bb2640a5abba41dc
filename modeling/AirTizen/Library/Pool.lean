import Mathlib.Data.List.Basic

/-!
# Pools with at most one live element

Elements are taken out of a pool, exchanged and added one at a time.  `Holds`
names the one element that is live, if there is one.
-/

universe u

namespace Pool

variable {α : Type u} {live : α → Bool} {pool : List α} {chain : Option α} {index : Nat}
  {element other : α}

/-- The live elements of the pool are exactly those of the option. -/
def Holds (live : α → Bool) (pool : List α) (chain : Option α) : Prop :=
  pool.filter live = chain.toList

theorem holds_none_iff : Holds live pool none ↔ ∀ element ∈ pool, live element = false := by
  simp [Holds, List.filter_eq_nil_iff]

namespace Holds

theorem countP_le_one (holds : Holds live pool chain) : pool.countP live ≤ 1 := by
  rw [List.countP_eq_length_filter, holds]
  cases chain with
  | none => exact Nat.zero_le 1
  | some element => exact Nat.le_refl 1

theorem eq_some (holds : Holds live pool chain) (member : element ∈ pool)
    (isLive : live element = true) : chain = some element := by
  have kept : element ∈ chain.toList := holds ▸ List.mem_filter.mpr ⟨member, isLive⟩
  exact Option.mem_toList.mp kept

theorem sublist {smaller : List α} (holds : Holds live pool none)
    (kept : smaller.Sublist pool) : Holds live smaller none :=
  holds_none_iff.mpr fun element member =>
    holds_none_iff.mp holds element (kept.subset member)

theorem push (quiet : Holds live pool none) (isLive : live element = true) :
    Holds live (pool ++ [element]) (some element) := by
  unfold Holds at quiet ⊢
  rw [List.filter_append, quiet, List.filter_singleton, isLive]
  rfl

theorem split_at (found : pool[index]? = some element) :
    pool = pool.take index ++ element :: pool.drop (index + 1) := by
  obtain ⟨inside, rfl⟩ := List.getElem?_eq_some_iff.mp found
  rw [← List.drop_eq_getElem_cons inside, List.take_append_drop]

theorem filter_split (holds : Holds live pool chain) (found : pool[index]? = some element) :
    (pool.take index).filter live ++
      ((if live element then [element] else []) ++ (pool.drop (index + 1)).filter live) =
        chain.toList := by
  have whole : pool.filter live = chain.toList := holds
  rw [split_at found, List.filter_append, List.filter_cons] at whole
  rw [← whole]
  cases live element with
  | false => rfl
  | true => rfl

theorem alone (holds : Holds live pool chain) (found : pool[index]? = some element)
    (isLive : live element = true) :
    chain = some element ∧ (pool.take index).filter live = [] ∧
      (pool.drop (index + 1)).filter live = [] := by
  have named := holds.eq_some (List.mem_of_getElem? found) isLive
  subst named
  have whole := holds.filter_split found
  rw [if_pos isLive] at whole
  have lengths := congrArg List.length whole
  simp only [List.length_append, List.length_singleton, Option.toList_some] at lengths
  refine ⟨rfl, List.length_eq_zero_iff.mp ?_, List.length_eq_zero_iff.mp ?_⟩ <;> omega

theorem take_out (holds : Holds live pool chain) (found : pool[index]? = some element)
    (isLive : live element = true) : Holds live (pool.eraseIdx index) none := by
  obtain ⟨_, before, behind⟩ := holds.alone found isLive
  rw [Holds, List.eraseIdx_eq_take_drop_succ, List.filter_append, before, behind]
  rfl

theorem take_stale (holds : Holds live pool chain) (found : pool[index]? = some element)
    (stale : live element = false) : Holds live (pool.eraseIdx index) chain := by
  have whole := holds.filter_split found
  rw [stale] at whole
  rw [Holds, List.eraseIdx_eq_take_drop_succ, List.filter_append, ← whole]
  rfl

theorem exchange (holds : Holds live pool chain) (found : pool[index]? = some element)
    (isLive : live element = true) (next : live other = true) :
    Holds live (pool.set index other) (some other) := by
  obtain ⟨_, before, behind⟩ := holds.alone found isLive
  have inside := (List.getElem?_eq_some_iff.mp found).1
  rw [Holds, List.set_eq_take_append_cons_drop, if_pos inside, List.filter_append,
    List.filter_cons, before, behind, next]
  rfl

theorem exchange_stale (holds : Holds live pool chain) (found : pool[index]? = some element)
    (stale : live element = false) (next : live other = false) :
    Holds live (pool.set index other) chain := by
  have whole := holds.filter_split found
  have inside := (List.getElem?_eq_some_iff.mp found).1
  rw [stale] at whole
  rw [Holds, List.set_eq_take_append_cons_drop, if_pos inside, List.filter_append,
    List.filter_cons, next, ← whole]
  rfl

end Holds

end Pool

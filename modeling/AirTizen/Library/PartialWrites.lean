import Mathlib.Data.List.Induction

/-!
# Writes that take a part

A sink is offered cells and answers how many of them it takes.  An answer that
is not positive, or larger than what was offered, is a failure.  A writer whose
every call goes on where the accepted cells end hands over its text in order,
without loss or duplication, however much each call takes.
-/

universe u

namespace PartialWrites

variable {Cell : Type u}

/-- One call: the cells offered, and the answer. -/
structure Offer (Cell : Type u) where
  cells : List Cell
  answer : Int
  deriving DecidableEq

def Offer.Valid (offer : Offer Cell) : Prop :=
  0 < offer.answer ∧ offer.answer.toNat ≤ offer.cells.length

instance (offer : Offer Cell) : Decidable offer.Valid := inferInstanceAs (Decidable (_ ∧ _))

def Offer.taken (offer : Offer Cell) : List Cell :=
  if offer.Valid then offer.cells.take offer.answer.toNat else []

def accepted (offers : List (Offer Cell)) : List Cell := offers.flatMap Offer.taken

/-- Every call offers what stands behind the cells accepted before it. -/
def InOrder (text : List Cell) (offers : List (Offer Cell)) : Prop :=
  ∀ before offer after, offers = before ++ offer :: after →
    offer.cells <+: text.drop (accepted before).length

@[simp]
theorem accepted_append (first second : List (Offer Cell)) :
    accepted (first ++ second) = accepted first ++ accepted second :=
  List.flatMap_append

@[simp]
theorem accepted_singleton (offer : Offer Cell) : accepted [offer] = offer.taken :=
  List.append_nil _

theorem Offer.taken_isPrefix (offer : Offer Cell) : offer.taken <+: offer.cells := by
  unfold Offer.taken
  split
  · exact List.take_prefix _ _
  · exact List.nil_prefix

variable {text : List Cell} {offers : List (Offer Cell)} {offer : Offer Cell}

theorem inOrder_nil : InOrder text [] := by
  intro before offer after split
  exact absurd split.symm (List.append_ne_nil_of_right_ne_nil before (List.cons_ne_nil _ _))

theorem InOrder.concat (inOrder : InOrder text offers)
    (next : offer.cells <+: text.drop (accepted offers).length) :
    InOrder text (offers ++ [offer]) := by
  intro before other after split
  rcases List.eq_nil_or_concat after with rfl | ⟨later, last, rfl⟩
  · obtain ⟨rfl, same⟩ := List.append_inj' split rfl
    cases same
    exact next
  · rw [List.concat_eq_append, ← List.cons_append, ← List.append_assoc] at split
    exact inOrder before other later (List.append_inj' split rfl).1

theorem InOrder.accepted_isPrefix (inOrder : InOrder text offers) : accepted offers <+: text := by
  induction offers using List.reverseRecOn with
  | nil => exact List.nil_prefix
  | append_singleton offers offer inductionHypothesis =>
      have earlier : InOrder text offers := fun before other after split =>
        inOrder before other (after ++ [offer]) (by rw [split]; simp)
      obtain ⟨rest, rfl⟩ := inductionHypothesis earlier
      have next := inOrder offers offer [] rfl
      rw [List.drop_left] at next
      rw [accepted_append, accepted_singleton]
      exact (List.prefix_append_right_inj _).mpr (offer.taken_isPrefix.trans next)

/-- Every call has taken something, in order, and `sent` has arrived. -/
structure Sent (text sent : List Cell) (offers : List (Offer Cell)) : Prop where
  valid : ∀ offer ∈ offers, offer.Valid
  inOrder : InOrder text offers
  accepted : accepted offers = sent

theorem sent_nil : Sent text [] [] where
  valid := fun _ membership => absurd membership List.not_mem_nil
  inOrder := inOrder_nil
  accepted := rfl

structure Failed (text : List Cell) (offers : List (Offer Cell)) : Prop where
  inOrder : InOrder text offers
  others : ∀ offer ∈ offers.dropLast, offer.Valid
  last : ∃ offer ∈ offers.getLast?, ¬ offer.Valid

namespace Sent

variable {before rest : List Cell}

theorem next (sent : Sent text before offers) (split : text = before ++ (offer.cells ++ rest)) :
    InOrder text (offers ++ [offer]) := by
  apply sent.inOrder.concat
  rw [sent.accepted, split, List.drop_left]
  exact List.prefix_append _ _

theorem take (sent : Sent text before offers) (split : text = before ++ (offer.cells ++ rest))
    (valid : offer.Valid) :
    Sent text (before ++ offer.cells.take offer.answer.toNat) (offers ++ [offer]) where
  valid := by
    intro other membership
    rcases List.mem_append.mp membership with earlier | last
    · exact sent.valid other earlier
    · rw [List.mem_singleton.mp last]
      exact valid
  inOrder := sent.next split
  accepted := by
    rw [accepted_append, accepted_singleton, sent.accepted, Offer.taken, if_pos valid]

theorem fail (sent : Sent text before offers) (split : text = before ++ (offer.cells ++ rest))
    (invalid : ¬ offer.Valid) : Failed text (offers ++ [offer]) where
  inOrder := sent.next split
  others := by
    rw [List.dropLast_concat]
    exact sent.valid
  last := ⟨offer, by simp, invalid⟩

end Sent

end PartialWrites

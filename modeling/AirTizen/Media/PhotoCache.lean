import Mathlib.Algebra.BigOperators.Fin
import Mathlib.Algebra.Order.BigOperators.Group.Finset
import AirTizen.Library.Machine
import AirTizen.Media.Photo

/-!
# The slots of the photo cache

Four slots are chosen by name, vacancy or age, and others are evicted until the
new photo fits.  The photo on screen is never among them, and as a photo has at
most half of the bytes, there is always a slot and always room.
-/

namespace AirTizen.Media

open CText Machine

/-- The slot may be given to another photo. -/
def PhotoStore.Eligible (store : PhotoStore) (except : Option (Fin slots)) (slot : Fin slots) :
    Prop :=
  (store.cache slot).isSome = true ∧ some slot ≠ except ∧ some slot ≠ store.displayed

/-- What a call of `put` leaves in the slots before it stamps its own one. -/
structure Placed (store after : PhotoStore) (slot : Fin slots) (asset : Asset) : Prop where
  state : after.state = store.state
  displayed : after.displayed = store.displayed
  age : after.age = store.age
  counter : after.sessionCounter = store.sessionCounter
  placed : after.cache slot = some asset
  others : ∀ other, other ≠ slot →
    after.cache other = store.cache other ∨ after.cache other = none
  pinned : ∀ other, other ≠ slot → some other = store.displayed →
    after.cache other = store.cache other
  fits : ∑ other, after.sizeAt other ≤ cacheBytes

structure SlotsInvariant (store : PhotoStore) : Prop where
  named : ∀ first second one other, store.cache first = some one →
    store.cache second = some other → one.key = other.key → one.session = other.session →
      first = second
  total : ∑ slot, store.sizeAt slot ≤ cacheBytes
  sized : ∀ slot, store.sizeAt slot ≤ photoMaxBytes

/-- The published state is that of the photo on screen. -/
structure CacheInvariant (store : PhotoStore) : Prop extends SlotsInvariant store where
  displayed : ∀ slot ∈ store.displayed, (store.cache slot).isSome = true
  active : store.state.active = true ↔ store.displayed.isSome = true
  shown : ∀ slot ∈ store.displayed, ∀ asset ∈ store.cache slot,
    store.state.width = asset.width ∧ store.state.height = asset.height ∧
      store.state.session = asset.session
  session : store.state.active = true → store.state.sessionId ≠ 0

/-! ## The oldest slot -/

section Oldest

variable {store : PhotoStore} {except : Option (Fin slots)}

theorem older_cases (result : Option (Fin slots)) (slot : Fin slots) :
    (store.Eligible except slot ∧
      (store.older except result slot = some slot ∨
        store.older except result slot = result ∧ result.isSome = true)) ∨
    (¬ store.Eligible except slot ∧ store.older except result slot = result) := by
  unfold PhotoStore.older PhotoStore.Eligible
  cases occupied : store.cache slot with
  | none => exact .inr ⟨by simp, rfl⟩
  | some asset =>
      simp only [Option.isSome_some, true_and]
      by_cases kept : some slot = except ∨ some slot = store.displayed
      · rw [if_pos kept]
        refine .inr ⟨fun eligible => ?_, rfl⟩
        rcases kept with same | same
        · exact eligible.1 same
        · exact eligible.2 same
      · rw [if_neg kept]
        rw [not_or] at kept
        refine .inl ⟨kept, ?_⟩
        cases best : result.bind store.cache with
        | none => exact .inl rfl
        | some other =>
            simp only
            split
            · exact .inl rfl
            · refine .inr ⟨rfl, ?_⟩
              cases result with
              | none => cases best
              | some _ => rfl

theorem foldl_older_spec (candidates : List (Fin slots)) (result : Option (Fin slots)) :
    (∀ slot ∈ candidates.foldl (store.older except) result,
      store.Eligible except slot ∨ some slot = result) ∧
    (candidates.foldl (store.older except) result = none →
      result = none ∧ ∀ slot ∈ candidates, ¬ store.Eligible except slot) := by
  induction candidates generalizing result with
  | nil =>
      refine ⟨fun slot membership => .inr membership.symm, fun none => ⟨none, ?_⟩⟩
      intro slot membership
      cases membership
  | cons first rest inductionHypothesis =>
      obtain ⟨found, vacant⟩ := inductionHypothesis (store.older except result first)
      constructor
      · intro slot membership
        rcases found slot membership with eligible | same
        · exact .inl eligible
        · rcases @older_cases store except result first with
            ⟨eligible, chosen | ⟨kept, _⟩⟩ | ⟨_, kept⟩
          · rw [chosen] at same
            cases same
            exact .inl eligible
          · exact .inr (same.trans kept)
          · exact .inr (same.trans kept)
      · intro none
        obtain ⟨before, ineligible⟩ := vacant none
        rcases @older_cases store except result first with
          ⟨_, chosen | ⟨kept, present⟩⟩ | ⟨notFirst, kept⟩
        · simp [chosen] at before
        · rw [kept] at before
          simp [before] at present
        · refine ⟨kept.symm.trans before, ?_⟩
          intro slot membership
          rcases List.mem_cons.mp membership with rfl | later
          · exact notFirst
          · exact ineligible slot later

theorem oldest_eligible {victim : Fin slots} (found : store.oldest except = some victim) :
    store.Eligible except victim := by
  rcases (foldl_older_spec (List.finRange slots) none).1 victim found with eligible | none
  · exact eligible
  · cases none

theorem not_eligible_of_oldest (vacant : store.oldest except = none) (slot : Fin slots) :
    ¬ store.Eligible except slot :=
  ((foldl_older_spec (List.finRange slots) none).2 vacant).2 slot (List.mem_finRange slot)

end Oldest

/-! ## Making room -/

theorem sizeExcept_eq (store : PhotoStore) (slot : Fin slots) :
    store.sizeExcept slot = ∑ other with other ≠ slot, store.sizeAt other := by
  have distinct : ((List.finRange slots).filter (· ≠ slot)).Nodup :=
    (List.nodup_finRange slots).filter _
  rw [PhotoStore.sizeExcept, ← List.sum_toFinset _ distinct, List.toFinset_filter,
    List.toFinset_finRange]
  simp

theorem sum_sizeAt (store : PhotoStore) (slot : Fin slots) :
    ∑ other, store.sizeAt other = store.sizeAt slot + store.sizeExcept slot := by
  rw [sizeExcept_eq, Finset.filter_ne', Finset.add_sum_erase _ _ (Finset.mem_univ slot)]

theorem sizeExcept_discard (store : PhotoStore) {slot victim : Fin slots}
    (different : victim ≠ slot) :
    store.sizeExcept slot = (store.discard victim).sizeExcept slot + store.sizeAt victim := by
  have member : victim ∈ Finset.univ.filter (· ≠ slot) := by simp [different]
  rw [sizeExcept_eq, sizeExcept_eq, ← Finset.sum_erase_add _ _ member]
  congr 1
  have freed : (store.discard victim).sizeAt victim = 0 := by
    simp [PhotoStore.sizeAt]
  rw [← Finset.sum_erase_add _ _ member, freed, Nat.add_zero]
  apply Finset.sum_congr rfl
  intro other membership
  have same := discard_other store (Finset.ne_of_mem_erase membership)
  simp only [PhotoStore.sizeAt, same]

structure Roomy (store after : PhotoStore) : Prop where
  state : after.state = store.state
  displayed : after.displayed = store.displayed
  age : after.age = store.age
  counter : after.sessionCounter = store.sessionCounter
  others : ∀ other, after.cache other = store.cache other ∨ after.cache other = none
  pinned : ∀ other, some other = store.displayed → after.cache other = store.cache other

theorem Roomy.refl (store : PhotoStore) : Roomy store store where
  state := rfl
  displayed := rfl
  age := rfl
  counter := rfl
  others _ := .inl rfl
  pinned _ _ := rfl

/-- The loop either frees enough bytes, or the other slots that are left are all
on screen. -/
theorem makeRoom_spec (store : PhotoStore) (slot : Fin slots) (needed total : Nat)
    (counted : total = needed + store.sizeExcept slot) :
    Roomy store (store.makeRoom slot total).2 ∧
      (((store.makeRoom slot total).1 = true ∧
        needed + (store.makeRoom slot total).2.sizeExcept slot ≤ cacheBytes) ∨
      ((store.makeRoom slot total).1 = false ∧
        cacheBytes < needed + (store.makeRoom slot total).2.sizeExcept slot ∧
        ∀ other, ¬ (store.makeRoom slot total).2.Eligible (some slot) other)) := by
  induction store, total using PhotoStore.makeRoom.induct slot with
  | case1 store total fits =>
      rw [PhotoStore.makeRoom, if_pos fits]
      exact ⟨.refl store, .inl ⟨rfl, counted ▸ fits⟩⟩
  | case2 store total large vacant =>
      have unchanged : store.makeRoom slot total = (false, store) := by
        rw [PhotoStore.makeRoom, if_neg large]
        split
        · rfl
        next victim found =>
          rw [vacant] at found
          cases found
      rw [unchanged]
      exact ⟨.refl store,
        .inr ⟨rfl, counted ▸ Nat.lt_of_not_le large, not_eligible_of_oldest vacant⟩⟩
  | case3 store total large victim found inductionHypothesis =>
      have round : store.makeRoom slot total =
          (store.discard victim).makeRoom slot (total - store.sizeAt victim) := by
        rw [PhotoStore.makeRoom, if_neg large]
        split
        next vacant =>
          rw [found] at vacant
          cases vacant
        next other same =>
          rw [found] at same
          cases same
          rfl
      obtain ⟨occupied, notSlot, notDisplayed⟩ := oldest_eligible found
      have different : victim ≠ slot := fun same => notSlot (same ▸ rfl)
      have freed := sizeExcept_discard store different
      obtain ⟨kept, outcome⟩ := inductionHypothesis (by omega)
      rw [round]
      refine ⟨?_, outcome⟩
      exact
        { state := kept.state
          displayed := kept.displayed
          age := kept.age
          counter := kept.counter
          others := by
            intro other
            rcases kept.others other with same | none
            · by_cases discarded : other = victim
              · right
                rw [same, discarded, discard_same]
              · left
                rw [same, discard_other store discarded]
            · exact .inr none
          pinned := by
            intro other onScreen
            have survives : other ≠ victim := by
              rintro rfl
              exact notDisplayed onScreen
            rw [kept.pinned other onScreen, discard_other store survives] }

/-! ## Putting a photo into its slot -/

theorem sizeAt_le_of_cache {store after : PhotoStore} {slot : Fin slots}
    (kept : after.cache slot = store.cache slot ∨ after.cache slot = none) :
    after.sizeAt slot ≤ store.sizeAt slot := by
  unfold PhotoStore.sizeAt
  rcases kept with same | none
  · rw [same]
  · rw [none]
    exact Nat.zero_le _

/-- If only the slot on screen is left beside the own one, two photos share the
cache. -/
theorem sizeExcept_le {store : PhotoStore} (slot : Fin slots)
    (sized : ∀ slot, store.sizeAt slot ≤ photoMaxBytes)
    (alone : ∀ other, ¬ store.Eligible (some slot) other) :
    store.sizeExcept slot ≤ photoMaxBytes := by
  have empty : ∀ other, other ≠ slot → some other ≠ store.displayed → store.sizeAt other = 0 := by
    intro other different offScreen
    have vacant : store.cache other = none := by
      by_contra occupied
      apply alone other
      exact ⟨Option.isSome_iff_ne_none.mpr occupied, fun same => different (Option.some.inj same),
        offScreen⟩
    simp [PhotoStore.sizeAt, vacant]
  rw [sizeExcept_eq]
  cases known : store.displayed with
  | none =>
      rw [Finset.sum_eq_zero]
      · exact Nat.zero_le _
      · intro other membership
        rw [Finset.mem_filter] at membership
        exact empty other membership.2 (by simp [known])
  | some displayed =>
      by_cases same : displayed = slot
      · rw [Finset.sum_eq_zero]
        · exact Nat.zero_le _
        · intro other membership
          rw [Finset.mem_filter] at membership
          apply empty other membership.2
          rw [known, same]
          exact fun equality => membership.2 (Option.some.inj equality)
      · rw [Finset.sum_eq_single_of_mem displayed (by simp [same])]
        · exact sized displayed
        · intro other membership different
          rw [Finset.mem_filter] at membership
          apply empty other membership.2
          rw [known]
          exact fun equality => different (Option.some.inj equality)

namespace CacheInvariant

variable {store : PhotoStore}

/-- There is always a slot, and it is not the one on screen unless that has the name. -/
theorem chooseSlot (invariant : CacheInvariant store) (named : Option (Fin slots)) :
    ∃ slot, store.chooseSlot named = some slot ∧
      (named = some slot ∨ named = none ∧ some slot ≠ store.displayed) := by
  unfold PhotoStore.chooseSlot
  cases named with
  | some slot => exact ⟨slot, rfl, .inl rfl⟩
  | none =>
      cases vacant : store.firstEmpty with
      | some slot =>
          refine ⟨slot, rfl, .inr ⟨rfl, ?_⟩⟩
          intro onScreen
          have occupied := invariant.displayed slot onScreen.symm
          have free := List.find?_some vacant
          simp [Option.isNone_iff_eq_none.mp free] at occupied
      | none =>
          have full : ∀ slot, (store.cache slot).isSome = true := by
            intro slot
            have occupied := List.find?_eq_none.mp vacant slot (List.mem_finRange slot)
            rw [Option.isSome_iff_ne_none]
            simpa using occupied
          cases found : store.oldest none with
          | some slot => exact ⟨slot, rfl, .inr ⟨rfl, (oldest_eligible found).2.2⟩⟩
          | none =>
              have other : ∃ slot, some slot ≠ store.displayed := by
                by_cases first : some 0 = store.displayed
                · refine ⟨1, ?_⟩
                  rw [← first]
                  decide
                · exact ⟨0, first⟩
              obtain ⟨slot, offScreen⟩ := other
              exact absurd ⟨full slot, by simp, offScreen⟩ (not_eligible_of_oldest found slot)

/-- A photo of legal size finds its place. -/
theorem insert (invariant : CacheInvariant store) (named : Option (Fin slots))
    (key session : Bytes) {incoming : Incoming} (small : incoming.data.length ≤ photoMaxBytes) :
    ∃ slot after, store.insert named key session incoming = .ok (slot, after) ∧
      (named = some slot ∨ named = none ∧ some slot ≠ store.displayed) ∧
      Placed store after slot
        { data := incoming.data, width := incoming.width, height := incoming.height, age := 0,
          key := key, session := session, mime := incoming.mime } := by
  obtain ⟨slot, chosen, choice⟩ := invariant.chooseSlot named
  unfold PhotoStore.insert
  simp only [chosen]
  obtain ⟨kept, outcome⟩ := makeRoom_spec store slot incoming.data.length _ rfl
  generalize store.makeRoom slot (incoming.data.length + store.sizeExcept slot) = room
    at kept outcome ⊢
  obtain ⟨enough, roomy⟩ := room
  have smaller (other : Fin slots) : roomy.sizeAt other ≤ photoMaxBytes :=
    (sizeAt_le_of_cache (kept.others other)).trans (invariant.sized other)
  have fits : enough = true ∧ incoming.data.length + roomy.sizeExcept slot ≤ cacheBytes := by
    rcases outcome with fits | ⟨_, large, alone⟩
    · exact fits
    · have two := sizeExcept_le slot smaller alone
      simp only at large
      unfold cacheBytes at large
      unfold photoMaxBytes at small two
      omega
  simp only [fits.1, Bool.not_true, Bool.false_eq_true, if_false]
  refine ⟨slot, _, rfl, choice, ?_⟩
  exact
    { state := kept.state
      displayed := kept.displayed
      age := kept.age
      counter := kept.counter
      placed := Function.update_self _ _ _
      others := by
        intro other different
        simp only [Function.update_of_ne different]
        exact kept.others other
      pinned := by
        intro other different onScreen
        simp only [Function.update_of_ne different]
        exact kept.pinned other onScreen
      fits := by
        rw [sum_sizeAt _ slot, sizeExcept_eq]
        have rest : ∀ value, ∑ other with other ≠ slot,
            PhotoStore.sizeAt { roomy with cache := Function.update roomy.cache slot value } other =
              roomy.sizeExcept slot := by
          intro value
          rw [sizeExcept_eq]
          apply Finset.sum_congr rfl
          intro other membership
          rw [Finset.mem_filter] at membership
          simp only [PhotoStore.sizeAt, Function.update_of_ne membership.2]
        rw [rest]
        simp only [PhotoStore.sizeAt, Function.update_self, Option.map_some, Option.getD_some]
        exact fits.2 }

end CacheInvariant

/-! ## A call of `put` -/

theorem find_eq_some {store : PhotoStore} {key session : Bytes} {slot : Fin slots}
    (found : store.find key session = some slot) :
    ∃ asset, store.cache slot = some asset ∧ asset.key = key ∧ asset.session = session := by
  have holds := List.find?_some found
  unfold PhotoStore.holds at holds
  cases occupied : store.cache slot with
  | none => simp [occupied] at holds
  | some asset =>
      simp only [occupied, Bool.and_eq_true, beq_iff_eq] at holds
      exact ⟨asset, rfl, holds⟩

theorem find_eq_none {store : PhotoStore} {key session : Bytes}
    (absent : store.find key session = none) (slot : Fin slots) :
    ∀ asset ∈ store.cache slot, ¬ (asset.key = key ∧ asset.session = session) := by
  intro asset occupied name
  have notHere := List.find?_eq_none.mp absent slot (List.mem_finRange slot)
  have occupied : store.cache slot = some asset := occupied
  simp [PhotoStore.holds, occupied, name] at notHere

/-- A request that passes the checks wants a cached photo or brings a new one of
legal size. -/
theorem check_ok {request : PhotoRequest} {incoming : Option Incoming}
    (checked : request.check = .ok incoming) :
    (request.cached = true ∧ incoming = none) ∨
    (request.cached = false ∧ ∃ image, incoming = some image ∧
      request.upload.data = some image.data ∧
      dimensions image.data = some (image.width, image.height, image.mime) ∧
      image.data.length ≤ photoMaxBytes) := by
  unfold PhotoRequest.check at checked
  by_cases valid : (!request.valid) = true
  · rw [if_pos valid] at checked
    cases checked
  rw [if_neg valid] at checked
  by_cases cached : request.cached = true
  · rw [if_pos cached] at checked
    split at checked
    · cases checked
    · cases checked
      exact .inl ⟨cached, rfl⟩
  rw [if_neg cached] at checked
  by_cases large : photoMaxBytes < request.upload.size
  · rw [if_pos large] at checked
    cases checked
  rw [if_neg large] at checked
  cases body : request.upload.data with
  | none => simp [body] at checked
  | some data =>
      simp only [body] at checked
      cases decoded : dimensions data with
      | none => simp [decoded] at checked
      | some size =>
          simp only [decoded] at checked
          split at checked
          · cases checked
          · cases checked
            refine .inr ⟨by simpa using cached, _, rfl, rfl, decoded, ?_⟩
            rw [request.upload.sized data body]
            exact Nat.le_of_not_lt large

/-- Where the photo of a request goes: into the slot of its name, or into one
that is not on screen when no slot has the name. -/
def Choice (store : PhotoStore) (request : PhotoRequest) (slot : Fin slots) : Prop :=
  store.find request.keyText request.sessionText = some slot ∨
    store.find request.keyText request.sessionText = none ∧ some slot ≠ store.displayed

/-- The photo that a request is about: the one that it brings, or the cached one
of its name. -/
structure Wanted (store : PhotoStore) (request : PhotoRequest) (slot : Fin slots)
    (asset : Asset) : Prop where
  key : asset.key = request.keyText
  session : asset.session = request.sessionText
  small : asset.size ≤ photoMaxBytes
  brought : request.cached = false → request.upload.data = some asset.data ∧
    dimensions asset.data = some (asset.width, asset.height, asset.mime)
  cached : request.cached = true → store.cache slot = some asset

/-- What `put` does, before the stamp: refuse, keep the photo on screen, or
place the wanted photo. -/
theorem CacheInvariant.place {store : PhotoStore} (invariant : CacheInvariant store)
    {request : PhotoRequest} {incoming : Option Incoming}
    (checked : request.check = .ok incoming)
    (known : ¬ (request.cached && (store.find request.keyText request.sessionText).isNone) = true) :
    ∃ slot after asset,
      store.place (store.find request.keyText request.sessionText) request.keyText
        request.sessionText incoming = .ok (slot, after) ∧
      Choice store request slot ∧ Wanted store request slot asset ∧
      Placed store after slot asset := by
  rcases check_ok checked with ⟨cached, rfl⟩ | ⟨brought, image, rfl, body, decoded, small⟩
  · cases found : store.find request.keyText request.sessionText with
    | none => simp [cached, found] at known
    | some slot =>
        obtain ⟨asset, occupied, key, session⟩ := find_eq_some found
        refine ⟨slot, store, asset, rfl, .inl found, ?_, ?_⟩
        · have sized := invariant.sized slot
          rw [PhotoStore.sizeAt, occupied] at sized
          exact
            { key := key
              session := session
              small := sized
              brought := fun absent => by simp [cached] at absent
              cached := fun _ => occupied }
        · exact
            { state := rfl
              displayed := rfl
              age := rfl
              counter := rfl
              placed := occupied
              others := fun _ _ => .inl rfl
              pinned := fun _ _ _ => rfl
              fits := invariant.total }
  · obtain ⟨slot, after, inserted, choice, placed⟩ := invariant.insert
      (store.find request.keyText request.sessionText) request.keyText request.sessionText small
    refine ⟨slot, after, _, inserted, choice, ?_, placed⟩
    exact
      { key := rfl
        session := rfl
        small := small
        brought := fun _ => ⟨body, decoded⟩
        cached := fun cached => by simp [brought] at cached }

/-- The three ways of a checked call of `put`. -/
inductive Outcome (store : PhotoStore) (request : PhotoRequest) : Nat × PhotoStore → Prop
  | missing (cached : request.cached = true)
      (absent : store.find request.keyText request.sessionText = none) :
      Outcome store request (412, store)
  | kept (slot : Fin slots) (caching : request.caching = true)
      (found : store.find request.keyText request.sessionText = some slot)
      (onScreen : some slot = store.displayed) : Outcome store request (200, store)
  | cachedOnly (slot : Fin slots) (after : PhotoStore) (asset : Asset)
      (caching : request.caching = true) (offScreen : some slot ≠ store.displayed)
      (choice : Choice store request slot) (wanted : Wanted store request slot asset)
      (placed : Placed store after slot asset) :
      Outcome store request (200, after.touch slot)
  | shown (slot : Fin slots) (after : PhotoStore) (asset : Asset)
      (caching : request.caching = false)
      (choice : Choice store request slot) (wanted : Wanted store request slot asset)
      (placed : Placed store after slot asset) :
      Outcome store request (200, (after.touch slot).display slot request.sessionText
        (request.transition == some (ascii "Dissolve")))

/-- A call of `put` fails its checks or ends in one of these ways. -/
theorem CacheInvariant.put_cases {store : PhotoStore} (invariant : CacheInvariant store)
    (request : PhotoRequest) :
    (∃ status, request.check = .error status ∧ store.put request = (status, store)) ∨
    ((∃ incoming, request.check = .ok incoming) ∧ Outcome store request (store.put request)) := by
  unfold PhotoStore.put
  cases checked : request.check with
  | error status => exact .inl ⟨status, rfl, rfl⟩
  | ok incoming =>
      refine .inr ⟨⟨incoming, rfl⟩, ?_⟩
      simp only
      unfold PhotoStore.putLocked
      by_cases missing : (request.cached &&
          (store.find request.keyText request.sessionText).isNone) = true
      · simp only [if_pos missing]
        rw [Bool.and_eq_true, Option.isNone_iff_eq_none] at missing
        exact .missing missing.1 missing.2
      simp only [if_neg missing]
      by_cases onScreen : (request.caching &&
          (store.find request.keyText request.sessionText).isSome &&
          decide (store.find request.keyText request.sessionText = store.displayed)) = true
      · simp only [if_pos onScreen]
        rw [Bool.and_eq_true, Bool.and_eq_true, decide_eq_true_eq] at onScreen
        obtain ⟨⟨caching, present⟩, same⟩ := onScreen
        obtain ⟨slot, found⟩ := Option.isSome_iff_exists.mp present
        exact .kept slot caching found (found.symm.trans same)
      simp only [if_neg onScreen]
      obtain ⟨slot, after, asset, stored, choice, wanted, placed⟩ :=
        invariant.place checked missing
      simp only [stored]
      by_cases caching : request.caching = true
      · rw [if_pos caching]
        refine .cachedOnly slot after asset caching ?_ choice wanted placed
        rcases choice with found | ⟨_, offScreen⟩
        · intro same
          apply onScreen
          simp [caching, found, ← same]
        · exact offScreen
      · rw [if_neg caching]
        exact .shown slot after asset (by simpa using caching) choice wanted placed

/-! ## The stamp -/

theorem touch_cache (store : PhotoStore) {slot other : Fin slots} (different : other ≠ slot) :
    (store.touch slot).cache other = store.cache other :=
  Function.update_of_ne different _ _

theorem touch_sizeAt (store : PhotoStore) (slot other : Fin slots) :
    (store.touch slot).sizeAt other = store.sizeAt other := by
  unfold PhotoStore.sizeAt
  by_cases same : other = slot
  · rw [same]
    simp only [PhotoStore.touch, Function.update_self, Option.map_map]
    rfl
  · rw [touch_cache store same]

section Stamped

variable {store after : PhotoStore} {request : PhotoRequest} {slot : Fin slots} {asset : Asset}

/-- The photo with its stamp. -/
theorem Placed.touched (placed : Placed store after slot asset) :
    (after.touch slot).cache slot = some { asset with age := (store.age + 1) % 2 ^ 64 } := by
  simp [PhotoStore.touch, placed.placed, placed.age]

theorem Placed.old (placed : Placed store after slot asset) {other : Fin slots}
    (different : other ≠ slot) {found : Asset}
    (occupied : (after.touch slot).cache other = some found) : store.cache other = some found := by
  rw [touch_cache after different] at occupied
  rcases placed.others other different with same | none
  · rw [← same, occupied]
  · rw [none] at occupied
    cases occupied

theorem Choice.unique (choice : Choice store request slot) (invariant : SlotsInvariant store)
    {other : Fin slots} (different : other ≠ slot) {found : Asset}
    (occupied : store.cache other = some found) :
    ¬ (found.key = request.keyText ∧ found.session = request.sessionText) := by
  rintro ⟨key, session⟩
  rcases choice with named | ⟨absent, _⟩
  · obtain ⟨same, there, sameKey, sameSession⟩ := find_eq_some named
    exact different (invariant.named other slot found same occupied there
      (key.trans sameKey.symm) (session.trans sameSession.symm))
  · exact find_eq_none absent other found occupied ⟨key, session⟩

theorem Placed.cache_cases (placed : Placed store after slot asset) {other : Fin slots}
    {found : Asset} (occupied : (after.touch slot).cache other = some found) :
    (other = slot ∧ found = { asset with age := (store.age + 1) % 2 ^ 64 }) ∨
      (other ≠ slot ∧ store.cache other = some found) := by
  by_cases same : other = slot
  · rw [same, placed.touched] at occupied
    exact .inl ⟨same, (Option.some.inj occupied).symm⟩
  · exact .inr ⟨same, placed.old same occupied⟩

theorem Placed.slotsInvariant (placed : Placed store after slot asset) (choice : Choice store request slot)
    (wanted : Wanted store request slot asset) (invariant : SlotsInvariant store) :
    SlotsInvariant (after.touch slot) where
  named first second one other firstFound secondFound key session := by
    rcases placed.cache_cases firstFound with ⟨rfl, rfl⟩ | ⟨notFirst, old⟩
    · rcases placed.cache_cases secondFound with ⟨rfl, rfl⟩ | ⟨notSecond, old⟩
      · rfl
      · exact absurd ⟨key.symm.trans wanted.key, session.symm.trans wanted.session⟩
          (choice.unique invariant notSecond old)
    · rcases placed.cache_cases secondFound with ⟨rfl, rfl⟩ | ⟨_, older⟩
      · exact absurd ⟨key.trans wanted.key, session.trans wanted.session⟩
          (choice.unique invariant notFirst old)
      · exact invariant.named first second one other old older key session
  total := by
    simp only [touch_sizeAt]
    exact placed.fits
  sized other := by
    rw [touch_sizeAt]
    by_cases same : other = slot
    · rw [same, PhotoStore.sizeAt, placed.placed]
      exact wanted.small
    · exact (sizeAt_le_of_cache (placed.others other same)).trans (invariant.sized other)

/-- The photo on screen is not the one that is cached. -/
theorem Placed.onScreen (placed : Placed store after slot asset)
    (offScreen : some slot ≠ store.displayed) {shown : Fin slots}
    (onScreen : some shown = store.displayed) :
    (after.touch slot).cache shown = store.cache shown := by
  have different : shown ≠ slot := by
    rintro rfl
    exact offScreen onScreen
  rw [touch_cache after different, placed.pinned shown different onScreen]

end Stamped

theorem nextSession_ne (counter : Nat) : nextSession counter ≠ 0 := by
  unfold nextSession
  split
  · decide
  · assumption

end AirTizen.Media

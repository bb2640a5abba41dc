import AirTizen.Media.PhotoCache

/-!
# The photo cache in every reachable state

What the slots, the published state and the ages have to do with each other
behind every call.
-/

namespace AirTizen.Media

open CText Machine

namespace CacheInvariant

variable {store : PhotoStore}

theorem initial : CacheInvariant PhotoStore.initial where
  named _ _ _ _ occupied := by cases occupied
  total := by decide
  sized _ := Nat.zero_le _
  displayed _ membership := by cases membership
  active := by decide
  shown _ membership := by cases membership
  session active := by cases active

/-- Caching a photo leaves the screen alone. -/
theorem cachedOnly (invariant : CacheInvariant store) {request : PhotoRequest}
    {after : PhotoStore} {slot : Fin slots} {asset : Asset}
    (offScreen : some slot ≠ store.displayed) (choice : Choice store request slot)
    (wanted : Wanted store request slot asset) (placed : Placed store after slot asset) :
    CacheInvariant (after.touch slot) :=
  { placed.slotsInvariant choice wanted invariant.toSlotsInvariant with
    displayed := by
      intro shown onScreen
      have onScreen : some shown = store.displayed := (placed.displayed ▸ onScreen : _).symm
      rw [placed.onScreen offScreen onScreen]
      exact invariant.displayed shown onScreen.symm
    active := by
      change after.state.active = true ↔ after.displayed.isSome = true
      rw [placed.state, placed.displayed]
      exact invariant.active
    shown := by
      intro shown onScreen found occupied
      have onScreen : some shown = store.displayed := (placed.displayed ▸ onScreen : _).symm
      rw [placed.onScreen offScreen onScreen] at occupied
      change after.state.width = _ ∧ after.state.height = _ ∧ after.state.session = _
      rw [placed.state]
      exact invariant.shown shown onScreen.symm found occupied
    session := by
      change after.state.active = true → after.state.sessionId ≠ 0
      rw [placed.state]
      exact invariant.session }

/-- A photo goes on screen. -/
theorem display (invariant : CacheInvariant store) {request : PhotoRequest}
    {after : PhotoStore} {slot : Fin slots} {asset : Asset} (choice : Choice store request slot)
    (wanted : Wanted store request slot asset) (placed : Placed store after slot asset)
    (dissolve : Bool) :
    CacheInvariant ((after.touch slot).display slot request.sessionText dissolve) :=
  { placed.slotsInvariant choice wanted invariant.toSlotsInvariant with
    displayed := by
      rintro _ ⟨⟩
      exact Option.isSome_of_eq_some placed.touched
    active := ⟨fun _ => rfl, fun _ => rfl⟩
    shown := by
      rintro _ ⟨⟩ found occupied
      have occupied : (after.touch slot).cache slot = some found := occupied
      rw [placed.touched] at occupied
      simp only [PhotoStore.display, placed.touched, Option.map_some, Option.getD_some]
      cases occupied
      exact ⟨rfl, rfl, wanted.session.symm⟩
    session := by
      intro _
      simp only [PhotoStore.display]
      split
      next changed =>
        exact nextSession_ne _
      next unchanged =>
        rw [Bool.or_eq_true, not_or] at unchanged
        change after.state.sessionId ≠ 0
        rw [placed.state]
        apply invariant.session
        have active := unchanged.1
        change ¬ (!after.state.active) = true at active
        rw [placed.state] at active
        simpa using active }

theorem put (invariant : CacheInvariant store) (request : PhotoRequest) :
    CacheInvariant (store.put request).2 := by
  rcases invariant.put_cases request with ⟨status, _, refused⟩ | ⟨_, outcome⟩
  · rw [refused]
    exact invariant
  · generalize store.put request = result at outcome ⊢
    cases outcome with
    | missing | kept => exact invariant
    | cachedOnly slot after asset _ offScreen choice wanted placed =>
        exact invariant.cachedOnly offScreen choice wanted placed
    | shown slot after asset _ choice wanted placed =>
        exact invariant.display choice wanted placed _

theorem reset (store : PhotoStore) : CacheInvariant store.reset where
  named _ _ _ _ occupied := by cases occupied
  total := by
    have empty : ∀ slot, store.reset.sizeAt slot = 0 := fun _ => rfl
    simp [empty]
  sized _ := Nat.zero_le _
  displayed _ membership := by cases membership
  active := ⟨nofun, nofun⟩
  shown _ membership := by cases membership
  session active := by cases active

theorem report (invariant : CacheInvariant store) (generation : Nat) (failed : Bool) :
    CacheInvariant (store.report generation failed).2 := by
  unfold PhotoStore.report
  split
  · exact
      { invariant with
        active := invariant.active
        shown := invariant.shown
        session := invariant.session }
  · exact invariant

theorem step (invariant : CacheInvariant store) (call : PhotoCall) :
    CacheInvariant (call.step store) := by
  cases call with
  | put request => exact invariant.put request
  | reset => exact .reset store
  | report generation failed => exact invariant.report generation failed

end CacheInvariant

/-- The store behind the calls, from a fresh process. -/
def photoAfter (calls : List PhotoCall) : PhotoStore :=
  run PhotoCall.step PhotoStore.initial calls

theorem cacheInvariant_after (calls : List PhotoCall) : CacheInvariant (photoAfter calls) :=
  run_invariant (fun _ call invariant => invariant.step call) CacheInvariant.initial calls

/-! ## Ages -/

def DistinctAges (store : PhotoStore) : Prop :=
  ∀ first second one other, store.cache first = some one → store.cache second = some other →
    one.age = other.age → first = second

structure AgesInvariant (store : PhotoStore) : Prop where
  past : ∀ slot asset, store.cache slot = some asset → asset.age ≤ store.age
  distinct : DistinctAges store

theorem AgesInvariant.initial : AgesInvariant PhotoStore.initial where
  past _ _ occupied := by cases occupied
  distinct _ _ _ _ occupied := by cases occupied

/-- As long as the stamp does not wrap, it is a new one. -/
theorem AgesInvariant.touched {store after : PhotoStore} (ages : AgesInvariant store)
    {slot : Fin slots} {asset : Asset} (placed : Placed store after slot asset)
    (unwrapped : store.age + 1 < 2 ^ 64) : AgesInvariant (after.touch slot) := by
  have stamp : (store.age + 1) % 2 ^ 64 = store.age + 1 := Nat.mod_eq_of_lt unwrapped
  have now : (after.touch slot).age = store.age + 1 := by
    simp only [PhotoStore.touch, placed.age, stamp]
  constructor
  · intro other found occupied
    rw [now]
    rcases placed.cache_cases occupied with ⟨_, rfl⟩ | ⟨_, old⟩
    · exact stamp.le
    · exact (ages.past other found old).trans (Nat.le_succ _)
  · intro first second one other firstFound secondFound same
    rcases placed.cache_cases firstFound with ⟨rfl, rfl⟩ | ⟨_, old⟩
    · rcases placed.cache_cases secondFound with ⟨rfl, rfl⟩ | ⟨_, old⟩
      · rfl
      · have past := ages.past second other old
        simp only [stamp] at same
        omega
    · rcases placed.cache_cases secondFound with ⟨rfl, rfl⟩ | ⟨_, older⟩
      · have past := ages.past first one old
        simp only [stamp] at same
        omega
      · exact ages.distinct first second one other old older same

/-- A call keeps the counter and the order of ages, or takes the next stamp. -/
theorem AgesInvariant.step {store : PhotoStore} (ages : AgesInvariant store)
    (invariant : CacheInvariant store) (call : PhotoCall) :
    ((call.step store).age = store.age ∧ AgesInvariant (call.step store)) ∨
    ((call.step store).age = (store.age + 1) % 2 ^ 64 ∧
      (store.age + 1 < 2 ^ 64 → AgesInvariant (call.step store))) := by
  cases call with
  | put request =>
      simp only [PhotoCall.step]
      rcases invariant.put_cases request with ⟨status, _, refused⟩ | ⟨_, outcome⟩
      · rw [refused]
        exact .inl ⟨rfl, ages⟩
      · generalize store.put request = result at outcome ⊢
        cases outcome with
        | missing | kept => exact .inl ⟨rfl, ages⟩
        | cachedOnly slot after asset _ _ _ _ placed =>
            refine .inr ⟨?_, fun unwrapped => ages.touched placed unwrapped⟩
            simp only [PhotoStore.touch, placed.age]
        | shown slot after asset _ _ _ placed =>
            refine .inr ⟨?_, fun unwrapped => ?_⟩
            · simp only [PhotoStore.display, PhotoStore.touch, placed.age]
            · have touched := ages.touched placed unwrapped
              exact ⟨touched.past, touched.distinct⟩
  | reset =>
      refine .inl ⟨rfl, ?_, ?_⟩
      · intro slot asset occupied
        cases occupied
      · intro first second one other occupied
        cases occupied
  | report generation failed =>
      left
      simp only [PhotoCall.step, PhotoStore.report]
      split
      · exact ⟨rfl, ages.past, ages.distinct⟩
      · exact ⟨rfl, ages⟩

/-- Before the counter wraps, it counts the stamps. -/
theorem ages_after (calls : List PhotoCall)
    (unwrapped : changes PhotoCall.step PhotoStore.age PhotoStore.initial calls < 2 ^ 64) :
    (photoAfter calls).age = changes PhotoCall.step PhotoStore.age PhotoStore.initial calls ∧
      AgesInvariant (photoAfter calls) := by
  induction calls using List.reverseRecOn with
  | nil => exact ⟨rfl, .initial⟩
  | append_singleton calls call inductionHypothesis =>
      rw [changes_append] at unwrapped ⊢
      obtain ⟨counted, ages⟩ := inductionHypothesis (by omega)
      have last : photoAfter (calls ++ [call]) = call.step (photoAfter calls) := by
        simp [photoAfter, run_append]
      change _ + ((if (call.step (photoAfter calls)).age = (photoAfter calls).age then 0 else 1) + 0)
        < _ at unwrapped
      change _ = _ + ((if (call.step (photoAfter calls)).age = (photoAfter calls).age then 0 else 1)
        + 0) ∧ _
      rw [last]
      rcases ages.step (cacheInvariant_after calls) call with ⟨same, kept⟩ | ⟨next, kept⟩
      · rw [if_pos same] at unwrapped ⊢
        exact ⟨by omega, kept⟩
      · by_cases small : (photoAfter calls).age + 1 < 2 ^ 64
        · rw [Nat.mod_eq_of_lt small] at next
          rw [if_neg (by omega)] at unwrapped ⊢
          exact ⟨by omega, kept small⟩
        · rw [if_neg (by omega)] at unwrapped
          omega

/-! ## Every reachable store -/

/-- In every reachable state the slots have different names and at most 16 MiB,
the published state is that of the photo on screen, and a call of `put` whose
checks succeed answers 200, or 412 for a photo that is not cached.  The ages
differ as well until the counter of 64 bits has wrapped. -/
theorem photo_cache_invariant (calls : List PhotoCall) :
    CacheInvariant (photoAfter calls) ∧
    (changes PhotoCall.step PhotoStore.age PhotoStore.initial calls < 2 ^ 64 →
      DistinctAges (photoAfter calls)) ∧
    ∀ request incoming, request.check = .ok incoming →
      ((photoAfter calls).put request).1 = 200 ∨
      (((photoAfter calls).put request).1 = 412 ∧ request.cached = true ∧
        (photoAfter calls).find request.keyText request.sessionText = none) := by
  have invariant := cacheInvariant_after calls
  refine ⟨invariant, fun unwrapped => (ages_after calls unwrapped).2.distinct, ?_⟩
  intro request incoming checked
  rcases invariant.put_cases request with ⟨status, failed, _⟩ | ⟨_, outcome⟩
  · rw [failed] at checked
    cases checked
  · generalize (photoAfter calls).put request = result at outcome ⊢
    cases outcome with
    | missing cached absent => exact .inr ⟨rfl, cached, absent⟩
    | kept | cachedOnly | shown => exact .inl rfl

def shownPhoto : PhotoRequest := { key := some (ascii "a"), upload := .of onePixel }

def cachedPhoto : PhotoRequest :=
  { action := some (ascii "cacheOnly"), key := some (ascii "b"), upload := .of onePixel }

/-- While the same photo is cached again and again, the one on screen keeps its
stamp. -/
theorem recached (count : Nat) :
    (photoAfter (.put shownPhoto :: List.replicate count (.put cachedPhoto))).age =
        (1 + count) % 2 ^ 64 ∧
      (photoAfter (.put shownPhoto :: List.replicate count (.put cachedPhoto))).displayed = some 0 ∧
      (∃ asset, (photoAfter (.put shownPhoto :: List.replicate count (.put cachedPhoto))).cache 0 =
        some asset ∧ asset.age = 1 ∧ asset.key = ascii "a") ∧
      (0 < count → ∃ slot asset, slot ≠ 0 ∧
        (photoAfter (.put shownPhoto :: List.replicate count (.put cachedPhoto))).cache slot =
          some asset ∧ asset.age = (1 + count) % 2 ^ 64) := by
  induction count with
  | zero =>
      refine ⟨by decide +kernel, by decide +kernel, ?_, fun positive => absurd positive (by decide)⟩
      exact ⟨⟨onePixel, 1, 1, 1, ascii "a", [], ascii "image/png"⟩, by decide +kernel, rfl, rfl⟩
  | succ count inductionHypothesis =>
      have last : photoAfter (.put shownPhoto :: List.replicate (count + 1) (.put cachedPhoto)) =
          ((photoAfter (.put shownPhoto :: List.replicate count (.put cachedPhoto))).put
            cachedPhoto).2 := by
        rw [List.replicate_succ', ← List.cons_append, photoAfter, run_append]
        rfl
      rw [last]
      have invariant := cacheInvariant_after
        (.put shownPhoto :: List.replicate count (.put cachedPhoto))
      generalize photoAfter (.put shownPhoto :: List.replicate count (.put cachedPhoto)) = store
        at inductionHypothesis invariant ⊢
      obtain ⟨age, displayed, ⟨shown, occupied, one, key⟩, _⟩ := inductionHypothesis
      have stamp : (store.age + 1) % 2 ^ 64 = (1 + (count + 1)) % 2 ^ 64 := by
        rw [age, Nat.mod_add_mod, Nat.add_assoc]
      rcases invariant.put_cases cachedPhoto with ⟨status, failed, _⟩ | ⟨_, outcome⟩
      · have passes : ∃ incoming, cachedPhoto.check = .ok incoming := ⟨_, rfl⟩
        obtain ⟨incoming, passed⟩ := passes
        rw [failed] at passed
        cases passed
      · generalize store.put cachedPhoto = result at outcome ⊢
        cases outcome with
        | missing cached => exact absurd cached (by decide)
        | shown _ _ _ caching => exact absurd caching (by decide)
        | kept slot _ found onScreen =>
            rw [displayed] at onScreen
            obtain ⟨other, there, name, _⟩ := find_eq_some found
            rw [Option.some.inj onScreen, occupied] at there
            rw [← Option.some.inj there, key] at name
            exact absurd name (by decide)
        | cachedOnly slot after asset _ offScreen _ _ placed =>
            refine ⟨?_, ?_, ⟨shown, ?_, one, key⟩, fun _ => ⟨slot, _, ?_, placed.touched, stamp⟩⟩
            · simp only [PhotoStore.touch, placed.age, stamp]
            · exact placed.displayed.trans displayed
            · exact (placed.onScreen offScreen displayed.symm).trans occupied
            · rw [displayed] at offScreen
              exact fun same => offScreen (congrArg some same)

/-- After `2 ^ 64` further stamps the photo on screen and a cached one have the
same age. -/
theorem ages_collide : ¬ ∀ calls : List PhotoCall, DistinctAges (photoAfter calls) := by
  intro distinct
  obtain ⟨_, _, ⟨shown, occupied, one, _⟩, later⟩ := recached (2 ^ 64)
  obtain ⟨slot, cached, different, there, age⟩ := later (by norm_num)
  apply different
  apply distinct _ slot 0 cached shown there occupied
  rw [age, one]
  norm_num

end AirTizen.Media

import AirTizen.Media.PhotoInvariant

/-!
# The photo on screen

From the call that shows a photo to the next one that shows another or clears
the cache, readers of its generation get the bytes of that photo.
-/

namespace AirTizen.Media

open CText Machine

/-- Body and MIME type of the photo that a request is about: the one that it
brings, or the cached one of its name. -/
def PhotoStore.imageOf (store : PhotoStore) (request : PhotoRequest) : Option (Bytes × Bytes) :=
  if request.cached then
    ((store.find request.keyText request.sessionText).bind store.cache).map fun asset =>
      (asset.data, asset.mime)
  else
    request.upload.data.bind fun data =>
      (dimensions data).map fun (_, _, mime) => (data, mime)

def Displays (store : PhotoStore) (request : PhotoRequest) : Prop :=
  (store.put request).1 = 200 ∧ request.caching = false

def Leaves (store : PhotoStore) : PhotoCall → Prop
  | .put request => ¬ Displays store request
  | .reset => False
  | .report _ _ => True

instance leavesDecidable (store : PhotoStore) : (call : PhotoCall) → Decidable (Leaves store call)
  | .put _ => inferInstanceAs (Decidable (¬ (_ = 200 ∧ _ = false)))
  | .reset => inferInstanceAs (Decidable False)
  | .report _ _ => inferInstanceAs (Decidable True)

structure Pinned (store : PhotoStore) (generation : Nat) (image : Bytes × Bytes) : Prop where
  invariant : CacheInvariant store
  active : store.state.active = true
  generation : store.state.generation = generation
  shown : ∃ slot asset, some slot = store.displayed ∧ store.cache slot = some asset ∧
    (asset.data, asset.mime) = image

theorem check_error {request : PhotoRequest} {status : Nat}
    (refused : request.check = .error status) : status ≠ 200 := by
  unfold PhotoRequest.check at refused
  split at refused
  · cases refused
    decide
  · split at refused
    · split at refused
      · cases refused
        decide
      · cases refused
    · split at refused
      · cases refused
        decide
      · split at refused
        · cases refused
          decide
        · split at refused
          · cases refused
            decide
          · split at refused
            · cases refused
              decide
            · cases refused

namespace Pinned

variable {store : PhotoStore} {generation : Nat} {image : Bytes × Bytes}

theorem copy (pinned : Pinned store generation image) :
    store.copy generation = some image := by
  obtain ⟨slot, asset, onScreen, occupied, rfl⟩ := pinned.shown
  simp [PhotoStore.copy, pinned.active, pinned.generation, ← onScreen, occupied]

/-- The call that shows a photo pins it. -/
theorem display (invariant : CacheInvariant store) {request : PhotoRequest}
    (displays : Displays store request) :
    ∃ image, store.imageOf request = some image ∧
      Pinned (store.put request).2 (store.put request).2.state.generation image := by
  obtain ⟨accepted, visible⟩ := displays
  have after := invariant.put request
  rcases invariant.put_cases request with ⟨status, refused, answer⟩ | ⟨_, outcome⟩
  · rw [answer] at accepted
    exact absurd accepted (check_error refused)
  · generalize store.put request = result at outcome accepted after ⊢
    cases outcome with
    | missing => cases accepted
    | kept slot caching => simp [visible] at caching
    | cachedOnly slot after asset caching => simp [visible] at caching
    | shown slot after asset _ choice wanted placed =>
        refine ⟨(asset.data, asset.mime), ?_, ?_⟩
        · unfold PhotoStore.imageOf
          by_cases cached : request.cached = true
          · have there := wanted.cached cached
            rcases choice with found | ⟨absent, _⟩
            · simp [cached, found, there]
            · exact absurd ⟨wanted.key, wanted.session⟩ (find_eq_none absent slot asset there)
          · obtain ⟨body, decoded⟩ := wanted.brought (by simpa using cached)
            simp [cached, body, decoded]
        · exact
            { invariant := by assumption
              active := rfl
              generation := rfl
              shown := ⟨slot, _, rfl, placed.touched, rfl⟩ }

/-- A call that shows nothing else leaves it pinned. -/
theorem step (pinned : Pinned store generation image) {call : PhotoCall}
    (leaves : Leaves store call) : Pinned (call.step store) generation image := by
  have after := pinned.invariant.step call
  obtain ⟨shown, asset, onScreen, occupied, same⟩ := pinned.shown
  cases call with
  | put request =>
      simp only [PhotoCall.step] at after ⊢
      rcases pinned.invariant.put_cases request with ⟨status, _, refused⟩ | ⟨_, outcome⟩
      · rw [refused]
        exact pinned
      · have leaves : ¬ ((store.put request).1 = 200 ∧ request.caching = false) := leaves
        generalize store.put request = result at outcome leaves after ⊢
        cases outcome with
        | missing | kept => exact pinned
        | cachedOnly slot room cached _ offScreen _ _ placed =>
            exact
              { invariant := after
                active := by
                  change room.state.active = true
                  rw [placed.state]
                  exact pinned.active
                generation := by
                  change room.state.generation = generation
                  rw [placed.state]
                  exact pinned.generation
                shown := by
                  refine ⟨shown, asset, onScreen.trans placed.displayed.symm, ?_, same⟩
                  rw [placed.onScreen offScreen onScreen]
                  exact occupied }
        | shown slot room other visible => exact absurd ⟨rfl, visible⟩ leaves
  | reset => exact leaves.elim
  | report reported failed =>
      simp only [PhotoCall.step, PhotoStore.report] at after ⊢
      split
      · exact
          { invariant := by simpa [*] using after
            active := pinned.active
            generation := pinned.generation
            shown := ⟨shown, asset, onScreen, occupied, same⟩ }
      · exact pinned

end Pinned

theorem other_generation (store : PhotoStore) {generation : Nat}
    (other : generation ≠ store.state.generation) :
    store.copy generation = none ∧
      ∀ failed, store.report generation failed = (-1, store) := by
  have stale : ¬(store.state.active = true ∧ store.state.generation = generation) :=
    fun current => other current.2.symm
  refine ⟨?_, fun failed => ?_⟩
  · rw [PhotoStore.copy, if_neg stale]
  · rw [PhotoStore.report, if_neg stale]

/-- A photo that a call of `put` has shown is what readers of its generation get
in every state until another call shows a photo or resets the cache, and no
other generation can be copied or reported on. -/
theorem photo_on_screen_pinned {early : List PhotoCall} {request : PhotoRequest}
    (displays : Displays (photoAfter early) request) {late : List PhotoCall}
    (leaves : Guarded PhotoCall.step Leaves ((photoAfter early).put request).2 late) :
    (∃ image, (photoAfter early).imageOf request = some image ∧
      (run PhotoCall.step ((photoAfter early).put request).2 late).copy
        ((photoAfter early).put request).2.state.generation = some image) ∧
    ∀ generation,
      generation ≠
        (run PhotoCall.step ((photoAfter early).put request).2 late).state.generation →
      (run PhotoCall.step ((photoAfter early).put request).2 late).copy generation = none ∧
      ∀ failed, (run PhotoCall.step ((photoAfter early).put request).2 late).report generation
        failed = (-1, run PhotoCall.step ((photoAfter early).put request).2 late) := by
  constructor
  · obtain ⟨image, wanted, pinned⟩ := Pinned.display (cacheInvariant_after early) displays
    refine ⟨image, wanted, ?_⟩
    apply Pinned.copy
    exact @Guarded.run_invariant _ _ PhotoCall.step Leaves
      (fun store => Pinned store ((photoAfter early).put request).2.state.generation image)
      (fun _ _ pinned leaves => pinned.step leaves) _ _ leaves pinned
  · exact fun generation other => other_generation _ other

/-- A photo stays on screen while another one is cached and reported on. -/
theorem photo_on_screen_pinned_cached :
    (∃ image, (photoAfter []).imageOf shownPhoto = some image ∧
      (run PhotoCall.step ((photoAfter []).put shownPhoto).2
        [.put cachedPhoto, .report 1 false]).copy
          ((photoAfter []).put shownPhoto).2.state.generation = some image) ∧
    ∀ generation,
      generation ≠ (run PhotoCall.step ((photoAfter []).put shownPhoto).2
        [.put cachedPhoto, .report 1 false]).state.generation →
      (run PhotoCall.step ((photoAfter []).put shownPhoto).2
        [.put cachedPhoto, .report 1 false]).copy generation = none ∧
      ∀ failed, (run PhotoCall.step ((photoAfter []).put shownPhoto).2
        [.put cachedPhoto, .report 1 false]).report generation failed =
          (-1, run PhotoCall.step ((photoAfter []).put shownPhoto).2
            [.put cachedPhoto, .report 1 false]) :=
  photo_on_screen_pinned ⟨by decide +kernel, by decide +kernel⟩ (by decide +kernel)

end AirTizen.Media

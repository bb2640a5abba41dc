import AirTizen.Media.PinnedPhoto

/-!
# Uploads and what becomes of them

A request that is not answered 200 leaves the store as it was.  Of the others,
every upload is cached under its name, except that of the photo on screen by
`cacheOnly`.
-/

namespace AirTizen.Media

open CText Machine

def PhotoStore.recaches (store : PhotoStore) (request : PhotoRequest) : Bool :=
  request.caching && (store.find request.keyText request.sessionText).isSome &&
    store.find request.keyText request.sessionText = store.displayed

/-- The image of a call that uploads one of that name and is answered 200. -/
def acceptedUpload (key session : Bytes) (store : PhotoStore) :
    PhotoCall → List (Bytes × Bytes)
  | .put request =>
      if request.keyText = key ∧ request.sessionText = session ∧ request.upload.size ≠ 0 ∧
          (store.put request).1 = 200 then
        (store.imageOf request).toList
      else []
  | .reset | .report _ _ => []

def cachedUpload (key session : Bytes) (store : PhotoStore) : PhotoCall → List (Bytes × Bytes)
  | .put request =>
      if store.recaches request then [] else acceptedUpload key session store (.put request)
  | .reset | .report _ _ => []

/-- The uploads of that name that the calls have accepted. -/
def acceptedUploads (key session : Bytes) (calls : List PhotoCall) : List (Bytes × Bytes) :=
  outputs PhotoCall.step (acceptedUpload key session) PhotoStore.initial calls

/-- The uploads of that name that the calls have cached. -/
def cachedUploads (key session : Bytes) (calls : List PhotoCall) : List (Bytes × Bytes) :=
  outputs PhotoCall.step (cachedUpload key session) PhotoStore.initial calls

/-- What a slot holds is the last upload of its name. -/
def Latest (store : PhotoStore) (uploads : Bytes → Bytes → List (Bytes × Bytes)) : Prop :=
  ∀ slot asset, store.cache slot = some asset →
    (uploads asset.key asset.session).getLast? = some (asset.data, asset.mime)

/-! ## One call -/

theorem check_cached {request : PhotoRequest} {incoming : Option Incoming}
    (checked : request.check = .ok incoming) (cached : request.cached = true) :
    request.upload.size = 0 := by
  unfold PhotoRequest.check at checked
  split at checked
  · cases checked
  · split at checked
    · cases checked
    next empty => exact Decidable.not_not.mp empty

theorem cachedUpload_refused {store : PhotoStore} {request : PhotoRequest}
    (refused : (store.put request).1 ≠ 200) (key session : Bytes) :
    cachedUpload key session store (.put request) = [] := by
  simp [cachedUpload, acceptedUpload, refused]

theorem cachedUpload_renamed (store : PhotoStore) {request : PhotoRequest} {key session : Bytes}
    (different : ¬ (key = request.keyText ∧ session = request.sessionText)) :
    cachedUpload key session store (.put request) = [] := by
  have unnamed : ¬ (request.keyText = key ∧ request.sessionText = session ∧
      request.upload.size ≠ 0 ∧ (store.put request).1 = 200) :=
    fun named => different ⟨named.1.symm, named.2.1.symm⟩
  simp only [cachedUpload, acceptedUpload, if_neg unnamed, ite_self]

section Step

variable {store after : PhotoStore} {request : PhotoRequest} {slot : Fin slots} {asset : Asset}
  {uploads : Bytes → Bytes → List (Bytes × Bytes)}

/-- The wanted photo is the last upload of its name once the call is counted. -/
theorem Wanted.latest (wanted : Wanted store request slot asset) (latest : Latest store uploads)
    (checked : ∃ incoming, request.check = .ok incoming) (answered : (store.put request).1 = 200)
    (fresh : store.recaches request = false) :
    (uploads asset.key asset.session ++
      cachedUpload asset.key asset.session store (.put request)).getLast? =
        some (asset.data, asset.mime) := by
  obtain ⟨incoming, checked⟩ := checked
  cases cached : request.cached with
  | true =>
      have empty := check_cached checked cached
      have silent : cachedUpload asset.key asset.session store (.put request) = [] := by
        simp [cachedUpload, acceptedUpload, empty]
      rw [silent, List.append_nil]
      exact latest slot asset (wanted.cached cached)
  | false =>
      obtain ⟨body, decoded⟩ := wanted.brought cached
      have sized : request.upload.size ≠ 0 := by
        rw [← request.upload.sized _ body]
        intro empty
        rw [List.eq_nil_of_length_eq_zero empty] at decoded
        cases decoded
      have image : store.imageOf request = some (asset.data, asset.mime) := by
        simp [PhotoStore.imageOf, cached, body, decoded]
      have upload : cachedUpload asset.key asset.session store (.put request) =
          [(asset.data, asset.mime)] := by
        simp [cachedUpload, acceptedUpload, fresh, wanted.key, wanted.session, sized, answered,
          image]
      rw [upload]
      simp

theorem Latest.placed (latest : Latest store uploads) (invariant : CacheInvariant store)
    (choice : Choice store request slot) (wanted : Wanted store request slot asset)
    (placed : Placed store after slot asset)
    (checked : ∃ incoming, request.check = .ok incoming) (answered : (store.put request).1 = 200)
    (fresh : store.recaches request = false) :
    Latest (after.touch slot) fun key session =>
      uploads key session ++ cachedUpload key session store (.put request) := by
  intro other found occupied
  rcases placed.cache_cases occupied with ⟨_, rfl⟩ | ⟨different, old⟩
  · exact wanted.latest latest checked answered fresh
  · have renamed := choice.unique invariant.toSlotsInvariant different old
    simp only [cachedUpload_renamed store renamed, List.append_nil]
    exact latest other found old

theorem Latest.put (latest : Latest store uploads) (invariant : CacheInvariant store)
    (request : PhotoRequest) :
    Latest (store.put request).2 fun key session =>
      uploads key session ++ cachedUpload key session store (.put request) := by
  have unchanged (silent : ∀ key session, cachedUpload key session store (.put request) = []) :
      Latest store fun key session =>
        uploads key session ++ cachedUpload key session store (.put request) := by
    intro slot asset occupied
    simp only [silent, List.append_nil]
    exact latest slot asset occupied
  rcases invariant.put_cases request with ⟨status, refused, answer⟩ | ⟨checked, outcome⟩
  · have rejected : (store.put request).1 ≠ 200 := by
      rw [answer]
      exact check_error refused
    rw [answer]
    exact unchanged (cachedUpload_refused rejected)
  · generalize answer : store.put request = result at outcome
    cases outcome with
    | missing =>
        apply unchanged
        apply cachedUpload_refused
        simp [answer]
    | kept slot caching found onScreen =>
        apply unchanged
        intro key session
        simp [cachedUpload, PhotoStore.recaches, caching, found, ← onScreen]
    | cachedOnly slot after asset caching offScreen choice wanted placed =>
        apply latest.placed invariant choice wanted placed checked (by rw [answer])
        rcases choice with found | ⟨absent, _⟩
        · simp [PhotoStore.recaches, found, offScreen]
        · simp [PhotoStore.recaches, absent]
    | shown slot after asset caching choice wanted placed =>
        exact latest.placed invariant choice wanted placed checked (by rw [answer])
          (by simp [PhotoStore.recaches, caching])

theorem Latest.step (latest : Latest store uploads) (invariant : CacheInvariant store)
    (call : PhotoCall) :
    Latest (call.step store) fun key session =>
      uploads key session ++ cachedUpload key session store call := by
  cases call with
  | put request => exact latest.put invariant request
  | reset =>
      intro slot asset occupied
      cases occupied
  | report generation failed =>
      intro slot asset occupied
      have same : (store.report generation failed).2.cache = store.cache := by
        unfold PhotoStore.report
        split
        · rfl
        · rfl
      change (store.report generation failed).2.cache slot = some asset at occupied
      rw [same] at occupied
      simp only [cachedUpload, List.append_nil]
      exact latest slot asset occupied

end Step

/-! ## Whole runs -/

theorem latest_after (calls : List PhotoCall) :
    Latest (photoAfter calls) fun key session => cachedUploads key session calls := by
  induction calls using List.reverseRecOn with
  | nil =>
      intro slot asset occupied
      cases occupied
  | append_singleton calls call inductionHypothesis =>
      have next := inductionHypothesis.step (cacheInvariant_after calls) call
      simp only [cachedUploads, photoAfter, outputs_append, run_append] at next ⊢
      simpa [outputs, run_cons] using next

def displayRequest (key : String) : PhotoRequest :=
  { action := some (ascii "displayCached"), key := some (ascii key), upload := .empty }

/-- A request that is not answered 200 changes nothing in any reachable state:
every slot, counter and field of the published state is the same afterwards. -/
theorem rejected_put_unchanged (calls : List PhotoCall) (request : PhotoRequest)
    (rejected : ((photoAfter calls).put request).1 ≠ 200) :
    ((photoAfter calls).put request).2 = photoAfter calls := by
  rcases (cacheInvariant_after calls).put_cases request with ⟨status, _, answer⟩ | ⟨_, outcome⟩
  · rw [answer]
  · generalize (photoAfter calls).put request = result at outcome rejected ⊢
    cases outcome with
    | missing => rfl
    | kept | cachedOnly | shown => exact absurd rfl rejected

/-- Another photo is asked for than the one in the cache. -/
theorem rejected_put_unchanged_missing :
    ((photoAfter [.put shownPhoto]).put (displayRequest "b")).2 = photoAfter [.put shownPhoto] :=
  rejected_put_unchanged _ _ (by decide +kernel)

/-- A cached photo that is shown is the last upload of its name, not counting
those that `cacheOnly` has sent of the photo that was on screen. -/
theorem displayCached_shows_latest (calls : List PhotoCall) {request : PhotoRequest}
    (cached : request.cached = true) (answered : ((photoAfter calls).put request).1 = 200) :
    ∃ image,
      (cachedUploads request.keyText request.sessionText calls).getLast? = some image ∧
      ((photoAfter calls).put request).2.copy
        ((photoAfter calls).put request).2.state.generation = some image := by
  have visible : request.caching = false := by
    simp only [PhotoRequest.cached, beq_iff_eq] at cached
    rw [PhotoRequest.caching, cached]
    decide
  obtain ⟨image, wanted, pinned⟩ :=
    Pinned.display (cacheInvariant_after calls) ⟨answered, visible⟩
  refine ⟨image, ?_, pinned.copy⟩
  rw [PhotoStore.imageOf, if_pos cached] at wanted
  cases found : (photoAfter calls).find request.keyText request.sessionText with
  | none => simp [found] at wanted
  | some slot =>
      obtain ⟨asset, occupied, key, session⟩ := find_eq_some found
      simp only [found, Option.bind_some, occupied, Option.map_some, Option.some.injEq] at wanted
      rw [← wanted, ← key, ← session]
      exact latest_after calls slot asset occupied

def recachedPhoto : PhotoRequest :=
  { action := some (ascii "cacheOnly"), key := some (ascii "a"), upload := .of (onePixel ++ [0]) }

/-- Two photos are uploaded, and the cached one is shown. -/
theorem displayCached_shows_latest_sample :
    ∃ image,
      (cachedUploads (displayRequest "b").keyText (displayRequest "b").sessionText
        [.put shownPhoto, .put cachedPhoto]).getLast? = some image ∧
      ((photoAfter [.put shownPhoto, .put cachedPhoto]).put (displayRequest "b")).2.copy
        ((photoAfter [.put shownPhoto, .put cachedPhoto]).put
          (displayRequest "b")).2.state.generation = some image :=
  displayCached_shows_latest [.put shownPhoto, .put cachedPhoto] (by decide +kernel)
    (by decide +kernel)

/-- An upload for the photo on screen is answered 200, and the older one shown again. -/
theorem recached_upload_dropped :
    ¬ ∀ (calls : List PhotoCall) (request : PhotoRequest), request.cached = true →
      ((photoAfter calls).put request).1 = 200 →
      ((photoAfter calls).put request).2.copy
          ((photoAfter calls).put request).2.state.generation =
        (acceptedUploads request.keyText request.sessionText calls).getLast? := by
  intro shown
  have same := shown [.put shownPhoto, .put recachedPhoto] (displayRequest "a")
    (by decide +kernel) (by decide +kernel)
  revert same
  decide +kernel

end AirTizen.Media

import AirTizen.Media.PinnedPhoto
import AirTizen.Video.Store

/-!
# The three media of a receiver

Photos, URL playback and mirrored video live in three stores with a mutex each.
A medium is activated by one call and dismissed by another.
-/

namespace AirTizen.Receiver

open CText AirTizen.Media

structure Stores where
  photo : PhotoStore := .initial
  playback : PlaybackState := .initial
  video : Video.Store := .initial

inductive Medium where
  | photo
  | playback
  | video
  deriving DecidableEq

/-- A photo is on screen, a URL is played, or a mirrored stream is configured. -/
def Stores.active (stores : Stores) : Medium → Bool
  | .photo => stores.photo.state.active
  | .playback => stores.playback.active
  | .video => stores.video.config.isSome

/-- `airtizen_photo_reset`, `airtizen_playback_stop` and `airtizen_video_reset`. -/
def Stores.dismiss (stores : Stores) : Medium → Stores
  | .photo => { stores with photo := stores.photo.reset }
  | .playback => { stores with playback := stop stores.playback }
  | .video => { stores with video := Video.reset stores.video }

@[simp]
theorem dismiss_same (stores : Stores) (medium : Medium) :
    (stores.dismiss medium).active medium = false := by
  cases medium with
  | photo | playback | video => rfl

theorem dismiss_other (stores : Stores) {dismissed medium : Medium}
    (different : medium ≠ dismissed) :
    (stores.dismiss dismissed).active medium = stores.active medium := by
  cases dismissed with
  | photo | playback | video =>
      cases medium with
      | photo | playback | video => first | rfl | exact absurd rfl different

theorem active_of_dismiss (stores : Stores) (dismissed : Medium) {medium : Medium}
    (still : (stores.dismiss dismissed).active medium = true) :
    medium ≠ dismissed ∧ stores.active medium = true := by
  by_cases same : medium = dismissed
  · rw [same, dismiss_same] at still
    cases still
  · rw [dismiss_other stores same] at still
    exact ⟨same, still⟩

/-! ## Activating calls -/

/-- A call of `airtizen_photo_put` shows a photo, or leaves the published state alone. -/
theorem put_state (store : PhotoStore) (request : PhotoRequest) :
    (Displays store request ∧ (store.put request).2.state.active = true) ∨
    (¬ Displays store request ∧ (store.put request).2.state = store.state) := by
  unfold Displays PhotoStore.put
  cases checked : request.check with
  | error status =>
      right
      exact ⟨fun shown => check_error checked shown.1, rfl⟩
  | ok incoming =>
      simp only [PhotoStore.putLocked]
      split
      · right
        refine ⟨?_, rfl⟩
        rintro ⟨accepted, _⟩
        cases accepted
      · split
        next kept =>
          right
          rw [Bool.and_eq_true, Bool.and_eq_true] at kept
          exact ⟨fun shown => absurd kept.1.1 (by rw [shown.2]; decide), rfl⟩
        · split
          next after refused =>
            right
            refine ⟨?_, place_state.1 refused⟩
            rintro ⟨accepted, _⟩
            cases accepted
          next slot after placed =>
            split
            next caching =>
              right
              refine ⟨fun shown => absurd caching (by rw [shown.2]; decide), ?_⟩
              have same := place_state.2 slot placed
              exact same
            next visible => exact .inl ⟨⟨rfl, Bool.eq_false_iff.mpr visible⟩, rfl⟩

/-- The checks of `airtizen_video_configure` on its data. -/
def acceptable (data : Bytes) : Prop :=
  ¬ (data.length < 8 ∨ 65536 < data.length ∨ !Video.naluType 7 data ∨ !Video.naluType 8 data)

instance (data : Bytes) : Decidable (acceptable data) := inferInstanceAs (Decidable (¬ _))

theorem configure_config (allocated : Bool) (data : Bytes) (store : Video.Store) :
    (¬ acceptable data ∧ Video.configure allocated data store = (-1, store)) ∨
    (acceptable data ∧ allocated = false ∧
      (Video.configure allocated data store).1 = -1 ∧
      (Video.configure allocated data store).2.config = none) ∨
    (acceptable data ∧ allocated = true ∧
      (Video.configure allocated data store).1 = 0 ∧
      (Video.configure allocated data store).2.config = some data) := by
  unfold Video.configure
  by_cases refused : data.length < 8 ∨ 65536 < data.length ∨ !Video.naluType 7 data ∨
      !Video.naluType 8 data
  · left
    rw [if_pos refused]
    exact ⟨not_not_intro refused, rfl⟩
  · right
    rw [if_neg refused]
    cases allocated with
    | false => exact .inl ⟨refused, rfl, rfl, rfl⟩
    | true => exact .inr ⟨refused, rfl, rfl, rfl⟩

end AirTizen.Receiver

import AirTizen.Library.Machine
import AirTizen.Page.Players

/-!
# Shared media across status polls

A session is loaded once and left alone as long as no poll hands the handlers an
empty result while the receiver still has it.  The direct player does so for a
refused or unparsable answer and the MSE player for any failure; the HLS player
never does.
-/

namespace AirTizen.Page

open AirTizen.Media Machine

/-- How a status poll ends; a good answer carries the snapshot of its instant. -/
inductive Outcome where
  | snapshot
  | refused (status : Nat) (body : Option Status) (notOk : status ≠ 200)
  | unparsable
  | failed

def Outcome.answer (current : Status) : Outcome → Answer
  | .snapshot => .loaded 200 (some current)
  | .refused status body _ => .loaded status body
  | .unparsable => .loaded 200 none
  | .failed => .failed

structure Books where
  /-- A poll has reported the generation as active. -/
  seen : Bool := false
  loads : Nat := 0
  disturbed : Bool := false
  deriving DecidableEq

def Books.write (books : Books) (reported disturbed : Bool) (loads : Nat) : Books :=
  { seen := books.seen || reported
    loads := books.loads + loads
    disturbed := books.disturbed || disturbed }

@[simp]
theorem Books.write_nothing (books : Books) : books.write false false 0 = books := by
  simp [Books.write]

structure Viewing where
  mode : Mode
  playback : PlaybackState := {}
  photo : PhotoStore := {}
  shared : Shared := {}
  films : Books := {}
  photos : Books := {}

inductive Occurrence where
  | playback (call : PlaybackCall)
  | photo (call : PhotoCall)
  | poll (outcome : Outcome) (view : View)
  | metadata (view : View)
  | imageFinished (image failed : Bool)
  /-- The direct player gives up and starts the HLS player. -/
  | useFallback

def Effect.isSource : Effect → Bool
  | .setSource _ => true
  | _ => false

def Effect.isRemoval : Effect → Bool
  | .removeSource => true
  | _ => false

def PhotoEffect.isLoad : PhotoEffect → Bool
  | .load _ => true
  | _ => false

def PhotoEffect.isHide : PhotoEffect → Bool
  | .hide => true
  | _ => false

def Viewing.status (viewing : Viewing) : Status :=
  { playback := session viewing.playback, photo := photoSession viewing.photo.state }

/-- The share handler got a result: its source is torn down if it goes while the
receiver has the session and the page knows it. -/
def Books.hearFilm (films : Books) (playback : PlaybackState) (reported : Bool)
    (effects : List Effect) : Books :=
  films.write (reported && playback.active)
    (playback.active && films.seen && effects.any Effect.isRemoval)
    (effects.countP Effect.isSource)

/-- The photo handler got a result: a photo is disturbed if the overlay is hidden
while the receiver has one. -/
def Books.hearPhoto (photos : Books) (photo : PhotoState) (reported : Bool)
    (effects : List PhotoEffect) : Books :=
  photos.write (reported && photo.active) (photo.active && effects.any PhotoEffect.isHide)
    (effects.countP PhotoEffect.isLoad)

/-- `updateShared` runs. -/
def Viewing.hear (viewing : Viewing) (result : Option Status) (view : View) : Viewing :=
  let (shared, effects, photoEffects) := viewing.shared.updateShared result view
  { viewing with
    shared := shared
    films := viewing.films.hearFilm viewing.playback result.isSome effects
    photos := viewing.photos.hearPhoto viewing.photo.state result.isSome photoEffects }

def Viewing.passes (viewing : Viewing) (outcome : Outcome) : Option (Option Status) :=
  viewing.mode.poll (outcome.answer viewing.status)

def Viewing.step (viewing : Viewing) : Occurrence → Viewing
  | .playback call =>
      let after := call.step viewing.playback
      { viewing with
        playback := after
        films := if after.generation = viewing.playback.generation then viewing.films else {} }
  | .photo call =>
      let after := call.step viewing.photo
      { viewing with
        photo := after
        photos :=
          if after.state.generation = viewing.photo.state.generation then viewing.photos else {} }
  | .poll outcome view =>
      match viewing.passes outcome with
      | none => viewing
      | some result => viewing.hear result view
  | .metadata view =>
      { viewing with
        shared := { viewing.shared with share := (viewing.shared.share.loadedMetadata view).1 } }
  | .imageFinished image failed =>
      { viewing with
        shared := { viewing.shared with
          gallery := (viewing.shared.gallery.finished image failed).1 } }
  | .useFallback =>
      { viewing with mode := if viewing.mode = .direct then .hls else viewing.mode }

/-- Once a poll has reported it, the active generation is loaded exactly once,
before that not at all, and it is never disturbed. -/
structure Viewing.LoadedOnce (viewing : Viewing) : Prop where
  film : viewing.playback.active = true →
    viewing.films.loads = (if viewing.films.seen then 1 else 0) ∧
      viewing.films.disturbed = false
  photo : viewing.photo.state.active = true →
    viewing.photos.loads = (if viewing.photos.seen then 1 else 0) ∧
      viewing.photos.disturbed = false

/-- No empty result is passed on while the page presents a session that the
receiver still has, and no generation number comes round between two polls. -/
def Undisturbed (viewing : Viewing) : Occurrence → Prop
  | .poll outcome _ =>
      match viewing.passes outcome with
      | none => True
      | some none =>
          (viewing.playback.active = true → viewing.films.seen = false) ∧
            (viewing.photo.state.active = true → viewing.shared.gallery.generation = none)
      | some (some _) =>
          (viewing.playback.active = true → viewing.films.seen = false →
            viewing.shared.share.changed (session viewing.playback) = true) ∧
          (viewing.photo.state.active = true → viewing.photos.seen = false →
            viewing.shared.gallery.generation ≠ some viewing.photo.state.generation)
  | _ => True

/-! ## The handlers -/

theorem apply_quiet (share : Share) (view : View) :
    (share.apply view).2.countP Effect.isSource = 0 ∧
      (share.apply view).2.any Effect.isRemoval = false := by
  have quiet : ∀ effect ∈ (share.apply view).2,
      Effect.isSource effect = false ∧ Effect.isRemoval effect = false := by
    intro effect membership
    unfold Share.apply at membership
    cases known : share.state with
    | none => simp [known] at membership
    | some state =>
        simp only [known] at membership
        split at membership
        · cases membership
        · simp only [List.mem_append] at membership
          rcases membership with position | running
          · split at position
            · rw [List.mem_singleton.mp position]
              exact ⟨rfl, rfl⟩
            · cases position
          · split at running
            · rw [List.mem_singleton.mp running]
              exact ⟨rfl, rfl⟩
            · split at running
              · rw [List.mem_singleton.mp running]
                exact ⟨rfl, rfl⟩
              · cases running
  constructor
  · rw [List.countP_eq_zero]
    intro effect membership
    simp [(quiet effect membership).1]
  · rw [List.any_eq_false]
    intro effect membership
    simp [(quiet effect membership).2]

theorem update_loads (share : Share) {next : Session} (active : next.active = true)
    (view : View) :
    (share.update (some next) view).2.countP Effect.isSource =
        (if share.changed next then 1 else 0) ∧
      (share.update (some next) view).2.any Effect.isRemoval = false ∧
      (share.update (some next) view).1.state = some next ∧
      (share.update (some next) view).1.source =
        if share.changed next then some next.url else share.source := by
  obtain ⟨loads, removal⟩ := apply_quiet (share.adopt next).1 view
  obtain ⟨state, source, _⟩ := apply_share (share.adopt next).1 view
  simp only [Share.update, active, Bool.not_true, Bool.false_eq_true, if_false,
    List.countP_append, List.any_append, loads, removal, state, source]
  unfold Share.adopt
  by_cases changed : share.changed next = true
  · simp only [if_pos changed, List.any_cons, Effect.isRemoval]
    refine ⟨rfl, ?_⟩
    simp
  · simp [changed]

theorem close_removes (share : Share) (next : Option Session) :
    (share.close next).2.countP Effect.isSource = 0 ∧
      (share.close next).2.any Effect.isRemoval = share.hasSource ∧
      (share.close next).1.state = next := by
  unfold Share.close
  by_cases source : share.hasSource = true
  · rw [if_pos source, source]
    exact ⟨rfl, rfl, rfl⟩
  · rw [if_neg source]
    exact ⟨rfl, by simpa using source, rfl⟩

theorem gallery_loads (gallery : Gallery) {state : PhotoSession} (active : state.active = true) :
    (gallery.update (some state)).2.countP PhotoEffect.isLoad =
        (if gallery.generation = some state.generation then 0 else 1) ∧
      (gallery.update (some state)).2.any PhotoEffect.isHide = false ∧
      (gallery.update (some state)).1.generation = some state.generation := by
  simp only [Gallery.update, Option.filter_some, active, if_true]
  by_cases same : gallery.generation = some state.generation
  · simp only [if_pos same]
    exact ⟨rfl, rfl, same⟩
  · simp only [if_neg same]
    exact ⟨rfl, rfl, rfl⟩

theorem gallery_hides (gallery : Gallery) :
    (gallery.update none).2.any PhotoEffect.isHide = gallery.generation.isSome ∧
      (gallery.update none).2.countP PhotoEffect.isLoad = 0 := by
  simp only [Gallery.update, Option.filter_none]
  by_cases present : gallery.generation.isSome = true
  · rw [if_pos present, present]
    exact ⟨rfl, rfl⟩
  · rw [if_neg present]
    exact ⟨by simpa using present, rfl⟩

theorem gallery_finished_generation (gallery : Gallery) (image failed : Bool) :
    (gallery.finished image failed).1.generation = gallery.generation := by
  unfold Gallery.finished
  split
  · rfl
  · split
    · rfl
    · split
      · rfl
      · rfl

/-! ## What a poll passes on -/

/-- A poll passes on the snapshot, an empty result, or nothing. -/
theorem passes_cases (viewing : Viewing) (outcome : Outcome) :
    viewing.passes outcome = some (some viewing.status) ∨ viewing.passes outcome = some none ∨
      viewing.passes outcome = none := by
  unfold Viewing.passes
  cases outcome with
  | snapshot => cases viewing.mode <;> exact .inl rfl
  | refused status body notOk =>
      right
      cases viewing.mode with
      | direct => simp [Mode.poll, directPoll, Outcome.answer, notOk]
      | hls => simp [Mode.poll, hlsPoll, Outcome.answer, notOk]
      | mse => simp [Mode.poll, msePoll, Outcome.answer, notOk]
  | unparsable =>
      right
      cases viewing.mode with
      | direct | mse => exact .inl rfl
      | hls => exact .inr rfl
  | failed =>
      right
      cases viewing.mode with
      | direct | hls => exact .inr rfl
      | mse => exact .inl rfl

/-- A call either starts a new session, whose URL is not empty, or keeps it and
activates nothing. -/
theorem playbackCall_cases (call : PlaybackCall) (store : PlaybackState) :
    ((call.step store).generation ≠ store.generation ∧
      ((call.step store).active = true → (call.step store).url ≠ [])) ∨
    ((call.step store).generation = store.generation ∧
      ((call.step store).active = true → store.active = true) ∧
      (call.step store).url = store.url) := by
  cases call with
  | play url fraction =>
      rcases play_cases url fraction store with ⟨_, same⟩ | ⟨_, text, _, playable, new⟩
      · simp [PlaybackCall.step, PlaybackCall.run, same]
      · left
        simp only [PlaybackCall.step, PlaybackCall.run, new]
        refine ⟨nextUnsigned_ne _, ?_⟩
        rintro _ rfl
        exact absurd playable (by decide)
  | stop =>
      left
      refine ⟨nextUnsigned_ne _, ?_⟩
      intro active
      cases active
  | rate value =>
      right
      rcases rate_cases value store with ⟨_, same⟩ | ⟨_, new⟩
      · simp [PlaybackCall.step, PlaybackCall.run, same]
      · simp [PlaybackCall.step, PlaybackCall.run, new]
  | seek position =>
      right
      rcases seek_cases position store with ⟨_, same⟩ | ⟨_, _, new⟩
      · simp [PlaybackCall.step, PlaybackCall.run, same]
      · simp [PlaybackCall.step, PlaybackCall.run, new]
  | report generation position duration ready failed ended =>
      right
      rcases report_cases generation position duration ready failed ended store with
        ⟨_, same⟩ | ⟨_, active, _, new⟩
      · simp [PlaybackCall.step, PlaybackCall.run, same]
      · simp [PlaybackCall.step, PlaybackCall.run, new, active]

/-! ## What the page presents -/

structure FilmPresented (playback : PlaybackState) (share : Share) (films : Books) : Prop where
  playable : playback.active = true → playback.url ≠ []
  seen : playback.active = true → films.seen = true →
    films.loads = 1 ∧ films.disturbed = false ∧
      share.changed (session playback) = false ∧ share.hasSource = true
  unseen : films.seen = false → films.loads = 0 ∧ films.disturbed = false

structure PhotoPresented (photo : PhotoState) (gallery : Gallery) (photos : Books) : Prop where
  seen : photo.active = true → photos.seen = true →
    photos.loads = 1 ∧ photos.disturbed = false ∧ gallery.generation = some photo.generation
  unseen : photo.active = true → photos.seen = false →
    photos.loads = 0 ∧ photos.disturbed = false

structure Presents (viewing : Viewing) : Prop where
  film : FilmPresented viewing.playback viewing.shared.share viewing.films
  photo : PhotoPresented viewing.photo.state viewing.shared.gallery viewing.photos

theorem Presents.loadedOnce {viewing : Viewing} (presents : Presents viewing) :
    viewing.LoadedOnce := by
  constructor
  · intro active
    cases seen : viewing.films.seen with
    | false => exact presents.film.unseen seen
    | true =>
        obtain ⟨loads, disturbed, _⟩ := presents.film.seen active seen
        exact ⟨loads, disturbed⟩
  · intro active
    cases seen : viewing.photos.seen with
    | false => exact presents.photo.unseen active seen
    | true =>
        obtain ⟨loads, disturbed, _⟩ := presents.photo.seen active seen
        exact ⟨loads, disturbed⟩

theorem presents_initial (mode : Mode) : Presents { mode := mode } :=
  { film :=
      { playable := fun active => by cases active
        seen := fun active => by cases active
        unseen := fun _ => ⟨rfl, rfl⟩ }
    photo :=
      { seen := fun active => by cases active
        unseen := fun active => by cases active } }

section Film

variable {playback : PlaybackState} {share : Share} {films : Books}

theorem FilmPresented.call (film : FilmPresented playback share films) (call : PlaybackCall) :
    FilmPresented (call.step playback) share
      (if (call.step playback).generation = playback.generation then films else {}) := by
  rcases playbackCall_cases call playback with ⟨new, playable⟩ | ⟨generation, active, url⟩
  · rw [if_neg new]
    exact
      { playable := playable
        seen := fun _ seen => by cases seen
        unseen := fun _ => ⟨rfl, rfl⟩ }
  · rw [if_pos generation]
    exact
      { playable := by
          intro isActive
          rw [url]
          exact film.playable (active isActive)
        seen := by
          intro isActive seen
          obtain ⟨loads, disturbed, changed, source⟩ := film.seen (active isActive) seen
          refine ⟨loads, disturbed, ?_, source⟩
          unfold Share.changed session at changed ⊢
          simp only [generation]
          exact changed
        unseen := film.unseen }

/-- The snapshot of the store is handed over: a session that the page has not
seen is loaded, one that it has seen is not touched. -/
theorem FilmPresented.update (film : FilmPresented playback share films) (view : View)
    (renewed : playback.active = true → films.seen = false →
      share.changed (session playback) = true) :
    FilmPresented playback (share.update (some (session playback)) view).1
      (films.hearFilm playback true (share.update (some (session playback)) view).2) := by
  by_cases active : playback.active = true
  · obtain ⟨loads, removal, state, source⟩ := @update_loads share (session playback) active view
    have same : (share.update (some (session playback)) view).1.changed (session playback) =
        false := by
      simp [Share.changed, state]
    have nonempty := film.playable active
    have written : films.hearFilm playback true
        (share.update (some (session playback)) view).2 =
          ⟨true, films.loads + (if share.changed (session playback) then 1 else 0),
            films.disturbed⟩ := by
      simp [Books.hearFilm, Books.write, active, loads, removal]
    rw [written]
    refine
      { playable := film.playable
        seen := fun _ _ => ?_
        unseen := fun unseen => by cases unseen }
    cases known : films.seen with
    | false =>
        obtain ⟨none, undisturbed⟩ := film.unseen known
        have changed := renewed active known
        refine ⟨by simp [none, changed], undisturbed, same, ?_⟩
        unfold Share.hasSource
        rw [source, if_pos changed]
        exact decide_eq_true nonempty
    | true =>
        obtain ⟨once, undisturbed, unchanged, present⟩ := film.seen active known
        refine ⟨by simp [once, unchanged], undisturbed, same, ?_⟩
        unfold Share.hasSource at present ⊢
        rw [source, unchanged]
        exact present
  · simp only [Bool.not_eq_true] at active
    have closed : share.update (some (session playback)) view =
        share.close (some (session playback)) := by
      simp [Share.update, session, active]
    obtain ⟨loads, _, _⟩ := close_removes share (some (session playback))
    have written : films.hearFilm playback true
        (share.update (some (session playback)) view).2 = films := by
      simp [Books.hearFilm, active, closed, loads]
    rw [written]
    exact
      { playable := film.playable
        seen := fun isActive => by simp [active] at isActive
        unseen := film.unseen }

theorem FilmPresented.close (film : FilmPresented playback share films)
    (unknown : playback.active = true → films.seen = false) :
    FilmPresented playback (share.close none).1
      (films.hearFilm playback false (share.close none).2) := by
  obtain ⟨loads, _, _⟩ := close_removes share none
  have written : films.hearFilm playback false (share.close none).2 = films := by
    by_cases active : playback.active = true
    · simp [Books.hearFilm, unknown active, loads]
    · simp [Books.hearFilm, active, loads]
  rw [written]
  exact
    { playable := film.playable
      seen := fun active seen => by simp [unknown active] at seen
      unseen := film.unseen }

end Film

section Photo

variable {photo : PhotoState} {gallery : Gallery} {photos : Books}

theorem PhotoPresented.update (presented : PhotoPresented photo gallery photos)
    (renewed : photo.active = true → photos.seen = false →
      gallery.generation ≠ some photo.generation) :
    PhotoPresented photo (gallery.update (some (photoSession photo))).1
      (photos.hearPhoto photo true (gallery.update (some (photoSession photo))).2) := by
  by_cases active : photo.active = true
  · obtain ⟨loads, hides, generation⟩ := @gallery_loads gallery (photoSession photo) active
    have written : photos.hearPhoto photo true
        (gallery.update (some (photoSession photo))).2 =
          ⟨true, photos.loads + (if gallery.generation = some photo.generation then 0 else 1),
            photos.disturbed⟩ := by
      have current : (photoSession photo).generation = photo.generation := rfl
      simp [Books.hearPhoto, Books.write, active, loads, hides, current]
    rw [written]
    refine
      { seen := fun _ _ => ?_
        unseen := fun _ unseen => by cases unseen }
    cases known : photos.seen with
    | false =>
        obtain ⟨none, undisturbed⟩ := presented.unseen active known
        exact ⟨by simp [none, renewed active known], undisturbed, generation⟩
    | true =>
        obtain ⟨once, undisturbed, shown⟩ := presented.seen active known
        exact ⟨by simp [once, shown], undisturbed, generation⟩
  · exact
      { seen := fun isActive => absurd isActive active
        unseen := fun isActive => absurd isActive active }

theorem PhotoPresented.hide (presented : PhotoPresented photo gallery photos)
    (blank : photo.active = true → gallery.generation = none) :
    PhotoPresented photo (gallery.update none).1
      (photos.hearPhoto photo false (gallery.update none).2) := by
  by_cases active : photo.active = true
  · obtain ⟨hides, loads⟩ := gallery_hides gallery
    have written : photos.hearPhoto photo false (gallery.update none).2 = photos := by
      simp [Books.hearPhoto, hides, loads, blank active]
    rw [written]
    refine
      { seen := fun _ seen => ?_
        unseen := presented.unseen }
    obtain ⟨_, _, shown⟩ := presented.seen active seen
    simp [blank active] at shown
  · exact
      { seen := fun isActive => absurd isActive active
        unseen := fun isActive => absurd isActive active }

end Photo

theorem Presents.step {viewing : Viewing} (presents : Presents viewing)
    (occurrence : Occurrence) (undisturbed : Undisturbed viewing occurrence) :
    Presents (viewing.step occurrence) := by
  cases occurrence with
  | playback call => exact ⟨presents.film.call call, presents.photo⟩
  | photo call =>
      refine ⟨presents.film, ?_⟩
      rcases photoCall_cases call viewing.photo with new | ⟨generation, active⟩
      · simp only [Viewing.step, if_neg new]
        exact
          { seen := fun _ seen => by cases seen
            unseen := fun _ _ => ⟨rfl, rfl⟩ }
      · simp only [Viewing.step, if_pos generation]
        exact
          { seen := by
              intro isActive seen
              obtain ⟨loads, clean, shown⟩ := presents.photo.seen (active ▸ isActive) seen
              exact ⟨loads, clean, shown.trans (by rw [generation])⟩
            unseen := fun isActive => presents.photo.unseen (active ▸ isActive) }
  | poll outcome view =>
      unfold Viewing.step
      unfold Undisturbed at undisturbed
      rcases passes_cases viewing outcome with passed | passed | passed
      · simp only [passed] at undisturbed ⊢
        exact ⟨presents.film.update view undisturbed.1, presents.photo.update undisturbed.2⟩
      · simp only [passed] at undisturbed ⊢
        exact ⟨presents.film.close undisturbed.1, presents.photo.hide undisturbed.2⟩
      · simp only [passed]
        exact presents
  | metadata view =>
      refine ⟨?_, presents.photo⟩
      have kept : (viewing.shared.share.loadedMetadata view).1.state =
          viewing.shared.share.state ∧
          (viewing.shared.share.loadedMetadata view).1.source = viewing.shared.share.source := by
        obtain ⟨state, source, _⟩ := apply_share viewing.shared.share view
        unfold Share.loadedMetadata
        split
        · exact ⟨rfl, rfl⟩
        · exact ⟨state, source⟩
      obtain ⟨state, source⟩ := kept
      exact
        { playable := presents.film.playable
          seen := by
            intro active seen
            obtain ⟨loads, clean, changed, present⟩ := presents.film.seen active seen
            refine ⟨loads, clean, ?_, ?_⟩
            · unfold Share.changed at changed ⊢
              simp only [Viewing.step, state]
              exact changed
            · unfold Share.hasSource at present ⊢
              simp only [Viewing.step, source]
              exact present
          unseen := presents.film.unseen }
  | imageFinished image failed =>
      refine ⟨presents.film, ?_⟩
      have generation := gallery_finished_generation viewing.shared.gallery image failed
      exact
        { seen := by
            intro active seen
            obtain ⟨loads, clean, shown⟩ := presents.photo.seen active seen
            exact ⟨loads, clean, generation.trans shown⟩
          unseen := presents.photo.unseen }
  | useFallback => exact ⟨presents.film, presents.photo⟩

/-! ## A session that is disturbed -/

/-- A step outside of the condition is visible in the books. -/
theorem Presents.disturbed {viewing : Viewing} (presents : Presents viewing)
    {occurrence : Occurrence} (disturbed : ¬ Undisturbed viewing occurrence) :
    ¬ (viewing.step occurrence).LoadedOnce := by
  cases occurrence with
  | poll outcome view =>
      unfold Undisturbed at disturbed
      unfold Viewing.step
      rcases passes_cases viewing outcome with passed | passed | passed
      · simp only [passed, not_and_or, Classical.not_imp, Bool.not_eq_true, not_not] at disturbed
        simp only [passed]
        intro once
        rcases disturbed with ⟨active, unseen, same⟩ | ⟨active, unseen, same⟩
        · obtain ⟨loads, _⟩ := @update_loads viewing.shared.share (session viewing.playback)
            active view
          have film := (once.film active).1
          simp [Viewing.hear, Shared.updateShared, Viewing.status, Books.hearFilm, Books.write,
            active, (presents.film.unseen unseen).1, loads, same] at film
        · obtain ⟨loads, _⟩ := @gallery_loads viewing.shared.gallery
            (photoSession viewing.photo.state) active
          have current : (photoSession viewing.photo.state).generation =
            viewing.photo.state.generation := rfl
          have photo := (once.photo active).1
          simp [Viewing.hear, Shared.updateShared, Viewing.status, Books.hearPhoto, Books.write,
            active, (presents.photo.unseen active unseen).1, loads, current, same] at photo
      · simp only [passed, not_and_or, Classical.not_imp, Bool.not_eq_false] at disturbed
        simp only [passed]
        intro once
        rcases disturbed with ⟨active, seen⟩ | ⟨active, shown⟩
        · obtain ⟨_, removes, _⟩ := close_removes viewing.shared.share none
          obtain ⟨_, _, _, source⟩ := presents.film.seen active seen
          have film := (once.film active).2
          simp [Viewing.hear, Shared.updateShared, Share.update, Books.hearFilm, Books.write,
            active, seen, removes, source] at film
        · obtain ⟨hides, _⟩ := gallery_hides viewing.shared.gallery
          have photo := (once.photo active).2
          simp only [Viewing.hear, Shared.updateShared, Option.map_none, Books.hearPhoto,
            Books.write, active, hides, Bool.true_and, Bool.or_eq_false_iff,
            Option.isSome_eq_false_iff, Option.isNone_iff_eq_none] at photo
          exact shown photo.2
      · simp only [passed] at disturbed
        exact absurd trivial disturbed
  | _ => exact absurd trivial disturbed

theorem presents_or_disturbed (mode : Mode) (occurrences : List Occurrence) :
    (Guarded Viewing.step Undisturbed { mode := mode } occurrences ∧
      Presents (run Viewing.step { mode := mode } occurrences) ∧
      Throughout Viewing.step Viewing.LoadedOnce { mode := mode } occurrences) ∨
    (¬ Guarded Viewing.step Undisturbed { mode := mode } occurrences ∧
      ¬ Throughout Viewing.step Viewing.LoadedOnce { mode := mode } occurrences) := by
  induction occurrences using List.reverseRecOn with
  | nil => exact .inl ⟨trivial, presents_initial mode, (presents_initial mode).loadedOnce⟩
  | append_singleton occurrences occurrence inductionHypothesis =>
      simp only [guarded_append, run_append, run_cons, run_nil, Guarded, and_true,
        throughout_concat]
      rcases inductionHypothesis with ⟨guarded, presents, always⟩ | ⟨unguarded, notAlways⟩
      · by_cases undisturbed :
            Undisturbed (run Viewing.step { mode := mode } occurrences) occurrence
        · have after := presents.step occurrence undisturbed
          exact .inl ⟨⟨guarded, undisturbed⟩, after, always, after.loadedOnce⟩
        · exact .inr ⟨fun both => undisturbed both.2,
            fun both => presents.disturbed undisturbed both.2⟩
      · exact .inr ⟨fun both => unguarded both.1, fun both => notAlways both.1⟩

/-- In all states of a run, every session is loaded once and not disturbed
exactly if no empty result is passed on while the page presents a session that
the receiver still has, and no generation number comes round between two polls. -/
theorem loaded_once_iff (mode : Mode) (occurrences : List Occurrence) :
    Throughout Viewing.step Viewing.LoadedOnce { mode := mode } occurrences ↔
      Guarded Viewing.step Undisturbed { mode := mode } occurrences := by
  rcases presents_or_disturbed mode occurrences with ⟨guarded, _, always⟩ | ⟨unguarded, notAlways⟩
  · exact iff_of_true always guarded
  · exact iff_of_false notAlways unguarded

def refusedPoll : List Occurrence :=
  [.playback (.play (some (CText.ascii "http://tv/film")) (.finite 0)),
    .poll .snapshot ⟨0, .nan, true, false⟩,
    .poll (.refused 503 none (by decide)) ⟨4, .finite 10, false, false⟩]

/-- The direct player tears the film down although the receiver still has it. -/
theorem refused_poll_closes_film :
    ¬ ∀ (mode : Mode) (occurrences : List Occurrence),
      Throughout Viewing.step Viewing.LoadedOnce { mode := mode } occurrences := by
  intro always
  have film := always .direct refusedPoll
  obtain ⟨_, _, _, once⟩ := film
  have active : (run Viewing.step { mode := .direct } refusedPoll).playback.active = true := by
    decide +kernel
  have disturbed : (run Viewing.step { mode := .direct } refusedPoll).films.disturbed = true := by
    decide +kernel
  exact absurd (disturbed.symm.trans (once.film active).2) (by decide)

end AirTizen.Page

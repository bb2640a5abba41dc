import Mathlib.Data.Fin.Basic
import Mathlib.Data.Fintype.Basic
import Mathlib.Data.Finset.Card
import Mathlib.Logic.Function.Basic
import AirTizen.Media.Playback

/-!
# The photo store

The four cache slots and the published state behind the mutex of
`airtizen_photo.c`, and the calls that change them.  Every call is one critical
section behind checks of its own arguments.
-/

namespace AirTizen.Media

open CText

abbrev slots : Nat := 4
def cacheBytes : Nat := 16 * 1024 * 1024
def photoMaxBytes : Nat := 8 * 1024 * 1024

/-- An occupied slot, whose `data` is not `NULL`. -/
structure Asset where
  data : Bytes
  width : Nat
  height : Nat
  age : Nat
  key : Bytes
  session : Bytes
  mime : Bytes
  deriving DecidableEq

def Asset.size (asset : Asset) : Nat := asset.data.length

structure PhotoState where
  generation : Nat := 0
  width : Nat := 0
  height : Nat := 0
  sessionId : Nat := 0
  active : Bool := false
  dissolve : Bool := false
  ready : Bool := false
  failed : Bool := false
  session : Bytes := []
  deriving DecidableEq

structure PhotoStore where
  cache : Fin slots → Option Asset := fun _ => none
  state : PhotoState := {}
  /-- `displayed`, where `none` is -1. -/
  displayed : Option (Fin slots) := none
  age : Nat := 0
  sessionCounter : Nat := 0
  deriving DecidableEq

/-- The statically initialised store of a fresh process. -/
def PhotoStore.initial : PhotoStore := {}

/-! ## Image headers -/

def be16 : Bytes → Nat
  | high :: low :: _ => high.toNat * 2 ^ 8 + low.toNat
  | _ => 0

def be32 : Bytes → Nat
  | b0 :: b1 :: b2 :: b3 :: _ =>
      b0.toNat * 2 ^ 24 + b1.toNat * 2 ^ 16 + b2.toNat * 2 ^ 8 + b3.toNat
  | _ => 0

def identifier (text : Bytes) (limit : Nat) : Bool :=
  text.length ≤ limit && text.all fun byte => 33 ≤ byte && byte ≤ 126

def standaloneMarker (marker : UInt8) : Bool := marker == 1 || (208 ≤ marker && marker ≤ 215)

def frameMarker (marker : UInt8) : Bool := marker == 192 || marker == 193 || marker == 194

/-- The marker loop on the bytes from `p+at` on: width and height of the first
supported start of frame before a scan or the end of the image. -/
def jpegSize (rest : Bytes) : Option (Nat × Nat) :=
  match rest with
  | [] => none
  | byte :: rest' =>
      if byte ≠ 255 then none
      else
        match scanned : rest'.dropWhile (· == 255) with
        | [] => none
        | marker :: segment =>
            if marker = 217 ∨ marker = 218 then none
            else if standaloneMarker marker then jpegSize segment
            else if segment.length < 2 then none
            else
              let length := be16 segment
              if length < 2 ∨ segment.length < length then none
              else if frameMarker marker then
                if length < 8 ∨ segment[2]? ≠ some 8 then none
                else some (be16 (segment.drop 5), be16 (segment.drop 3))
              else jpegSize (segment.drop length)
termination_by rest.length
decreasing_by
  all_goals
    have shorter := (List.dropWhile_suffix (· == 255) (l := rest')).length_le
    rw [scanned] at shorter
    simp only [List.length_cons, List.length_drop] at shorter ⊢
    omega

def header (data : Bytes) : Option (Nat × Nat × Bytes) :=
  if 33 ≤ data.length ∧ data.take 8 = [137, 80, 78, 71, 13, 10, 26, 10] ∧
      be32 (data.drop 8) = 13 ∧ (data.drop 12).take 4 = ascii "IHDR" then
    some (be32 (data.drop 16), be32 (data.drop 20), ascii "image/png")
  else if 4 ≤ data.length ∧ data.take 2 = [255, 216] then
    (jpegSize (data.drop 2)).map fun (width, height) => (width, height, ascii "image/jpeg")
  else none

def dimensions (data : Bytes) : Option (Nat × Nat × Bytes) :=
  (header data).filter fun (width, height, _) =>
    0 < width && 0 < height && width ≤ 8192 && height ≤ 8192 && width * height ≤ 16000000

def onePixel : Bytes :=
  [137, 80, 78, 71, 13, 10, 26, 10, 0, 0, 0, 13] ++ ascii "IHDR" ++
    [0, 0, 0, 1, 0, 0, 0, 1, 8, 2, 0, 0, 0, 144, 119, 83, 222]

example : dimensions onePixel = some (1, 1, ascii "image/png") := by decide +kernel

/-! ## Slots -/

def PhotoStore.discard (store : PhotoStore) (slot : Fin slots) : PhotoStore :=
  { store with cache := Function.update store.cache slot none }

def PhotoStore.holds (store : PhotoStore) (key session : Bytes) (slot : Fin slots) : Bool :=
  match store.cache slot with
  | none => false
  | some asset => asset.key == key && asset.session == session

def PhotoStore.find (store : PhotoStore) (key session : Bytes) : Option (Fin slots) :=
  (List.finRange slots).find? (store.holds key session)

def PhotoStore.firstEmpty (store : PhotoStore) : Option (Fin slots) :=
  (List.finRange slots).find? fun slot => (store.cache slot).isNone

/-- One round of the loop in `oldest`. -/
def PhotoStore.older (store : PhotoStore) (except : Option (Fin slots))
    (result : Option (Fin slots)) (slot : Fin slots) : Option (Fin slots) :=
  match store.cache slot with
  | none => result
  | some asset =>
      if some slot = except ∨ some slot = store.displayed then result
      else
        match result.bind store.cache with
        | none => some slot
        | some best => if asset.age < best.age then some slot else result

/-- The occupied slot with the smallest age that is neither `except` nor displayed. -/
def PhotoStore.oldest (store : PhotoStore) (except : Option (Fin slots)) : Option (Fin slots) :=
  (List.finRange slots).foldl (store.older except) none

def PhotoStore.sizeAt (store : PhotoStore) (slot : Fin slots) : Nat :=
  ((store.cache slot).map Asset.size).getD 0

def PhotoStore.sizeExcept (store : PhotoStore) (slot : Fin slots) : Nat :=
  (((List.finRange slots).filter (· ≠ slot)).map store.sizeAt).sum

def PhotoStore.occupied (store : PhotoStore) : Nat :=
  (Finset.univ.filter fun slot => (store.cache slot).isSome).card

theorem older_isSome {store : PhotoStore} {except result found : Option (Fin slots)}
    {slot : Fin slots} (known : ∀ other ∈ result, (store.cache other).isSome = true)
    (step : store.older except result slot = found) :
    ∀ other ∈ found, (store.cache other).isSome = true := by
  intro other membership
  subst step
  unfold PhotoStore.older at membership
  cases occupied : store.cache slot with
  | none =>
      rw [occupied] at membership
      exact known other membership
  | some asset =>
      have own : (store.cache slot).isSome = true := by rw [occupied]; rfl
      rw [occupied] at membership
      simp only at membership
      split at membership
      · exact known other membership
      · split at membership
        · cases membership
          exact own
        · split at membership
          · cases membership
            exact own
          · exact known other membership

theorem foldl_older_isSome {store : PhotoStore} {except : Option (Fin slots)}
    (candidates : List (Fin slots)) {result : Option (Fin slots)}
    (known : ∀ other ∈ result, (store.cache other).isSome = true) :
    ∀ other ∈ candidates.foldl (store.older except) result,
      (store.cache other).isSome = true := by
  induction candidates generalizing result with
  | nil => exact known
  | cons slot rest inductionHypothesis =>
      apply inductionHypothesis
      exact older_isSome known rfl

theorem oldest_isSome {store : PhotoStore} {except : Option (Fin slots)} {victim : Fin slots}
    (found : store.oldest except = some victim) : (store.cache victim).isSome = true := by
  apply foldl_older_isSome (List.finRange slots) _ victim found
  simp

@[simp]
theorem discard_same (store : PhotoStore) (slot : Fin slots) :
    (store.discard slot).cache slot = none := Function.update_self _ _ _

theorem discard_other (store : PhotoStore) {victim slot : Fin slots} (different : slot ≠ victim) :
    (store.discard victim).cache slot = store.cache slot := Function.update_of_ne different _ _

theorem occupied_discard_lt {store : PhotoStore} {victim : Fin slots}
    (occupied : (store.cache victim).isSome = true) :
    (store.discard victim).occupied < store.occupied := by
  apply Finset.card_lt_card
  apply Finset.ssubset_iff_of_subset _ |>.mpr
  · refine ⟨victim, by simpa using occupied, ?_⟩
    simp
  · intro slot membership
    simp only [Finset.mem_filter, Finset.mem_univ, true_and] at membership ⊢
    by_cases same : slot = victim
    · rw [same]
      exact occupied
    · rwa [discard_other store same] at membership

/-- `while(total>CACHE_BYTES)`: discard the oldest other slots until the total
fits, or find none to discard.  What was discarded stays so either way. -/
def PhotoStore.makeRoom (store : PhotoStore) (slot : Fin slots) (total : Nat) :
    Bool × PhotoStore :=
  if total ≤ cacheBytes then (true, store)
  else
    match _found : store.oldest (some slot) with
    | none => (false, store)
    | some victim => (store.discard victim).makeRoom slot (total - store.sizeAt victim)
termination_by store.occupied
decreasing_by exact occupied_discard_lt (oldest_isSome _found)

/-! ## Calls -/

structure Incoming where
  data : Bytes
  width : Nat
  height : Nat
  mime : Bytes

/-- The `data` and `size` arguments: a null pointer comes with any size. -/
structure Upload where
  data : Option Bytes
  size : Nat
  sized : ∀ bytes ∈ data, bytes.length = size

def Upload.empty : Upload := ⟨none, 0, by simp⟩

def Upload.of (bytes : Bytes) : Upload := ⟨some bytes, bytes.length, by simp⟩

/-- The arguments of `airtizen_photo_put`. -/
structure PhotoRequest where
  action : Option Bytes := none
  key : Option Bytes := none
  session : Option Bytes := none
  transition : Option Bytes := none
  upload : Upload
  /-- `malloc` found room for the copy. -/
  allocated : Bool := true

def PhotoRequest.caching (request : PhotoRequest) : Bool := request.action == some (ascii "cacheOnly")

def PhotoRequest.cached (request : PhotoRequest) : Bool :=
  request.action == some (ascii "displayCached")

def PhotoRequest.keyText (request : PhotoRequest) : Bytes := request.key.getD []

def PhotoRequest.sessionText (request : PhotoRequest) : Bytes := request.session.getD []

/-- The names of the request are well formed. -/
def PhotoRequest.valid (request : PhotoRequest) : Bool :=
  identifier request.keyText 128 && identifier request.sessionText 64 &&
    (request.action.getD [] == [] || request.caching || request.cached) &&
    !((request.cached || request.caching) && request.keyText.isEmpty) &&
    (request.transition.getD [] == [] || request.transition == some (ascii "None") ||
      request.transition == some (ascii "Dissolve"))

/-- What `airtizen_photo_put` does before it takes the lock: a status, or the
copy of the image unless a cached one is wanted. -/
def PhotoRequest.check (request : PhotoRequest) : Except Nat (Option Incoming) :=
  if !request.valid then .error 400
  else if request.cached then
    if request.upload.size ≠ 0 then .error 400 else .ok none
  else if photoMaxBytes < request.upload.size then .error 413
  else
    match request.upload.data with
    | none => .error 400
    | some data =>
        match dimensions data with
        | none => .error 400
        | some (width, height, mime) =>
            if !request.allocated then .error 503
            else .ok (some { data := data, width := width, height := height, mime := mime })

/-- The slot for a new image: the one of its name, an empty one, or the oldest. -/
def PhotoStore.chooseSlot (store : PhotoStore) (named : Option (Fin slots)) :
    Option (Fin slots) :=
  named <|> store.firstEmpty <|> store.oldest none

def PhotoStore.insert (store : PhotoStore) (named : Option (Fin slots)) (key session : Bytes)
    (incoming : Incoming) : Except PhotoStore (Fin slots × PhotoStore) :=
  match store.chooseSlot named with
  | none => .error store
  | some slot =>
      let (fits, roomy) := store.makeRoom slot (incoming.data.length + store.sizeExcept slot)
      if !fits then .error roomy
      else
        .ok (slot, { roomy with
          cache := Function.update roomy.cache slot (some
            { data := incoming.data
              width := incoming.width
              height := incoming.height
              age := 0
              key := key
              session := session
              mime := incoming.mime }) })

/-- The slot that the request is about; without a new image it is the one of
its name, which the caller has found. -/
def PhotoStore.place (store : PhotoStore) (named : Option (Fin slots)) (key session : Bytes) :
    Option Incoming → Except PhotoStore (Fin slots × PhotoStore)
  | some incoming => store.insert named key session incoming
  | none =>
      match named with
      | some slot => .ok (slot, store)
      | none => .error store

/-- `cache[slot].age=++age`. -/
def PhotoStore.touch (store : PhotoStore) (slot : Fin slots) : PhotoStore :=
  let age := (store.age + 1) % 2 ^ 64
  { store with
    age := age
    cache := Function.update store.cache slot ((store.cache slot).map ({ · with age := age })) }

/-- `if(!++session_counter)++session_counter`. -/
def nextSession (counter : Nat) : Nat :=
  if nextUnsigned counter = 0 then nextUnsigned 0 else nextUnsigned counter

/-- The last block of `airtizen_photo_put`: the slot goes on screen. -/
def PhotoStore.display (store : PhotoStore) (slot : Fin slots) (session : Bytes)
    (dissolve : Bool) : PhotoStore :=
  let changed := !store.state.active || store.state.session ≠ session
  let counter := if changed then nextSession store.sessionCounter else store.sessionCounter
  { store with
    sessionCounter := counter
    displayed := some slot
    state :=
      { generation := nextUnsigned store.state.generation
        width := ((store.cache slot).map Asset.width).getD 0
        height := ((store.cache slot).map Asset.height).getD 0
        sessionId := if changed then counter else store.state.sessionId
        active := true
        dissolve := dissolve
        ready := false
        failed := false
        session := session } }

/-- What `airtizen_photo_put` does under the lock. -/
def PhotoStore.putLocked (store : PhotoStore) (request : PhotoRequest)
    (incoming : Option Incoming) : Nat × PhotoStore :=
  let key := request.keyText
  let session := request.sessionText
  let named := store.find key session
  if request.cached && named.isNone then (412, store)
  -- re-caching the active key must not mutate the image on screen
  else if request.caching && named.isSome && named = store.displayed then (200, store)
  else
    match store.place named key session incoming with
    | .error store => (503, store)
    | .ok (slot, store) =>
        let store := store.touch slot
        if request.caching then (200, store)
        else
          (200, store.display slot session (request.transition == some (ascii "Dissolve")))

def PhotoStore.put (store : PhotoStore) (request : PhotoRequest) : Nat × PhotoStore :=
  match request.check with
  | .error status => (status, store)
  | .ok incoming => store.putLocked request incoming

def PhotoStore.reset (store : PhotoStore) : PhotoStore :=
  { store with
    cache := fun _ => none
    displayed := none
    state := { generation := nextUnsigned store.state.generation } }

/-- `airtizen_photo_copy` with memory for the copy: the body with its MIME type. -/
def PhotoStore.copy (store : PhotoStore) (generation : Nat) : Option (Bytes × Bytes) :=
  if store.state.active ∧ store.state.generation = generation then
    (store.displayed.bind store.cache).map fun asset => (asset.data, asset.mime)
  else none

def PhotoStore.report (store : PhotoStore) (generation : Nat) (failed : Bool) :
    Int × PhotoStore :=
  if store.state.active ∧ store.state.generation = generation then
    (0, { store with state := { store.state with failed := failed, ready := !failed } })
  else (-1, store)

inductive PhotoCall where
  | put (request : PhotoRequest)
  | reset
  | report (generation : Nat) (failed : Bool)

def PhotoCall.step (store : PhotoStore) : PhotoCall → PhotoStore
  | .put request => (store.put request).2
  | .reset => store.reset
  | .report generation failed => (store.report generation failed).2

/-! ## What a call does to the published state -/

theorem nextUnsigned_ne (number : Nat) : nextUnsigned number ≠ number := by
  unfold nextUnsigned
  omega

theorem makeRoom_state (store : PhotoStore) (slot : Fin slots) (total : Nat) :
    (store.makeRoom slot total).2.state = store.state := by
  induction store, total using PhotoStore.makeRoom.induct slot with
  | case1 store total fits => rw [PhotoStore.makeRoom, if_pos fits]
  | case2 store total large none =>
      rw [PhotoStore.makeRoom, if_neg large]
      split
      · rfl
      · simp_all
  | case3 store total large victim found inductionHypothesis =>
      rw [PhotoStore.makeRoom, if_neg large]
      split
      · rfl
      · simp_all [PhotoStore.discard]

theorem insert_state {store after : PhotoStore} {named : Option (Fin slots)}
    {key session : Bytes} {incoming : Incoming} :
    (store.insert named key session incoming = .error after → after.state = store.state) ∧
      ∀ slot, store.insert named key session incoming = .ok (slot, after) →
        after.state = store.state := by
  unfold PhotoStore.insert
  split
  · constructor
    · rintro ⟨⟩
      rfl
    · intro slot inserted
      cases inserted
  next slot _ =>
    have roomy := makeRoom_state store slot (incoming.data.length + store.sizeExcept slot)
    constructor
    · intro refused
      simp only at refused
      split at refused
      · cases refused
        exact roomy
      · cases refused
    · intro other inserted
      simp only at inserted
      split at inserted
      · cases inserted
      · cases inserted
        exact roomy

theorem place_state {store after : PhotoStore} {named : Option (Fin slots)}
    {key session : Bytes} {incoming : Option Incoming} :
    (store.place named key session incoming = .error after → after.state = store.state) ∧
      ∀ slot, store.place named key session incoming = .ok (slot, after) →
        after.state = store.state := by
  cases incoming with
  | some incoming => exact insert_state
  | none =>
      cases named with
      | none =>
          refine ⟨?_, fun slot => nofun⟩
          rintro ⟨⟩
          rfl
      | some named =>
          refine ⟨nofun, ?_⟩
          rintro slot ⟨⟩
          rfl

/-- A call either starts a new generation, or keeps it and activates nothing. -/
theorem photoCall_cases (call : PhotoCall) (store : PhotoStore) :
    (call.step store).state.generation ≠ store.state.generation ∨
      ((call.step store).state.generation = store.state.generation ∧
        (call.step store).state.active = store.state.active) := by
  cases call with
  | put request =>
      have same {after : PhotoStore} (state : after.state = store.state) :
          after.state.generation ≠ store.state.generation ∨
            (after.state.generation = store.state.generation ∧
              after.state.active = store.state.active) := by
        right
        rw [state]
        exact ⟨rfl, rfl⟩
      simp only [PhotoCall.step, PhotoStore.put]
      cases request.check with
      | error status => exact same rfl
      | ok incoming =>
          simp only [PhotoStore.putLocked]
          split
          · exact same rfl
          · split
            · exact same rfl
            · split
              next after refused => exact same (place_state.1 refused)
              next slot after placed =>
                have state := place_state.2 slot placed
                split
                · exact same state
                · left
                  change nextUnsigned after.state.generation ≠ _
                  rw [state]
                  exact nextUnsigned_ne _
  | reset => exact .inl (nextUnsigned_ne _)
  | report generation failed =>
      right
      simp only [PhotoCall.step, PhotoStore.report]
      split
      · exact ⟨rfl, rfl⟩
      · exact ⟨rfl, rfl⟩

end AirTizen.Media

import AirTizen.Video.Groups

/-!
# A live playlist slides

Each playlist searches its first group anew.  The search can only move forward:
fragments are published at the end and dropped from the front, so a group that
is complete later was complete as soon as its last fragment was there.
-/

namespace AirTizen.Video

open CText

def Complete (log : RetainedLog Fragment) (group : Nat) : Prop :=
  ∀ number ∈ numbers (groupFirst group) (groupLast group), (log.read number).isSome = true

theorem complete_iff {log : RetainedLog Fragment} {group : Nat} :
    Complete log group ↔ log.mark ≤ groupFirst group ∧ groupLast group ≤ log.latest := by
  have ordered : groupFirst group ≤ groupLast group := by
    unfold groupLast hlsGroup
    omega
  constructor
  · intro complete
    have first := complete (groupFirst group) (mem_numbers.mpr ⟨le_rfl, ordered⟩)
    have last := complete (groupLast group) (mem_numbers.mpr ⟨ordered, le_rfl⟩)
    rw [RetainedLog.read_isSome_iff] at first last
    exact ⟨first.1, last.2⟩
  · rintro ⟨retained, published⟩ number inGroup
    rw [mem_numbers] at inGroup
    rw [RetainedLog.read_isSome_iff]
    exact ⟨retained.trans inGroup.1, inGroup.2.trans published⟩

/-- The groups from `first` to `last` are what a playlist of the log lists: the
last one is the newest full group, and the first one the first complete group of
the six that end there. -/
structure Listing (log : RetainedLog Fragment) (first last : Nat) : Prop where
  newest : last + 1 = log.latest / hlsGroup
  ordered : first ≤ last
  recent : last ≤ first + 5
  complete : Complete log first
  skipped : ∀ group < first, last ≤ group + 5 → ¬ Complete log group

namespace Listing

variable {earlier later : RetainedLog Fragment} {first last first' last' : Nat}

theorem last_le (listing : Listing earlier first last) (again : Listing later first' last')
    (extension : earlier.Extends later) : last ≤ last' := by
  have grown := Nat.div_le_div_right (c := hlsGroup) extension.latest_le
  rw [← listing.newest, ← again.newest] at grown
  exact Nat.le_of_succ_le_succ grown

/-- A group that the later search accepts was complete earlier already, unless
it was published in between. -/
theorem first_le (listing : Listing earlier first last) (again : Listing later first' last')
    (extension : earlier.Extends later) : first ≤ first' := by
  by_contra backwards
  rw [not_le] at backwards
  have recent : last ≤ first' + 5 := (listing.last_le again extension).trans again.recent
  apply listing.skipped first' backwards recent
  rw [complete_iff]
  have retained := (complete_iff.mp again.complete).1
  have published := (complete_iff.mp listing.complete).2
  refine ⟨extension.mark.trans retained, le_trans ?_ published⟩
  unfold groupLast groupFirst hlsGroup
  omega

theorem complete_of_mem (listing : Listing earlier first last) {group : Nat}
    (listed : group ∈ numbers first last) : Complete earlier group := by
  rw [mem_numbers] at listed
  have oldest := (complete_iff.mp listing.complete).1
  have newest := listing.newest
  rw [complete_iff]
  unfold groupLast groupFirst hlsGroup at *
  omega

end Listing

namespace Represents

variable {store : Store} {stream : Stream}

theorem listing (represents : Represents store stream) {groups : List Nat}
    (listed : listedGroups store = some groups) :
    ∃ first last, groups = numbers first last ∧ Listing stream.log first last := by
  unfold listedGroups at listed
  split at listed
  · cases listed
  split at listed
  · cases listed
  next groupsExist =>
    rw [represents.latest] at groupsExist listed
    simp only at listed
    split at listed
    · cases listed
    next first found =>
      refine ⟨first, _, (Option.some.inj listed).symm, ?_⟩
      rw [numbers, List.find?_range'_eq_some] at found
      obtain ⟨valid, bounds, skipped⟩ := found
      rw [List.mem_range'_1] at bounds
      constructor
      · exact Nat.sub_add_cancel (Nat.pos_of_ne_zero groupsExist)
      · split at bounds <;> omega
      · split at bounds <;> omega
      · exact (represents.stored.groupValid_iff first).mp valid
      · intro group before recent complete
        have valid := (represents.stored.groupValid_iff group).mpr complete
        have invalid := skipped group (by split <;> omega) before
        rw [valid] at invalid
        cases invalid

theorem groupDuration_eq {early late : Store} {earlier later : Stream}
    (represents : Represents early earlier) (again : Represents late later)
    (extension : earlier.log.Extends later.log) {group : Nat}
    (complete : Complete earlier.log group) (still : Complete later.log group) :
    groupDuration early group = groupDuration late group := by
  have ordered : groupFirst group ≤ groupLast group := by
    unfold groupLast hlsGroup
    omega
  have unchanged : ∀ number ∈ numbers (groupFirst group) (groupLast group),
      early.parts (slotOf number) = late.parts (slotOf number) := by
    intro number inGroup
    obtain ⟨fragment, found⟩ := Option.isSome_iff_exists.mp (complete number inGroup)
    have retained := still number inGroup
    rcases extension.read found with dropped | kept
    · rw [dropped] at retained
      cases retained
    · rw [represents.stored.part_of_read found, again.stored.part_of_read kept]
  unfold groupDuration
  rw [unchanged _ (mem_numbers.mpr ⟨le_rfl, ordered⟩),
    unchanged _ (mem_numbers.mpr ⟨ordered, le_rfl⟩)]

end Represents

/-! ## Two playlists of one generation -/

/-- The text is a playlist of the generation that lists the groups from `first`
to `last`, at least one and at most six, with their durations. -/
structure Lists (text token : Bytes) (generation first last : Nat) (duration : Nat → ℚ) :
    Prop where
  ordered : first ≤ last
  few : last < first + 6
  text : ∃ target, text = manifestHeader target first generation token ++
    ((numbers first last).map fun group =>
      manifestEntry (duration group) generation group token).flatten

theorem Represents.lists {store : Store} {stream : Stream} (represents : Represents store stream)
    {undefinedCast : ℚ → Nat} {allocated : Bool} {token text : Bytes}
    (printed : hlsManifest undefinedCast allocated token store = some text) :
    ∃ first last, Listing stream.log first last ∧
      Lists text token store.state.generation first last (groupDuration store) := by
  unfold hlsManifest at printed
  split at printed
  · cases printed
  next groups listed =>
    obtain ⟨first, last, rfl, listing⟩ := represents.listing listed
    simp only at printed
    split at printed
    next whole =>
      rw [Buffer.printAll_used] at whole
      rw [Buffer.printAll_eq (by unfold manifestCapacity; norm_num) _ whole.1] at printed
      have head : (numbers first last).headD 0 = first := by
        obtain ⟨rest, more⟩ := Nat.exists_eq_add_of_le listing.ordered
        have count : last + 1 - first = rest + 1 := by omega
        rw [numbers, count, List.range'_succ, List.headD_cons]
      refine ⟨first, last, listing, listing.ordered, Nat.lt_succ_of_le listing.recent,
        targetDuration undefinedCast (longestGroup store (numbers first last)), ?_⟩
      rw [← Option.some.inj printed, manifestPieces, List.flatten_cons, head]
    · cases printed

/-- Both ends of the run belong to one generation: its number is the same, and
the counter has not gone all the way round in between. -/
def SameGeneration (early late : List Call) : Prop :=
  (after early).state.generation = (after (early ++ late)).state.generation ∧
    Machine.changes step (fun store => store.state.generation) (after early) late < 2 ^ 32

instance (early late : List Call) : Decidable (SameGeneration early late) :=
  inferInstanceAs (Decidable (_ ∧ _))

/-- Of two playlists of one generation the later one starts and ends no earlier,
and repeats the groups that both list with the same paths and durations.  Each
lists one to six consecutive groups. -/
theorem playlist_slides (early late : List Call) (same : SameGeneration early late)
    (undefinedCast undefinedCast' : ℚ → Nat) (allocated allocated' : Bool)
    (token token' text text' : Bytes)
    (printed : hlsManifest undefinedCast allocated token (after early) = some text)
    (again : hlsManifest undefinedCast' allocated' token' (after (early ++ late)) =
      some text') :
    ∃ generation first last first' last' duration duration',
      Lists text token generation first last duration ∧
      Lists text' token' generation first' last' duration' ∧
      first ≤ first' ∧ last ≤ last' ∧
      ∀ group ∈ numbers first last, group ∈ numbers first' last' →
        duration group = duration' group := by
  obtain ⟨generations, unwrapped⟩ := same
  obtain ⟨earlier, _, represents, _⟩ := Represents.initial.run early
  obtain ⟨later, continues, represents', counted⟩ := represents.run late
  have lateStore : after (early ++ late) = Machine.run step (after early) late :=
    Machine.run_append step Store.initial early late
  have generation : earlier.generation = later.generation := by
    have before := represents.generation
    have behind := represents'.generation
    rw [lateStore] at generations
    unfold after at generations unwrapped
    omega
  have extension := continues.log generation
  obtain ⟨first, last, listing, lists⟩ := represents.lists printed
  rw [lateStore] at again generations
  obtain ⟨first', last', listing', lists'⟩ := represents'.lists again
  refine ⟨_, first, last, first', last', _, _, lists, generations ▸ lists',
    listing.first_le listing' extension, listing.last_le listing' extension, ?_⟩
  intro group listed still
  exact represents.groupDuration_eq represents' extension (listing.complete_of_mem listed)
    (listing'.complete_of_mem still)

/-- Two more groups are full when the second playlist is read. -/
theorem playlist_slides_sample :
    ∃ text text', hlsManifest (fun _ => 0) true [] (after (sampleCalls 15)) = some text ∧
      hlsManifest (fun _ => 0) true []
        (after (sampleCalls 15 ++ (sampleCalls 45).drop 16)) = some text' ∧
      ∃ generation first last first' last' duration duration',
        Lists text [] generation first last duration ∧
        Lists text' [] generation first' last' duration' ∧
        first ≤ first' ∧ last ≤ last' ∧
        ∀ group ∈ numbers first last, group ∈ numbers first' last' →
          duration group = duration' group := by
  have some' : (hlsManifest (fun _ => 0) true [] (after (sampleCalls 15))).isSome = true := by
    decide +kernel
  have someLater : (hlsManifest (fun _ => 0) true []
      (after (sampleCalls 15 ++ (sampleCalls 45).drop 16))).isSome = true := by
    decide +kernel
  obtain ⟨text, printed⟩ := Option.isSome_iff_exists.mp some'
  obtain ⟨text', again⟩ := Option.isSome_iff_exists.mp someLater
  exact ⟨text, text', printed, again, playlist_slides (sampleCalls 15) ((sampleCalls 45).drop 16)
    (by decide +kernel) (fun _ => 0) (fun _ => 0) true true [] [] text text' printed again⟩

end AirTizen.Video

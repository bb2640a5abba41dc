import AirTizen.Video.Playlist
import AirTizen.Video.Window

/-!
# Published bytes are immutable within a generation

A client reads the initialization segment, single fragments or whole segments
at different times.  As long as it names the same generation it never gets
different bytes for the same read.
-/

namespace AirTizen.Video

open CText

inductive Read where
  | init
  | fragment (number : Nat)
  | segment (first last : Nat)
  deriving DecidableEq

/-- The bytes a read returns under the named generation, if it returns any. -/
def readUnder (generation : Nat) (allocated : Bool) (store : Store) : Read → Option Bytes
  | .init =>
      let (data, current) := copy allocated true 0 store
      if current = generation then data else none
  | .fragment number =>
      let (data, current) := copy allocated false number store
      if current = generation then data else none
  | .segment first last => hlsSegment allocated generation first last store

namespace Stored

variable {store : Store} {log : RetainedLog Fragment}

/-- Gathered parts are the retained fragments of their numbers. -/
theorem gatherParts_eq (stored : Stored store log) {wanted : List Nat} {size : Nat}
    {pieces : List Bytes} (gathered : gatherParts store wanted size = some pieces) :
    wanted.map (fun number => (log.read number).map Fragment.bytes) = pieces.map some := by
  induction wanted generalizing size pieces with
  | nil =>
      simp only [gatherParts, Option.some.injEq] at gathered
      subst gathered
      rfl
  | cons number rest inductionHypothesis =>
      simp only [gatherParts] at gathered
      split at gathered
      · cases gathered
      next data held =>
        split at gathered
        · cases gathered
        next accepted =>
          rw [not_or, not_not] at accepted
          obtain ⟨tail, tailGathered, rfl⟩ := Option.map_eq_some_iff.mp gathered
          have retained := (stored.part_found held).2
          rw [accepted.1] at retained
          have size := stored.sizes (slotOf number)
          rw [held] at size
          simp only [List.map_cons, inductionHypothesis tailGathered, retained,
            Option.map_some, size, Option.getD_some, List.take_length]

end Stored

theorem hlsSegment_eq_some {allocated : Bool} {generation first last : Nat} {store : Store}
    {bytes : Bytes} (found : hlsSegment allocated generation first last store = some bytes) :
    generation = store.state.generation ∧
      ∃ pieces, gatherParts store (numbers first last) 0 = some pieces ∧
        bytes = pieces.flatten := by
  unfold hlsSegment at found
  split at found
  · cases found
  · split at found
    · cases found
    next current =>
      rw [not_or, not_not] at current
      split at found
      · cases found
      next pieces gathered =>
        split at found
        · exact ⟨current.1, pieces, gathered, (Option.some.inj found).symm⟩
        · cases found

theorem generation_of_readUnder {generation : Nat} {allocated : Bool} {store : Store}
    {read : Read} {bytes : Bytes}
    (found : readUnder generation allocated store read = some bytes) :
    store.state.generation = generation := by
  cases read with
  | init | fragment number =>
      simp only [readUnder] at found
      split at found
      · assumption
      · cases found
  | segment first last => exact (hlsSegment_eq_some found).1.symm

theorem copy_eq_some {allocated init : Bool} {number : Nat} {store : Store} {bytes : Bytes}
    (found : (copy allocated init number store).1 = some bytes) :
    copySource init number store = bytes := by
  simp only [copy] at found
  split at found
  · cases found
  · exact Option.some.inj found

theorem copySource_of_readUnder {generation : Nat} {allocated init : Bool} {store : Store}
    {number : Nat} {bytes : Bytes}
    (found : (if (copy allocated init number store).2 = generation
      then (copy allocated init number store).1 else none) = some bytes) :
    copySource init number store = bytes ∧ bytes ≠ [] := by
  split at found
  · have source := copy_eq_some found
    refine ⟨source, ?_⟩
    rintro rfl
    simp [copy, source] at found
  · cases found

/-- Two streams of one generation never disagree about a read. -/
theorem readUnder_eq {generation : Nat} {firstAllocated secondAllocated : Bool}
    {early late : Store} {earlyStream lateStream : Stream}
    (earlyRepresents : Represents early earlyStream)
    (lateRepresents : Represents late lateStream)
    (continues : earlyStream.Continues lateStream)
    (same : earlyStream.generation = lateStream.generation) {read : Read}
    {bytes other : Bytes}
    (found : readUnder generation firstAllocated early read = some bytes)
    (again : readUnder generation secondAllocated late read = some other) :
    other = bytes := by
  cases read with
  | init =>
      obtain ⟨source, nonempty⟩ := copySource_of_readUnder found
      have source' := (copySource_of_readUnder again).1
      simp only [copySource, if_true] at source source'
      rw [earlyRepresents.initData] at source
      rw [lateRepresents.initData] at source'
      cases published : earlyStream.initData with
      | none => simp_all
      | some initData =>
          rw [published] at source
          rw [continues.initData same initData published] at source'
          exact source'.symm.trans source
  | fragment number =>
      obtain ⟨source, nonempty⟩ := copySource_of_readUnder found
      obtain ⟨source', nonempty'⟩ := copySource_of_readUnder again
      rw [earlyRepresents.stored.copySource_eq] at source
      rw [lateRepresents.stored.copySource_eq] at source'
      cases retained : earlyStream.log.read number with
      | none => simp_all
      | some fragment =>
          rw [retained] at source
          rcases (continues.log same).read retained with dropped | unchanged
          · simp_all
          · rw [unchanged] at source'
            exact source'.symm.trans source
  | segment first last =>
      obtain ⟨_, pieces, gathered, rfl⟩ := hlsSegment_eq_some found
      obtain ⟨_, pieces', gathered', rfl⟩ := hlsSegment_eq_some again
      have earlyPieces := earlyRepresents.stored.gatherParts_eq gathered
      have latePieces := lateRepresents.stored.gatherParts_eq gathered'
      have equality : pieces'.map some = pieces.map some := by
        rw [← earlyPieces, ← latePieces]
        refine List.map_congr_left fun number membership => ?_
        have present : ((earlyStream.log.read number).map Fragment.bytes).isSome = true := by
          have inPieces : (earlyStream.log.read number).map Fragment.bytes ∈ pieces.map some := by
            rw [← earlyPieces]
            exact List.mem_map_of_mem membership
          obtain ⟨piece, _, equality⟩ := List.mem_map.mp inPieces
          rw [← equality]
          rfl
        have presentLate : ((lateStream.log.read number).map Fragment.bytes).isSome = true := by
          have inPieces : (lateStream.log.read number).map Fragment.bytes ∈ pieces'.map some := by
            rw [← latePieces]
            exact List.mem_map_of_mem membership
          obtain ⟨piece, _, equality⟩ := List.mem_map.mp inPieces
          rw [← equality]
          rfl
        rw [Option.isSome_map] at present presentLate
        obtain ⟨fragment, retained⟩ := Option.isSome_iff_exists.mp present
        rcases (continues.log same).read retained with dropped | unchanged
        · rw [dropped] at presentLate
          cases presentLate
        · rw [retained, unchanged]
      rw [List.map_injective_iff.mpr (Option.some_injective _) equality]

/-- Published video bytes are immutable within a generation: between any two
instants of a run with fewer than `2 ^ 32` generation changes, a read that
returned bytes returns nothing or the same bytes under the same generation. -/
theorem published_bytes_immutable (early late : List Call)
    (unwrapped : Machine.changes step (fun store => store.state.generation) Store.initial
      (early ++ late) < 2 ^ 32)
    (generation : Nat) (firstAllocated secondAllocated : Bool) (read : Read) (bytes : Bytes)
    (found : readUnder generation firstAllocated (after early) read = some bytes) :
    readUnder generation secondAllocated (after (early ++ late)) read = none ∨
      readUnder generation secondAllocated (after (early ++ late)) read = some bytes := by
  obtain ⟨earlyStream, _, earlyRepresents, earlyCount⟩ := Represents.initial.run early
  obtain ⟨lateStream, continues, lateRepresents, lateCount⟩ := earlyRepresents.run late
  rw [Machine.changes_append] at unwrapped
  have lateStore : after (early ++ late) = Machine.run step (after early) late :=
    Machine.run_append step Store.initial early late
  cases again : readUnder generation secondAllocated (after (early ++ late)) read with
  | none => exact Or.inl rfl
  | some other =>
      right
      have earlyGeneration := generation_of_readUnder found
      have lateGeneration := generation_of_readUnder again
      rw [lateStore] at lateGeneration again
      have same : earlyStream.generation = lateStream.generation := by
        have earlyWrapped := earlyRepresents.generation
        have lateWrapped := lateRepresents.generation
        unfold after at earlyGeneration lateGeneration
        simp only [Stream.fresh] at earlyCount
        omega
      rw [readUnder_eq earlyRepresents lateRepresents continues same found again]

theorem published_bytes_immutable_sample :
    readUnder 1 true (after (sampleCalls 2 ++ [.frame (sampleRun 7 7) sampleFrame 100000]))
        (.fragment 2) = none ∨
      readUnder 1 true (after (sampleCalls 2 ++ [.frame (sampleRun 7 7) sampleFrame 100000]))
        (.fragment 2) = some [1, 1] :=
  published_bytes_immutable (sampleCalls 2) [.frame (sampleRun 7 7) sampleFrame 100000]
    (by decide +kernel) 1 true true (.fragment 2) [1, 1] (by decide +kernel)

end AirTizen.Video

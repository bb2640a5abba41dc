import AirTizen.Control.Server
import AirTizen.Video.PlaylistText

/-!
# The paths of a playlist select their routes

The numbers that `airtizen_video_hls_manifest` prints into its paths are the
ones that `handle_client` reads off them, and no other route matches.
-/

namespace AirTizen.Control

open CText Scanf Video

theorem sscanf_hlsInit {generation : Nat} (small : generation < 2 ^ 32) :
    sscanf hlsInitFormat (initPath generation) =
      { values := [.unsigned generation], parsed := some (initPath generation).length } := by
  have path : initPath generation =
      ascii "/video/hls/" ++ (decimal generation ++ (ascii "/init" ++ [])) := by
    simp [initPath]
  have format : hlsInitFormat = literal "/video/hls/" ++
      (.unsigned 32 :: (literal "/init" ++ [.position])) := by
    simp [hlsInitFormat]
  rw [sscanf, format]
  generalize (initPath generation).length = total
  rw [path, scanFrom_literal, scanFrom_unsigned (by norm_num) small _ (by decide),
    scanFrom_literal]
  rfl

theorem sscanf_hlsSegment {generation first last : Nat} (small : generation < 2 ^ 32)
    (smallFirst : first < 2 ^ 64) (smallLast : last < 2 ^ 64) :
    sscanf hlsSegmentFormat (segmentPath generation first last) =
      { values := [.unsigned generation, .unsigned first, .unsigned last]
        parsed := some (segmentPath generation first last).length } := by
  have path : segmentPath generation first last =
      ascii "/video/hls/" ++ (decimal generation ++ (ascii "/" ++ (decimal first ++
        (ascii "/" ++ (decimal last ++ []))))) := by
    simp [segmentPath]
  have format : hlsSegmentFormat = literal "/video/hls/" ++
      (.unsigned 32 :: (literal "/" ++ (.unsigned 64 :: (literal "/" ++
        [.unsigned 64, .position])))) := by
    simp [hlsSegmentFormat]
  rw [sscanf, format]
  generalize (segmentPath generation first last).length = total
  rw [path, scanFrom_literal, scanFrom_unsigned (by norm_num) small _ (by simp [ascii]; decide),
    scanFrom_literal, scanFrom_unsigned (by norm_num) smallFirst _ (by simp [ascii]; decide),
    scanFrom_literal, scanFrom_unsigned (by norm_num) smallLast _ (by simp)]
  rfl

theorem sscanf_hlsSegment_initPath {generation : Nat} (small : generation < 2 ^ 32) :
    sscanf hlsSegmentFormat (initPath generation) = { values := [.unsigned generation] } := by
  have path : initPath generation =
      ascii "/video/hls/" ++ (decimal generation ++ (ascii "/" ++ ascii "init")) := by
    simp [initPath, ascii]
  have format : hlsSegmentFormat = literal "/video/hls/" ++
      (.unsigned 32 :: (literal "/" ++ (.unsigned 64 :: (literal "/" ++
        [.unsigned 64, .position])))) := by
    simp [hlsSegmentFormat]
  rw [sscanf, format]
  generalize (initPath generation).length = total
  rw [path, scanFrom_literal, scanFrom_unsigned (by norm_num) small _ (by decide),
    scanFrom_literal]
  rfl

theorem sscanf_hlsInit_segmentPath {generation : Nat} (small : generation < 2 ^ 32)
    (first last : Nat) :
    sscanf hlsInitFormat (segmentPath generation first last) =
      { values := [.unsigned generation] } := by
  have path : segmentPath generation first last =
      ascii "/video/hls/" ++ (decimal generation ++ (ascii "/" ++ (decimal first ++
        (ascii "/" ++ decimal last)))) := by
    simp [segmentPath]
  have format : hlsInitFormat = literal "/video/hls/" ++
      (.unsigned 32 :: (literal "/" ++ (literal "init" ++ [.position]))) := by
    simp [hlsInitFormat, literal, ascii]
  rw [sscanf, format]
  generalize (segmentPath generation first last).length = total
  rw [path, scanFrom_literal, scanFrom_unsigned (by norm_num) small _ (by simp [ascii]; decide),
    scanFrom_literal]
  cases printed : decimal first with
  | nil => exact absurd printed (decimal_ne_nil first)
  | cons byte rest =>
      -- a digit is not the letter that the format wants next
      have digit : isDigit byte = true := isDigit_of_mem_decimal (by rw [printed]; simp)
      have other : byte ≠ 105 := by
        rintro rfl
        exact absurd digit (by decide)
      have letters : literal "init" = .byte 105 :: literal "nit" := rfl
      rw [letters, List.cons_append, List.cons_append, scanFrom, if_neg other]
      rfl

/-! ## The routes -/

theorem parseRoute_initPath {generation : Nat} (small : generation < 2 ^ 32) :
    parseRoute (initPath generation) = { hlsInit := true, hlsGeneration := generation } := by
  have positive : 0 < (initPath generation).length := by simp [initPath, ascii]
  have whole : scansWhole (sscanf hlsInitFormat (initPath generation)) 1
      (initPath generation) = true := by
    simp [sscanf_hlsInit small, scansWhole, Scanned.count]
  have partial' : scansWhole { values := [.unsigned generation] } 3 (initPath generation) =
      false := rfl
  have report : parseReport (initPath generation) = (false, {}) := rfl
  have artwork : sscanf artworkFormat (initPath generation) = {} := rfl
  have photo : sscanf photoFormat (initPath generation) = {} := rfl
  have photoReport : sscanf photoReportFormat (initPath generation) = {} := rfl
  have sequence : parseMediaSequence (initPath generation) = none := rfl
  have manifest : (initPath generation == ascii "/video/live.m3u8") = false := rfl
  have mediaInit : (initPath generation == ascii "/video/init") = false := rfl
  simp only [parseRoute, report, artwork, photo, photoReport, sequence, manifest, mediaInit, whole,
    sscanf_hlsSegment_initPath small, partial']
  simp [sscanf_hlsInit small, positive, scansWhole, Scanned.count, unsignedAt, signedAt]

theorem parseRoute_segmentPath {generation first last : Nat} (small : generation < 2 ^ 32)
    (smallFirst : first < 2 ^ 64) (smallLast : last < 2 ^ 64) :
    parseRoute (segmentPath generation first last) =
      { hlsSegment := true, hlsGeneration := generation, hlsFirst := first, hlsLast := last } := by
  have nonempty : ¬ (segmentPath generation first last).isEmpty = true := by
    simp [segmentPath, ascii]
  have whole : scansWhole (sscanf hlsSegmentFormat (segmentPath generation first last)) 3
      (segmentPath generation first last) = true := by
    simp [sscanf_hlsSegment small smallFirst smallLast, scansWhole, Scanned.count]
  have report : parseReport (segmentPath generation first last) = (false, {}) := rfl
  have artwork : sscanf artworkFormat (segmentPath generation first last) = {} := rfl
  have photo : sscanf photoFormat (segmentPath generation first last) = {} := rfl
  have photoReport : sscanf photoReportFormat (segmentPath generation first last) = {} := rfl
  have sequence : parseMediaSequence (segmentPath generation first last) = none := rfl
  have manifest : (segmentPath generation first last == ascii "/video/live.m3u8") = false := rfl
  have mediaInit : (segmentPath generation first last == ascii "/video/init") = false := rfl
  simp only [parseRoute, report, artwork, photo, photoReport, sequence, manifest, mediaInit, whole]
  simp [sscanf_hlsSegment small smallFirst smallLast, sscanf_hlsInit_segmentPath small,
    nonempty, scansWhole, Scanned.count, unsignedAt, signedAt]

end AirTizen.Control

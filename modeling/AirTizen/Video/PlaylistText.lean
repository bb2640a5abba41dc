import AirTizen.Video.Groups

/-!
# The text of a playlist

A playlist always fits its buffer, and a client that reads its lines gets back
the numbers and the paths that were printed.
-/

namespace AirTizen.Video

open CText

/-! ## Reading a playlist -/

def playlistLines (text : Bytes) : List Bytes := text.splitOn 10

def tagValue (tag : String) (text : Bytes) : Option Bytes :=
  (playlistLines text).findSome? fun line =>
    if (ascii tag).isPrefixOf line then some (line.drop (ascii tag).length) else none

def mediaSequence (text : Bytes) : Option Nat :=
  (tagValue "#EXT-X-MEDIA-SEQUENCE:" text).map decimalValue

def mapUri (text : Bytes) : Option Bytes :=
  (tagValue "#EXT-X-MAP:URI=\"" text).bind fun value => (strchr 34 value).map Prod.fst

/-- The paths of the segments: the lines that are no tags. -/
def segmentUris (text : Bytes) : List Bytes :=
  (playlistLines text).filter fun line => !line.isEmpty && line.head? != some 35

/-! ## The printed lines -/

theorem playlistLines_cons {line rest : Bytes} (whole : 10 ∉ line) :
    playlistLines (line ++ 10 :: rest) = line :: playlistLines rest := by
  refine List.splitOn_append_cons_of_forall_mem_beq_eq_false (fun byte membership => ?_) 10
    (by decide) rest
  rw [beq_eq_false_iff_ne]
  rintro rfl
  exact whole membership

def Plain (text : Bytes) : Prop := ∀ byte ∈ text, 32 < byte ∧ byte ≠ 34

instance (text : Bytes) : Decidable (Plain text) :=
  inferInstanceAs (Decidable (∀ byte ∈ text, 32 < byte ∧ byte ≠ 34))

theorem Plain.append {first second : Bytes} (plainFirst : Plain first)
    (plainSecond : Plain second) : Plain (first ++ second) := by
  intro byte membership
  rcases List.mem_append.mp membership with inFirst | inSecond
  · exact plainFirst byte inFirst
  · exact plainSecond byte inSecond

theorem Plain.not_mem_newline {text : Bytes} (plain : Plain text) : 10 ∉ text :=
  fun membership => absurd (plain 10 membership).1 (by decide)

theorem Plain.isSpace {text : Bytes} (plain : Plain text) :
    ∀ byte ∈ text, CText.isSpace byte = false := by
  intro byte membership
  have above := (plain byte membership).1
  rw [UInt8.lt_iff_toNat_lt] at above
  have space : (32 : UInt8).toNat = 32 := rfl
  have last : (13 : UInt8).toNat = 13 := rfl
  simp only [CText.isSpace, Bool.or_eq_false_iff, beq_eq_false_iff_ne, ne_eq, ← UInt8.toNat_inj,
    Bool.and_eq_false_iff, decide_eq_false_iff_not, UInt8.le_iff_toNat_le]
  omega

theorem plain_of_digits {text : Bytes} (digits : ∀ byte ∈ text, isDigit byte = true) :
    Plain text := by
  intro byte membership
  have digit := digits byte membership
  simp only [isDigit, Bool.and_eq_true, decide_eq_true_eq] at digit
  refine ⟨UInt8.lt_of_lt_of_le (by decide : (32 : UInt8) < 48) digit.1, ?_⟩
  rintro rfl
  exact absurd digit (by decide)

theorem plain_decimal (number : Nat) : Plain (decimal number) :=
  plain_of_digits fun _ => isDigit_of_mem_decimal

theorem plain_fixed6 (x : ℚ) : Plain (Binary64.fixed6 x) := by
  unfold Binary64.fixed6
  refine ((plain_decimal _).append (by decide)).append (plain_of_digits fun byte membership => ?_)
  simp only [Binary64.sixDigits, List.mem_map] at membership
  obtain ⟨digits, _, rfl⟩ := membership
  exact isDigit_digit (Nat.mod_lt _ (by decide))

theorem plain_authQuery {token : Bytes} (plain : Plain token) : Plain (authQuery token) := by
  unfold authQuery
  split
  · intro byte membership
    cases membership
  · exact Plain.append (by decide) plain

theorem plain_initUri (generation : Nat) {token : Bytes} (plain : Plain token) :
    Plain (initUri generation token) :=
  ((Plain.append (by decide) (plain_decimal _)).append (by decide)).append
    (plain_authQuery plain)

theorem plain_segmentUri (generation group : Nat) {token : Bytes} (plain : Plain token) :
    Plain (segmentUri generation group token) :=
  (((((Plain.append (by decide) (plain_decimal _)).append (by decide)).append
    (plain_decimal _)).append (by decide)).append (plain_decimal _)).append
      (plain_authQuery plain)

def headerLines (target firstGroup generation : Nat) (token : Bytes) : List Bytes :=
  [ascii "#EXTM3U", ascii "#EXT-X-VERSION:7",
    ascii "#EXT-X-TARGETDURATION:" ++ decimal target,
    ascii "#EXT-X-MEDIA-SEQUENCE:" ++ decimal firstGroup,
    ascii "#EXT-X-MAP:URI=\"" ++ (initUri generation token ++ [34])]

theorem playlistLines_header (target firstGroup generation : Nat) {token : Bytes}
    (plain : Plain token) (rest : Bytes) :
    playlistLines (manifestHeader target firstGroup generation token ++ rest) =
      headerLines target firstGroup generation token ++ playlistLines rest := by
  have split : manifestHeader target firstGroup generation token ++ rest =
      ascii "#EXTM3U" ++ 10 :: (ascii "#EXT-X-VERSION:7" ++ 10 ::
        ((ascii "#EXT-X-TARGETDURATION:" ++ decimal target) ++ 10 ::
          ((ascii "#EXT-X-MEDIA-SEQUENCE:" ++ decimal firstGroup) ++ 10 ::
            ((ascii "#EXT-X-MAP:URI=\"" ++ (initUri generation token ++ [34])) ++
              10 :: rest)))) := by
    simp only [manifestHeader, ascii, List.append_assoc]
    rfl
  have quoted : 10 ∉ initUri generation token ++ [34] := by
    rw [List.mem_append, not_or]
    exact ⟨(plain_initUri generation plain).not_mem_newline, by decide⟩
  have behind : ∀ {tag text : Bytes}, 10 ∉ tag → 10 ∉ text → 10 ∉ tag ++ text := by
    intro tag text inTag inText membership
    exact (List.mem_append.mp membership).elim inTag inText
  rw [split, playlistLines_cons (by decide), playlistLines_cons (by decide),
    playlistLines_cons (behind (by decide) (plain_decimal _).not_mem_newline),
    playlistLines_cons (behind (by decide) (plain_decimal _).not_mem_newline),
    playlistLines_cons (behind (by decide) quoted)]
  rfl

theorem playlistLines_entry (duration : ℚ) (generation group : Nat) {token : Bytes}
    (plain : Plain token) (rest : Bytes) :
    playlistLines (manifestEntry duration generation group token ++ rest) =
      (ascii "#EXTINF:" ++ (Binary64.fixed6 duration ++ ascii ",")) ::
        segmentUri generation group token :: playlistLines rest := by
  have split : manifestEntry duration generation group token ++ rest =
      (ascii "#EXTINF:" ++ (Binary64.fixed6 duration ++ ascii ",")) ++ 10 ::
        (segmentUri generation group token ++ 10 :: rest) := by
    simp only [manifestEntry, ascii, List.append_assoc]
    rfl
  have information : 10 ∉ ascii "#EXTINF:" ++ (Binary64.fixed6 duration ++ ascii ",") := by
    rw [List.mem_append, List.mem_append, not_or, not_or]
    exact ⟨by decide, (plain_fixed6 duration).not_mem_newline, by decide⟩
  rw [split, playlistLines_cons information,
    playlistLines_cons (plain_segmentUri generation group plain).not_mem_newline]

theorem playlistLines_entries (duration : Nat → ℚ) (generation : Nat) {token : Bytes}
    (plain : Plain token) (groups : List Nat) :
    playlistLines (groups.map fun group =>
        manifestEntry (duration group) generation group token).flatten =
      (groups.flatMap fun group =>
        [ascii "#EXTINF:" ++ (Binary64.fixed6 (duration group) ++ ascii ","),
          segmentUri generation group token]) ++ [[]] := by
  induction groups with
  | nil => rfl
  | cons group rest inductionHypothesis =>
      rw [List.map_cons, List.flatten_cons, playlistLines_entry _ _ _ plain,
        inductionHypothesis]
      rfl

theorem playlistLines_pieces (undefinedCast : ℚ → Nat) {token : Bytes} (plain : Plain token)
    (store : Store) (groups : List Nat) :
    playlistLines (manifestPieces undefinedCast token store groups).flatten =
      headerLines (targetDuration undefinedCast (longestGroup store groups)) (groups.headD 0)
          store.state.generation token ++
        (groups.flatMap fun group =>
          [ascii "#EXTINF:" ++ (Binary64.fixed6 (groupDuration store group) ++ ascii ","),
            segmentUri store.state.generation group token]) ++ [[]] := by
  rw [manifestPieces, List.flatten_cons, playlistLines_header _ _ _ plain,
    playlistLines_entries (groupDuration store) _ plain, List.append_assoc]

/-! ## What a client reads -/

theorem mediaSequence_pieces (undefinedCast : ℚ → Nat) {token : Bytes} (plain : Plain token)
    (store : Store) (groups : List Nat) :
    mediaSequence (manifestPieces undefinedCast token store groups).flatten =
      some (groups.headD 0) := by
  have found : tagValue "#EXT-X-MEDIA-SEQUENCE:"
      (manifestPieces undefinedCast token store groups).flatten =
      some (decimal (groups.headD 0)) := by
    rw [tagValue, playlistLines_pieces undefinedCast plain]
    rfl
  rw [mediaSequence, found, Option.map_some, decimalValue_decimal]

theorem mapUri_pieces (undefinedCast : ℚ → Nat) {token : Bytes} (plain : Plain token)
    (store : Store) (groups : List Nat) :
    mapUri (manifestPieces undefinedCast token store groups).flatten =
      some (initUri store.state.generation token) := by
  have found : tagValue "#EXT-X-MAP:URI=\""
      (manifestPieces undefinedCast token store groups).flatten =
      some (initUri store.state.generation token ++ [34]) := by
    rw [tagValue, playlistLines_pieces undefinedCast plain]
    rfl
  have unquoted : 34 ∉ initUri store.state.generation token := fun membership =>
    (plain_initUri store.state.generation plain 34 membership).2 rfl
  rw [mapUri, found, Option.bind_some, strchr_eq_some unquoted]
  rfl

theorem filter_entries (duration : Nat → ℚ) (generation : Nat) (token : Bytes)
    (groups : List Nat) :
    (groups.flatMap fun group =>
        [ascii "#EXTINF:" ++ (Binary64.fixed6 (duration group) ++ ascii ","),
          segmentUri generation group token]).filter
        (fun line => !line.isEmpty && line.head? != some 35) =
      groups.map fun group => segmentUri generation group token := by
  induction groups with
  | nil => rfl
  | cons group rest inductionHypothesis =>
      rw [List.flatMap_cons, List.filter_append, inductionHypothesis]
      rfl

theorem segmentUris_pieces (undefinedCast : ℚ → Nat) {token : Bytes} (plain : Plain token)
    (store : Store) (groups : List Nat) :
    segmentUris (manifestPieces undefinedCast token store groups).flatten =
      groups.map fun group => segmentUri store.state.generation group token := by
  have header : (headerLines (targetDuration undefinedCast (longestGroup store groups))
      (groups.headD 0) store.state.generation token).filter
        (fun line => !line.isEmpty && line.head? != some 35) = [] := rfl
  have behind : ([[]] : List Bytes).filter
      (fun line => !line.isEmpty && line.head? != some 35) = [] := rfl
  rw [segmentUris, playlistLines_pieces undefinedCast plain, List.filter_append,
    List.filter_append, header, behind, List.nil_append, List.append_nil, filter_entries]

/-! ## The buffer is large enough -/

theorem seconds_bounds {microseconds : Nat} (small : microseconds < 2 ^ 64) :
    0 ≤ Binary64.div (Binary64.ofNat microseconds) 1000000 ∧
      Binary64.div (Binary64.ofNat microseconds) 1000000 + 1 ≤ 10 ^ 14 := by
  unfold Binary64.div Binary64.ofNat
  have bound : (microseconds : ℚ) < 18446744073709551616 := by exact_mod_cast small
  have inner := Binary64.round_le (x := (microseconds : ℚ)) (by positivity)
  have innerNonneg := Binary64.round_nonneg (x := (microseconds : ℚ)) (by positivity)
  have quotientNonneg : 0 ≤ Binary64.round (microseconds : ℚ) / 1000000 := by positivity
  have outer := Binary64.round_le quotientNonneg
  refine ⟨Binary64.round_nonneg quotientNonneg, ?_⟩
  norm_num
  linarith

theorem groupDuration_bounds (store : Store) (group : Nat) :
    0 ≤ groupDuration store group ∧ groupDuration store group + 1 ≤ 10 ^ 14 :=
  seconds_bounds (Nat.mod_lt _ (by norm_num))

theorem unsignedCast_lt (undefinedCast : ℚ → Nat) (value : ℚ) :
    unsignedCast undefinedCast value < 2 ^ 32 := by
  unfold unsignedCast
  split
  next small =>
    have floor := Int.floor_le value
    by_contra large
    have above : (2 : ℤ) ^ 32 ≤ ⌊value⌋ := by omega
    have cast : ((2 : ℚ) ^ 32) ≤ ⌊value⌋ := by exact_mod_cast above
    linarith
  · exact Nat.mod_lt _ (by norm_num)

theorem targetDuration_lt (undefinedCast : ℚ → Nat) (longest : ℚ) :
    targetDuration undefinedCast longest < 10 ^ 10 := by
  have cast := unsignedCast_lt undefinedCast longest
  unfold targetDuration
  simp only
  split <;> omega

theorem authQuery_length_le {token : Bytes} (short : token.length ≤ 64) :
    (authQuery token).length ≤ 71 := by
  unfold authQuery
  split
  · simp
  · rw [List.length_append]
    have seven : (ascii "?token=").length = 7 := rfl
    omega

theorem manifestHeader_length_le {target firstGroup generation : Nat} {token : Bytes}
    (shortTarget : target < 10 ^ 10) (shortGroup : firstGroup < 10 ^ 20)
    (shortGeneration : generation < 10 ^ 10) (shortToken : token.length ≤ 64) :
    (manifestHeader target firstGroup generation token).length ≤ 250 := by
  have targetWidth := decimal_length_le (by norm_num) shortTarget
  have groupWidth := decimal_length_le (by norm_num) shortGroup
  have generationWidth := decimal_length_le (by norm_num) shortGeneration
  have queryWidth := authQuery_length_le shortToken
  have first : (ascii "#EXTM3U\n#EXT-X-VERSION:7\n#EXT-X-TARGETDURATION:").length = 47 := rfl
  have second : (ascii "\n#EXT-X-MEDIA-SEQUENCE:").length = 23 := rfl
  have third : (ascii "\n#EXT-X-MAP:URI=\"").length = 17 := rfl
  have path : (ascii "/video/hls/").length = 11 := rfl
  have init : (ascii "/init").length = 5 := rfl
  have last : (ascii "\"\n").length = 2 := rfl
  simp only [manifestHeader, initUri, initPath, List.length_append, first, second, third, path,
    init, last]
  omega

theorem manifestEntry_length_le {duration : ℚ} {generation group : Nat} {token : Bytes}
    (nonneg : 0 ≤ duration) (short : duration + 1 ≤ 10 ^ 14)
    (shortGeneration : generation < 10 ^ 10) (shortLast : groupLast group < 10 ^ 20)
    (shortToken : token.length ≤ 64) :
    (manifestEntry duration generation group token).length ≤ 180 := by
  have durationWidth := Binary64.fixed6_length_le (by norm_num) nonneg short
  have generationWidth := decimal_length_le (by norm_num) shortGeneration
  have ordered : groupFirst group ≤ groupLast group := by
    unfold groupLast hlsGroup
    omega
  have firstWidth := decimal_length_le (by norm_num) (ordered.trans_lt shortLast)
  have lastWidth := decimal_length_le (by norm_num) shortLast
  have queryWidth := authQuery_length_le shortToken
  have tag : (ascii "#EXTINF:").length = 8 := rfl
  have comma : (ascii ",\n").length = 2 := rfl
  have path : (ascii "/video/hls/").length = 11 := rfl
  have slash : (ascii "/").length = 1 := rfl
  have newline : (ascii "\n").length = 1 := rfl
  simp only [manifestEntry, segmentUri, segmentPath, List.length_append, tag, comma, path, slash,
    newline]
  omega

/-- Every playlist of a reachable store fits the buffer. -/
theorem Represents.manifest_fits {store : Store} {stream : Stream}
    (represents : Represents store stream) (undefinedCast : ℚ → Nat) {token : Bytes}
    (shortToken : token.length ≤ 64) {groups : List Nat}
    (listed : listedGroups store = some groups) :
    (manifestPieces undefinedCast token store groups).flatten.length < manifestCapacity := by
  obtain ⟨first, count, rfl, positive, few, complete⟩ := represents.listedGroups_spec listed
  have latest := represents.toCounted.latest_lt
  have shortGeneration : store.state.generation < 10 ^ 10 := by
    rw [represents.generation]
    omega
  have shortLast : ∀ group ∈ List.range' first count, groupLast group < 10 ^ 20 := by
    intro group membership
    have newest := (complete group membership).1
    omega
  have shortFirst : (List.range' first count).headD 0 < 10 ^ 20 := by
    obtain ⟨rest, rfl⟩ : ∃ rest, count = rest + 1 := ⟨count - 1, by omega⟩
    have bound := shortLast first (by simp)
    rw [List.range'_succ, List.headD_cons]
    unfold groupLast groupFirst hlsGroup at bound
    omega
  have header := manifestHeader_length_le
    (targetDuration_lt undefinedCast (longestGroup store (List.range' first count)))
    shortFirst shortGeneration shortToken
  have entries : ((List.range' first count).map fun group =>
      (manifestEntry (groupDuration store group) store.state.generation group token).length).sum ≤
        count * 180 := by
    have bound := List.sum_le_card_nsmul ((List.range' first count).map fun group =>
      (manifestEntry (groupDuration store group) store.state.generation group token).length) 180
      (by
        intro length membership
        obtain ⟨group, inGroups, rfl⟩ := List.mem_map.mp membership
        obtain ⟨nonneg, short⟩ := groupDuration_bounds store group
        exact manifestEntry_length_le nonneg short shortGeneration (shortLast group inGroups)
          shortToken)
    simpa using bound
  rw [manifestPieces, List.flatten_cons, List.length_append, List.length_flatten, List.map_map]
  unfold manifestCapacity
  change _ + ((List.range' first count).map fun group =>
      (manifestEntry (groupDuration store group) store.state.generation group token).length).sum < _
  omega

end AirTizen.Video

import AirTizen.Library.JsonShape
import AirTizen.Receiver.Lifecycle
import AirTizen.Status.Document

/-!
# Complete status documents

In every state that the receiver reaches, the texts fit their buffers, the document
fits its own, and it is read as one JSON object with the stored values.
-/

namespace AirTizen.Status

open CText Printf AirTizen.Media AirTizen.Receiver
open Json (Parses Body Denotes Meaning Shape)

/-! ## Buffers -/

theorem buffer_spec {capacity : Nat} {text : Bytes} (room : 6 * text.length + 3 ≤ capacity) :
    jsonQuote capacity text = some (buffer capacity text) ∧
      Parses (buffer capacity text) (.string (Utf8.lossy text)) ∧
      (buffer capacity text).length ≤ 6 * text.length + 2 := by
  obtain ⟨quoted, fits, short⟩ := jsonQuote_fits room
  have holds : buffer capacity text = quoted := by rw [buffer, fits, Option.getD_some]
  rw [holds]
  exact ⟨fits, jsonQuote_parses fits, short⟩

theorem buffer_plain {capacity : Nat} {text : Bytes} (plain : ∀ byte ∈ text, Json.Plain byte)
    (room : text.length + 3 ≤ capacity) : (buffer capacity text).length = text.length + 2 := by
  rw [buffer, jsonQuote_plain plain room, Option.getD_some]
  simp

/-! ## Logs -/

def quotedLine (line : Bytes) : Bytes := buffer lineCapacity line

def continued (lines : List Bytes) : Bytes := lines.flatMap fun line => 44 :: quotedLine line

theorem commas_continued (line : Bytes) (more : List Bytes) :
    Json.commas ((line :: more).map quotedLine) = quotedLine line ++ continued more := by
  induction more generalizing line with
  | nil =>
      rw [List.map_singleton, Json.commas_singleton, continued, List.flatMap_nil, List.append_nil]
  | cons second more inductionHypothesis =>
      have behind := inductionHypothesis second
      rw [List.map_cons] at behind
      rw [List.map_cons, List.map_cons, Json.commas_cons, behind]
      rfl

theorem continued_cons (line : Bytes) (lines : List Bytes) :
    continued (line :: lines) = 44 :: quotedLine line ++ continued lines := rfl

/-- The lines behind the first one: the longest prefix of them that fits is written. -/
theorem logsLoop_continued {capacity used i : Nat} {lines : List Bytes} (later : i ≠ 0)
    (room : used + 2 ≤ capacity) (short : ∀ line ∈ lines, line.length < 180) :
    ∃ shown, shown <+: lines ∧ logsLoop capacity used i lines = continued shown ∧
      used + (continued shown).length + 2 ≤ capacity ∧
      ∀ longer, longer <+: lines → used + (continued longer).length + 2 ≤ capacity →
        longer <+: shown := by
  induction lines generalizing used i with
  | nil => exact ⟨[], List.prefix_rfl, rfl, room, fun longer isPrefix _ => isPrefix⟩
  | cons line rest inductionHypothesis =>
      have one := short line List.mem_cons_self
      have quoted : jsonQuote lineCapacity line = some (quotedLine line) :=
        (buffer_spec (by unfold lineCapacity; omega)).1
      have length : ∀ lines, (continued (line :: lines)).length =
          (quotedLine line).length + 1 + (continued lines).length := by
        intro lines
        simp only [continued_cons, List.length_append, List.length_cons]
      rw [logsLoop, quoted]
      simp only [if_neg later, List.singleton_append, List.length_cons]
      by_cases full : used + (quotedLine line).length + 3 > capacity
      · rw [if_pos full]
        refine ⟨[], List.nil_prefix, rfl, room, fun longer isPrefix fits => ?_⟩
        rcases List.prefix_cons_iff.mp isPrefix with rfl | ⟨behind, rfl, -⟩
        · exact List.prefix_rfl
        · rw [length] at fits
          omega
      · rw [if_neg full]
        obtain ⟨shown, isPrefix, written, inside, longest⟩ :=
          @inductionHypothesis (used + ((quotedLine line).length + 1)) (i + 1) (Nat.succ_ne_zero i)
            (by omega) fun other membership => short other (List.mem_cons_of_mem _ membership)
        have total := length shown
        refine ⟨line :: shown, List.cons_prefix_cons.mpr ⟨rfl, isPrefix⟩, ?_, by omega, ?_⟩
        · rw [written]
          rfl
        · intro longer longerPrefix fits
          rcases List.prefix_cons_iff.mp longerPrefix with rfl | ⟨behind, rfl, behindPrefix⟩
          · exact List.nil_prefix
          · rw [length] at fits
            exact List.cons_prefix_cons.mpr ⟨rfl, longest behind behindPrefix (by omega)⟩

/-- The capacity that the check of the loop asks for before it writes the last of the lines:
one more than needed for the first line. -/
def asked : List Bytes → Nat
  | [line] => (quotedLine line).length + 4
  | lines => (Json.arrayText (lines.map quotedLine)).length + 1

theorem asked_continued (line : Bytes) (lines : List Bytes) :
    asked (line :: lines) = (quotedLine line).length + 3 + max 1 (continued lines).length := by
  cases lines with
  | nil => rfl
  | cons second lines =>
      change (Json.arrayText ((line :: second :: lines).map quotedLine)).length + 1 = _
      rw [Json.arrayText, commas_continued, continued_cons]
      simp only [List.length_append, List.length_cons, List.length_nil]
      omega

/-- The array of log lines fits its buffer: it shows the longest prefix that the check lets
pass. -/
theorem logsJson_longest {capacity : Nat} {lines : List Bytes} (room : 3 ≤ capacity)
    (short : ∀ line ∈ lines, line.length < 180) :
    ∃ shown, shown <+: lines ∧ logsJson capacity lines = Json.arrayText (shown.map quotedLine) ∧
      asked shown ≤ capacity ∧
      ∀ longer, longer <+: lines → asked longer ≤ capacity → longer <+: shown := by
  cases lines with
  | nil => exact ⟨[], List.prefix_rfl, rfl, room, fun longer isPrefix _ => isPrefix⟩
  | cons line rest =>
      have one := short line List.mem_cons_self
      have quoted : jsonQuote lineCapacity line = some (quotedLine line) :=
        (buffer_spec (by unfold lineCapacity; omega)).1
      rw [logsJson, logsLoop, quoted]
      simp only [if_pos trivial, List.nil_append]
      by_cases full : 1 + (quotedLine line).length + 3 > capacity
      · rw [if_pos full]
        refine ⟨[], List.nil_prefix, rfl, room, fun longer isPrefix fits => ?_⟩
        rcases List.prefix_cons_iff.mp isPrefix with rfl | ⟨behind, rfl, -⟩
        · exact List.prefix_rfl
        · rw [asked_continued] at fits
          omega
      · rw [if_neg full]
        obtain ⟨shown, isPrefix, written, inside, longest⟩ :=
          @logsLoop_continued capacity (1 + (quotedLine line).length) 1 rest Nat.one_ne_zero
            (by omega) fun other membership => short other (List.mem_cons_of_mem _ membership)
        refine ⟨line :: shown, List.cons_prefix_cons.mpr ⟨rfl, isPrefix⟩, ?_, ?_, ?_⟩
        · rw [written, Json.arrayText, commas_continued]
        · rw [asked_continued]
          omega
        · intro longer longerPrefix fits
          rcases List.prefix_cons_iff.mp longerPrefix with rfl | ⟨behind, rfl, behindPrefix⟩
          · exact List.nil_prefix
          · rw [asked_continued] at fits
            exact List.cons_prefix_cons.mpr ⟨rfl, longest behind behindPrefix (by omega)⟩

theorem asked_length (lines : List Bytes) :
    (Json.arrayText (lines.map quotedLine)).length + 1 ≤ asked lines ∧
      asked lines ≤ (Json.arrayText (lines.map quotedLine)).length + 2 := by
  match lines with
  | [] => exact ⟨Nat.le_refl _, Nat.le_succ _⟩
  | [line] =>
      rw [List.map_singleton, Json.arrayText, Json.commas_singleton, asked]
      simp only [List.length_append, List.length_cons, List.length_nil]
      omega
  | first :: second :: lines => exact ⟨Nat.le_refl _, Nat.le_succ _⟩

theorem logsJson_spec {capacity : Nat} {lines : List Bytes} (room : 3 ≤ capacity)
    (short : ∀ line ∈ lines, line.length < 180) :
    ∃ shown, shown <+: lines ∧ logsJson capacity lines = Json.arrayText (shown.map quotedLine) ∧
      (logsJson capacity lines).length < capacity ∧
      ((Json.arrayText (lines.map quotedLine)).length + 1 < capacity → shown = lines) := by
  obtain ⟨shown, isPrefix, written, passes, longest⟩ := logsJson_longest room short
  refine ⟨shown, isPrefix, written, ?_, fun fits => ?_⟩
  · rw [written]
    exact (asked_length shown).1.trans passes
  · have whole := longest lines List.prefix_rfl ((asked_length lines).2.trans fits)
    exact isPrefix.eq_of_length_le whole.length_le

/-! ## The playback state -/

structure Printable (playback : PlaybackState) : Prop where
  url_length : playback.url.length ≤ 2048
  url_plain : ∀ byte ∈ playback.url, Json.Plain byte
  generation : playback.generation < 2 ^ 32
  command : playback.command < 2 ^ 32
  fraction : playback.fraction.isFinite = true
  rate : playback.rate.isFinite = true
  seek : playback.seek.isFinite = true

theorem plain_of_range {byte : UInt8} (low : 32 ≤ byte.toNat) (high : byte.toNat < 128)
    (quote : byte ≠ 34) (backslash : byte ≠ 92) : Json.Plain byte :=
  ⟨Nat.not_lt.mpr low, not_or.mpr ⟨quote, backslash⟩, Nat.not_le.mpr high⟩

theorem plain_of_urlByte {byte : UInt8} (allowed : urlByte byte = true) : Json.Plain byte := by
  simp only [urlByte, Bool.and_eq_true, decide_eq_true_eq, Bool.not_eq_true', List.contains_eq_mem,
    decide_eq_false_iff_not, UInt8.le_iff_toNat_le] at allowed
  obtain ⟨⟨low, high⟩, ordinary⟩ := allowed
  refine plain_of_range (Nat.le_of_succ_le low) (Nat.lt_succ_of_le (Nat.le_succ_of_le high)) ?_ ?_
  · rintro rfl
    exact ordinary (by decide)
  · rintro rfl
    exact ordinary (by decide)

theorem playableUrl_plain {url : Bytes} (playable : playableUrl url = true) :
    url.length ≤ 2048 ∧ ∀ byte ∈ url, Json.Plain byte := by
  rw [playableUrl, Bool.and_eq_true, decide_eq_true_eq] at playable
  obtain ⟨length, checked⟩ := playable
  split at checked
  · cases checked
  · simp only [Bool.and_eq_true, List.all_eq_true] at checked
    exact ⟨length, fun byte membership => plain_of_urlByte (checked.1.2 byte membership)⟩

theorem nextUnsigned_lt (number : Nat) : nextUnsigned number < 2 ^ 32 :=
  Nat.mod_lt _ (by norm_num)

theorem isFinite_of_inRange {value : Binary64.Double} {limit : ℚ}
    (inside : value.inRange limit = true) : value.isFinite = true := by
  cases value with
  | finite => rfl
  | infinite => cases inside
  | nan => cases inside

theorem play_fraction {url : Option Bytes} {fraction : Binary64.Double} {state : PlaybackState}
    (accepted : (play url fraction state).1 = 0) : fraction.isFinite = true := by
  cases url with
  | none => cases accepted
  | some text =>
      by_cases inside : fraction.inRange 1 = true
      · exact isFinite_of_inRange inside
      · simp [play, inside] at accepted

/-- No call stores a text or a number that the document cannot print. -/
theorem Printable.step {playback : PlaybackState} (printable : Printable playback)
    (call : PlaybackCall) : Printable (call.step playback) := by
  cases call with
  | play url fraction =>
      show Printable (play url fraction playback).2
      rcases play_cases url fraction playback with ⟨-, same⟩ | ⟨ok, text, -, playable, changed⟩
      · rw [same]
        exact printable
      · rw [changed]
        obtain ⟨length, plain⟩ := playableUrl_plain playable
        exact ⟨length, plain, nextUnsigned_lt _, Nat.two_pow_pos 32, play_fraction ok, rfl, rfl⟩
  | stop =>
      exact ⟨Nat.zero_le _, List.forall_mem_nil _, nextUnsigned_lt _, Nat.two_pow_pos 32,
        rfl, rfl, rfl⟩
  | rate value =>
      show Printable (Media.rate value playback).2
      unfold Media.rate
      split_ifs with refused
      · exact printable
      · have finite : value.isFinite = true := by
          rw [not_and_or, not_not, not_not] at refused
          rcases refused with rfl | rfl <;> rfl
        exact { printable with command := nextUnsigned_lt _, rate := finite }
  | seek position =>
      show Printable (Media.seek position playback).2
      rcases seek_cases position playback with ⟨-, same⟩ | ⟨-, inside, changed⟩
      · rw [same]
        exact printable
      · rw [changed]
        exact { printable with command := nextUnsigned_lt _, seek := isFinite_of_inRange inside }
  | report generation position duration ready failed ended =>
      show Printable (report generation position duration ready failed ended playback).2
      rcases report_cases generation position duration ready failed ended playback with
        ⟨-, same⟩ | ⟨-, -, -, changed⟩
      · rw [same]
        exact printable
      · rw [changed]
        have rate : ∀ ends : Bool, (if ends = true then .finite 0 else playback.rate :
            Binary64.Double).isFinite = true := by
          intro ends
          cases ends with
          | false => exact printable.rate
          | true => rfl
        exact { printable with rate := rate (ended || failed) }

theorem printable_after (calls : List PlaybackCall) :
    Printable (Machine.run PlaybackCall.step .initial calls) := by
  apply Machine.run_invariant (fun _ call printable => printable.step call)
  exact ⟨by decide, by simp [PlaybackState.initial], by decide, by decide, rfl, rfl, rfl⟩

/-! ## The arguments and what they denote -/

structure Slot where
  argument : Argument
  meaning : Meaning
  bound : Nat

structure Slot.Fits (slot : Slot) : Prop where
  denotes : Denotes slot.argument.print slot.meaning
  short : slot.argument.print.length ≤ slot.bound

def flagSlot (value : Bool) : Slot := ⟨flag value, .value (.bool value), 5⟩

def wordSlot (text : Bytes) : Slot := ⟨.string text, .word (Utf8.lossy text), 64⟩

def quotedSlot (capacity : Nat) (text : Bytes) (bound : Nat) : Slot :=
  ⟨.string (buffer capacity text), .value (.string (Utf8.lossy text)), bound⟩

def unsignedSlot (number : Nat) : Slot :=
  ⟨.unsigned number, .value (.number (decimal number)), 10⟩

def unsignedLongSlot (number : Nat) : Slot :=
  ⟨.unsignedLong number, .value (.number (decimal number)), 20⟩

def doubleSlot (text : Bytes) : Slot := ⟨.double text, .value (.number text), 16⟩

def quotedNumberSlot (number : Nat) : Slot :=
  ⟨.unsigned number, .word (Utf8.lossy (decimal number)), 10⟩

def logsValue (shown : List Bytes) : Json.Value :=
  .array (shown.map fun line => .string (Utf8.lossy line))

def logsSlot (lines shown : List Bytes) : Slot :=
  ⟨.string (logsJson 10000 lines), .value (logsValue shown), 9999⟩

theorem flagSlot_fits (value : Bool) : (flagSlot value).Fits where
  denotes := Parses.bool value
  short := by cases value <;> decide

theorem wordSlot_fits {text : Bytes} (plain : ∀ byte ∈ text, Json.Plain byte)
    (short : text.length ≤ 64) : (wordSlot text).Fits where
  denotes := Json.body_plain plain
  short := short

theorem quotedSlot_fits {capacity : Nat} {text : Bytes} {bound : Nat}
    (room : 6 * text.length + 3 ≤ capacity) (within : 6 * text.length + 2 ≤ bound) :
    (quotedSlot capacity text bound).Fits where
  denotes := (buffer_spec room).2.1
  short := (buffer_spec room).2.2.trans within

theorem decimal_plain (number : Nat) : ∀ byte ∈ decimal number, Json.Plain byte := by
  intro byte membership
  have digit := isDigit_of_mem_decimal membership
  have other : ∀ excluded, isDigit excluded = false → byte ≠ excluded := by
    rintro _ notDigit rfl
    exact absurd digit (Bool.eq_false_iff.mp notDigit)
  simp only [isDigit, Bool.and_eq_true, decide_eq_true_eq, UInt8.le_iff_toNat_le] at digit
  obtain ⟨low, high⟩ := digit
  exact plain_of_range (le_trans (by decide) low) (lt_of_le_of_lt high (by decide)) (other 34 rfl)
    (other 92 rfl)

theorem decimal_short {number : Nat} (bounded : number < 2 ^ 32) : (decimal number).length ≤ 10 :=
  decimal_length_le (by norm_num) (bounded.trans (by norm_num))

theorem unsignedSlot_fits {number : Nat} (bounded : number < 2 ^ 32) :
    (unsignedSlot number).Fits where
  denotes := .number (Json.isNumber_decimal number)
  short := decimal_short bounded

theorem unsignedLongSlot_fits (number : UInt64) : (unsignedLongSlot number.toNat).Fits where
  denotes := .number (Json.isNumber_decimal _)
  short := by
    show (decimal number.toNat).length ≤ 20
    exact decimal_length_le (by norm_num) (number.toNat_lt.trans (by norm_num))

theorem quotedNumberSlot_fits (number : UInt32) : (quotedNumberSlot number.toNat).Fits where
  denotes := Json.body_plain (decimal_plain _)
  short := decimal_short number.toNat_lt

/-- `%.9g` prints a finite double as a JSON number, and in at most 16 bytes. -/
def Formatted (value : Binary64.Double) (text : Bytes) : Prop :=
  value.isFinite = true → Json.IsNumber text ∧ text.length ≤ 16

theorem doubleSlot_fits {value : Binary64.Double} {text : Bytes} (formatted : Formatted value text)
    (finite : value.isFinite = true) : (doubleSlot text).Fits where
  denotes := .number (formatted finite).1
  short := (formatted finite).2

/-! ## The whole document -/

def statusShape : Shape :=
  .object
    [("ok", .bool true), ("service", .quotedHole .string 0), ("receiverName", .hole .string 1),
      ("discovery", .object
        [("profile", .quotedHole .string 2), ("model", .quotedHole .string 3),
          ("features", .quotedHole .string 4), ("implementedFeatures", .word "0x4803a383,0x0"),
          ("sourceVersion", .word "220.68"), ("experimental", .hole .string 5)]),
      ("capabilities", .object
        [("audio", .bool true), ("mirroring", .bool true), ("videoStreaming", .bool true),
          ("photos", .bool true), ("photoCaching", .bool true), ("slideshow", .bool false),
          ("drm", .bool false), ("productionReady", .bool false),
          ("audioOutput", .quotedHole .string 6)]),
      ("protocols", .object
        [("airplay", .object
          [("enabled", .bool true), ("state", .quotedHole .string 7),
            ("discoverable", .hole .string 8), ("connected", .hole .string 9),
            ("device", .hole .string 10), ("lastError", .hole .string 11)])]),
      ("audio", .object
        [("state", .hole .string 12), ("sampleRate", .hole .unsigned 13),
          ("bytesReceived", .hole .unsignedLong 14)]),
      ("video", .object
        [("available", .hole .string 15), ("generation", .hole .unsigned 16),
          ("start", .hole .unsignedLong 17), ("latest", .hole .unsignedLong 18),
          ("width", .hole .unsigned 19), ("height", .hole .unsigned 20),
          ("mime", .hole .string 21), ("framesReceived", .hole .unsignedLong 22)]),
      ("nowPlaying", .object
        [("title", .hole .string 23), ("artist", .hole .string 24), ("album", .hole .string 25),
          ("artwork", .hole .unsigned 26), ("positionSamples", .hole .unsigned 27),
          ("durationSamples", .hole .unsigned 28)]),
      ("photo", .object
        [("active", .hole .string 29), ("generation", .hole .unsigned 30),
          ("width", .hole .unsigned 31), ("height", .hole .unsigned 32),
          ("dissolve", .hole .string 33), ("ready", .hole .string 34),
          ("failed", .hole .string 35)]),
      ("playback", .object
        [("active", .hole .string 36), ("generation", .hole .unsigned 37),
          ("command", .hole .unsigned 38), ("url", .hole .string 39),
          ("fraction", .hole .double 40), ("rate", .hole .double 41),
          ("seek", .hole .double 42)]),
      ("status", .object
        [("mdns", .quotedHole .string 43), ("raop", .quotedHole .string 44),
          ("pair", .quotedHole .string 45), ("audio", .hole .string 46),
          ("connected", .hole .string 47), ("device", .hole .string 48),
          ("codec", .hole .string 49), ("rate", .quotedHole .unsigned 50),
          ("buffer", .word "adaptive"), ("detail", .quotedHole .string 51),
          ("lastError", .hole .string 52)]),
      ("logs", .hole .string 53)]

def conversions : List Conversion :=
  [.string, .string, .string, .string, .string, .string, .string, .string, .string, .string,
    .string, .string, .string, .unsigned, .unsignedLong, .string, .unsigned, .unsignedLong,
    .unsignedLong, .unsigned, .unsigned, .string, .unsignedLong, .string, .string, .string,
    .unsigned, .unsigned, .unsigned, .string, .unsigned, .unsigned, .unsigned, .string,
    .string, .string, .string, .unsigned, .unsigned, .string, .double, .double, .double,
    .string, .string, .string, .string, .string, .string, .string, .unsigned, .string,
    .string, .string]

def bounds : List Nat :=
  [64, 290, 64, 64, 64, 5, 64, 64, 5, 5, 764, 764, 188, 10, 20, 5, 10, 20, 20, 10, 10, 476, 20,
    1532, 1532, 1532, 10, 10, 10, 5, 10, 10, 10, 5, 5, 5, 5, 10, 10, 2050, 16, 16, 16, 64, 64,
    64, 188, 5, 764, 92, 10, 64, 764, 9999]

/-- The format is that of the shape, its conversions are those of the arguments, and
what it prints stays below the size of `g_json`. -/
theorem statusFormat_tokens :
    tokens 0 statusFormat = statusShape.tokens ∧
      (tokens 0 statusFormat).filterMap Token.conversion = conversions ∧
      weight bounds (tokens 0 statusFormat) < jsonCapacity := by
  have checked : ∃ characters, statusFormat = spelled characters ∧
      tokens 0 (spelled characters) = statusShape.tokens ∧
      (tokens 0 (spelled characters)).filterMap Token.conversion = conversions ∧
      weight bounds (tokens 0 (spelled characters)) < jsonCapacity := by
    apply Exists.intro
    apply And.intro
    · unfold statusFormat
      repeat' first | exact ascii_ofList _ | apply spelled_append
    · decide +kernel
  obtain ⟨characters, same, checked⟩ := checked
  rw [same]
  exact checked

theorem printf_eq (platform : Platform) (state : State) (doubles : Doubles) :
    printf (arguments platform state doubles) statusFormat =
      some (expand (arguments platform state doubles) statusShape.tokens) := by
  obtain ⟨shape, inOrder, -⟩ := statusFormat_tokens
  have kinds : (arguments platform state doubles).map Argument.conversion = conversions := rfl
  rw [printf, kinds, if_pos inOrder, shape]

def slots (platform : Platform) (state : State) (doubles : Doubles) (shown : List Bytes) :
    List Slot :=
  let audio := quotedSlot 200 state.audioText 188
  let device := quotedSlot 800 state.core.device.bytes 764
  let error := quotedSlot 800 state.lastError 764
  [wordSlot state.service, quotedSlot 300 state.receiverName 290,
    wordSlot state.profile, wordSlot state.model, wordSlot state.featuresTxt,
    flagSlot (state.profile == ascii "uxplay-test"),
    wordSlot platform.audioOutput,
    wordSlot state.airplay, flagSlot state.mdns, flagSlot state.core.connected, device, error,
    audio, unsignedSlot state.core.sampleRate.toNat, unsignedLongSlot state.core.audioBytes.toNat,
    flagSlot state.video.available, unsignedSlot state.video.generation.toNat,
    unsignedLongSlot state.video.start.toNat, unsignedLongSlot state.video.latest.toNat,
    unsignedSlot state.video.width.toNat, unsignedSlot state.video.height.toNat,
    quotedSlot 500 state.video.mime.bytes 476, unsignedLongSlot state.core.videoFrames.toNat,
    quotedSlot 1540 state.metadata.title.bytes 1532,
    quotedSlot 1540 state.metadata.artist.bytes 1532,
    quotedSlot 1540 state.metadata.album.bytes 1532, unsignedSlot state.metadata.artwork.toNat,
    unsignedSlot state.metadata.progress.toNat, unsignedSlot state.metadata.total.toNat,
    flagSlot state.photo.active, unsignedSlot state.photo.generation.toNat,
    unsignedSlot state.photo.width.toNat, unsignedSlot state.photo.height.toNat,
    flagSlot state.photo.dissolve, flagSlot state.photo.ready, flagSlot state.photo.failed,
    flagSlot state.playback.active, unsignedSlot state.playback.generation,
    unsignedSlot state.playback.command, quotedSlot 12300 state.playback.url 2050,
    doubleSlot doubles.fraction, doubleSlot doubles.rate, doubleSlot doubles.seek,
    wordSlot (ascii (if state.mdns then "advertising" else "offline")),
    wordSlot (ascii (if state.core.running then "listening" else "offline")),
    wordSlot (ascii (if state.core.paired then "verified" else "idle")), audio,
    flagSlot state.core.connected, device,
    quotedSlot 128 state.codecText 92, quotedNumberSlot state.core.sampleRate.toNat,
    wordSlot state.detail, error, logsSlot state.logs.lines shown]

theorem slots_arguments (platform : Platform) (state : State) (doubles : Doubles)
    (shown : List Bytes) :
    (slots platform state doubles shown).map Slot.argument = arguments platform state doubles := rfl

theorem slots_bounds (platform : Platform) (state : State) (doubles : Doubles)
    (shown : List Bytes) :
    (slots platform state doubles shown).map Slot.bound = bounds := rfl

theorem statusShape_wellFormed (platform : Platform) (state : State) (doubles : Doubles)
    (shown : List Bytes) :
    statusShape.wellFormed
      (((slots platform state doubles shown).map Slot.meaning).map Meaning.isWord) = true := by
  have kinds : ((slots platform state doubles shown).map Slot.meaning).map Meaning.isWord =
      [true, false, true, true, true, false, true, true, false, false, false, false, false, false,
        false, false, false, false, false, false, false, false, false, false, false, false, false,
        false, false, false, false, false, false, false, false, false, false, false, false, false,
        false, false, false, true, true, true, false, false, false, false, true, true, false,
        false] := rfl
  rw [kinds]
  decide +kernel

/-! ## Every reachable state -/

/-- The name and the playback state are what calls have left, and the rest is
whatever the fields can hold. -/
structure Reachable (state : State) : Prop where
  named : ∃ calls, state.receiverName = (Runtime.after calls).name
  played : ∃ calls, state.playback = Machine.run PlaybackCall.step .initial calls

structure Doubles.Print (doubles : Doubles) (playback : PlaybackState) : Prop where
  fraction : Formatted playback.fraction doubles.fraction
  rate : Formatted playback.rate doubles.rate
  seek : Formatted playback.seek doubles.seek

variable {state : State}

theorem Reachable.name_length (reachable : Reachable state) : state.receiverName.length ≤ 48 := by
  obtain ⟨calls, named⟩ := reachable.named
  rw [named]
  exact Runtime.validName_length (Runtime.lifecycle_after calls).named.1

theorem Reachable.printable (reachable : Reachable state) : Printable state.playback := by
  obtain ⟨calls, played⟩ := reachable.played
  rw [played]
  exact printable_after calls

theorem lastError_length (state : State) : state.lastError.length < 128 := by
  unfold State.lastError
  split
  · exact state.error.short.trans (by norm_num)
  · exact state.core.lastError.short

theorem orElse_length {text other : Bytes} {bound : Nat} (short : text.length < bound)
    (instead : other.length < bound) : (orElse text other).length < bound := by
  unfold orElse
  split
  · exact instead
  · exact short

theorem lines_short (logs : Logs) : ∀ line ∈ logs.lines, line.length < 180 := by
  intro line membership
  obtain ⟨i, -, rfl⟩ := List.mem_map.mp membership
  exact (logs.slots _).short

theorem audioText_length (state : State) : state.audioText.length < 32 :=
  orElse_length state.core.audio.short (by decide)

theorem codecText_length (state : State) : state.codecText.length < 16 :=
  orElse_length state.core.codec.short (by decide)

theorem Reachable.quotes_fit (reachable : Reachable state) :
    ∀ call ∈ state.quotes, 6 * call.2.length + 3 ≤ call.1 := by
  have title := state.metadata.title.short
  have artist := state.metadata.artist.short
  have album := state.metadata.album.short
  have url := reachable.printable.url_length
  have mime := state.video.mime.short
  have name := reachable.name_length
  have device := state.core.device.short
  have error := lastError_length state
  have audio := audioText_length state
  have codec := codecText_length state
  simp only [State.quotes, List.forall_mem_append, List.forall_mem_cons, List.forall_mem_map]
  have lines : ∀ line ∈ state.logs.lines, 6 * line.length + 3 ≤ lineCapacity := by
    intro line membership
    have short := lines_short state.logs line membership
    unfold lineCapacity
    omega
  refine ⟨⟨?_, ?_, ?_, ?_, ?_, ?_, ?_, ?_, ?_, ?_, List.forall_mem_nil _⟩, lines⟩
  all_goals omega

theorem url_fits {playback : PlaybackState} (printable : Printable playback) :
    (quotedSlot 12300 playback.url 2050).Fits where
  denotes := by
    have length := printable.url_length
    exact (buffer_spec (by omega)).2.1
  short := by
    have length := printable.url_length
    show (buffer 12300 playback.url).length ≤ 2050
    rw [buffer_plain printable.url_plain (by omega)]
    omega

theorem logsSlot_fits {lines shown : List Bytes}
    (logged : logsJson 10000 lines = Json.arrayText (shown.map quotedLine))
    (short : (logsJson 10000 lines).length < 10000)
    (lineShort : ∀ line ∈ shown, line.length < 180) : (logsSlot lines shown).Fits where
  denotes := by
    show Parses (logsJson 10000 lines) (logsValue shown)
    rw [logged]
    apply Parses.array
    rw [List.forall₂_map_left_iff, List.forall₂_map_right_iff, List.forall₂_same]
    intro line membership
    have bound := lineShort line membership
    exact (buffer_spec (by unfold lineCapacity; omega)).2.1
  short := Nat.le_sub_one_of_lt short

def Word (text : Bytes) : Prop := (∀ byte ∈ text, Json.Plain byte) ∧ text.length ≤ 64

instance (text : Bytes) : Decidable (Word text) := inferInstanceAs (Decidable (_ ∧ _))

theorem word_ite {condition : Prop} [Decidable condition] {first second : Bytes}
    (one : Word first) (other : Word second) : Word (if condition then first else second) := by
  split
  · exact one
  · exact other

theorem word_flag (flag : Bool) {first second : String} (one : Word (ascii first))
    (other : Word (ascii second)) : Word (ascii (if flag then first else second)) := by
  cases flag with
  | false => exact other
  | true => exact one

theorem words_fit (state : State) (platform : Platform) :
    ∀ text ∈ [state.service, state.profile, state.model, state.featuresTxt, platform.audioOutput,
        state.airplay, ascii (if state.mdns then "advertising" else "offline"),
        ascii (if state.core.running then "listening" else "offline"),
        ascii (if state.core.paired then "verified" else "idle"), state.detail],
      (wordSlot text).Fits := by
  have words : ∀ text ∈ [state.service, state.profile, state.model, state.featuresTxt,
      platform.audioOutput, state.airplay,
      ascii (if state.mdns then "advertising" else "offline"),
      ascii (if state.core.running then "listening" else "offline"),
      ascii (if state.core.paired then "verified" else "idle"), state.detail], Word text := by
    simp only [List.forall_mem_cons]
    refine ⟨word_ite ?_ (word_ite ?_ ?_), word_ite ?_ ?_, word_ite ?_ ?_, word_ite ?_ ?_, ?_,
      word_ite ?_ (word_ite ?_ (word_ite ?_ ?_)), word_flag _ ?_ ?_, word_flag _ ?_ ?_,
      word_flag _ ?_ ?_, word_ite ?_ (word_ite ?_ ?_), List.forall_mem_nil _⟩
    case refine_10 => cases platform <;> decide +kernel
    all_goals decide +kernel
  exact fun text membership => wordSlot_fits (words text membership).1 (words text membership).2

theorem Reachable.slots_fit (reachable : Reachable state) (platform : Platform)
    {doubles : Doubles} (print : doubles.Print state.playback) {shown : List Bytes}
    (logs : (logsSlot state.logs.lines shown).Fits) :
    ∀ slot ∈ slots platform state doubles shown, slot.Fits := by
  have title := state.metadata.title.short
  have artist := state.metadata.artist.short
  have album := state.metadata.album.short
  have mime := state.video.mime.short
  have name := reachable.name_length
  have deviceLength := state.core.device.short
  have errorLength := lastError_length state
  have audioLength := audioText_length state
  have codec := codecText_length state
  have printable := reachable.printable
  have words := words_fit state platform
  simp only [List.forall_mem_cons] at words
  obtain ⟨service, profile, model, featuresTxt, audioOutput, airplay, mdns, raop, pair, detail, -⟩ :=
    words
  have audio : (quotedSlot 200 state.audioText 188).Fits := quotedSlot_fits (by omega) (by omega)
  have device : (quotedSlot 800 state.core.device.bytes 764).Fits :=
    quotedSlot_fits (by omega) (by omega)
  have error : (quotedSlot 800 state.lastError 764).Fits := quotedSlot_fits (by omega) (by omega)
  have number : ∀ value : UInt32, (unsignedSlot value.toNat).Fits :=
    fun value => unsignedSlot_fits value.toNat_lt
  simp only [slots, List.forall_mem_cons]
  exact ⟨service, quotedSlot_fits (by omega) (by omega), profile, model, featuresTxt,
    flagSlot_fits _, audioOutput, airplay, flagSlot_fits _, flagSlot_fits _, device, error,
    audio, number _, unsignedLongSlot_fits _,
    flagSlot_fits _, number _, unsignedLongSlot_fits _, unsignedLongSlot_fits _, number _,
    number _, quotedSlot_fits (by omega) (by omega), unsignedLongSlot_fits _,
    quotedSlot_fits (by omega) (by omega), quotedSlot_fits (by omega) (by omega),
    quotedSlot_fits (by omega) (by omega), number _, number _, number _,
    flagSlot_fits _, number _, number _, number _, flagSlot_fits _, flagSlot_fits _,
    flagSlot_fits _,
    flagSlot_fits _, unsignedSlot_fits printable.generation, unsignedSlot_fits printable.command,
    url_fits printable, doubleSlot_fits print.fraction printable.fraction,
    doubleSlot_fits print.rate printable.rate, doubleSlot_fits print.seek printable.seek,
    mdns, raop, pair, audio, flagSlot_fits _, device,
    quotedSlot_fits (by omega) (by omega), quotedNumberSlot_fits _, detail, error, logs,
    List.forall_mem_nil _⟩

def statusValue (platform : Platform) (state : State) (doubles : Doubles) (shown : List Bytes) :
    Json.Value :=
  let object (members : List (String × Json.Value)) : Json.Value :=
    .object (members.map fun (name, value) => (name.toList, value))
  let text (bytes : Bytes) : Json.Value := .string (Utf8.lossy bytes)
  let number (value : Nat) : Json.Value := .number (decimal value)
  object
    [("ok", .bool true), ("service", text state.service),
      ("receiverName", text state.receiverName),
      ("discovery", object
        [("profile", text state.profile), ("model", text state.model),
          ("features", text state.featuresTxt),
          ("implementedFeatures", .string "0x4803a383,0x0".toList),
          ("sourceVersion", .string "220.68".toList),
          ("experimental", .bool (state.profile == ascii "uxplay-test"))]),
      ("capabilities", object
        [("audio", .bool true), ("mirroring", .bool true), ("videoStreaming", .bool true),
          ("photos", .bool true), ("photoCaching", .bool true), ("slideshow", .bool false),
          ("drm", .bool false), ("productionReady", .bool false),
          ("audioOutput", text platform.audioOutput)]),
      ("protocols", object
        [("airplay", object
          [("enabled", .bool true), ("state", text state.airplay),
            ("discoverable", .bool state.mdns), ("connected", .bool state.core.connected),
            ("device", text state.core.device.bytes), ("lastError", text state.lastError)])]),
      ("audio", object
        [("state", text state.audioText), ("sampleRate", number state.core.sampleRate.toNat),
          ("bytesReceived", number state.core.audioBytes.toNat)]),
      ("video", object
        [("available", .bool state.video.available),
          ("generation", number state.video.generation.toNat),
          ("start", number state.video.start.toNat), ("latest", number state.video.latest.toNat),
          ("width", number state.video.width.toNat), ("height", number state.video.height.toNat),
          ("mime", text state.video.mime.bytes),
          ("framesReceived", number state.core.videoFrames.toNat)]),
      ("nowPlaying", object
        [("title", text state.metadata.title.bytes), ("artist", text state.metadata.artist.bytes),
          ("album", text state.metadata.album.bytes),
          ("artwork", number state.metadata.artwork.toNat),
          ("positionSamples", number state.metadata.progress.toNat),
          ("durationSamples", number state.metadata.total.toNat)]),
      ("photo", object
        [("active", .bool state.photo.active), ("generation", number state.photo.generation.toNat),
          ("width", number state.photo.width.toNat), ("height", number state.photo.height.toNat),
          ("dissolve", .bool state.photo.dissolve), ("ready", .bool state.photo.ready),
          ("failed", .bool state.photo.failed)]),
      ("playback", object
        [("active", .bool state.playback.active), ("generation", number state.playback.generation),
          ("command", number state.playback.command), ("url", text state.playback.url),
          ("fraction", .number doubles.fraction), ("rate", .number doubles.rate),
          ("seek", .number doubles.seek)]),
      ("status", object
        [("mdns", text (ascii (if state.mdns then "advertising" else "offline"))),
          ("raop", text (ascii (if state.core.running then "listening" else "offline"))),
          ("pair", text (ascii (if state.core.paired then "verified" else "idle"))),
          ("audio", text state.audioText), ("connected", .bool state.core.connected),
          ("device", text state.core.device.bytes), ("codec", text state.codecText),
          ("rate", text (decimal state.core.sampleRate.toNat)),
          ("buffer", .string "adaptive".toList), ("detail", text state.detail),
          ("lastError", text state.lastError)]),
      ("logs", logsValue shown)]

theorem statusShape_value (platform : Platform) (state : State) (doubles : Doubles)
    (shown : List Bytes) :
    statusShape.value ((slots platform state doubles shown).map Slot.meaning) =
      statusValue platform state doubles shown := rfl

/-- The document holds the stored values, and of the log lines the oldest, all of
them when they fit. -/
structure Complete (platform : Platform) (state : State) (doubles : Doubles) : Prop where
  quoted : ∀ call ∈ state.quotes, ∃ quoted, jsonQuote call.1 call.2 = some quoted
  document : ∃ text shown, printf (arguments platform state doubles) statusFormat = some text ∧
    text.length < jsonCapacity ∧ statusJson platform state doubles = some text ∧
    shown <+: state.logs.lines ∧
    ((Json.arrayText (state.logs.lines.map quotedLine)).length + 1 < 10000 →
      shown = state.logs.lines) ∧
    Json.decode text = some (statusValue platform state doubles shown)

/-- Every document that is asked for is complete. -/
theorem status_complete (platform : Platform) (reachable : Reachable state) {doubles : Doubles}
    (print : doubles.Print state.playback) : Complete platform state doubles where
  quoted := fun call membership =>
    ⟨_, (buffer_spec (reachable.quotes_fit call membership)).1⟩
  document := by
    obtain ⟨shown, isPrefix, logged, room, whole⟩ :=
      @logsJson_spec 10000 state.logs.lines (by norm_num) (lines_short state.logs)
    have logs : (logsSlot state.logs.lines shown).Fits :=
      logsSlot_fits logged room fun line membership =>
        lines_short state.logs line (isPrefix.subset membership)
    have fit := reachable.slots_fit platform print logs
    have printed := printf_eq platform state doubles
    rw [← slots_arguments platform state doubles shown] at printed
    have short : (expand ((slots platform state doubles shown).map Slot.argument)
        statusShape.tokens).length < jsonCapacity := by
      obtain ⟨shape, -, below⟩ := statusFormat_tokens
      rw [shape, ← slots_bounds platform state doubles shown] at below
      refine lt_of_le_of_lt (expand_length ?_ _) below
      rw [List.forall₂_map_left_iff, List.forall₂_map_right_iff, List.forall₂_same]
      exact fun slot membership => (fit slot membership).short
    have parses : Parses (expand ((slots platform state doubles shown).map Slot.argument)
        statusShape.tokens) (statusValue platform state doubles shown) := by
      rw [← statusShape_value]
      apply Shape.parses _ statusShape (statusShape_wellFormed platform state doubles shown)
      rw [List.forall₂_map_left_iff, List.forall₂_map_right_iff, List.forall₂_same]
      exact fun slot membership => (fit slot membership).denotes
    refine ⟨_, shown, printed, short, ?_, isPrefix, whole, parses.decode⟩
    rw [statusJson, ← slots_arguments platform state doubles shown, printed, Option.map_some,
      List.take_of_length_le (Nat.le_sub_one_of_lt short)]

/-- A snapshot of a receiver under this name that shares a film, while a device sends
a name that is not UTF-8. -/
def shared : State where
  started := true
  error := ⟨[], by decide, by decide⟩
  receiverName := ascii "Salon \"TV\""
  mdns := true
  uxplayTest := false
  core :=
    { running := true
      connected := true
      paired := true
      sampleRate := 44100
      audioBytes := 0
      videoFrames := 0
      device := ⟨[0xc3, 0x81, 0xff], by decide, by decide⟩
      audio := ⟨ascii "idle", by decide, by decide⟩
      codec := ⟨[], by decide, by decide⟩
      lastError := ⟨[], by decide, by decide⟩ }
  video :=
    { generation := 0
      width := 0
      height := 0
      latest := 0
      start := 0
      available := false
      mime := ⟨[], by decide, by decide⟩ }
  playback := PlaybackCall.step .initial (.play (some (ascii "http://tv/film")) (.finite (1 / 2)))
  photo :=
    { generation := 0
      width := 0
      height := 0
      active := false
      dissolve := false
      ready := false
      failed := false }
  metadata :=
    { title := ⟨[], by decide, by decide⟩
      artist := ⟨[], by decide, by decide⟩
      album := ⟨[], by decide, by decide⟩
      artwork := 0
      progress := 0
      total := 0 }
  logs :=
    { slots := fun _ => ⟨ascii "RAOP listener started", by decide, by decide⟩
      next := 1
      count := 1
      count_le := by decide }

theorem status_complete_shared :
    Complete .tizen shared ⟨ascii "0.5", ascii "1", ascii "-1"⟩ := by
  have zero : Json.AllDigits [48] := ⟨by decide, by decide⟩
  have one : Json.AllDigits [49] := ⟨by decide, by decide⟩
  have five : Json.AllDigits [53] := ⟨by decide, by decide⟩
  have half : Json.IsNumber (ascii "0.5") :=
    @Json.IsNumber.parts [] [48] [46, 53] [] (.inl rfl) zero (fun _ => rfl) (.digits five) .absent
  have whole : Json.IsNumber (ascii "1") :=
    @Json.IsNumber.parts [] [49] [] [] (.inl rfl) one (fun _ => rfl) .absent .absent
  have negative : Json.IsNumber (ascii "-1") :=
    @Json.IsNumber.parts [45] [49] [] [] (.inr rfl) one (fun _ => rfl) .absent .absent
  apply status_complete
  · exact
      { named := ⟨[.start { mdns := { socket := .ok 3, pipe := .ok (4, 5) } }
          (some (ascii "Salon \"TV\""))], by decide +kernel⟩
        played := ⟨[.play (some (ascii "http://tv/film")) (.finite (1 / 2))], rfl⟩ }
  · exact
      { fraction := fun _ => ⟨half, by decide⟩
        rate := fun _ => ⟨whole, by decide⟩
        seek := fun _ => ⟨negative, by decide⟩ }

end AirTizen.Status

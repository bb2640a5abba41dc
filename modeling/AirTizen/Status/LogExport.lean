import AirTizen.Audio.Delivery
import AirTizen.Status.Complete
import AirTizen.Status.QuoteBuffer

/-!
# The export of the log

`airtizen_core_logs_json` over the ring that `log_cb` fills.  The ring drops the
oldest lines; the export visits them oldest first and stops at the first one that
does not fit, so that what it leaves out is the newest.
-/

namespace AirTizen.Status

open CText
open Audio (logCb printed)

/-! ## The ring -/

/-- The arguments of a call of `log_cb`, and the time. -/
structure LogMessage where
  time : Nat
  level : Nat
  text : Bytes

def LogMessage.line (message : LogMessage) : Field 180 :=
  printed (decimal message.time ++ ascii " [" ++ decimal message.level ++ ascii "] " ++
    message.text.take 145)

def recorded (messages : List LogMessage) : List (Field 180) :=
  (messages.filter (·.level ≤ 6)).map LogMessage.line

def logged (messages : List LogMessage) : Logs :=
  messages.foldl (fun logs message => logCb message.time message.level message.text logs)
    (Audio.Core.initial ()).logs

def lastLines (messages : List LogMessage) : List Bytes :=
  ((recorded messages).drop ((recorded messages).length - 32)).map Field.bytes

structure Retains (logs : Logs) (entries : List (Field 180)) : Prop where
  next : logs.next = entries.length % 32
  count : logs.count = min entries.length 32
  slot : ∀ number entry, entries[number]? = some entry → entries.length ≤ number + 32 →
    logs.slots (Fin.ofNat 32 number) = entry

theorem Retains.logCb {logs : Logs} {entries : List (Field 180)} (retains : Retains logs entries)
    (message : LogMessage) (important : message.level ≤ 6) :
    Retains (logCb message.time message.level message.text logs) (entries ++ [message.line]) := by
  have ignored : ¬ 6 < message.level := Nat.not_lt.mpr important
  have slotNext : (⟨logs.next % 32, Nat.mod_lt _ (by decide)⟩ : Fin 32) =
      Fin.ofNat 32 entries.length := by
    apply Fin.ext
    simp [retains.next]
  constructor
  · simp only [Audio.logCb, if_neg ignored, retains.next, List.length_append, List.length_singleton]
    omega
  · simp only [Audio.logCb, if_neg ignored, retains.count, List.length_append,
      List.length_singleton]
    split_ifs <;> omega
  · intro number entry found recent
    simp only [Audio.logCb, if_neg ignored, slotNext]
    rw [List.length_append, List.length_singleton] at recent
    rcases Nat.lt_or_ge number entries.length with before | behind
    · rw [List.getElem?_append_left before] at found
      have other : Fin.ofNat 32 number ≠ Fin.ofNat 32 entries.length := by
        intro same
        have congruent := congrArg Fin.val same
        simp only [Fin.val_ofNat] at congruent
        omega
      rw [Function.update_of_ne other]
      exact retains.slot number entry found (by omega)
    · rw [List.getElem?_append_right behind] at found
      have last : number = entries.length := by
        have inside := (List.getElem?_eq_some_iff.mp found).1
        rw [List.length_singleton] at inside
        omega
      subst last
      rw [Nat.sub_self] at found
      cases found
      rw [Function.update_self]
      rfl

theorem logged_retains (messages : List LogMessage) :
    Retains (logged messages) (recorded messages) := by
  induction messages using List.reverseRecOn with
  | nil => exact ⟨rfl, rfl, fun number entry found => by simp [recorded] at found⟩
  | append_singleton messages message inductionHypothesis =>
      have step : logged (messages ++ [message]) =
          logCb message.time message.level message.text (logged messages) := by
        simp only [logged, List.foldl_append, List.foldl_cons, List.foldl_nil]
      rw [step]
      by_cases important : message.level ≤ 6
      · have lines : recorded (messages ++ [message]) = recorded messages ++ [message.line] := by
          simp [recorded, important]
        rw [lines]
        exact inductionHypothesis.logCb message important
      · have lines : recorded (messages ++ [message]) = recorded messages := by
          simp [recorded, important]
        rw [lines, Audio.logCb, if_pos (Nat.lt_of_not_le important)]
        exact inductionHypothesis

theorem logged_lines (messages : List LogMessage) :
    (logged messages).lines = lastLines messages := by
  obtain ⟨next, count, slot⟩ := logged_retains messages
  apply List.ext_getElem?
  intro i
  rw [Logs.lines, lastLines, count, List.getElem?_map, List.getElem?_map, List.getElem?_drop, next]
  rcases Nat.lt_or_ge i (min (recorded messages).length 32) with inside | outside
  · rw [List.getElem?_range inside]
    have bound : (recorded messages).length - 32 + i < (recorded messages).length := by omega
    have found := List.getElem?_eq_getElem bound
    have index : Fin.ofNat 32 ((recorded messages).length % 32 + 32 -
        min (recorded messages).length 32 + i) =
        Fin.ofNat 32 ((recorded messages).length - 32 + i) := by
      apply Fin.ext
      simp only [Fin.val_ofNat]
      omega
    rw [found, Option.map_some, Option.map_some, index, slot _ _ found (by omega)]
  · have behind : (recorded messages).length ≤ (recorded messages).length - 32 + i := by omega
    rw [List.getElem?_eq_none (by rw [List.length_range]; exact outside),
      List.getElem?_eq_none behind, Option.map_none, Option.map_none]

/-! ## `airtizen_core_logs_json` -/

/-- The loop over the lines from line `i` on: `used`, and the buffer behind it. -/
def exportLoop (i used : Nat) (out : Bytes) : List Bytes → Option (Nat × Bytes)
  | [] => some (used, out)
  | line :: rest =>
      match jsonQuote lineCapacity line with
      | none => some (used, out)
      | some quoted =>
          if used + quoted.length + 3 > out.length then some (used, out)
          else
            (if i ≠ 0 then (Buffer.store out used [44]).map fun out => (used + 1, out)
              else some (used, out)).bind fun (used, out) =>
                (Buffer.store out used quoted).bind fun out =>
                  exportLoop (i + 1) (used + quoted.length) out rest

/-- `airtizen_core_logs_json`; the outer `none` is a write outside of the buffer. -/
def exportLogs (logs : Logs) (out : Bytes) : Option Bytes :=
  if out.length < 3 then some out
  else
    (Buffer.store out 0 [91]).bind fun out =>
      (exportLoop 0 1 out logs.lines).bind fun (used, out) =>
        (Buffer.store out used [93]).bind fun out => Buffer.store out (used + 1) [0]

theorem stored_piece {Result : Type} (i : Nat) (front room quoted : Bytes)
    (next : Nat → Bytes → Option Result) (space : quoted.length + 1 ≤ room.length) :
    ((if i ≠ 0 then (Buffer.store (front ++ room) front.length [44]).map fun out =>
          (front.length + 1, out)
        else some (front.length, front ++ room)).bind fun state =>
          (Buffer.store state.2 state.1 quoted).bind fun out =>
            next (state.1 + quoted.length) out) =
      next (front ++ ((if i = 0 then [] else [44]) ++ quoted)).length
        (front ++ ((if i = 0 then [] else [44]) ++ quoted) ++
          room.drop ((if i = 0 then [] else [44]) ++ quoted).length) := by
  by_cases first : i = 0
  · have stored := Buffer.store_append front room quoted (by omega)
    simp only [first, ne_eq, not_true_eq_false, if_false, if_true, Option.bind_some, stored,
      List.nil_append, List.length_append, List.append_assoc]
  · have comma := Buffer.store_append front room [44] (by rw [List.length_singleton]; omega)
    have stored := Buffer.store_append (front ++ [44]) (room.drop 1) quoted
      (by rw [List.length_drop]; omega)
    simp only [List.length_append, List.length_singleton, List.append_assoc,
      List.drop_drop] at comma stored
    simp only [first, ne_eq, not_false_eq_true, if_true, if_false, comma, Option.map_some,
      Option.bind_some, stored, List.length_append, List.length_singleton, List.append_assoc,
      Nat.add_assoc]

/-- The loop writes behind `front` what the list of the other modules has, and leaves room
for the bracket and the zero. -/
theorem exportLoop_eq (i : Nat) (front room : Bytes) (lines : List Bytes)
    (space : 2 ≤ room.length) :
    (logsLoop (front ++ room).length front.length i lines).length + 2 ≤ room.length ∧
      exportLoop i front.length (front ++ room) lines =
        some ((front ++ logsLoop (front ++ room).length front.length i lines).length,
          front ++ logsLoop (front ++ room).length front.length i lines ++
            room.drop (logsLoop (front ++ room).length front.length i lines).length) := by
  induction lines generalizing i front room with
  | nil => exact ⟨space, by simp [exportLoop, logsLoop]⟩
  | cons line rest inductionHypothesis =>
      rw [exportLoop, logsLoop]
      cases jsonQuote lineCapacity line with
      | none => exact ⟨space, by simp⟩
      | some quoted =>
          dsimp only
          by_cases full : front.length + quoted.length + 3 > (front ++ room).length
          · rw [if_pos full, if_pos full]
            exact ⟨space, by simp⟩
          · rw [if_neg full, if_neg full]
            rw [List.length_append] at full
            rw [stored_piece i front room quoted (fun used out => exportLoop (i + 1) used out rest)
              (by omega)]
            generalize piece : (if i = 0 then [] else [44]) ++ quoted = cells
            have size : cells.length ≤ quoted.length + 1 := by
              rw [← piece]
              split_ifs <;> simp
            have behind : (room.drop cells.length).length = room.length - cells.length :=
              List.length_drop
            obtain ⟨fits, ran⟩ :=
              inductionHypothesis (i + 1) (front ++ cells) (room.drop cells.length) (by omega)
            have capacity : (front ++ cells ++ room.drop cells.length).length =
                (front ++ room).length := by
              simp only [List.length_append, behind]
              omega
            have used : (front ++ cells).length = front.length + cells.length := List.length_append
            rw [capacity, used] at fits ran
            refine ⟨?_, ?_⟩
            · rw [List.length_append]
              omega
            · rw [used, ran]
              simp only [List.length_append, List.append_assoc, List.drop_drop]

/-- The buffer holds the array with a zero behind it. -/
theorem exportLogs_eq {logs : Logs} {out : Bytes} (room : 3 ≤ out.length) :
    ∃ rest, exportLogs logs out = some (logsJson out.length logs.lines ++ 0 :: rest) ∧
      (logsJson out.length logs.lines ++ 0 :: rest).length = out.length := by
  have opened := Buffer.store_append [] out [91] (show 1 ≤ out.length by omega)
  rw [List.nil_append, List.nil_append, List.length_nil, List.length_singleton] at opened
  have size : (out.drop 1).length = out.length - 1 := List.length_drop
  have capacity : ([91] ++ out.drop 1).length = out.length := by
    rw [List.length_append, size, List.length_singleton]
    omega
  obtain ⟨fits, ran⟩ := exportLoop_eq 0 [91] (out.drop 1) logs.lines (by omega)
  rw [capacity, size, List.length_singleton] at fits
  rw [capacity, List.length_singleton] at ran
  rw [logsJson]
  generalize logsLoop out.length 1 0 logs.lines = body at fits ran
  have closed := Buffer.store_append ([91] ++ body) ((out.drop 1).drop body.length) [93]
    (by rw [List.length_drop, size, List.length_singleton]; omega)
  have ended := Buffer.store_append ([91] ++ body ++ [93])
    (((out.drop 1).drop body.length).drop 1) [0]
    (by rw [List.length_drop, List.length_drop, size, List.length_singleton]; omega)
  have next : ([91] ++ body).length + 1 = ([91] ++ body ++ [93]).length := by simp
  rw [List.length_singleton] at closed ended
  refine ⟨(((out.drop 1).drop body.length).drop 1).drop 1, ?_, ?_⟩
  · rw [exportLogs, if_neg (by omega), opened, Option.bind_some, ran, Option.bind_some]
    dsimp only
    rw [closed, Option.bind_some, next, ← List.append_assoc, ended]
    rfl
  · simp only [List.length_append, List.length_cons, List.length_drop, List.length_nil]
    omega

/-! ## Texts without zeros -/

theorem encodedByte_nonzero (byte : UInt8) : 0 ∉ encodedByte byte := by
  revert byte
  exact forall_byte (by decide +kernel)

theorem quotedBody_nonzero {text : Bytes} (ended : 0 ∉ text) : 0 ∉ quotedBody text := by
  induction size : text.length using Nat.strong_induction_on generalizing text with
  | h length inductionHypothesis =>
      cases text with
      | nil => simp [quotedBody_nil]
      | cons byte rest =>
          have shorter := encoded_shorter byte rest
          rw [quotedBody_encoded, List.mem_append, not_or]
          have inRest : 0 ∉ rest := fun zero => ended (List.mem_cons_of_mem _ zero)
          rcases turn_cases byte rest with ⟨count, -, -, -, turn⟩ | ⟨-, turn⟩
          · rw [turn] at shorter ⊢
            refine ⟨?_, inductionHypothesis _ (by rw [← size]; exact shorter) ?_ rfl⟩
            · rw [List.mem_cons, not_or]
              refine ⟨fun zero => ended (zero ▸ List.mem_cons_self), fun zero => ?_⟩
              exact inRest (List.mem_of_mem_take zero)
            · exact fun zero => inRest (List.mem_of_mem_drop zero)
          · rw [turn] at shorter ⊢
            exact ⟨encodedByte_nonzero byte,
              inductionHypothesis _ (by rw [← size]; exact shorter) inRest rfl⟩

theorem quoted_nonzero {text : Bytes} (ended : 0 ∉ text) : 0 ∉ quoted text := by
  have body := quotedBody_nonzero ended
  simp [quoted, body]

theorem arrayText_nonzero {pieces : List Bytes} (nonzero : ∀ piece ∈ pieces, 0 ∉ piece) :
    0 ∉ Json.arrayText pieces := by
  have separated : 0 ∉ Json.commas pieces := by
    induction pieces with
    | nil => simp [Json.commas]
    | cons first more inductionHypothesis =>
        obtain ⟨one, others⟩ := List.forall_mem_cons.mp nonzero
        cases more with
        | nil => rwa [Json.commas_singleton]
        | cons second more =>
            rw [Json.commas_cons]
            simp [one, inductionHypothesis others]
  simp [Json.arrayText, separated]

/-! ## What the export is for -/

/-- The room that an array of the lines takes, with the zero behind it. -/
def needed (lines : List Bytes) : Nat := (Json.arrayText (lines.map quoted)).length + 1

/-- Inside of the buffer stands an array of the lines from some line to the newest: of all
if they fit, and of none only if not even the newest one fits. -/
def KeepsNewest (messages : List LogMessage) (out : Bytes) : Prop :=
  ∃ after run, exportLogs (logged messages) out = some after ∧
    after.length = out.length ∧ 0 ∈ after ∧
    Json.decode (cString after) = some (.array (run.map fun line => .string (Utf8.lossy line))) ∧
    run <:+ lastLines messages ∧
    (needed (lastLines messages) ≤ out.length → run = lastLines messages) ∧
    (run = [] → ∀ newest, (lastLines messages).getLast? = some newest →
      out.length < needed [newest])

theorem lastLines_short (messages : List LogMessage) :
    ∀ line ∈ lastLines messages, line.length < 180 := by
  rw [← logged_lines]
  exact lines_short _

theorem lastLines_nonzero (messages : List LogMessage) :
    ∀ line ∈ lastLines messages, 0 ∉ line := by
  intro line membership
  obtain ⟨field, -, rfl⟩ := List.mem_map.mp membership
  exact field.terminated

theorem quotedLine_eq {line : Bytes} (short : line.length < 180) :
    quotedLine line = quoted line := by
  have fits := (@buffer_spec lineCapacity line (by unfold lineCapacity; omega)).1
  rw [jsonQuote_eq] at fits
  split_ifs at fits
  exact (Option.some.inj fits).symm

theorem asked_eq {lines : List Bytes} (short : ∀ line ∈ lines, line.length < 180) :
    asked lines = if lines.length = 1 then needed lines + 1 else needed lines := by
  have same : lines.map quotedLine = lines.map quoted :=
    List.map_congr_left fun line membership => quotedLine_eq (short line membership)
  match lines with
  | [] => rfl
  | [line] =>
      rw [asked, needed, ← same, List.map_singleton, Json.arrayText, Json.commas_singleton]
      simp
  | first :: second :: lines =>
      rw [needed, ← same]
      rfl

theorem asked_mono {shorter longer : List Bytes} (isPrefix : shorter <+: longer) :
    asked shorter ≤ asked longer := by
  obtain ⟨tail, rfl⟩ := isPrefix
  cases shorter with
  | nil =>
      cases tail with
      | nil => exact Nat.le_refl _
      | cons line tail =>
          have three : asked [] = 3 := rfl
          rw [List.nil_append, three, asked_continued]
          omega
  | cons line shorter =>
      have whole : continued (shorter ++ tail) = continued shorter ++ continued tail :=
        List.flatMap_append
      rw [List.cons_append, asked_continued, asked_continued, whole, List.length_append]
      omega

/-- What the export shows: the longest prefix of the lines that the check lets pass. -/
theorem exportLogs_spec (messages : List LogMessage) {out : Bytes} (room : 3 ≤ out.length) :
    ∃ after shown, exportLogs (logged messages) out = some after ∧
      after.length = out.length ∧ 0 ∈ after ∧
      Json.decode (cString after) =
        some (.array (shown.map fun line => .string (Utf8.lossy line))) ∧
      shown <+: lastLines messages ∧ asked shown ≤ out.length ∧
      ∀ longer, longer <+: lastLines messages → asked longer ≤ out.length → longer <+: shown := by
  obtain ⟨rest, ran, size⟩ := @exportLogs_eq (logged messages) out room
  rw [logged_lines] at ran size
  obtain ⟨shown, isPrefix, written, passes, longest⟩ :=
    logsJson_longest room (lastLines_short messages)
  have short : ∀ line ∈ shown, line.length < 180 := fun line membership =>
    lastLines_short messages line (isPrefix.subset membership)
  have nonzero : 0 ∉ Json.arrayText (shown.map quotedLine) := by
    apply arrayText_nonzero
    intro piece membership
    obtain ⟨line, isLine, rfl⟩ := List.mem_map.mp membership
    rw [quotedLine_eq (short line isLine)]
    exact quoted_nonzero (lastLines_nonzero messages line (isPrefix.subset isLine))
  have parses : Json.Parses (Json.arrayText (shown.map quotedLine))
      (.array (shown.map fun line => .string (Utf8.lossy line))) := by
    apply Json.Parses.array
    rw [List.forall₂_map_left_iff, List.forall₂_map_right_iff, List.forall₂_same]
    intro line membership
    have bound := short line membership
    exact (buffer_spec (by unfold lineCapacity; omega)).2.1
  rw [written] at ran size
  refine ⟨_, shown, ran, size, ?_, ?_, isPrefix, passes, longest⟩
  · exact List.mem_append_right _ List.mem_cons_self
  · rw [cString_text, cString_eq nonzero]
    exact parses.decode

/-! ## When the newest lines are kept -/

def texts (lines : List Bytes) : List (List Char) := lines.map Utf8.lossy

/-- Some but not all of the lines pass the check, and as many of the newest ones read the
same. -/
def Repeats (capacity : Nat) (lines : List Bytes) : Prop :=
  ∃ count, 0 < count ∧ count < lines.length ∧ asked (lines.take count) ≤ capacity ∧
    capacity < asked (lines.take (count + 1)) ∧
    texts (lines.take count) = texts (lines.drop (lines.length - count))

section

variable {messages : List LogMessage} {out : Bytes}

theorem texts_of_values {shown run : List Bytes}
    (same : (Json.Value.array (shown.map fun line => .string (Utf8.lossy line))) =
      .array (run.map fun line => .string (Utf8.lossy line))) : texts shown = texts run := by
  have strings : (texts shown).map Json.Value.string = (texts run).map Json.Value.string := by
    simpa [texts, List.map_map, Function.comp_def] using same
  exact List.map_injective_iff.mpr (fun _ _ equal => Json.Value.string.inj equal) strings

theorem KeepsNewest.cases (room : 3 ≤ out.length) (keeps : KeepsNewest messages out) :
    asked (lastLines messages) ≤ out.length ∨
      (out.length < asked ((lastLines messages).take 1) ∧
        ∀ newest, (lastLines messages).getLast? = some newest → out.length < needed [newest]) ∨
      Repeats out.length (lastLines messages) := by
  obtain ⟨after, shown, ran, -, -, read, isPrefix, passes, longest⟩ := exportLogs_spec messages room
  obtain ⟨other, run, ranAgain, -, -, readAgain, isSuffix, -, none⟩ := keeps
  rw [ran] at ranAgain
  cases ranAgain
  rw [read] at readAgain
  have same : texts shown = texts run := texts_of_values (Option.some.inj readAgain)
  have counts : shown.length = run.length := by
    simpa [texts] using congrArg List.length same
  have isTake : shown = (lastLines messages).take shown.length :=
    List.prefix_iff_eq_take.mp isPrefix
  by_cases all : (lastLines messages).length ≤ shown.length
  · left
    rwa [isPrefix.eq_of_length_le all] at passes
  right
  by_cases some_ : 0 < shown.length
  · right
    refine ⟨shown.length, some_, by omega, by rwa [← isTake], ?_, ?_⟩
    · by_contra fits
      have longer := (longest _ (List.take_prefix _ _) (Nat.le_of_not_lt fits)).length_le
      rw [List.length_take] at longer
      omega
    · have isDrop :
          run = (lastLines messages).drop ((lastLines messages).length - shown.length) := by
        rw [counts]
        exact List.suffix_iff_eq_drop.mp isSuffix
      rw [← isTake, ← isDrop]
      exact same
  · left
    refine ⟨?_, none (List.eq_nil_of_length_eq_zero (by omega))⟩
    by_contra fits
    have longer := (longest _ (List.take_prefix _ _) (Nat.le_of_not_lt fits)).length_le
    rw [List.length_take] at longer
    omega

/-- A prefix that does not pass the check bounds what is shown. -/
theorem shown_short {capacity count : Nat} {shown lines : List Bytes} (isPrefix : shown <+: lines)
    (passes : asked shown ≤ capacity) (full : capacity < asked (lines.take count)) :
    shown.length < count := by
  by_contra long
  have inside : lines.take count <+: shown :=
    List.prefix_of_prefix_length_le (List.take_prefix count lines) isPrefix
      ((List.length_take_le count lines).trans (Nat.le_of_not_lt long))
  exact absurd ((asked_mono inside).trans passes) (Nat.not_le.mpr full)

/-- Lines that are not all shown do not all fit, but for one that just fits. -/
theorem needed_all {count : Nat} (full : out.length < asked ((lastLines messages).take count))
    (many : 1 < (lastLines messages).length) : ¬ needed (lastLines messages) ≤ out.length := by
  intro fits
  have whole := asked_eq (lastLines_short messages)
  rw [if_neg (Nat.ne_of_gt many)] at whole
  have bound := asked_mono (List.take_prefix count (lastLines messages))
  omega

theorem keepsNewest_of_all (room : 3 ≤ out.length)
    (fits : asked (lastLines messages) ≤ out.length) : KeepsNewest messages out := by
  obtain ⟨after, shown, ran, size, ended, read, isPrefix, -, longest⟩ :=
    exportLogs_spec messages room
  have whole := longest _ List.prefix_rfl fits
  have all : shown = lastLines messages := isPrefix.eq_of_length_le whole.length_le
  subst all
  refine ⟨after, _, ran, size, ended, read, List.suffix_rfl, fun _ => rfl, ?_⟩
  intro empty newest last
  rw [empty] at last
  cases last

theorem keepsNewest_of_none (room : 3 ≤ out.length)
    (full : out.length < asked ((lastLines messages).take 1))
    (newestFull : ∀ newest, (lastLines messages).getLast? = some newest →
      out.length < needed [newest]) :
    KeepsNewest messages out := by
  obtain ⟨after, shown, ran, size, ended, read, isPrefix, passes, -⟩ :=
    exportLogs_spec messages room
  have empty : shown = [] :=
    List.eq_nil_of_length_eq_zero (Nat.lt_one_iff.mp (shown_short isPrefix passes full))
  subst empty
  refine ⟨after, [], ran, size, ended, read, List.nil_suffix, fun fits => ?_, fun _ => newestFull⟩
  match equation : lastLines messages with
  | [] => rfl
  | [line] =>
      have last := newestFull line (by rw [equation]; rfl)
      rw [equation] at fits
      exact absurd fits (Nat.not_le.mpr last)
  | first :: second :: lines =>
      exact absurd fits (needed_all full (by rw [equation]; simp))

theorem keepsNewest_of_repeats (room : 3 ≤ out.length)
    (repeats : Repeats out.length (lastLines messages)) : KeepsNewest messages out := by
  obtain ⟨count, positive, fewer, fits, full, same⟩ := repeats
  obtain ⟨after, shown, ran, size, ended, read, isPrefix, passes, longest⟩ :=
    exportLogs_spec messages room
  have atLeast := (longest _ (List.take_prefix _ _) fits).length_le
  have atMost := shown_short isPrefix passes full
  rw [List.length_take] at atLeast
  have isTake : shown = (lastLines messages).take count := by
    have counted : shown.length = count := by omega
    rw [← counted]
    exact List.prefix_iff_eq_take.mp isPrefix
  have values : (shown.map fun line => Json.Value.string (Utf8.lossy line)) =
      ((lastLines messages).drop ((lastLines messages).length - count)).map
        fun line => Json.Value.string (Utf8.lossy line) := by
    have mapped := congrArg (List.map Json.Value.string) same
    simpa [texts, List.map_map, Function.comp_def, isTake] using mapped
  refine ⟨after, _, ran, size, ended, read.trans (by rw [values]), List.drop_suffix _ _, ?_, ?_⟩
  · intro whole
    exact absurd whole (needed_all full (by omega))
  · intro empty
    have counted := congrArg List.length empty
    rw [List.length_drop, List.length_nil] at counted
    omega

end

/-! ## A flooded log -/

def hostile : LogMessage := ⟨0, 6, List.replicate 145 1⟩

def failure : LogMessage := ⟨1, 3, ascii "audio_open_failed"⟩

/-- The failure is the last of 32 messages. -/
def flooded : List LogMessage := List.replicate 31 hostile ++ [failure]

theorem decimal_digit {digit : Nat} (small : digit < 10) :
    decimal digit = [(48 + digit).toUInt8] := by
  unfold decimal
  split_ifs with zero
  · rw [zero]
    rfl
  · rw [Nat.digits_of_lt 10 digit zero small]
    rfl

theorem hostile_line : hostile.line.bytes = ascii "0 [6] " ++ List.replicate 145 1 := by
  have digits : decimal 0 = [48] ∧ decimal 6 = [54] :=
    ⟨decimal_digit (by decide), decimal_digit (by decide)⟩
  show (cString (decimal 0 ++ ascii " [" ++ decimal 6 ++ ascii "] " ++
    (List.replicate 145 1).take 145)).take 179 = _
  rw [digits.1, digits.2]
  decide

theorem failure_line : failure.line.bytes = ascii "1 [3] audio_open_failed" := by
  have digits : decimal 1 = [49] ∧ decimal 3 = [51] :=
    ⟨decimal_digit (by decide), decimal_digit (by decide)⟩
  show (cString (decimal 1 ++ ascii " [" ++ decimal 3 ++ ascii "] " ++
    (ascii "audio_open_failed").take 145)).take 179 = _
  rw [digits.1, digits.2]
  decide

theorem lastLines_flooded :
    lastLines flooded = List.replicate 31 hostile.line.bytes ++ [failure.line.bytes] := by
  have all : recorded flooded = List.replicate 31 hostile.line ++ [failure.line] := by
    rw [recorded, flooded, List.filter_eq_self.mpr (by decide), List.map_append, List.map_replicate]
    rfl
  rw [lastLines, all]
  rfl

theorem quoted_hostile : (quoted hostile.line.bytes).length = 878 := by
  have small : ∀ byte ∈ ascii "0 [6] " ++ List.replicate 145 1, byte.toNat < 128 := by
    rw [List.forall_mem_append]
    refine ⟨by decide, fun byte membership => ?_⟩
    rw [List.eq_of_mem_replicate membership]
    decide
  have escapes : ((List.replicate 145 1).flatMap encodedByte).length = 870 := by
    rw [List.length_flatMap, List.map_replicate, List.sum_replicate]
    rfl
  have front : ((ascii "0 [6] ").flatMap encodedByte).length = 6 := by decide
  rw [hostile_line, quoted, quotedBody_small small, List.flatMap_append, List.length_append,
    List.length_cons, List.length_append, escapes, front]
  rfl

theorem quoted_failure : (quoted failure.line.bytes).length = 25 := by
  rw [failure_line, quoted, quotedBody_small (by decide)]
  decide

theorem asked_flooded : 10000 < asked (lastLines flooded) := by
  have line : quotedLine hostile.line.bytes = quoted hostile.line.bytes :=
    quotedLine_eq hostile.line.short
  have behind : 30 * 879 ≤
      (continued (List.replicate 30 hostile.line.bytes ++ [failure.line.bytes])).length := by
    rw [continued, List.flatMap_append, List.length_append, List.length_flatMap, List.map_replicate,
      List.sum_replicate, List.length_cons, line, quoted_hostile]
    exact Nat.le_add_right _ _
  have whole : lastLines flooded =
      hostile.line.bytes :: (List.replicate 30 hostile.line.bytes ++ [failure.line.bytes]) :=
    lastLines_flooded
  rw [whole, asked_continued]
  omega

theorem flooded_differs {count : Nat} (positive : 0 < count) (fewer : count < 32) :
    texts ((lastLines flooded).take count) ≠
      texts ((lastLines flooded).drop ((lastLines flooded).length - count)) := by
  intro same
  have length : (lastLines flooded).length = 32 := by rw [lastLines_flooded]; rfl
  have hostileLast : ((lastLines flooded).take count).getLast? = some hostile.line.bytes := by
    rw [List.getLast?_take, if_neg (by omega), lastLines_flooded,
      List.getElem?_append_left (by rw [List.length_replicate]; omega),
      List.getElem?_replicate_of_lt (by omega), Option.some_or]
  have failureLast : ((lastLines flooded).drop ((lastLines flooded).length - count)).getLast? =
      some failure.line.bytes := by
    rw [List.getLast?_drop, length, if_neg (by omega), lastLines_flooded, List.getLast?_concat]
  have last := congrArg List.getLast? same
  rw [texts, texts, List.getLast?_map, List.getLast?_map, hostileLast, failureLast, hostile_line,
    failure_line] at last
  have zero : Utf8.lossy (ascii "0 [6] " ++ List.replicate 145 1) =
      '0' :: Utf8.lossy (ascii " [6] " ++ List.replicate 145 1) := Utf8.lossy_ascii (by decide) _
  have one : Utf8.lossy (ascii "1 [3] audio_open_failed") =
      '1' :: Utf8.lossy (ascii " [3] audio_open_failed") := Utf8.lossy_ascii (by decide) _
  rw [Option.map_some, Option.map_some, zero, one] at last
  cases last

/-! ## Results -/

/-- The newest lines are kept exactly if all of the lines pass the check of the loop, or
neither the oldest one does nor the newest one fits, or the lines repeat. -/
theorem export_newest_iff (messages : List LogMessage) {out : Bytes} (room : 3 ≤ out.length) :
    KeepsNewest messages out ↔
      asked (lastLines messages) ≤ out.length ∨
        (out.length < asked ((lastLines messages).take 1) ∧
          ∀ newest, (lastLines messages).getLast? = some newest → out.length < needed [newest]) ∨
        Repeats out.length (lastLines messages) := by
  constructor
  · exact KeepsNewest.cases room
  · rintro (all | ⟨full, newestFull⟩ | repeats)
    · exact keepsNewest_of_all room all
    · exact keepsNewest_of_none room full newestFull
    · exact keepsNewest_of_repeats room repeats

/-- A line that needs 28 bytes is shown from 29 on. -/
theorem export_newest_iff_failure :
    KeepsNewest [failure] (List.replicate 29 0) ∧
      ¬ KeepsNewest [failure] (List.replicate 28 0) := by
  have line : lastLines [failure] = [failure.line.bytes] := rfl
  have check : asked [failure.line.bytes] = 29 := by
    rw [asked, quotedLine_eq failure.line.short, quoted_failure]
  have room : needed [failure.line.bytes] = 28 := by
    rw [needed, List.map_singleton, Json.arrayText, Json.commas_singleton, List.length_append,
      List.length_cons, quoted_failure]
    rfl
  constructor
  · rw [export_newest_iff [failure] (by rw [List.length_replicate]; decide),
      List.length_replicate, line, check]
    exact Or.inl (Nat.le_refl 29)
  · rw [export_newest_iff [failure] (by rw [List.length_replicate]; decide),
      List.length_replicate, line, check]
    rintro (all | ⟨-, newest⟩ | ⟨count, positive, fewer, -⟩)
    · exact absurd all (by decide)
    · have full := newest failure.line.bytes rfl
      rw [room] at full
      exact absurd full (by decide)
    · rw [List.length_singleton] at fewer
      omega

/-- The status document leaves 10000 bytes for the log, which hold 11 of the hostile lines;
the failure would fit, but is not shown. -/
theorem export_newest_flooded : ¬ KeepsNewest flooded (List.replicate 10000 0) := by
  have size : (List.replicate 10000 (0 : UInt8)).length = 10000 := List.length_replicate
  have length : (lastLines flooded).length = 32 := by rw [lastLines_flooded]; rfl
  intro keeps
  rcases KeepsNewest.cases (by rw [size]; decide) keeps with all | ⟨full, -⟩ | repeats
  · rw [size] at all
    exact absurd asked_flooded (Nat.not_lt.mpr all)
  · have oldest : (lastLines flooded).take 1 = [hostile.line.bytes] := by
      rw [lastLines_flooded]
      rfl
    rw [size, oldest, asked, quotedLine_eq hostile.line.short, quoted_hostile] at full
    exact absurd full (by decide)
  · obtain ⟨count, positive, fewer, -, -, same⟩ := repeats
    exact flooded_differs positive (length ▸ fewer) same

end AirTizen.Status

import AirTizen.Library.Json

/-!
# Quoting

`airtizen_json_quote` of `airtizen_json.c`, which writes a C string as a JSON
string into a buffer and replaces what is not UTF-8.
-/

namespace AirTizen.Status

open CText
open String (utf8EncodeChar)

def hex : Bytes := ascii "0123456789abcdef"

/-- `\u0000` with its last two digits overwritten. -/
def controlEscape (byte : UInt8) : Bytes :=
  ascii "\\u00" ++ [hex.getD (byte.toNat >>> 4) 0, hex.getD (byte.toNat &&& 15) 0]

def sequenceLength (lead : UInt8) : Nat :=
  if 0xc2 ≤ lead ∧ lead ≤ 0xdf then 2
  else if 0xe0 ≤ lead ∧ lead ≤ 0xef then 3
  else if 0xf0 ≤ lead ∧ lead ≤ 0xf4 then 4
  else 0

/-- The loop over the continuation bytes, where the text ends before a zero byte. -/
def continuation : Nat → Nat → Bytes → Option Nat
  | 0, codepoint, _ => some codepoint
  | _ + 1, _, [] => none
  | count + 1, codepoint, byte :: rest =>
      if byte = 0 ∨ byte.toNat &&& 0xc0 ≠ 0x80 then none
      else continuation count ((codepoint <<< 6) ||| (byte.toNat &&& 0x3f)) rest

/-- The codepoint of a sequence that is `valid`. -/
def codepoint (lead : UInt8) (rest : Bytes) : Option Nat :=
  let length := sequenceLength lead
  if length = 0 then none
  else
    match continuation (length - 1) (lead.toNat &&& ((1 <<< (7 - length)) - 1)) rest with
    | none => none
    | some codepoint =>
        if (length = 3 ∧ codepoint < 0x800) ∨ (length = 4 ∧ codepoint < 0x10000) ∨
            codepoint > 0x10ffff ∨ (0xd800 ≤ codepoint ∧ codepoint ≤ 0xdfff) then none
        else some codepoint

/-- What one turn of the loop writes, and the text behind the bytes it used. -/
def encoded (byte : UInt8) (rest : Bytes) : Bytes × Bytes :=
  if byte < 32 then (controlEscape byte, rest)
  else if byte = 34 ∨ byte = 92 then ([92, byte], rest)
  else if byte ≥ 128 then
    match codepoint byte rest with
    | some _ =>
        (byte :: rest.take (sequenceLength byte - 1), rest.drop (sequenceLength byte - 1))
    | none => (ascii "\\ufffd", rest)
  else ([byte], rest)

theorem encoded_shorter (byte : UInt8) (rest : Bytes) :
    (encoded byte rest).2.length < (byte :: rest).length := by
  unfold encoded
  split_ifs
  · exact Nat.lt_succ_self _
  · exact Nat.lt_succ_self _
  · split
    · simp only [List.length_drop, List.length_cons]
      omega
    · exact Nat.lt_succ_self _
  · exact Nat.lt_succ_self _

/-- The loop and the closing quote, with `n` bytes written before. -/
def quoteLoop (capacity n : Nat) : Bytes → Option Bytes
  | [] => some [34]
  | byte :: rest =>
      let piece := (encoded byte rest).1
      if n + piece.length + 2 > capacity then none
      else (quoteLoop capacity (n + piece.length) (encoded byte rest).2).map (piece ++ ·)
termination_by text => text.length
decreasing_by exact encoded_shorter byte rest

def jsonQuote (capacity : Nat) (text : Bytes) : Option Bytes :=
  if capacity < 3 then none else (quoteLoop capacity 1 text).map (34 :: ·)

/-! ## Valid sequences -/

theorem trailing_iff (byte : UInt8) :
    (byte = 0 ∨ byte.toNat &&& 0xc0 ≠ 0x80) ↔ byte.toNat / 64 ≠ 2 := by
  revert byte
  exact forall_byte (by decide +kernel)

theorem continuation_succ (count start : Nat) (rest : Bytes) (code : Nat) :
    continuation (count + 1) start rest = some code ↔
      ∃ byte behind, rest = byte :: behind ∧ byte.toNat / 64 = 2 ∧
        continuation count (start * 64 + byte.toNat % 64) behind = some code := by
  cases rest with
  | nil => simp [continuation]
  | cons byte behind =>
      have low : byte.toNat &&& 0x3f = byte.toNat % 64 := Nat.and_two_pow_sub_one_eq_mod byte.toNat 6
      have joined : start <<< 6 ||| byte.toNat % 64 = start * 64 + byte.toNat % 64 := by
        rw [← Nat.shiftLeft_add_eq_or_of_lt (by omega), Nat.shiftLeft_eq]
      rw [continuation, low, joined]
      by_cases trailing : byte.toNat / 64 = 2
      · rw [if_neg ((trailing_iff byte).not.mpr (not_not_intro trailing))]
        simp [trailing]
      · rw [if_pos ((trailing_iff byte).mpr trailing)]
        simp [trailing]

def Refused (length code : Nat) : Prop :=
  (length = 3 ∧ code < 0x800) ∨ (length = 4 ∧ code < 0x10000) ∨
    code > 0x10ffff ∨ (0xd800 ≤ code ∧ code ≤ 0xdfff)

theorem codepoint_eq_some {lead : UInt8} {rest : Bytes} {code length : Nat}
    (announced : sequenceLength lead = length) (positive : length ≠ 0) :
    codepoint lead rest = some code ↔
      continuation (length - 1) (lead.toNat % 2 ^ (7 - length)) rest = some code ∧
        ¬ Refused length code := by
  subst announced
  simp only [codepoint, if_neg positive, Nat.shiftLeft_eq, one_mul, Nat.and_two_pow_sub_one_eq_mod]
  cases continuation (sequenceLength lead - 1) _ rest with
  | none => simp
  | some found =>
      simp only [Refused, Option.some.injEq]
      split_ifs with refused
      · simp only [false_iff, not_and, not_not]
        rintro rfl
        exact refused
      · simp only [Option.some.injEq, iff_self_and]
        rintro rfl
        exact refused

theorem encode_two {character : Char} (low : 0x7f < character.toNat)
    (high : character.toNat ≤ 0x7ff) :
    utf8EncodeChar character =
      [UInt8.ofNat (character.toNat / 64 % 32 + 0xc0),
        UInt8.ofNat (character.toNat % 64 + 0x80)] := by
  rw [utf8EncodeChar]
  exact (if_neg (Nat.not_le.mpr low)).trans (if_pos high)

theorem encode_three {character : Char} (low : 0x7ff < character.toNat)
    (high : character.toNat ≤ 0xffff) :
    utf8EncodeChar character =
      [UInt8.ofNat (character.toNat / 4096 % 16 + 0xe0),
        UInt8.ofNat (character.toNat / 64 % 64 + 0x80),
        UInt8.ofNat (character.toNat % 64 + 0x80)] := by
  rw [utf8EncodeChar]
  exact (if_neg (by change ¬ character.toNat ≤ _; omega)).trans
    ((if_neg (Nat.not_le.mpr low)).trans (if_pos high))

theorem encode_four {character : Char} (low : 0xffff < character.toNat) :
    utf8EncodeChar character =
      [UInt8.ofNat (character.toNat / 262144 % 8 + 0xf0),
        UInt8.ofNat (character.toNat / 4096 % 64 + 0x80),
        UInt8.ofNat (character.toNat / 64 % 64 + 0x80),
        UInt8.ofNat (character.toNat % 64 + 0x80)] := by
  rw [utf8EncodeChar]
  exact (if_neg (by change ¬ character.toNat ≤ _; omega)).trans
    ((if_neg (by change ¬ character.toNat ≤ _; omega)).trans (if_neg (Nat.not_le.mpr low)))

theorem eq_ofNat {byte : UInt8} {number : Nat} (same : byte.toNat = number % 256) :
    byte = UInt8.ofNat number := by
  rw [← UInt8.toNat_inj, UInt8.toNat_ofNat', same]

inductive Lead (lead : UInt8) : Nat → Prop where
  | none (range : lead.toNat < 0xc2 ∨ 0xf4 < lead.toNat) : Lead lead 0
  | two (range : 0xc2 ≤ lead.toNat ∧ lead.toNat ≤ 0xdf) : Lead lead 2
  | three (range : 0xe0 ≤ lead.toNat ∧ lead.toNat ≤ 0xef) : Lead lead 3
  | four (range : 0xf0 ≤ lead.toNat ∧ lead.toNat ≤ 0xf4) : Lead lead 4

theorem lead_sequenceLength (lead : UInt8) : Lead lead (sequenceLength lead) := by
  unfold sequenceLength
  split_ifs with two three four
  · exact .two two
  · exact .three three
  · exact .four four
  · change ¬ (194 ≤ lead.toNat ∧ lead.toNat ≤ 223) at two
    change ¬ (224 ≤ lead.toNat ∧ lead.toNat ≤ 239) at three
    change ¬ (240 ≤ lead.toNat ∧ lead.toNat ≤ 244) at four
    exact .none (by omega)

/-- A valid sequence is the encoding of its codepoint. -/
theorem encode_of_codepoint {lead : UInt8} {rest : Bytes} {code : Nat}
    (valid : codepoint lead rest = some code) :
    lead :: rest.take (sequenceLength lead - 1) = utf8EncodeChar (Char.ofNat code) := by
  have shape := lead_sequenceLength lead
  generalize announced : sequenceLength lead = length at shape ⊢
  cases shape with
  | none => simp [codepoint, announced] at valid
  | two range =>
      rw [codepoint_eq_some announced (by decide)] at valid
      obtain ⟨b, behind, rfl, trailing, last⟩ := (continuation_succ 0 _ _ _).mp valid.1
      obtain rfl : lead.toNat % 32 * 64 + b.toNat % 64 = code := Option.some.inj last
      have scalar : (lead.toNat % 32 * 64 + b.toNat % 64).isValidChar := Or.inl (by omega)
      have value := Utf8.toNat_ofNat scalar
      rw [encode_two (by omega) (by omega), value]
      exact congrArg₂ List.cons (eq_ofNat (by omega))
        (congrArg₂ List.cons (eq_ofNat (by omega)) rfl)
  | three range =>
      rw [codepoint_eq_some announced (by decide)] at valid
      obtain ⟨b, _, rfl, second, reads⟩ := (continuation_succ 1 _ _ _).mp valid.1
      obtain ⟨c, behind, rfl, third, last⟩ := (continuation_succ 0 _ _ _).mp reads
      obtain rfl : (lead.toNat % 16 * 64 + b.toNat % 64) * 64 + c.toNat % 64 = code :=
        Option.some.inj last
      have allowed := valid.2
      unfold Refused at allowed
      have scalar : ((lead.toNat % 16 * 64 + b.toNat % 64) * 64 + c.toNat % 64).isValidChar := by
        unfold Nat.isValidChar
        omega
      have value := Utf8.toNat_ofNat scalar
      rw [encode_three (by omega) (by omega), value]
      exact congrArg₂ List.cons (eq_ofNat (by omega)) (congrArg₂ List.cons (eq_ofNat (by omega))
        (congrArg₂ List.cons (eq_ofNat (by omega)) rfl))
  | four range =>
      rw [codepoint_eq_some announced (by decide)] at valid
      obtain ⟨b, _, rfl, second, reads⟩ := (continuation_succ 2 _ _ _).mp valid.1
      obtain ⟨c, _, rfl, third, reads⟩ := (continuation_succ 1 _ _ _).mp reads
      obtain ⟨d, behind, rfl, fourth, last⟩ := (continuation_succ 0 _ _ _).mp reads
      obtain rfl : ((lead.toNat % 8 * 64 + b.toNat % 64) * 64 + c.toNat % 64) * 64 +
          d.toNat % 64 = code := Option.some.inj last
      have allowed := valid.2
      unfold Refused at allowed
      have scalar : (((lead.toNat % 8 * 64 + b.toNat % 64) * 64 + c.toNat % 64) * 64 +
          d.toNat % 64).isValidChar := by
        unfold Nat.isValidChar
        omega
      have value := Utf8.toNat_ofNat scalar
      rw [encode_four (by omega), value]
      exact congrArg₂ List.cons (eq_ofNat (by omega)) (congrArg₂ List.cons (eq_ofNat (by omega))
        (congrArg₂ List.cons (eq_ofNat (by omega)) (congrArg₂ List.cons (eq_ofNat (by omega)) rfl)))

theorem toNat_eq {byte : UInt8} {number : Nat} (same : byte = UInt8.ofNat number)
    (small : number < 256) : byte.toNat = number := by
  rw [same, UInt8.toNat_ofNat']
  exact Nat.mod_eq_of_lt small

/-- Every encoded character beyond ASCII is a valid sequence. -/
theorem codepoint_of_encode {lead : UInt8} {rest behind : Bytes} {character : Char}
    (beyond : 128 ≤ lead.toNat) (encoding : lead :: rest = utf8EncodeChar character ++ behind) :
    codepoint lead rest = some character.toNat := by
  have valid : character.toNat.isValidChar := character.valid
  unfold Nat.isValidChar at valid
  by_cases one : character.toNat ≤ 0x7f
  · rw [utf8EncodeChar] at encoding
    have encoding := encoding.trans (congrArg (· ++ behind) (if_pos one))
    have leadEq : lead.toNat = character.toNat :=
      toNat_eq (List.cons.inj encoding).1 (show character.toNat < 256 by omega)
    omega
  by_cases two : character.toNat ≤ 0x7ff
  · rw [encode_two (by omega) two] at encoding
    obtain ⟨leadSame, rfl⟩ := List.cons.inj encoding
    have leadEq := toNat_eq leadSame (by omega)
    have announced : sequenceLength lead = 2 :=
      if_pos (show 194 ≤ lead.toNat ∧ lead.toNat ≤ 223 by omega)
    rw [codepoint_eq_some announced (by decide)]
    refine ⟨(continuation_succ 0 _ _ _).mpr ⟨_, _, rfl, ?_, congrArg some ?_⟩, ?_⟩
    · rw [toNat_eq rfl (by omega)]
      omega
    · rw [toNat_eq rfl (by omega)]
      omega
    · unfold Refused
      omega
  by_cases three : character.toNat ≤ 0xffff
  · rw [encode_three (by omega) three] at encoding
    obtain ⟨leadSame, rfl⟩ := List.cons.inj encoding
    have leadEq := toNat_eq leadSame (by omega)
    have announced : sequenceLength lead = 3 :=
      (if_neg (show ¬ (194 ≤ lead.toNat ∧ lead.toNat ≤ 223) by omega)).trans
        (if_pos (show 224 ≤ lead.toNat ∧ lead.toNat ≤ 239 by omega))
    rw [codepoint_eq_some announced (by decide)]
    refine ⟨(continuation_succ 1 _ _ _).mpr ⟨_, _, rfl, ?_,
      (continuation_succ 0 _ _ _).mpr ⟨_, _, rfl, ?_, congrArg some ?_⟩⟩, ?_⟩
    · rw [toNat_eq rfl (by omega)]
      omega
    · rw [toNat_eq rfl (by omega)]
      omega
    · rw [@toNat_eq _ (character.toNat / 64 % 64 + 0x80) rfl (by omega),
        @toNat_eq _ (character.toNat % 64 + 0x80) rfl (by omega)]
      omega
    · unfold Refused
      omega
  · rw [encode_four (by omega)] at encoding
    obtain ⟨leadSame, rfl⟩ := List.cons.inj encoding
    have leadEq := toNat_eq leadSame (by omega)
    have announced : sequenceLength lead = 4 :=
      (if_neg (show ¬ (194 ≤ lead.toNat ∧ lead.toNat ≤ 223) by omega)).trans
        ((if_neg (show ¬ (224 ≤ lead.toNat ∧ lead.toNat ≤ 239) by omega)).trans
          (if_pos (show 240 ≤ lead.toNat ∧ lead.toNat ≤ 244 by omega)))
    rw [codepoint_eq_some announced (by decide)]
    refine ⟨(continuation_succ 2 _ _ _).mpr ⟨_, _, rfl, ?_,
      (continuation_succ 1 _ _ _).mpr ⟨_, _, rfl, ?_,
        (continuation_succ 0 _ _ _).mpr ⟨_, _, rfl, ?_, congrArg some ?_⟩⟩⟩, ?_⟩
    · rw [toNat_eq rfl (by omega)]
      omega
    · rw [toNat_eq rfl (by omega)]
      omega
    · rw [toNat_eq rfl (by omega)]
      omega
    · rw [@toNat_eq _ (character.toNat / 4096 % 64 + 0x80) rfl (by omega),
        @toNat_eq _ (character.toNat / 64 % 64 + 0x80) rfl (by omega),
        @toNat_eq _ (character.toNat % 64 + 0x80) rfl (by omega)]
      omega
    · unfold Refused
      omega

/-! ## One turn of the loop -/

/-- What a turn writes is read as the character that the text begins with. -/
structure Turn (text piece behind : Bytes) : Prop where
  read : ∃ character, (∀ rest, Json.character (piece ++ rest) = some (some character, rest)) ∧
    Utf8.lossy text = character :: Utf8.lossy behind
  nonempty : piece ≠ []
  length : piece.length + 6 * behind.length ≤ 6 * text.length

theorem hexValue_hex {number : Nat} (small : number < 32) :
    Json.hexValue (hex.getD (number >>> 4) 0) = some (number / 16) ∧
      Json.hexValue (hex.getD (number &&& 15) 0) = some (number % 16) := by
  have every : ∀ number : Fin 32,
      Json.hexValue (hex.getD (number.val >>> 4) 0) = some (number.val / 16) ∧
        Json.hexValue (hex.getD (number.val &&& 15) 0) = some (number.val % 16) := by decide +kernel
  exact every ⟨number, small⟩

theorem codeUnit_hex {number : Nat} (small : number < 32) (rest : Bytes) :
    Json.codeUnit (48 :: 48 :: hex.getD (number >>> 4) 0 :: hex.getD (number &&& 15) 0 :: rest) =
      some (number, rest) := by
  obtain ⟨high, low⟩ := hexValue_hex small
  have zero : Json.hexValue 48 = some 0 := rfl
  have sum : ((0 * 16 + 0) * 16 + number / 16) * 16 + number % 16 = number := by omega
  simp only [Json.codeUnit, zero, high, low, Option.bind_eq_bind, Option.bind_some, sum]

theorem controlEscape_turn {byte : UInt8} (control : byte < 32) (rest : Bytes) :
    Turn (byte :: rest) (controlEscape byte) rest where
  read := by
    have small : byte.toNat < 32 := control
    refine ⟨Char.ofNat byte.toNat, fun more => ?_, Utf8.lossy_ascii (by omega) rest⟩
    show (Json.unicodeEscape (48 :: 48 :: hex.getD (byte.toNat >>> 4) 0 ::
      hex.getD (byte.toNat &&& 15) 0 :: more)).map _ = _
    rw [Json.unicodeEscape, codeUnit_hex small, Option.bind_eq_bind, Option.bind_some]
    simp only [if_pos (show byte.toNat < 0xd800 ∨ 0xdfff < byte.toNat by omega), Option.map_some]
  nonempty := by simp [controlEscape]
  length := by
    rw [show (controlEscape byte).length = 6 from rfl, List.length_cons]
    omega

theorem escape_turn {byte : UInt8} (special : byte = 34 ∨ byte = 92) (rest : Bytes) :
    Turn (byte :: rest) [92, byte] rest where
  read := by
    rcases special with rfl | rfl
    · exact ⟨'"', fun _ => rfl, Utf8.lossy_ascii (by decide) rest⟩
    · exact ⟨'\\', fun _ => rfl, Utf8.lossy_ascii (by decide) rest⟩
  nonempty := List.cons_ne_nil _ _
  length := by
    simp only [List.length_cons, List.length_nil]
    omega

theorem plain_turn {byte : UInt8} (plain : Json.Plain byte) (rest : Bytes) :
    Turn (byte :: rest) [byte] rest where
  read := ⟨Char.ofNat byte.toNat, Json.character_plain plain, Utf8.lossy_ascii plain.small rest⟩
  nonempty := List.cons_ne_nil _ _
  length := by
    simp only [List.length_cons, List.length_nil]
    omega

theorem sequence_turn {byte : UInt8} {rest : Bytes} (large : byte ≥ 128) {code : Nat}
    (valid : codepoint byte rest = some code) :
    Turn (byte :: rest) (byte :: rest.take (sequenceLength byte - 1))
      (rest.drop (sequenceLength byte - 1)) where
  read := by
    have encoding := encode_of_codepoint valid
    have beyond : 128 ≤ byte.toNat := large
    have other : ∀ small : UInt8, small.toNat < 128 → byte ≠ small := by
      rintro _ low rfl
      exact absurd beyond (Nat.not_le.mpr low)
    refine ⟨Char.ofNat code, fun more => ?_, ?_⟩
    · apply Json.character_first _ (other 34 (by decide)) (other 92 (by decide))
      · show Utf8.first (byte :: rest.take (sequenceLength byte - 1) ++ more) = _
        rw [encoding, Utf8.first_encode]
      · intro control
        have low : byte.toNat < 32 := control
        omega
    · apply Utf8.lossy_of_first
      have split := Utf8.first_encode (Char.ofNat code) (rest.drop (sequenceLength byte - 1))
      rwa [← encoding, List.cons_append, List.take_append_drop] at split
  nonempty := List.cons_ne_nil _ _
  length := by
    simp only [List.length_cons, List.length_take, List.length_drop]
    omega

theorem replaced_turn {byte : UInt8} {rest : Bytes} (large : byte ≥ 128)
    (invalid : codepoint byte rest = none) : Turn (byte :: rest) (ascii "\\ufffd") rest where
  read := by
    refine ⟨Utf8.replacement, fun _ => rfl, Utf8.lossy_of_none (Utf8.first_eq_none ?_)⟩
    intro character behind encoding
    have valid := codepoint_of_encode large encoding
    rw [invalid] at valid
    cases valid
  nonempty := by decide
  length := by
    rw [show (ascii "\\ufffd").length = 6 from rfl, List.length_cons]
    omega

theorem encoded_turn (byte : UInt8) (rest : Bytes) :
    Turn (byte :: rest) (encoded byte rest).1 (encoded byte rest).2 := by
  unfold encoded
  split_ifs with control special large
  · exact controlEscape_turn control rest
  · exact escape_turn special rest
  · split
    next code valid => exact sequence_turn large valid
    next invalid => exact replaced_turn large invalid
  · exact plain_turn ⟨control, special, large⟩ rest

/-! ## Whole texts -/

theorem quoteLoop_body {capacity n : Nat} {text quoted : Bytes}
    (fits : quoteLoop capacity n text = some quoted) :
    ∃ body, quoted = body ++ [34] ∧ Json.Body body (Utf8.lossy text) := by
  fun_induction quoteLoop capacity n text generalizing quoted
  case case1 => exact ⟨[], (Option.some.inj fits).symm, by rw [Utf8.lossy_nil]; exact .nil⟩
  case case2 => cases fits
  case case3 n byte rest piece _ inductionHypothesis =>
    obtain ⟨tail, behind, rfl⟩ := Option.map_eq_some_iff.mp fits
    obtain ⟨body, rfl, body_ok⟩ := inductionHypothesis behind
    have turn := encoded_turn byte rest
    obtain ⟨character, one, decoded⟩ := turn.read
    refine ⟨piece ++ body, (List.append_assoc _ _ _).symm, ?_⟩
    rw [decoded]
    exact .cons turn.nonempty one body_ok

theorem quoteLoop_fits {capacity n : Nat} {text : Bytes}
    (room : n + 6 * text.length + 2 ≤ capacity) :
    ∃ quoted, quoteLoop capacity n text = some quoted ∧ quoted.length ≤ 6 * text.length + 1 := by
  fun_induction quoteLoop capacity n text with
  | case1 => exact ⟨[34], rfl, by simp⟩
  | case2 n byte rest piece full =>
      have length := (encoded_turn byte rest).length
      change n + (encoded byte rest).1.length + 2 > capacity at full
      omega
  | case3 n byte rest piece _ inductionHypothesis =>
      have length := (encoded_turn byte rest).length
      change piece.length + 6 * (encoded byte rest).2.length ≤ _ at length
      obtain ⟨quoted, inside, short⟩ := inductionHypothesis (by omega)
      refine ⟨piece ++ quoted, by rw [inside, Option.map_some], ?_⟩
      rw [List.length_append]
      omega

theorem quoteLoop_plain {capacity n : Nat} {text : Bytes} (plain : ∀ byte ∈ text, Json.Plain byte)
    (room : n + text.length + 2 ≤ capacity) : quoteLoop capacity n text = some (text ++ [34]) := by
  induction text generalizing n with
  | nil => rw [quoteLoop, List.nil_append]
  | cons byte rest inductionHypothesis =>
      obtain ⟨printable, ordinary, small⟩ := plain byte List.mem_cons_self
      have copied : encoded byte rest = ([byte], rest) := by
        rw [encoded, if_neg printable, if_neg ordinary, if_neg small]
      rw [List.length_cons] at room
      have behind := @inductionHypothesis (n + 1) (fun other membership =>
        plain other (List.mem_cons_of_mem byte membership)) (by omega)
      rw [quoteLoop, copied]
      simp only [List.length_singleton]
      rw [if_neg (by omega), behind]
      rfl

theorem jsonQuote_plain {capacity : Nat} {text : Bytes} (plain : ∀ byte ∈ text, Json.Plain byte)
    (room : text.length + 3 ≤ capacity) : jsonQuote capacity text = some (34 :: text ++ [34]) := by
  rw [jsonQuote, if_neg (by omega), quoteLoop_plain plain (by omega)]
  rfl

theorem jsonQuote_parses {capacity : Nat} {text quoted : Bytes}
    (fits : jsonQuote capacity text = some quoted) :
    Json.Parses quoted (.string (Utf8.lossy text)) := by
  unfold jsonQuote at fits
  split_ifs at fits
  obtain ⟨tail, loop, rfl⟩ := Option.map_eq_some_iff.mp fits
  obtain ⟨body, rfl, body_ok⟩ := quoteLoop_body loop
  exact .string body_ok

theorem jsonQuote_utf8 {capacity : Nat} {characters : List Char} {quoted : Bytes}
    (fits : jsonQuote capacity (characters.flatMap String.utf8EncodeChar) = some quoted) :
    Json.Parses quoted (.string characters) := by
  have parses := jsonQuote_parses fits
  rwa [Utf8.lossy_encode] at parses

theorem jsonQuote_fits {capacity : Nat} {text : Bytes} (room : 6 * text.length + 3 ≤ capacity) :
    ∃ quoted, jsonQuote capacity text = some quoted ∧ quoted.length ≤ 6 * text.length + 2 := by
  obtain ⟨tail, loop, length⟩ := @quoteLoop_fits capacity 1 text (by omega)
  refine ⟨34 :: tail, by rw [jsonQuote, if_neg (by omega), loop, Option.map_some], ?_⟩
  rw [List.length_cons]
  omega

end AirTizen.Status

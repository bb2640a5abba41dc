import Mathlib.Data.List.DropRight
import Mathlib.Data.List.Forall2
import AirTizen.Library.Text
import AirTizen.Library.Utf8

/-!
# JSON texts

A parser of RFC 8259, and rules that build texts it reads back.
-/

namespace Json

open CText

inductive Value where
  | null
  | bool (value : Bool)
  | number (text : Bytes)
  | string (text : List Char)
  | array (items : List Value)
  | object (members : List (List Char × Value))

def isWhitespace (byte : UInt8) : Bool := byte == 32 || byte == 9 || byte == 10 || byte == 13

def skipSpace (text : Bytes) : Bytes := text.dropWhile isWhitespace

/-! ## Strings -/

def hexValue (byte : UInt8) : Option Nat :=
  if isDigit byte then some (byte.toNat - 48)
  else if 97 ≤ byte ∧ byte ≤ 102 then some (byte.toNat - 87)
  else if 65 ≤ byte ∧ byte ≤ 70 then some (byte.toNat - 55)
  else none

def codeUnit : Bytes → Option (Nat × Bytes)
  | a :: b :: c :: d :: rest => do
      let a ← hexValue a
      let b ← hexValue b
      let c ← hexValue c
      let d ← hexValue d
      some (((a * 16 + b) * 16 + c) * 16 + d, rest)
  | _ => none

def unicodeEscape (text : Bytes) : Option (Char × Bytes) := do
  let (high, rest) ← codeUnit text
  if high < 0xd800 ∨ 0xdfff < high then some (Char.ofNat high, rest)
  else
    match rest with
    | 92 :: 117 :: rest =>
        let (low, rest) ← codeUnit rest
        if high < 0xdc00 ∧ 0xdc00 ≤ low ∧ low < 0xe000 then
          some (Char.ofNat (0x10000 + (high - 0xd800) * 0x400 + (low - 0xdc00)), rest)
        else none
    | _ => none

def escape : Bytes → Option (Char × Bytes)
  | 34 :: rest => some ('"', rest)
  | 92 :: rest => some ('\\', rest)
  | 47 :: rest => some ('/', rest)
  | 98 :: rest => some (Char.ofNat 8, rest)
  | 102 :: rest => some (Char.ofNat 12, rest)
  | 110 :: rest => some (Char.ofNat 10, rest)
  | 114 :: rest => some (Char.ofNat 13, rest)
  | 116 :: rest => some (Char.ofNat 9, rest)
  | 117 :: rest => unicodeEscape rest
  | _ => none

def character : Bytes → Option (Option Char × Bytes)
  | [] => none
  | 34 :: rest => some (none, rest)
  | 92 :: rest => (escape rest).map fun (read, rest) => (some read, rest)
  | byte :: rest =>
      if byte < 32 then none
      else (Utf8.first (byte :: rest)).map fun (read, rest) => (some read, rest)

def characters : Nat → Bytes → Option (List Char × Bytes)
  | 0, _ => none
  | fuel + 1, text =>
      match character text with
      | none => none
      | some (none, rest) => some ([], rest)
      | some (some read, rest) =>
          (characters fuel rest).map fun (behind, rest) => (read :: behind, rest)

/-! ## Numbers -/

def minus : Bytes → Bytes × Bytes
  | 45 :: rest => ([45], rest)
  | text => ([], text)

def whole (text : Bytes) : Option (Bytes × Bytes) :=
  let digits := text.takeWhile isDigit
  if digits = [] ∨ (digits.head? = some 48 ∧ digits.length ≠ 1) then none
  else some (digits, text.dropWhile isDigit)

def fraction : Bytes → Option (Bytes × Bytes)
  | 46 :: rest =>
      if rest.takeWhile isDigit = [] then none
      else some (46 :: rest.takeWhile isDigit, rest.dropWhile isDigit)
  | text => some ([], text)

def sign : Bytes → Bytes × Bytes
  | 43 :: rest => ([43], rest)
  | text => minus text

def exponent : Bytes → Option (Bytes × Bytes)
  | [] => some ([], [])
  | letter :: rest =>
      if letter = 101 ∨ letter = 69 then
        let digits := (sign rest).2.takeWhile isDigit
        if digits = [] then none
        else some (letter :: (sign rest).1 ++ digits, (sign rest).2.dropWhile isDigit)
      else some ([], letter :: rest)

def number (text : Bytes) : Option (Bytes × Bytes) := do
  let (whole, rest) ← whole (minus text).2
  let (fraction, rest) ← fraction rest
  let (exponent, rest) ← exponent rest
  some ((minus text).1 ++ whole ++ fraction ++ exponent, rest)

/-! ## Values -/

def scalar (text : Bytes) : Option (Value × Bytes) :=
  if (ascii "null").isPrefixOf text then some (.null, text.drop 4)
  else if (ascii "true").isPrefixOf text then some (.bool true, text.drop 4)
  else if (ascii "false").isPrefixOf text then some (.bool false, text.drop 5)
  else (number text).map fun (digits, rest) => (.number digits, rest)

mutual

/-- The value at the front of the text. -/
def value : Nat → Bytes → Option (Value × Bytes)
  | 0, _ => none
  | fuel + 1, text =>
      match skipSpace text with
      | 123 :: rest =>
          match skipSpace rest with
          | 125 :: rest => some (.object [], rest)
          | rest => (members fuel rest).map fun (read, rest) => (.object read, rest)
      | 91 :: rest =>
          match skipSpace rest with
          | 93 :: rest => some (.array [], rest)
          | rest => (items fuel rest).map fun (read, rest) => (.array read, rest)
      | 34 :: rest => (characters (rest.length + 1) rest).map fun (read, rest) => (.string read, rest)
      | rest => scalar rest

def members : Nat → Bytes → Option (List (List Char × Value) × Bytes)
  | 0, _ => none
  | fuel + 1, text =>
      match skipSpace text with
      | 34 :: rest =>
          match characters (rest.length + 1) rest with
          | none => none
          | some (key, rest) =>
              match skipSpace rest with
              | 58 :: rest =>
                  match value fuel rest with
                  | none => none
                  | some (read, rest) =>
                      match skipSpace rest with
                      | 44 :: rest =>
                          (members fuel rest).map fun (more, rest) => ((key, read) :: more, rest)
                      | 125 :: rest => some ([(key, read)], rest)
                      | _ => none
              | _ => none
      | _ => none

def items : Nat → Bytes → Option (List Value × Bytes)
  | 0, _ => none
  | fuel + 1, text =>
      match value fuel text with
      | none => none
      | some (read, rest) =>
          match skipSpace rest with
          | 44 :: rest => (items fuel rest).map fun (more, rest) => (read :: more, rest)
          | 93 :: rest => some ([read], rest)
          | _ => none

end

def decode (text : Bytes) : Option Value :=
  match value (text.length + 1) text with
  | none => none
  | some (read, rest) => if skipSpace rest = [] then some read else none

/-! ## Numbers that are read back -/

/-- The text in front of which a number ends. -/
def Delimited (rest : Bytes) : Prop :=
  ∀ byte ∈ rest.head?, isDigit byte = false ∧ byte ≠ 46 ∧ byte ≠ 101 ∧ byte ≠ 69

def AllDigits (digits : Bytes) : Prop := digits ≠ [] ∧ ∀ byte ∈ digits, isDigit byte = true

inductive IsFraction : Bytes → Prop where
  | absent : IsFraction []
  | digits {digits : Bytes} (digits_ok : AllDigits digits) : IsFraction (46 :: digits)

inductive IsExponent : Bytes → Prop where
  | absent : IsExponent []
  | digits {letter : UInt8} {signed digits : Bytes} (letter_ok : letter = 101 ∨ letter = 69)
      (signed_ok : signed = [] ∨ signed = [43] ∨ signed = [45]) (digits_ok : AllDigits digits) :
      IsExponent (letter :: signed ++ digits)

inductive IsNumber : Bytes → Prop where
  | parts {signed digits fraction exponent : Bytes} (signed_ok : signed = [] ∨ signed = [45])
      (digits_ok : AllDigits digits) (leading : digits.head? = some 48 → digits.length = 1)
      (fraction_ok : IsFraction fraction) (exponent_ok : IsExponent exponent) :
      IsNumber (signed ++ digits ++ fraction ++ exponent)

variable {rest : Bytes}

theorem span_digits {digits : Bytes} (digits_ok : AllDigits digits)
    (stop : ∀ byte ∈ rest.head?, isDigit byte = false) :
    (digits ++ rest).takeWhile isDigit = digits ∧ (digits ++ rest).dropWhile isDigit = rest := by
  have taken : rest.takeWhile isDigit = [] ∧ rest.dropWhile isDigit = rest := by
    cases rest with
    | nil => exact ⟨rfl, rfl⟩
    | cons byte bytes =>
        have other := stop byte rfl
        simp [other]
  constructor
  · rw [List.takeWhile_append_of_pos digits_ok.2, taken.1, List.append_nil]
  · rw [List.dropWhile_append_of_pos digits_ok.2, taken.2]

theorem AllDigits.not_sign {digits : Bytes} (digits_ok : AllDigits digits) (rest : Bytes) :
    sign (digits ++ rest) = ([], digits ++ rest) ∧ minus (digits ++ rest) = ([], digits ++ rest) := by
  obtain ⟨nonempty, all⟩ := digits_ok
  cases digits with
  | nil => exact absurd rfl nonempty
  | cons byte bytes =>
      have digit := all byte List.mem_cons_self
      have plus : byte ≠ 43 := by
        rintro rfl
        exact absurd digit (by decide)
      have dash : byte ≠ 45 := by
        rintro rfl
        exact absurd digit (by decide)
      simp [sign, minus, plus, dash]

theorem whole_append {digits : Bytes} (digits_ok : AllDigits digits)
    (leading : digits.head? = some 48 → digits.length = 1)
    (stop : ∀ byte ∈ rest.head?, isDigit byte = false) :
    whole (digits ++ rest) = some (digits, rest) := by
  obtain ⟨taken, dropped⟩ := span_digits digits_ok stop
  have accepted : ¬ (digits = [] ∨ (digits.head? = some 48 ∧ digits.length ≠ 1)) := by
    rintro (empty | ⟨zero, longer⟩)
    · exact digits_ok.1 empty
    · exact longer (leading zero)
  simp only [whole, taken, dropped, if_neg accepted]

theorem fraction_append {text : Bytes} (fraction_ok : IsFraction text)
    (stop : ∀ byte ∈ rest.head?, isDigit byte = false ∧ byte ≠ 46) :
    fraction (text ++ rest) = some (text, rest) := by
  cases fraction_ok with
  | absent =>
      cases rest with
      | nil => rfl
      | cons byte bytes =>
          have other := (stop byte rfl).2
          simp [fraction, other]
  | digits digits_ok =>
      obtain ⟨taken, dropped⟩ := span_digits digits_ok fun byte found => (stop byte found).1
      simp only [List.cons_append, fraction, taken, dropped, if_neg digits_ok.1]

theorem exponent_append {text : Bytes} (exponent_ok : IsExponent text)
    (delimited : Delimited rest) : exponent (text ++ rest) = some (text, rest) := by
  cases exponent_ok with
  | absent =>
      cases rest with
      | nil => rfl
      | cons byte bytes =>
          obtain ⟨-, -, lower, upper⟩ := delimited byte rfl
          simp [exponent, lower, upper]
  | @digits letter signed digits letter_ok signed_ok digits_ok =>
      obtain ⟨taken, dropped⟩ := span_digits digits_ok fun byte found => (delimited byte found).1
      have signs : sign (signed ++ digits ++ rest) = (signed, digits ++ rest) := by
        rcases signed_ok with rfl | rfl | rfl
        · exact (digits_ok.not_sign rest).1
        · rfl
        · rfl
      rw [List.cons_append, List.cons_append, exponent, if_pos letter_ok, signs]
      simp only [taken, dropped, if_neg digits_ok.1, List.cons_append]

/-- A number is read up to a delimiter. -/
theorem number_append {text : Bytes} (number_ok : IsNumber text) (delimited : Delimited rest) :
    number (text ++ rest) = some (text, rest) := by
  cases number_ok with
  | @parts signed digits decimals power signed_ok digits_ok leading fraction_ok exponent_ok =>
      have behindFraction : ∀ byte ∈ (power ++ rest).head?, isDigit byte = false ∧ byte ≠ 46 := by
        cases exponent_ok with
        | absent => exact fun byte found => ⟨(delimited byte found).1, (delimited byte found).2.1⟩
        | digits letter_ok =>
            rintro byte found
            cases found
            rcases letter_ok with rfl | rfl <;> decide
      have behindWhole : ∀ byte ∈ (decimals ++ (power ++ rest)).head?, isDigit byte = false := by
        cases fraction_ok with
        | absent => exact fun byte found => (behindFraction byte found).1
        | digits =>
            rintro byte found
            cases found
            decide
      have signs : minus (signed ++ (digits ++ (decimals ++ (power ++ rest)))) =
          (signed, digits ++ (decimals ++ (power ++ rest))) := by
        rcases signed_ok with rfl | rfl
        · exact (digits_ok.not_sign _).2
        · rfl
      simp only [List.append_assoc, number, signs, whole_append digits_ok leading behindWhole,
        fraction_append fraction_ok behindFraction, exponent_append exponent_ok delimited,
        Option.bind_eq_bind, Option.bind_some]

theorem isNumber_decimal (number : Nat) : IsNumber (decimal number) := by
  have digits_ok : AllDigits (decimal number) :=
    ⟨decimal_ne_nil number, fun _ => isDigit_of_mem_decimal⟩
  have leading : (decimal number).head? = some 48 → (decimal number).length = 1 := by
    intro zero
    by_cases empty : number = 0
    · rw [decimal, if_pos empty]
      rfl
    · have digits : Nat.digits 10 number ≠ [] := Nat.digits_ne_nil_iff_ne_zero.mpr empty
      rw [decimal, if_neg empty, List.head?_map, List.head?_reverse,
        List.getLast?_eq_some_getLast digits, Option.map_some] at zero
      have last := Nat.getLast_digit_ne_zero 10 empty
      have small : (Nat.digits 10 number).getLast digits < 10 :=
        Nat.digits_lt_base (by omega) (List.getLast_mem digits)
      have value := toNat_digit small
      rw [Option.some.inj zero] at value
      exact absurd (show (Nat.digits 10 number).getLast digits = 0 from
        (Nat.add_left_cancel value).symm) last
  have whole := IsNumber.parts (.inl rfl) digits_ok leading .absent .absent
  simpa using whole

/-! ## Strings that are read back -/

def Body (body : Bytes) (text : List Char) : Prop :=
  ∀ fuel rest, body.length < fuel → characters fuel (body ++ 34 :: rest) = some (text, rest)

theorem Body.nil : Body [] [] := by
  intro fuel rest enough
  cases fuel with
  | zero => exact absurd enough (Nat.not_lt_zero _)
  | succ fuel => rfl

theorem Body.cons {piece body : Bytes} {read : Char} {text : List Char} (nonempty : piece ≠ [])
    (one : ∀ rest, character (piece ++ rest) = some (some read, rest)) (behind : Body body text) :
    Body (piece ++ body) (read :: text) := by
  intro fuel rest enough
  have positive := List.length_pos_iff.mpr nonempty
  rw [List.length_append] at enough
  cases fuel with
  | zero => exact absurd enough (Nat.not_lt_zero _)
  | succ fuel =>
      rw [List.append_assoc, characters, one]
      simp only
      rw [behind fuel rest (by omega), Option.map_some]

theorem character_first {byte : UInt8} {bytes : Bytes} {read : Char} (printable : ¬ byte < 32)
    (quote : byte ≠ 34) (backslash : byte ≠ 92)
    (decoded : Utf8.first (byte :: bytes) = some (read, rest)) :
    character (byte :: bytes) = some (some read, rest) := by
  rw [character]
  · rw [if_neg printable, decoded, Option.map_some]
  · exact fun same => absurd same quote
  · exact fun same => absurd same backslash

/-- A byte that stands for itself in a string. -/
def Plain (byte : UInt8) : Prop := ¬ byte < 32 ∧ ¬ (byte = 34 ∨ byte = 92) ∧ ¬ byte ≥ 128

instance (byte : UInt8) : Decidable (Plain byte) :=
  inferInstanceAs (Decidable (¬ byte < 32 ∧ ¬ (byte = 34 ∨ byte = 92) ∧ ¬ byte ≥ 128))

theorem Plain.small {byte : UInt8} (plain : Plain byte) : byte.toNat < 128 := Nat.not_le.mp plain.2.2

theorem character_plain {byte : UInt8} (plain : Plain byte) (rest : Bytes) :
    character (byte :: rest) = some (some (Char.ofNat byte.toNat), rest) :=
  character_first plain.1 (plain.2.1 ∘ .inl) (plain.2.1 ∘ .inr) (Utf8.first_ascii plain.small rest)

theorem body_plain {text : Bytes} (plain : ∀ byte ∈ text, Plain byte) :
    Body text (Utf8.lossy text) := by
  induction text with
  | nil =>
      rw [Utf8.lossy_nil]
      exact .nil
  | cons byte text inductionHypothesis =>
      have first := plain byte List.mem_cons_self
      rw [Utf8.lossy_ascii first.small]
      exact .cons (List.cons_ne_nil byte []) (character_plain first)
        (inductionHypothesis fun other membership => plain other (List.mem_cons_of_mem _ membership))

/-! ## Values that are read back -/

/-- The text is read as this value wherever it is delimited. -/
def Parses (text : Bytes) (read : Value) : Prop :=
  ∀ fuel rest, text.length < fuel → Delimited rest → value fuel (text ++ rest) = some (read, rest)

variable {text : Bytes}

theorem skipSpace_cons {byte : UInt8} (visible : isWhitespace byte = false) (rest : Bytes) :
    skipSpace (byte :: rest) = byte :: rest := by
  rw [skipSpace, List.dropWhile_cons, visible]
  rfl

theorem skipSpace_skipSpace (text : Bytes) : skipSpace (skipSpace text) = skipSpace text :=
  List.dropWhile_idempotent isWhitespace text

theorem value_skipSpace (fuel : Nat) (text : Bytes) :
    value fuel (skipSpace text) = value fuel text := by
  cases fuel with
  | zero => rfl
  | succ fuel => rw [value, value, skipSpace_skipSpace]

theorem items_skipSpace (fuel : Nat) (text : Bytes) :
    items fuel (skipSpace text) = items fuel text := by
  cases fuel with
  | zero => rfl
  | succ fuel => rw [items, items, value_skipSpace]

theorem items_bracket (fuel : Nat) (rest : Bytes) : items fuel (93 :: rest) = none := by
  cases fuel with
  | zero => rfl
  | succ fuel =>
      cases fuel with
      | zero => rfl
      | succ fuel => rfl

theorem Parses.bool (flag : Bool) : Parses (ascii (if flag then "true" else "false")) (.bool flag) := by
  intro fuel rest enough _
  cases fuel with
  | zero => exact absurd enough (Nat.not_lt_zero _)
  | succ fuel => cases flag <;> rfl

theorem value_scalar {byte : UInt8} (visible : isWhitespace byte = false) (brace : byte ≠ 123)
    (bracket : byte ≠ 91) (quote : byte ≠ 34) {fuel : Nat} :
    value (fuel + 1) (byte :: rest) = scalar (byte :: rest) := by
  rw [value, skipSpace_cons visible]
  split
  next same => exact absurd (List.cons.inj same).1 brace
  next same => exact absurd (List.cons.inj same).1 bracket
  next same => exact absurd (List.cons.inj same).1 quote
  next => rfl

theorem numeral_first {byte : UInt8} (first : byte = 45 ∨ isDigit byte = true) :
    isWhitespace byte = false ∧
      byte ≠ 123 ∧ byte ≠ 91 ∧ byte ≠ 34 ∧ byte ≠ 110 ∧ byte ≠ 116 ∧ byte ≠ 102 := by
  rcases first with rfl | digit
  · decide
  · have other : ∀ byte', isDigit byte' = false → byte ≠ byte' := by
      rintro _ excluded rfl
      exact absurd digit (Bool.eq_false_iff.mp excluded)
    refine ⟨?_, other _ rfl, other _ rfl, other _ rfl, other _ rfl, other _ rfl, other _ rfl⟩
    simp only [isWhitespace, Bool.or_eq_false_iff, beq_eq_false_iff_ne]
    exact ⟨⟨⟨other _ rfl, other _ rfl⟩, other _ rfl⟩, other _ rfl⟩

theorem IsNumber.first (number_ok : IsNumber text) :
    ∃ byte bytes, text = byte :: bytes ∧ (byte = 45 ∨ isDigit byte = true) := by
  cases number_ok with
  | @parts signed digits _ _ signed_ok digits_ok =>
      rcases signed_ok with rfl | rfl
      · obtain ⟨nonempty, all⟩ := digits_ok
        cases digits with
        | nil => exact absurd rfl nonempty
        | cons byte bytes => exact ⟨byte, _, rfl, .inr (all byte List.mem_cons_self)⟩
      · exact ⟨45, _, rfl, .inl rfl⟩

theorem Parses.number (number_ok : IsNumber text) : Parses text (.number text) := by
  intro fuel rest enough delimited
  have read := number_append number_ok delimited
  obtain ⟨byte, bytes, rfl, begins⟩ := number_ok.first
  obtain ⟨visible, brace, bracket, quote, n, t, f⟩ := numeral_first begins
  cases fuel with
  | zero => exact absurd enough (Nat.not_lt_zero _)
  | succ fuel =>
      have literal : ∀ first : UInt8, ∀ word : Bytes, byte ≠ first →
          ¬ (first :: word).isPrefixOf (byte :: bytes ++ rest) = true := by
        intro first word differs
        simp [List.isPrefixOf, Ne.symm differs]
      have scalars : scalar (byte :: bytes ++ rest) = some (.number (byte :: bytes), rest) := by
        rw [scalar]
        rw [if_neg (show ¬ (ascii "null").isPrefixOf _ = true from literal 110 _ n)]
        rw [if_neg (show ¬ (ascii "true").isPrefixOf _ = true from literal 116 _ t)]
        rw [if_neg (show ¬ (ascii "false").isPrefixOf _ = true from literal 102 _ f)]
        rw [read, Option.map_some]
      rw [← scalars, List.cons_append]
      exact value_scalar visible brace bracket quote

theorem Parses.string {body : Bytes} {read : List Char} (body_ok : Body body read) :
    Parses (34 :: body ++ [34]) (.string read) := by
  intro fuel rest enough _
  cases fuel with
  | zero => exact absurd enough (Nat.not_lt_zero _)
  | succ fuel =>
      have closed := body_ok ((body ++ 34 :: rest).length + 1) rest (by simp)
      rw [List.append_assoc, List.cons_append, value, skipSpace_cons (by decide)]
      simp only [List.singleton_append, closed, Option.map_some]

def member (text : Bytes × Bytes) : Bytes := 34 :: text.1 ++ 34 :: 58 :: text.2

def commas (pieces : List Bytes) : Bytes := [44].intercalate pieces

theorem commas_singleton (piece : Bytes) : commas [piece] = piece := by
  simp [commas, List.intercalate]

theorem commas_cons (first second : Bytes) (more : List Bytes) :
    commas (first :: second :: more) = first ++ 44 :: commas (second :: more) := by
  simp [commas, List.intercalate]

theorem delimited_cons {byte : UInt8} (ends : byte = 44 ∨ byte = 125 ∨ byte = 93) (rest : Bytes) :
    Delimited (byte :: rest) := by
  intro found isHead
  cases isHead
  rcases ends with rfl | rfl | rfl <;> decide

def IsMember (text : Bytes × Bytes) (read : List Char × Value) : Prop :=
  Body text.1 read.1 ∧ Parses text.2 read.2

theorem members_member {text : Bytes × Bytes} {read : List Char × Value} (one : IsMember text read)
    {fuel : Nat} (enough : (member text).length < fuel + 1) (delimited : Delimited rest) :
    members (fuel + 1) (member text ++ rest) =
      match skipSpace rest with
      | 44 :: rest => (members fuel rest).map fun (more, rest) => (read :: more, rest)
      | 125 :: rest => some ([read], rest)
      | _ => none := by
  obtain ⟨key, text⟩ := text
  have length : (member (key, text)).length = key.length + text.length + 3 := by
    simp [member]
    omega
  have named := one.1 ((key ++ 34 :: 58 :: (text ++ rest)).length + 1) (58 :: (text ++ rest))
    (by simp)
  have shape : member (key, text) ++ rest = 34 :: (key ++ 34 :: 58 :: (text ++ rest)) := by
    simp [member]
  rw [shape, members, skipSpace_cons (by decide)]
  simp only [named, skipSpace_cons (show isWhitespace 58 = false by decide),
    one.2 fuel rest (by simp only; omega) delimited]

theorem members_commas {texts : List (Bytes × Bytes)} {reads : List (List Char × Value)}
    (parses : List.Forall₂ IsMember texts reads) (nonempty : texts ≠ []) :
    ∀ fuel, (commas (texts.map member)).length < fuel →
      members fuel (commas (texts.map member) ++ 125 :: rest) = some (reads, rest) := by
  induction parses with
  | nil => exact absurd rfl nonempty
  | @cons text read texts reads one more inductionHypothesis =>
      intro fuel enough
      cases fuel with
      | zero => exact absurd enough (Nat.not_lt_zero _)
      | succ fuel =>
          cases more with
          | nil =>
              rw [List.map_singleton, commas_singleton] at enough ⊢
              rw [members_member one enough (delimited_cons (by simp) rest)]
              rfl
          | @cons second _ texts _ _ _ =>
              have split : commas ((text :: second :: texts).map member) =
                  member text ++ 44 :: commas ((second :: texts).map member) :=
                commas_cons (member text) (member second) (texts.map member)
              rw [split, List.length_append, List.length_cons] at enough
              have behind := inductionHypothesis (List.cons_ne_nil _ _) fuel (by omega)
              rw [split, List.append_assoc, List.cons_append,
                members_member one (by omega) (delimited_cons (by simp) _),
                skipSpace_cons (by decide)]
              simp only [behind, Option.map_some]

def objectText (members : List (Bytes × Bytes)) : Bytes :=
  123 :: commas (members.map member) ++ [125]

theorem Parses.object {texts : List (Bytes × Bytes)} {reads : List (List Char × Value)}
    (parses : List.Forall₂ IsMember texts reads) : Parses (objectText texts) (.object reads) := by
  intro fuel rest enough _
  cases fuel with
  | zero => exact absurd enough (Nat.not_lt_zero _)
  | succ fuel =>
      rw [objectText, List.append_assoc, List.cons_append, value, skipSpace_cons (by decide)]
      cases parses with
      | nil => rfl
      | @cons text read texts reads one more =>
          have inside : members fuel (commas ((text :: texts).map member) ++ 125 :: rest) =
              some (read :: reads, rest) := by
            apply members_commas (.cons one more) (List.cons_ne_nil text texts)
            simp only [objectText, List.length_append, List.length_cons, List.length_nil] at enough
            omega
          have quote : ∃ bytes, commas ((text :: texts).map member) ++ 125 :: rest = 34 :: bytes := by
            cases texts with
            | nil => exact ⟨_, by rw [List.map_singleton, commas_singleton]; rfl⟩
            | cons => exact ⟨_, by rw [List.map_cons, List.map_cons, commas_cons]; rfl⟩
          obtain ⟨bytes, shape⟩ := quote
          rw [List.singleton_append]
          rw [shape] at inside ⊢
          show (members fuel (34 :: bytes)).map _ = _
          rw [inside, Option.map_some]

theorem items_item {read : Value} (one : Parses text read) {fuel : Nat}
    (enough : text.length < fuel) (delimited : Delimited rest) :
    items (fuel + 1) (text ++ rest) =
      match skipSpace rest with
      | 44 :: rest => (items fuel rest).map fun (more, rest) => (read :: more, rest)
      | 93 :: rest => some ([read], rest)
      | _ => none := by
  rw [items, one fuel rest enough delimited]

theorem items_commas {texts : List Bytes} {reads : List Value}
    (parses : List.Forall₂ Parses texts reads) (nonempty : texts ≠ []) :
    ∀ fuel, (commas texts).length + 1 < fuel →
      items fuel (commas texts ++ 93 :: rest) = some (reads, rest) := by
  induction parses with
  | nil => exact absurd rfl nonempty
  | @cons text read texts reads one more inductionHypothesis =>
      intro fuel enough
      cases fuel with
      | zero => exact absurd enough (Nat.not_lt_zero _)
      | succ fuel =>
          cases more with
          | nil =>
              rw [commas_singleton] at enough ⊢
              rw [items_item one (by omega) (delimited_cons (by simp) rest)]
              rfl
          | @cons second _ texts _ _ _ =>
              rw [commas_cons, List.length_append, List.length_cons] at enough
              have behind := inductionHypothesis (List.cons_ne_nil _ _) fuel (by omega)
              rw [commas_cons, List.append_assoc, List.cons_append,
                items_item one (by omega) (delimited_cons (by simp) _),
                skipSpace_cons (by decide)]
              simp only [behind, Option.map_some]

def arrayText (items : List Bytes) : Bytes := 91 :: commas items ++ [93]

theorem Parses.array {texts : List Bytes} {reads : List Value}
    (parses : List.Forall₂ Parses texts reads) : Parses (arrayText texts) (.array reads) := by
  intro fuel rest enough _
  cases fuel with
  | zero => exact absurd enough (Nat.not_lt_zero _)
  | succ fuel =>
      rw [arrayText, List.append_assoc, List.cons_append, value, skipSpace_cons (by decide)]
      cases parses with
      | nil => rfl
      | @cons text read texts reads one more =>
          have inside : items fuel (commas (text :: texts) ++ 93 :: rest) =
              some (read :: reads, rest) := by
            apply items_commas (.cons one more) (List.cons_ne_nil text texts)
            simp only [arrayText, List.length_append, List.length_cons, List.length_nil] at enough
            omega
          rw [List.singleton_append]
          rw [← items_skipSpace] at inside
          simp only
          split
          next behind bracket =>
            rw [bracket, items_bracket] at inside
            cases inside
          · rw [inside, Option.map_some]

theorem Parses.decode {read : Value} (parses : Parses text read) : decode text = some read := by
  have whole := parses (text.length + 1) [] (Nat.lt_succ_self _) (by simp [Delimited])
  rw [List.append_nil] at whole
  rw [Json.decode, whole]
  rfl

end Json

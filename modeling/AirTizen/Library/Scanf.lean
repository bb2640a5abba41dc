import AirTizen.Library.Binary64
import AirTizen.Library.Text

/-!
# Formatted input

`sscanf` for the directives that text protocols use.  Integer conversions accept
white space and a sign, saturate at 64 bits and are then cut to the width of
their variable; a conversion that fails ends the scan.  `%lf` follows ISO C where
C libraries differ: `1e` and `nan(` without a `)` are beginnings of numbers, so
that the conversion fails, and `nan(...)` is read up to its `)`.
-/

namespace Scanf

open CText Binary64

inductive Directive where
  | byte (expected : UInt8)
  /-- White space in the format. -/
  | space
  /-- `%<width>s`. -/
  | text (width : Nat)
  /-- `%c`. -/
  | char
  /-- `%u` for 32 bits, `%llu` for 64. -/
  | unsigned (bits : Nat)
  /-- `%d`. -/
  | signed
  /-- `%lf`. -/
  | double
  /-- `%n`. -/
  | position
  deriving DecidableEq

inductive Value where
  | text (bytes : Bytes)
  | char (byte : UInt8)
  | unsigned (number : Nat)
  | signed (number : Int)
  | double (number : Double)
  deriving DecidableEq

/-- The converted values, and what `%n` stored if the scan got there. -/
structure Scanned where
  values : List Value := []
  parsed : Option Nat := none
  deriving DecidableEq

def Scanned.cons (value : Value) (rest : Scanned) : Scanned :=
  { rest with values := value :: rest.values }

/-- What `sscanf` returns (the end of the input counts as zero). -/
def Scanned.count (scanned : Scanned) : Nat := scanned.values.length

def literal (text : String) : List Directive := (ascii text).map .byte

def skipSpace (input : Bytes) : Bytes := input.dropWhile isSpace

/-- An optional sign: whether it is a minus, and the input behind it. -/
def scanSign : Bytes → Bool × Bytes
  | byte :: rest => if byte = 45 then (true, rest) else if byte = 43 then (false, rest)
      else (false, byte :: rest)
  | [] => (false, [])

def scanInteger (input : Bytes) : Option (Bool × Nat × Bytes) :=
  let (negative, input) := scanSign (skipSpace input)
  let digits := input.takeWhile isDigit
  if digits = [] then none else some (negative, decimalValue digits, input.dropWhile isDigit)

/-- `strtoull`: negative numbers wrap, and what does not fit saturates. -/
def unsignedValue (bits : Nat) (negative : Bool) (magnitude : Nat) : Nat :=
  (if 2 ^ 64 ≤ magnitude then 2 ^ 64 - 1
    else if negative then (2 ^ 64 - magnitude) % 2 ^ 64
    else magnitude) % 2 ^ bits

/-- `strtol` cut to a 32-bit `int`. -/
def signedValue (negative : Bool) (magnitude : Nat) : Int :=
  let long : Int :=
    if negative then -(min magnitude (2 ^ 63) : Nat) else (min magnitude (2 ^ 63 - 1) : Nat)
  (long + 2 ^ 31) % 2 ^ 32 - 2 ^ 31

/-! ## Floating point -/

/-- A way to write numbers: the digits, the letter that starts an exponent, and
what one step of the exponent multiplies by. -/
structure Numeral where
  base : Nat
  marker : UInt8
  scale : Nat

def decimalNumeral : Numeral := ⟨10, 101, 10⟩
def hexNumeral : Numeral := ⟨16, 112, 2⟩

def Numeral.digit (numeral : Numeral) (byte : UInt8) : Option Nat :=
  let lower := tolower byte
  if isDigit byte then some (byte.toNat - 48)
  else if numeral.base = 16 ∧ 97 ≤ lower ∧ lower ≤ 102 then some (lower.toNat - 87)
  else none

def Numeral.value (numeral : Numeral) (digits : Bytes) : Nat :=
  digits.foldl (fun value byte => numeral.base * value + (numeral.digit byte).getD 0) 0

/-- Digits with an optional fraction: all digits, how many of them are behind the
point, and the input behind them. -/
def Numeral.scanMantissa (numeral : Numeral) (input : Bytes) : Bytes × Nat × Bytes :=
  let isDigit := fun byte => (numeral.digit byte).isSome
  let whole := input.takeWhile isDigit
  let rest := input.dropWhile isDigit
  if rest.head? == some 46 then
    let fraction := rest.tail.takeWhile isDigit
    (whole ++ fraction, fraction.length, rest.tail.dropWhile isDigit)
  else (whole, 0, rest)

/-- The exponent behind the digits.  Once its letter is read, its digits have to
follow. -/
def Numeral.scanExponent (numeral : Numeral) (negative : Bool) (magnitude : ℚ) :
    Bytes → Option (Double × Bytes)
  | letter :: exponent =>
      if tolower letter = numeral.marker then
        let (down, exponent) := scanSign exponent
        let digits := exponent.takeWhile isDigit
        let factor : ℚ := numeral.scale ^ decimalValue digits
        if digits = [] then none
        else some (nearest negative (if down then magnitude / factor else magnitude * factor),
          exponent.dropWhile isDigit)
      else some (nearest negative magnitude, letter :: exponent)
  | [] => some (nearest negative magnitude, [])

def Numeral.scan (numeral : Numeral) (negative : Bool) (input : Bytes) :
    Option (Double × Bytes) :=
  let (digits, fraction, rest) := numeral.scanMantissa input
  if digits = [] then none
  else
    numeral.scanExponent negative (numeral.value digits / (numeral.base : ℚ) ^ fraction) rest

/-- How many bytes of the word the input starts with, ignoring case. -/
def commonLetters : Bytes → Bytes → Nat
  | letter :: word, byte :: rest =>
      if tolower byte = letter then commonLetters word rest + 1 else 0
  | _, _ => 0

/-- `%lf`: the longest input that could be a number has to be one. -/
def scanDouble (input : Bytes) : Option (Double × Bytes) :=
  let (negative, input) := scanSign (skipSpace input)
  let infinity := commonLetters (ascii "infinity") input
  let nan := commonLetters (ascii "nan") input
  if infinity = 8 ∨ infinity = 3 then some (.infinite negative, input.drop infinity)
  else if 0 < infinity then none
  else if nan = 3 then
    let word := (input.drop 4).takeWhile fun byte =>
      isDigit byte || (97 ≤ tolower byte && tolower byte ≤ 122) || byte == 95
    if (input.drop 3).head? ≠ some 40 then some (.nan, input.drop 3)
    else if (input.drop (4 + word.length)).head? = some 41 then
      some (.nan, input.drop (5 + word.length))
    else none
  else if 0 < nan then none
  else if commonLetters (ascii "0x") input = 2 then hexNumeral.scan negative (input.drop 2)
  else decimalNumeral.scan negative input

/-! ## The scan -/

/-- The scan of the rest of an input of `total` bytes. -/
def scanFrom (total : Nat) : List Directive → Bytes → Scanned
  | [], _ => {}
  | .byte expected :: format, input =>
      match input with
      | byte :: rest => if byte = expected then scanFrom total format rest else {}
      | [] => {}
  | .space :: format, input => scanFrom total format (skipSpace input)
  | .text width :: format, input =>
      let input := skipSpace input
      let word := (input.takeWhile fun byte => !isSpace byte).take width
      if word = [] then {}
      else (scanFrom total format (input.drop word.length)).cons (.text word)
  | .char :: format, input =>
      match input with
      | byte :: rest => (scanFrom total format rest).cons (.char byte)
      | [] => {}
  | .unsigned bits :: format, input =>
      match scanInteger input with
      | some (negative, magnitude, rest) =>
          (scanFrom total format rest).cons (.unsigned (unsignedValue bits negative magnitude))
      | none => {}
  | .signed :: format, input =>
      match scanInteger input with
      | some (negative, magnitude, rest) =>
          (scanFrom total format rest).cons (.signed (signedValue negative magnitude))
      | none => {}
  | .double :: format, input =>
      match scanDouble input with
      | some (number, rest) => (scanFrom total format rest).cons (.double number)
      | none => {}
  | .position :: format, input =>
      { scanFrom total format input with parsed := some (total - input.length) }

def sscanf (format : List Directive) (input : Bytes) : Scanned :=
  scanFrom input.length format input

/-! ## What is left behind a conversion -/

theorem skipSpace_isSuffix (input : Bytes) : skipSpace input <:+ input :=
  List.dropWhile_suffix _

theorem scanSign_isSuffix (input : Bytes) : (scanSign input).2 <:+ input := by
  cases input with
  | nil => exact List.suffix_rfl
  | cons byte rest =>
      simp only [scanSign]
      split
      · exact List.suffix_cons byte rest
      · split
        · exact List.suffix_cons byte rest
        · exact List.suffix_rfl

theorem scanInteger_isSuffix {input rest : Bytes} {negative : Bool} {magnitude : Nat}
    (scanned : scanInteger input = some (negative, magnitude, rest)) : rest <:+ input := by
  simp only [scanInteger] at scanned
  split at scanned
  · cases scanned
  · simp only [Option.some.injEq, Prod.mk.injEq] at scanned
    rw [← scanned.2.2]
    exact (List.dropWhile_suffix _).trans
      ((scanSign_isSuffix _).trans (skipSpace_isSuffix input))

theorem Numeral.scanMantissa_isSuffix (numeral : Numeral) (input : Bytes) :
    (numeral.scanMantissa input).2.2 <:+ input := by
  simp only [Numeral.scanMantissa]
  split
  · exact (List.dropWhile_suffix _).trans ((List.tail_suffix _).trans (List.dropWhile_suffix _))
  · exact List.dropWhile_suffix _

theorem Numeral.scanExponent_isSuffix {numeral : Numeral} {negative : Bool} {magnitude : ℚ}
    {input rest : Bytes} {number : Double}
    (scanned : numeral.scanExponent negative magnitude input = some (number, rest)) :
    rest <:+ input := by
  cases input with
  | nil =>
      simp only [Numeral.scanExponent, Option.some.injEq, Prod.mk.injEq] at scanned
      rw [← scanned.2]
  | cons letter exponent =>
      simp only [Numeral.scanExponent] at scanned
      split at scanned
      · split at scanned
        · cases scanned
        · simp only [Option.some.injEq, Prod.mk.injEq] at scanned
          rw [← scanned.2]
          exact (List.dropWhile_suffix _).trans
            ((scanSign_isSuffix exponent).trans (List.suffix_cons letter exponent))
      · simp only [Option.some.injEq, Prod.mk.injEq] at scanned
        rw [← scanned.2]

theorem Numeral.scan_isSuffix {numeral : Numeral} {negative : Bool} {input rest : Bytes}
    {number : Double} (scanned : numeral.scan negative input = some (number, rest)) :
    rest <:+ input := by
  simp only [Numeral.scan] at scanned
  split at scanned
  · cases scanned
  · exact (Numeral.scanExponent_isSuffix scanned).trans (numeral.scanMantissa_isSuffix input)

theorem scanDouble_isSuffix {input rest : Bytes} {number : Double}
    (scanned : scanDouble input = some (number, rest)) : rest <:+ input := by
  have start : (scanSign (skipSpace input)).2 <:+ input :=
    (scanSign_isSuffix _).trans (skipSpace_isSuffix input)
  simp only [scanDouble] at scanned
  split at scanned
  · simp only [Option.some.injEq, Prod.mk.injEq] at scanned
    rw [← scanned.2]
    exact (List.drop_suffix _ _).trans start
  split at scanned
  · cases scanned
  split at scanned
  · split at scanned
    · simp only [Option.some.injEq, Prod.mk.injEq] at scanned
      rw [← scanned.2]
      exact (List.drop_suffix _ _).trans start
    · split at scanned
      · simp only [Option.some.injEq, Prod.mk.injEq] at scanned
        rw [← scanned.2]
        exact (List.drop_suffix _ _).trans start
      · cases scanned
  split at scanned
  · cases scanned
  split at scanned
  · exact (Numeral.scan_isSuffix scanned).trans ((List.drop_suffix _ _).trans start)
  · exact (Numeral.scan_isSuffix scanned).trans start

/-- A word that was read is a piece of the input. -/
theorem isInfix_of_text_mem {total : Nat} {format : List Directive} {input word : Bytes}
    (membership : .text word ∈ (scanFrom total format input).values) : word <:+: input := by
  induction format generalizing input with
  | nil => simp [scanFrom] at membership
  | cons directive format inductionHypothesis =>
      cases directive with
      | byte expected =>
          simp only [scanFrom] at membership
          split at membership
          next byte rest =>
            split at membership
            · exact (inductionHypothesis membership).trans (List.suffix_cons byte rest).isInfix
            · simp at membership
          · simp at membership
      | space =>
          exact (inductionHypothesis membership).trans (skipSpace_isSuffix input).isInfix
      | text width =>
          simp only [scanFrom] at membership
          split at membership
          · simp at membership
          · simp only [Scanned.cons, List.mem_cons, Value.text.injEq] at membership
            rcases membership with rfl | later
            · exact (List.take_prefix _ _).isInfix.trans
                ((List.takeWhile_prefix _).isInfix.trans (skipSpace_isSuffix input).isInfix)
            · exact (inductionHypothesis later).trans
                ((List.drop_suffix _ _).trans (skipSpace_isSuffix input)).isInfix
      | char =>
          simp only [scanFrom] at membership
          split at membership
          next byte rest =>
            simp only [Scanned.cons, List.mem_cons, reduceCtorEq, false_or] at membership
            exact (inductionHypothesis membership).trans (List.suffix_cons byte rest).isInfix
          · simp at membership
      | unsigned bits =>
          simp only [scanFrom] at membership
          split at membership
          next negative magnitude rest scanned =>
            simp only [Scanned.cons, List.mem_cons, reduceCtorEq, false_or] at membership
            exact (inductionHypothesis membership).trans (scanInteger_isSuffix scanned).isInfix
          · simp at membership
      | signed =>
          simp only [scanFrom] at membership
          split at membership
          next negative magnitude rest scanned =>
            simp only [Scanned.cons, List.mem_cons, reduceCtorEq, false_or] at membership
            exact (inductionHypothesis membership).trans (scanInteger_isSuffix scanned).isInfix
          · simp at membership
      | double =>
          simp only [scanFrom] at membership
          split at membership
          next number rest scanned =>
            simp only [Scanned.cons, List.mem_cons, reduceCtorEq, false_or] at membership
            exact (inductionHypothesis membership).trans (scanDouble_isSuffix scanned).isInfix
          · simp at membership
      | position => exact inductionHypothesis membership

/-! ## Reading printed text back -/

theorem scanFrom_literal (total : Nat) (text : String) (format : List Directive)
    (rest : Bytes) :
    scanFrom total (literal text ++ format) (ascii text ++ rest) = scanFrom total format rest := by
  unfold literal
  induction ascii text with
  | nil => rfl
  | cons byte bytes inductionHypothesis => simpa [scanFrom] using inductionHypothesis

theorem scanSign_digit {byte : UInt8} (digit : isDigit byte = true) (rest : Bytes) :
    scanSign (byte :: rest) = (false, byte :: rest) := by
  have notMinus : byte ≠ 45 := by
    rintro rfl
    exact absurd digit (by decide)
  have notPlus : byte ≠ 43 := by
    rintro rfl
    exact absurd digit (by decide)
  simp [scanSign, notMinus, notPlus]

theorem scanInteger_decimal (number : Nat) {rest : Bytes}
    (stop : ∀ byte ∈ rest.head?, isDigit byte = false) :
    scanInteger (decimal number ++ rest) = some (false, number, rest) := by
  have digits : ∀ byte ∈ decimal number, isDigit byte = true := fun _ => isDigit_of_mem_decimal
  have start : scanSign (skipSpace (decimal number ++ rest)) =
      (false, decimal number ++ rest) := by
    cases printed : decimal number with
    | nil => exact absurd printed (decimal_ne_nil number)
    | cons byte bytes =>
        have digit := digits byte (by simp [printed])
        rw [List.cons_append, skipSpace, List.dropWhile_cons_of_neg
          (by simp [isSpace_of_isDigit digit]), scanSign_digit digit]
  have behind : rest.takeWhile isDigit = [] ∧ rest.dropWhile isDigit = rest := by
    cases rest with
    | nil => exact ⟨rfl, rfl⟩
    | cons byte bytes =>
        have stopped := stop byte rfl
        simp [stopped]
  simp only [scanInteger, start, List.takeWhile_append_of_pos digits,
    List.dropWhile_append_of_pos digits, behind, List.append_nil,
    if_neg (decimal_ne_nil number), decimalValue_decimal]

theorem scanFrom_unsigned {total bits number : Nat} (small : bits ≤ 64)
    (fits : number < 2 ^ bits) (format : List Directive) {rest : Bytes}
    (stop : ∀ byte ∈ rest.head?, isDigit byte = false) :
    scanFrom total (.unsigned bits :: format) (decimal number ++ rest) =
      (scanFrom total format rest).cons (.unsigned number) := by
  have wide : number < 2 ^ 64 := fits.trans_le (Nat.pow_le_pow_right (by omega) small)
  rw [scanFrom, scanInteger_decimal number stop]
  simp only [unsignedValue, if_neg (Nat.not_le.mpr wide), Bool.false_eq_true, if_false,
    Nat.mod_eq_of_lt fits]

theorem skipSpace_word {word : Bytes} (plain : ∀ byte ∈ word, isSpace byte = false)
    (nonempty : word ≠ []) (rest : Bytes) : skipSpace (word ++ rest) = word ++ rest := by
  cases word with
  | nil => exact absurd rfl nonempty
  | cons byte bytes =>
      rw [List.cons_append, skipSpace,
        List.dropWhile_cons_of_neg (by simp [plain byte List.mem_cons_self])]

theorem scanFrom_text {total width : Nat} {word rest : Bytes}
    (plain : ∀ byte ∈ word, isSpace byte = false) (nonempty : word ≠ [])
    (short : word.length ≤ width) (stop : ∀ byte ∈ rest.head?, isSpace byte = true)
    (format : List Directive) :
    scanFrom total (.text width :: format) (word ++ rest) =
      (scanFrom total format rest).cons (.text word) := by
  have letters : ∀ byte ∈ word, (!isSpace byte) = true := fun byte membership => by
    simp [plain byte membership]
  have behind : rest.takeWhile (fun byte => !isSpace byte) = [] := by
    cases rest with
    | nil => rfl
    | cons byte bytes => simp [stop byte rfl]
  have taken : ((word ++ rest).takeWhile fun byte => !isSpace byte).take width = word := by
    rw [List.takeWhile_append_of_pos letters, behind, List.append_nil,
      List.take_of_length_le short]
  simp only [scanFrom, skipSpace_word plain nonempty, taken, if_neg nonempty, List.drop_left]

theorem scanFrom_space {total : Nat} {word : Bytes}
    (plain : ∀ byte ∈ word, isSpace byte = false) (nonempty : word ≠ [])
    (format : List Directive) (rest : Bytes) :
    scanFrom total (.space :: format) (32 :: (word ++ rest)) =
      scanFrom total format (word ++ rest) := by
  have space : isSpace 32 = true := rfl
  rw [scanFrom, skipSpace, List.dropWhile_cons_of_pos space]
  change scanFrom total format (skipSpace (word ++ rest)) = _
  rw [skipSpace_word plain nonempty]

/-! ## The text behind a number -/

/-- White space, a sign and digits: the text that an integer conversion takes. -/
inductive IntegerText : Bytes → Bool → Nat → Prop where
  | mk (spaces digits : Bytes) {sign : Bytes} {negative : Bool}
      (isSpaces : ∀ byte ∈ spaces, isSpace byte = true)
      (isSign : (sign, negative) ∈ [([], false), ([43], false), ([45], true)])
      (nonempty : digits ≠ []) (isDigits : ∀ byte ∈ digits, isDigit byte = true) :
      IntegerText (spaces ++ sign ++ digits) negative (decimalValue digits)

theorem scanSign_split (input : Bytes) :
    ∃ sign, input = sign ++ (scanSign input).2 ∧
      (sign, (scanSign input).1) ∈ [([], false), ([43], false), ([45], true)] := by
  cases input with
  | nil => exact ⟨[], rfl, by simp [scanSign]⟩
  | cons byte rest =>
      simp only [scanSign]
      split_ifs with minus plus
      · exact ⟨[45], by rw [minus]; rfl, by simp⟩
      · exact ⟨[43], by rw [plus]; rfl, by simp⟩
      · exact ⟨[], rfl, by simp⟩

theorem scanInteger_text {input rest : Bytes} {negative : Bool} {magnitude : Nat}
    (scanned : scanInteger input = some (negative, magnitude, rest)) :
    ∃ text, input = text ++ rest ∧ IntegerText text negative magnitude := by
  obtain ⟨sign, split, isSign⟩ := scanSign_split (skipSpace input)
  simp only [scanInteger] at scanned
  split_ifs at scanned with empty
  cases scanned
  have spaces := List.all_eq_true.mp (@List.all_takeWhile _ isSpace input)
  have digits := List.all_eq_true.mp
    (@List.all_takeWhile _ isDigit (scanSign (skipSpace input)).2)
  refine ⟨input.takeWhile isSpace ++ sign ++ (scanSign (skipSpace input)).2.takeWhile isDigit, ?_,
    .mk _ _ spaces isSign empty digits⟩
  rw [List.append_assoc, List.takeWhile_append_dropWhile, List.append_assoc, ← split, skipSpace,
    List.takeWhile_append_dropWhile]

theorem IntegerText.not_mem {text : Bytes} {negative : Bool} {magnitude : Nat} {byte : UInt8}
    (number : IntegerText text negative magnitude) (noSpace : isSpace byte = false)
    (noSign : byte ≠ 43 ∧ byte ≠ 45) (noDigit : isDigit byte = false) : byte ∉ text := by
  cases number with
  | @mk spaces digits sign _ isSpaces isSign nonempty isDigits =>
      have inSpaces : byte ∉ spaces := fun membership => by
        simp [isSpaces byte membership] at noSpace
      have inDigits : byte ∉ digits := fun membership => by
        simp [isDigits byte membership] at noDigit
      have inSign : byte ∉ sign := by
        simp only [List.mem_cons, List.not_mem_nil, or_false, Prod.mk.injEq] at isSign
        rcases isSign with ⟨rfl, -⟩ | ⟨rfl, -⟩ | ⟨rfl, -⟩
        · exact List.not_mem_nil
        · simpa using noSign.1
        · simpa using noSign.2
      simp [inSpaces, inSign, inDigits]

/-- What is converted is the value of the text exactly if the text begins with a digit and
its value fits the variable. -/
theorem IntegerText.exact_iff {text : Bytes} {negative : Bool} {magnitude bits : Nat}
    (number : IntegerText text negative magnitude) (narrow : bits ≤ 64) :
    (text ≠ [] ∧ (∀ byte ∈ text, isDigit byte = true) ∧
        decimalValue text = unsignedValue bits negative magnitude) ↔
      (∃ first, text.head? = some first ∧ isDigit first = true) ∧ decimalValue text < 2 ^ bits := by
  constructor
  · rintro ⟨nonempty, isDigits, value⟩
    obtain ⟨first, rest, rfl⟩ := List.exists_cons_of_ne_nil nonempty
    refine ⟨⟨first, rfl, isDigits first List.mem_cons_self⟩, ?_⟩
    rw [value]
    exact Nat.mod_lt _ (Nat.two_pow_pos bits)
  · rintro ⟨⟨first, head, isFirst⟩, fits⟩
    cases number with
    | @mk spaces digits sign _ isSpaces isSign nonempty isDigits =>
        have noSpaces : spaces = [] := by
          cases spaces with
          | nil => rfl
          | cons space spaces =>
              cases head
              have space_ := isSpaces first List.mem_cons_self
              rw [isSpace_of_isDigit isFirst] at space_
              cases space_
        subst noSpaces
        simp only [List.mem_cons, List.not_mem_nil, or_false, Prod.mk.injEq] at isSign
        rcases isSign with ⟨rfl, rfl⟩ | ⟨rfl, -⟩ | ⟨rfl, -⟩
        · have wide : decimalValue digits < 2 ^ 64 :=
            fits.trans_le (Nat.pow_le_pow_right (by omega) narrow)
          refine ⟨nonempty, isDigits, ?_⟩
          rw [unsignedValue, if_neg (Nat.not_le.mpr wide)]
          exact (Nat.mod_eq_of_lt fits).symm
        · cases head
          cases isFirst
        · cases head
          cases isFirst

/-! ## What a scan must have read -/

theorem scanFrom_literal_cases (total : Nat) (text : String) (format : List Directive)
    (input : Bytes) :
    (∃ rest, input = ascii text ++ rest ∧
      scanFrom total (literal text ++ format) input = scanFrom total format rest) ∨
    (scanFrom total (literal text ++ format) input = {} ∧ ∀ rest, input ≠ ascii text ++ rest) := by
  unfold literal
  induction ascii text generalizing input with
  | nil => exact Or.inl ⟨input, rfl, rfl⟩
  | cons expected bytes inductionHypothesis =>
      cases input with
      | nil => exact Or.inr ⟨rfl, fun rest => by simp⟩
      | cons byte behind =>
          rw [List.map_cons, List.cons_append, scanFrom]
          by_cases same : byte = expected
          · subst same
            rw [if_pos rfl]
            rcases inductionHypothesis behind with ⟨rest, rfl, scanned⟩ | ⟨scanned, other⟩
            · exact Or.inl ⟨rest, rfl, scanned⟩
            · refine Or.inr ⟨scanned, fun rest equal => other rest ?_⟩
              exact (List.cons.inj equal).2
          · rw [if_neg same]
            exact Or.inr ⟨rfl, fun rest equal => same (List.cons.inj equal).1⟩

theorem scanFrom_literal_some {total : Nat} {text : String} {format : List Directive}
    {input : Bytes} (converted : (scanFrom total (literal text ++ format) input).values ≠ []) :
    ∃ rest, input = ascii text ++ rest ∧
      scanFrom total (literal text ++ format) input = scanFrom total format rest := by
  rcases scanFrom_literal_cases total text format input with passed | ⟨failed, -⟩
  · exact passed
  · rw [failed] at converted
    exact absurd rfl converted

theorem scanFrom_unsigned_some {total bits : Nat} {format : List Directive} {input : Bytes}
    (converted : (scanFrom total (.unsigned bits :: format) input).values ≠ []) :
    ∃ text negative magnitude rest, input = text ++ rest ∧ IntegerText text negative magnitude ∧
      scanFrom total (.unsigned bits :: format) input =
        (scanFrom total format rest).cons (.unsigned (unsignedValue bits negative magnitude)) := by
  rw [scanFrom] at converted ⊢
  cases scanned : scanInteger input with
  | none =>
      rw [scanned] at converted
      exact absurd rfl converted
  | some found =>
      obtain ⟨negative, magnitude, rest⟩ := found
      obtain ⟨text, split, number⟩ := scanInteger_text scanned
      exact ⟨text, negative, magnitude, rest, split, number, rfl⟩

end Scanf

import Mathlib.Data.Nat.Digits.Lemmas
import Mathlib.Data.UInt

/-!
# C text

Byte strings, the string functions of the C library that a parser of text
protocols uses, and decimal printing.  A C string is the list of its bytes
before the terminating zero.
-/

namespace CText

abbrev Bytes := List UInt8

/-- Checked byte by byte along the text, not over all bytes there are. -/
instance (priority := high) decidableForallByte (property : UInt8 → Prop)
    [DecidablePred property] (text : Bytes) : Decidable (∀ byte ∈ text, property byte) :=
  List.decidableBAll property text

instance (priority := high) decidableForallNextByte (property : UInt8 → Prop)
    [DecidablePred property] (next : Option UInt8) : Decidable (∀ byte ∈ next, property byte) :=
  Option.decidableForallMem next

theorem forall_byte {Holds : UInt8 → Prop}
    (each : ∀ number : Fin 256, Holds (UInt8.ofNat number.val)) (byte : UInt8) : Holds byte := by
  have one := each ⟨byte.toNat, byte.toNat_lt⟩
  rwa [UInt8.ofNat_toNat] at one

def ascii (text : String) : Bytes :=
  text.toList.map fun character => character.toNat.toUInt8

/-- The bytes of ASCII characters.  A literal is turned into them without
evaluating the operations on strings. -/
def spelled (characters : List Char) : Bytes :=
  characters.map fun character => character.toNat.toUInt8

theorem ascii_ofList (characters : List Char) :
    ascii (String.ofList characters) = spelled characters := by
  rw [ascii, String.toList_ofList, spelled]

theorem spelled_append {first second : Bytes} {before after : List Char}
    (one : first = spelled before) (other : second = spelled after) :
    first ++ second = spelled (before ++ after) := by
  rw [one, other, spelled, spelled, spelled, List.map_append]

/-- First occurrence of `needle`: the bytes before it, and those from it on. -/
def strstr (needle : Bytes) : Bytes → Option (Bytes × Bytes)
  | [] => if needle.isEmpty then some ([], []) else none
  | byte :: rest =>
      if needle.isPrefixOf (byte :: rest) then some ([], byte :: rest)
      else (strstr needle rest).map fun (before, found) => (byte :: before, found)

/-- First occurrence of one byte: the bytes before it, and those after it. -/
def strchr (wanted : UInt8) : Bytes → Option (Bytes × Bytes)
  | [] => none
  | byte :: rest =>
      if byte = wanted then some ([], rest)
      else (strchr wanted rest).map fun (before, after) => (byte :: before, after)

/-- The lines between `\r\n`, of which there is at least one. -/
def crlfLines : Bytes → List Bytes
  | 13 :: 10 :: rest => [] :: crlfLines rest
  | byte :: rest =>
      match crlfLines rest with
      | line :: lines => (byte :: line) :: lines
      | [] => [[byte]]
  | [] => [[]]

/-- The string in a `char` array. -/
def cString (cells : Bytes) : Bytes := cells.takeWhile (· ≠ 0)

/-- ASCII lower case, as `strcasecmp` compares. -/
def tolower (byte : UInt8) : UInt8 := if 65 ≤ byte ∧ byte ≤ 90 then byte + 32 else byte

/-- `!strcasecmp(first, second)`. -/
def sameLetters (first second : Bytes) : Bool := first.map tolower == second.map tolower

/-- The bytes of `isspace` in the C locale. -/
def isSpace (byte : UInt8) : Bool :=
  byte == 32 || (9 ≤ byte && byte ≤ 13)

def isDigit (byte : UInt8) : Bool := 48 ≤ byte && byte ≤ 57

theorem strstr_append {needle text before found : Bytes}
    (split : strstr needle text = some (before, found)) : text = before ++ found := by
  induction text generalizing before with
  | nil =>
      simp only [strstr] at split
      split at split <;> simp_all
  | cons byte rest inductionHypothesis =>
      simp only [strstr] at split
      split at split
      · simp_all
      · simp only [Option.map_eq_some_iff, Prod.exists, Prod.mk.injEq] at split
        obtain ⟨head, tail, inner, rfl, rfl⟩ := split
        rw [List.cons_append, ← inductionHypothesis inner]

theorem strstr_isPrefix {needle text before found : Bytes}
    (split : strstr needle text = some (before, found)) : needle <+: found := by
  induction text generalizing before with
  | nil =>
      simp only [strstr] at split
      split at split <;> simp_all
  | cons byte rest inductionHypothesis =>
      simp only [strstr] at split
      split at split
      next starts =>
        simp only [Option.some.injEq, Prod.mk.injEq] at split
        rw [← split.2]
        exact List.isPrefixOf_iff_prefix.mp starts
      · simp only [Option.map_eq_some_iff, Prod.exists, Prod.mk.injEq] at split
        obtain ⟨head, tail, inner, rfl, rfl⟩ := split
        exact inductionHypothesis inner

theorem strstr_length_le {needle text before found : Bytes}
    (split : strstr needle text = some (before, found)) : needle.length ≤ text.length := by
  rw [strstr_append split, List.length_append]
  exact (strstr_isPrefix split).length_le.trans (Nat.le_add_left _ _)

/-- What was found stays where it is when the text goes on. -/
theorem strstr_extend {needle text before found : Bytes}
    (split : strstr needle text = some (before, found)) (rest : Bytes) :
    strstr needle (text ++ rest) = some (before, found ++ rest) := by
  induction text generalizing before with
  | nil =>
      simp only [strstr] at split
      split at split
      next empty =>
        cases split
        cases List.isEmpty_iff.mp empty
        cases rest <;> simp [strstr]
      · cases split
  | cons byte tail inductionHypothesis =>
      simp only [strstr] at split
      rw [List.cons_append, strstr]
      split at split
      next starts =>
        cases split
        have longer : needle <+: byte :: (tail ++ rest) :=
          (List.isPrefixOf_iff_prefix.mp starts).trans (List.prefix_append (byte :: tail) rest)
        rw [if_pos (List.isPrefixOf_iff_prefix.mpr longer)]
        rfl
      next differs =>
        simp only [Option.map_eq_some_iff, Prod.exists, Prod.mk.injEq] at split
        obtain ⟨head, behind, inner, rfl, rfl⟩ := split
        have notLonger : ¬ needle.isPrefixOf (byte :: (tail ++ rest)) = true := by
          intro starts
          have short : needle.length ≤ (byte :: tail).length :=
            (strstr_length_le inner).trans (Nat.le_succ _)
          exact differs (List.isPrefixOf_iff_prefix.mpr (List.prefix_of_prefix_length_le
            (List.isPrefixOf_iff_prefix.mp starts) (List.prefix_append (byte :: tail) rest) short))
        rw [if_neg notLonger, inductionHypothesis inner]
        rfl

/-- A needle is found behind bytes that differ from its first one. -/
theorem strstr_skip {first : UInt8} {needle skipped text : Bytes} (absent : first ∉ skipped) :
    strstr (first :: needle) (skipped ++ text) =
      (strstr (first :: needle) text).map fun (before, found) => (skipped ++ before, found) := by
  induction skipped with
  | nil => simp
  | cons byte rest inductionHypothesis =>
      simp only [List.mem_cons, not_or] at absent
      rw [List.cons_append, strstr, if_neg (by simp [List.isPrefixOf, absent.1]),
        inductionHypothesis absent.2, Option.map_map]
      rfl

theorem strstr_suffix {needle skipped text before found : Bytes}
    (split : strstr needle (skipped ++ text) = some (skipped ++ before, found)) :
    strstr needle text = some (before, found) := by
  induction skipped with
  | nil => exact split
  | cons byte rest inductionHypothesis =>
      rw [List.cons_append, strstr] at split
      split at split
      · cases split
      · simp only [Option.map_eq_some_iff, Prod.exists, Prod.mk.injEq] at split
        obtain ⟨head, tail, inner, sameHead, rfl⟩ := split
        cases sameHead
        exact inductionHypothesis inner

theorem strstr_crlf {line : Bytes} (absent : strstr [13, 10] line = none) (rest : Bytes) :
    strstr [13, 10] (line ++ 13 :: 10 :: rest) = some (line, 13 :: 10 :: rest) := by
  induction line with
  | nil => simp [strstr]
  | cons byte line inductionHypothesis =>
      rw [strstr] at absent
      split at absent
      · cases absent
      next differs =>
        have differsLonger : ¬ [13, 10].isPrefixOf (byte :: (line ++ 13 :: 10 :: rest)) = true := by
          intro starts
          cases line with
          | nil => simp [List.isPrefixOf] at starts
          | cons next line => exact differs (by simpa [List.isPrefixOf] using starts)
        rw [List.cons_append, strstr, if_neg differsLonger,
          inductionHypothesis (Option.map_eq_none_iff.mp absent)]
        rfl

theorem strchr_append {wanted : UInt8} {text before after : Bytes}
    (split : strchr wanted text = some (before, after)) :
    text = before ++ wanted :: after := by
  induction text generalizing before with
  | nil => simp [strchr] at split
  | cons byte rest inductionHypothesis =>
      simp only [strchr] at split
      split at split
      · simp_all
      · simp only [Option.map_eq_some_iff, Prod.exists, Prod.mk.injEq] at split
        obtain ⟨head, tail, inner, rfl, rfl⟩ := split
        rw [List.cons_append, ← inductionHypothesis inner]

theorem strchr_eq_some {wanted : UInt8} {before after : Bytes} (absent : wanted ∉ before) :
    strchr wanted (before ++ wanted :: after) = some (before, after) := by
  induction before with
  | nil => simp [strchr]
  | cons byte rest inductionHypothesis =>
      simp only [List.mem_cons, not_or] at absent
      simp [strchr, Ne.symm absent.1, inductionHypothesis absent.2]

theorem crlfLines_ne_nil (text : Bytes) : crlfLines text ≠ [] := by
  fun_cases crlfLines text <;> simp

theorem crlfLines_cons {line : Bytes} (whole : 13 ∉ line) (rest : Bytes) :
    crlfLines (line ++ 13 :: 10 :: rest) = line :: crlfLines rest := by
  induction line with
  | nil => rfl
  | cons byte bytes inductionHypothesis =>
      simp only [List.mem_cons, not_or] at whole
      rw [List.cons_append, crlfLines, inductionHypothesis whole.2]
      rintro _ rfl
      exact absurd rfl whole.1

theorem crlfLines_singleton {line : Bytes} (whole : 13 ∉ line) : crlfLines line = [line] := by
  induction line with
  | nil => rfl
  | cons byte bytes inductionHypothesis =>
      simp only [List.mem_cons, not_or] at whole
      rw [crlfLines, inductionHypothesis whole.2]
      rintro _ rfl
      exact absurd rfl whole.1

/-- The lines, found one after the other. -/
theorem crlfLines_strstr (text : Bytes) :
    crlfLines text =
      match strstr [13, 10] text with
      | some (line, found) => line :: crlfLines (found.drop 2)
      | none => [text] := by
  fun_induction crlfLines text with
  | case1 rest _ => simp [strstr]
  | case2 byte rest noBreak line lines equation inductionHypothesis =>
      have differs : ¬ [13, 10].isPrefixOf (byte :: rest) = true := by
        intro starts
        obtain ⟨tail, split⟩ := List.isPrefixOf_iff_prefix.mp starts
        cases split
        exact noBreak tail rfl rfl
      rw [equation] at inductionHypothesis
      rw [strstr, if_neg differs]
      cases search : strstr [13, 10] rest with
      | none =>
          rw [search] at inductionHypothesis
          cases inductionHypothesis
          rfl
      | some found =>
          rw [search] at inductionHypothesis
          cases inductionHypothesis
          rfl
  | case3 byte rest _ equation => exact absurd equation (crlfLines_ne_nil rest)
  | case4 => rfl

/-- A line is a part of the text. -/
theorem isInfix_of_mem_crlfLines {text line : Bytes} (membership : line ∈ crlfLines text) :
    line <:+: text := by
  have stronger : line <:+: text ∧ ((crlfLines text).head? = some line → line <+: text) := by
    fun_induction crlfLines text generalizing line with
    | case1 rest inductionHypothesis =>
        rcases List.mem_cons.mp membership with rfl | later
        · exact ⟨List.nil_infix, fun _ => List.nil_prefix⟩
        · refine ⟨(inductionHypothesis later).1.trans ⟨[13, 10], [], by simp⟩, ?_⟩
          intro first
          rw [← Option.some.inj first]
          exact List.nil_prefix
    | case2 byte rest _ first lines equation inductionHypothesis =>
        rw [equation] at inductionHypothesis
        have isFirst := (inductionHypothesis List.mem_cons_self).2 rfl
        rcases List.mem_cons.mp membership with rfl | later
        · have whole : byte :: first <+: byte :: rest := List.cons_prefix_cons.mpr ⟨rfl, isFirst⟩
          exact ⟨whole.isInfix, fun _ => whole⟩
        · have inRest := (inductionHypothesis (List.mem_cons_of_mem _ later)).1
          refine ⟨inRest.trans (List.suffix_cons byte rest).isInfix, ?_⟩
          intro head
          rw [← Option.some.inj head]
          exact List.cons_prefix_cons.mpr ⟨rfl, isFirst⟩
    | case3 byte rest _ equation => exact absurd equation (crlfLines_ne_nil rest)
    | case4 =>
        rw [List.mem_singleton.mp membership]
        exact ⟨List.infix_rfl, fun _ => List.prefix_rfl⟩
  exact stronger.1

/-! ## Decimal numbers -/

def decimal (number : Nat) : Bytes :=
  if number = 0 then [48]
  else (Nat.digits 10 number).reverse.map fun digit => (48 + digit).toUInt8

def decimalValue (digits : Bytes) : Nat :=
  digits.foldl (fun value digit => 10 * value + (digit.toNat - 48)) 0

theorem decimal_ne_nil (number : Nat) : decimal number ≠ [] := by
  unfold decimal
  split
  · simp
  · simp_all [Nat.digits_eq_nil_iff_eq_zero]

theorem toNat_digit {digit : Nat} (small : digit < 10) :
    ((48 + digit).toUInt8).toNat = 48 + digit := by
  simp only [Nat.toUInt8, UInt8.toNat_ofNat']
  omega

theorem isDigit_digit {digit : Nat} (small : digit < 10) :
    isDigit (48 + digit).toUInt8 = true := by
  have value := toNat_digit small
  simp only [isDigit, Bool.and_eq_true, decide_eq_true_eq, UInt8.le_iff_toNat_le, value]
  constructor
  · exact Nat.le_add_right 48 digit
  · show 48 + digit ≤ 57
    omega

theorem isDigit_of_mem_decimal {number : Nat} {byte : UInt8} (mem : byte ∈ decimal number) :
    isDigit byte = true := by
  unfold decimal at mem
  split at mem
  · simp only [List.mem_singleton] at mem
    subst byte
    rfl
  · simp only [List.mem_map, List.mem_reverse] at mem
    obtain ⟨digit, inDigits, rfl⟩ := mem
    exact isDigit_digit (Nat.digits_lt_base (by omega) inDigits)

private theorem foldl_digits (digits : List Nat) (small : ∀ digit ∈ digits, digit < 10) :
    decimalValue (digits.reverse.map fun digit => (48 + digit).toUInt8) =
      Nat.ofDigits 10 digits := by
  induction digits with
  | nil => rfl
  | cons digit rest inductionHypothesis =>
      have tail := inductionHypothesis fun other membership =>
        small other (List.mem_cons_of_mem _ membership)
      unfold decimalValue at tail ⊢
      rw [List.reverse_cons, List.map_append, List.foldl_append, tail, Nat.ofDigits_cons]
      simp only [List.map_cons, List.map_nil, List.foldl_cons, List.foldl_nil,
        toNat_digit (small digit List.mem_cons_self), Nat.add_sub_cancel_left]
      exact Nat.add_comm _ _

@[simp]
theorem decimalValue_decimal (number : Nat) : decimalValue (decimal number) = number := by
  unfold decimal
  split
  next zero => simp [zero, decimalValue]
  · rw [foldl_digits _ fun digit membership => Nat.digits_lt_base (by omega) membership,
      Nat.ofDigits_digits]

theorem decimal_length_le {number width : Nat} (positive : 0 < width)
    (bound : number < 10 ^ width) : (decimal number).length ≤ width := by
  unfold decimal
  split
  · exact positive
  · rw [List.length_map, List.length_reverse]
    exact (Nat.digits_length_le_iff (by omega) number).mpr bound

theorem isSpace_of_isDigit {byte : UInt8} (digit : isDigit byte = true) :
    isSpace byte = false := by
  unfold isDigit at digit
  unfold isSpace
  simp only [Bool.and_eq_true, decide_eq_true_eq, UInt8.le_iff_toNat_le] at digit
  simp only [Bool.or_eq_false_iff, beq_eq_false_iff_ne, ne_eq, ← UInt8.toNat_inj,
    Bool.and_eq_false_iff, decide_eq_false_iff_not, UInt8.le_iff_toNat_le]
  have lower : (48 : UInt8).toNat = 48 := rfl
  have space : (32 : UInt8).toNat = 32 := rfl
  have return' : (13 : UInt8).toNat = 13 := rfl
  omega

def hexByte (byte : UInt8) : Bytes :=
  [byte / 16, byte % 16].map fun digit => if digit < 10 then 48 + digit else 87 + digit

/-! ## Bounded printing -/

/-- A character buffer and the `used` counter that accumulates the results of
`snprintf(text+used,sizeof(text)-used,...)`. -/
structure Buffer where
  written : Bytes := []
  used : Nat := 0
  deriving DecidableEq

/-- The room a call is told about: a `size_t` subtraction, which wraps once the
counter has passed the capacity. -/
def Buffer.room (capacity : Nat) (buffer : Buffer) : Nat :=
  (capacity + 2 ^ 64 - buffer.used) % 2 ^ 64

/-- One `snprintf`: it writes what fits with a terminating zero and counts the
whole text. -/
def Buffer.snprintf (capacity : Nat) (buffer : Buffer) (text : Bytes) : Buffer :=
  { written := buffer.written ++ text.take (buffer.room capacity - 1)
    used := buffer.used + text.length }

def Buffer.printAll (capacity : Nat) (pieces : List Bytes) : Buffer :=
  pieces.foldl (Buffer.snprintf capacity) {}

theorem Buffer.room_eq {capacity : Nat} {buffer : Buffer} (bounded : capacity < 2 ^ 64)
    (inside : buffer.used ≤ capacity) :
    buffer.room capacity = capacity - buffer.used := by
  unfold Buffer.room
  omega

theorem Buffer.printAll_used (capacity : Nat) (pieces : List Bytes) :
    (Buffer.printAll capacity pieces).used = pieces.flatten.length := by
  induction pieces using List.reverseRecOn with
  | nil => rfl
  | append_singleton before piece inductionHypothesis =>
      unfold Buffer.printAll at inductionHypothesis ⊢
      rw [List.foldl_append, List.foldl_cons, List.foldl_nil, Buffer.snprintf,
        inductionHypothesis, List.flatten_append, List.flatten_singleton, List.length_append]

theorem Buffer.printAll_eq {capacity : Nat} (bounded : capacity < 2 ^ 64)
    (pieces : List Bytes) (fits : pieces.flatten.length < capacity) :
    Buffer.printAll capacity pieces =
      { written := pieces.flatten, used := pieces.flatten.length } := by
  induction pieces using List.reverseRecOn with
  | nil => rfl
  | append_singleton before piece inductionHypothesis =>
      simp only [List.flatten_append, List.flatten_singleton, List.length_append] at fits ⊢
      have earlier := inductionHypothesis (by omega)
      unfold Buffer.printAll at earlier ⊢
      rw [List.foldl_append, earlier]
      simp only [List.foldl_cons, List.foldl_nil, Buffer.snprintf]
      rw [Buffer.room_eq bounded (by simp only; omega),
        List.take_of_length_le (by simp only; omega)]

/-! ## Strings in arrays -/

/-- What stands behind the terminator does not count. -/
theorem cString_text (text rest : Bytes) : cString (text ++ 0 :: rest) = cString text := by
  induction text with
  | nil => rfl
  | cons byte text inductionHypothesis =>
      unfold cString at inductionHypothesis ⊢
      by_cases zero : byte = 0
      · simp [zero]
      · simp only [List.cons_append, ne_eq, zero, not_false_eq_true, decide_true,
          List.takeWhile_cons_of_pos]
        exact congrArg (byte :: ·) inductionHypothesis

theorem cString_eq {text : Bytes} (whole : 0 ∉ text) : cString text = text := by
  have every : ∀ byte ∈ text, decide (byte ≠ 0) = true := fun byte membership =>
    decide_eq_true fun zero => whole (zero ▸ membership)
  rw [cString, ← List.append_nil text, List.takeWhile_append_of_pos every, List.takeWhile_nil]

end CText

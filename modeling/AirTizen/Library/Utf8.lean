import Mathlib.Data.Char
import Mathlib.Data.UInt

/-!
# UTF-8 with replacements

Reads characters off the front of a byte string, and decodes any byte string with
a replacement character for every byte that begins no encoded character.
-/

namespace Utf8

open String (utf8EncodeChar)

/-- The character whose encoding stands at the front, with the bytes behind it. -/
def first (bytes : List UInt8) : Option (Char × List UInt8) :=
  (bytes.toByteArray.utf8DecodeChar? 0).map fun character =>
    (character, bytes.drop character.utf8Size)

theorem first_encode (character : Char) (rest : List UInt8) :
    first (utf8EncodeChar character ++ rest) = some (character, rest) := by
  rw [first, List.toByteArray_append, ByteArray.utf8DecodeChar?_utf8EncodeChar_append,
    Option.map_some, ← String.length_utf8EncodeChar, List.drop_left]

theorem first_eq_some {bytes rest : List UInt8} {character : Char}
    (read : first bytes = some (character, rest)) :
    bytes = utf8EncodeChar character ++ rest := by
  simp only [first, Option.map_eq_some_iff, Prod.mk.injEq] at read
  obtain ⟨_, decoded, rfl, rfl⟩ := read
  obtain ⟨behind, split⟩ := ByteArray.exists_of_utf8DecodeChar?_eq_some decoded
  have split := congrArg (fun array => array.data.toList) split
  simp only [List.data_toByteArray, ByteArray.data_append, Array.toList_append] at split
  rw [← String.length_utf8EncodeChar]
  nth_rewrite 1 [split]
  rw [split, List.drop_left]

theorem first_eq_none {bytes : List UInt8}
    (absent : ∀ character rest, bytes ≠ utf8EncodeChar character ++ rest) :
    first bytes = none := by
  cases read : first bytes with
  | none => rfl
  | some found => exact absurd (first_eq_some read) (absent found.1 found.2)

theorem first_length {bytes rest : List UInt8} {character : Char}
    (read : first bytes = some (character, rest)) : rest.length < bytes.length := by
  rw [first_eq_some read, List.length_append, String.length_utf8EncodeChar]
  have positive := character.utf8Size_pos
  omega

def replacement : Char := Char.ofNat 0xfffd

/-- Every byte that begins no encoded character becomes a replacement character. -/
def lossy : List UInt8 → List Char
  | [] => []
  | byte :: rest =>
      match _read : first (byte :: rest) with
      | some (character, behind) => character :: lossy behind
      | none => replacement :: lossy rest
termination_by bytes => bytes.length
decreasing_by
  · exact first_length _read
  · exact Nat.lt_succ_self rest.length

@[simp]
theorem lossy_nil : lossy [] = [] := by rw [lossy]

theorem lossy_of_first {bytes rest : List UInt8} {character : Char}
    (read : first bytes = some (character, rest)) : lossy bytes = character :: lossy rest := by
  cases bytes with
  | nil => exact absurd (first_length read) (Nat.not_lt_zero _)
  | cons byte bytes =>
      rw [lossy]
      split
      next found => simp_all
      next missing => simp_all

theorem lossy_of_none {byte : UInt8} {rest : List UInt8} (missing : first (byte :: rest) = none) :
    lossy (byte :: rest) = replacement :: lossy rest := by
  rw [lossy]
  split <;> simp_all

theorem lossy_encode (text : List Char) : lossy (text.flatMap utf8EncodeChar) = text := by
  induction text with
  | nil => exact lossy_nil
  | cons character text inductionHypothesis =>
      rw [List.flatMap_cons, lossy_of_first (first_encode character _), inductionHypothesis]

theorem toNat_ofNat {code : Nat} (valid : code.isValidChar) : (Char.ofNat code).toNat = code := by
  rw [Char.ofNat, dif_pos valid]
  rfl

/-! ## ASCII -/

theorem utf8EncodeChar_ascii {byte : UInt8} (small : byte.toNat < 128) :
    utf8EncodeChar (Char.ofNat byte.toNat) = [byte] := by
  have value : (Char.ofNat byte.toNat).val.toNat = byte.toNat :=
    toNat_ofNat (Or.inl (by omega))
  rw [utf8EncodeChar]
  simp only [value]
  rw [if_pos (by omega), UInt8.ofNat_toNat]

theorem first_ascii {byte : UInt8} (small : byte.toNat < 128) (rest : List UInt8) :
    first (byte :: rest) = some (Char.ofNat byte.toNat, rest) := by
  have read := first_encode (Char.ofNat byte.toNat) rest
  rwa [utf8EncodeChar_ascii small] at read

theorem lossy_ascii {byte : UInt8} (small : byte.toNat < 128) (rest : List UInt8) :
    lossy (byte :: rest) = Char.ofNat byte.toNat :: lossy rest :=
  lossy_of_first (first_ascii small rest)

theorem lossy_characters {characters : List Char}
    (small : ∀ character ∈ characters, character.toNat < 128) :
    lossy (characters.map fun character => character.toNat.toUInt8) = characters := by
  induction characters with
  | nil => exact lossy_nil
  | cons character characters inductionHypothesis =>
      have bound := small character List.mem_cons_self
      have value : character.toNat.toUInt8.toNat = character.toNat := by
        simp only [Nat.toUInt8, UInt8.toNat_ofNat']
        omega
      rw [List.map_cons, lossy_ascii (value.trans_lt bound), value, Char.ofNat_toNat,
        inductionHypothesis fun other membership => small other (List.mem_cons_of_mem _ membership)]

end Utf8

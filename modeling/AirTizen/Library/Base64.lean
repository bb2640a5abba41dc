import Mathlib.Data.List.Nodup
import AirTizen.Library.Text

/-!
# Base64

The standard encoding: digits of six bits, of which the last is filled up with zero
bits, as letters of an alphabet, and padding up to a multiple of four.  Digits encode
bytes exactly if they do not end in the first digit of a byte and the bits behind the
last byte are zero.
-/

namespace Base64

open CText

def alphabet : Bytes :=
  ascii "ABCDEFGHIJKLMNOPQRSTUVWXYZabcdefghijklmnopqrstuvwxyz0123456789+/"

def symbol (digit : Nat) : UInt8 := alphabet.getD digit 0

def digits : Bytes → List Nat
  | [] => []
  | [first] => [first.toNat / 4, first.toNat % 4 * 16]
  | [first, second] =>
      [first.toNat / 4, first.toNat % 4 * 16 + second.toNat / 16, second.toNat % 16 * 4]
  | first :: second :: third :: rest =>
      first.toNat / 4 :: (first.toNat % 4 * 16 + second.toNat / 16) ::
        (second.toNat % 16 * 4 + third.toNat / 64) :: third.toNat % 64 :: digits rest

def unpadded (bytes : Bytes) : Bytes := (digits bytes).map symbol

/-- `=` up to a multiple of four letters. -/
def padding (bytes : Bytes) : Bytes := List.replicate ((3 - bytes.length % 3) % 3) 61

def encode (bytes : Bytes) : Bytes := unpadded bytes ++ padding bytes

example : encode (ascii "foob") = ascii "Zm9vYg==" := by decide +kernel

def leftover : List Nat → Nat
  | [] => 0
  | [digit] => digit
  | [_, digit] => digit % 16
  | [_, _, digit] => digit % 4
  | _ :: _ :: _ :: _ :: rest => leftover rest

/-! ## Letters -/

theorem alphabet_letters : alphabet.length = 64 ∧ alphabet.Nodup ∧ 61 ∉ alphabet := by
  -- the literal is turned into its letters once for the three checks
  have letters : ∃ characters, alphabet = spelled characters ∧
      (spelled characters).length = 64 ∧ (spelled characters).Nodup ∧
      61 ∉ spelled characters := by
    refine ⟨_, ascii_ofList _, ?_⟩
    decide +kernel
  obtain ⟨characters, same, checked⟩ := letters
  rw [same]
  exact checked

theorem length_alphabet : alphabet.length = 64 := alphabet_letters.1

theorem strchr_symbol {digit : Nat} (small : digit < 64) :
    ∃ after, strchr (symbol digit) alphabet = some (alphabet.take digit, after) := by
  have inside : digit < alphabet.length := length_alphabet ▸ small
  have letter : symbol digit = alphabet[digit] := by
    rw [symbol, List.getD_eq_getElem?_getD, List.getElem?_eq_getElem inside, Option.getD_some]
  have split := List.take_append_drop digit alphabet
  rw [List.drop_eq_getElem_cons inside, ← letter] at split
  have absent : symbol digit ∉ alphabet.take digit := by
    have distinct := alphabet_letters.2.1
    rw [← split, List.nodup_middle, List.nodup_cons] at distinct
    exact fun membership => distinct.1 (List.mem_append_left _ membership)
  refine ⟨alphabet.drop (digit + 1), ?_⟩
  rw [← strchr_eq_some absent, split]

theorem symbol_of_strchr {letter : UInt8} {before after : Bytes}
    (found : strchr letter alphabet = some (before, after)) :
    before.length < 64 ∧ symbol before.length = letter := by
  have split := strchr_append found
  constructor
  · rw [← length_alphabet, split, List.length_append, List.length_cons]
    omega
  · rw [symbol, split, List.getD_eq_getElem?_getD, List.getElem?_append_right le_rfl,
      Nat.sub_self, List.getElem?_cons_zero, Option.getD_some]

theorem symbol_ne_padding {digit : Nat} (small : digit < 64) : symbol digit ≠ 61 := by
  obtain ⟨after, found⟩ := strchr_symbol small
  have letter : symbol digit ∈ alphabet := by
    rw [strchr_append found]
    exact List.mem_append_right _ List.mem_cons_self
  intro same
  rw [same] at letter
  exact absurd letter alphabet_letters.2.2

/-! ## Digits -/

theorem length_digits (bytes : Bytes) : (digits bytes).length = (4 * bytes.length + 2) / 3 := by
  fun_induction digits bytes with
  | case1 => simp
  | case2 first => simp
  | case3 first second => simp
  | case4 first second third rest inductionHypothesis =>
      simp only [List.length_cons, inductionHypothesis]
      omega

theorem digits_small (bytes : Bytes) : ∀ digit ∈ digits bytes, digit < 64 := by
  fun_induction digits bytes with
  | case1 => exact List.forall_mem_nil _
  | case2 first =>
      have small := first.toNat_lt
      simp only [List.mem_cons, List.not_mem_nil, or_false]
      omega
  | case3 first second =>
      have small := first.toNat_lt
      have smallSecond := second.toNat_lt
      simp only [List.mem_cons, List.not_mem_nil, or_false]
      omega
  | case4 first second third rest inductionHypothesis =>
      have small := first.toNat_lt
      have smallSecond := second.toNat_lt
      have smallThird := third.toNat_lt
      simp only [List.mem_cons]
      rintro digit (rfl | rfl | rfl | rfl | later)
      · omega
      · omega
      · omega
      · omega
      · exact inductionHypothesis digit later

theorem leftover_digits (bytes : Bytes) : leftover (digits bytes) = 0 := by
  fun_induction digits bytes with
  | case1 => rfl
  | case2 first =>
      rw [leftover]
      omega
  | case3 first second =>
      rw [leftover]
      omega
  | case4 first second third rest inductionHypothesis => rw [leftover, inductionHypothesis]

theorem exists_byte {number : Nat} (small : number < 256) : ∃ byte : UInt8, byte.toNat = number :=
  ⟨UInt8.ofNat number, UInt8.toNat_ofNat_of_lt small⟩

/-- Digits without leftover bits encode bytes. -/
theorem exists_digits {values : List Nat} (small : ∀ value ∈ values, value < 64)
    (whole : values.length % 4 ≠ 1) (nothing : leftover values = 0) :
    ∃ bytes, digits bytes = values := by
  fun_induction leftover values with
  | case1 => exact ⟨[], rfl⟩
  | case2 digit => exact absurd rfl whole
  | case3 high low =>
      simp only [List.forall_mem_cons] at small
      obtain ⟨first, firstIs⟩ := @exists_byte (high * 4 + low / 16) (by omega)
      refine ⟨[first], ?_⟩
      simp only [digits, firstIs, List.cons.injEq, and_true]
      omega
  | case4 high middle low =>
      simp only [List.forall_mem_cons] at small
      obtain ⟨first, firstIs⟩ := @exists_byte (high * 4 + middle / 16) (by omega)
      obtain ⟨second, secondIs⟩ := @exists_byte (middle % 16 * 16 + low / 4) (by omega)
      refine ⟨[first, second], ?_⟩
      simp only [digits, firstIs, secondIs, List.cons.injEq, and_true]
      omega
  | case5 high middle low last rest inductionHypothesis =>
      simp only [List.forall_mem_cons] at small
      obtain ⟨highSmall, middleSmall, lowSmall, lastSmall, later⟩ := small
      have wholeRest : rest.length % 4 ≠ 1 := by
        simp only [List.length_cons] at whole
        omega
      obtain ⟨bytes, encoded⟩ := inductionHypothesis later wholeRest nothing
      obtain ⟨first, firstIs⟩ := @exists_byte (high * 4 + middle / 16) (by omega)
      obtain ⟨second, secondIs⟩ := @exists_byte (middle % 16 * 16 + low / 4) (by omega)
      obtain ⟨third, thirdIs⟩ := @exists_byte (low % 4 * 64 + last) (by omega)
      refine ⟨first :: second :: third :: bytes, ?_⟩
      simp only [digits, firstIs, secondIs, thirdIs, encoded, List.cons.injEq, and_true]
      omega

theorem exists_digits_iff {values : List Nat} :
    (∃ bytes, digits bytes = values) ↔
      (∀ value ∈ values, value < 64) ∧ values.length % 4 ≠ 1 ∧ leftover values = 0 := by
  constructor
  · rintro ⟨bytes, rfl⟩
    refine ⟨digits_small bytes, ?_, leftover_digits bytes⟩
    rw [length_digits]
    omega
  · rintro ⟨small, whole, nothing⟩
    exact exists_digits small whole nothing

theorem length_unpadded (bytes : Bytes) :
    (unpadded bytes).length = (4 * bytes.length + 2) / 3 := by
  rw [unpadded, List.length_map, length_digits]

theorem padding_count (count : Nat) :
    (3 - count % 3) % 3 = (4 - (4 * count + 2) / 3 % 4) % 4 := by
  have remainders : count % 3 = 0 ∨ count % 3 = 1 ∨ count % 3 = 2 := by omega
  rcases remainders with none | one | two
  · have digits : (4 * count + 2) / 3 % 4 = 0 := by omega
    rw [none, digits]
  · have digits : (4 * count + 2) / 3 % 4 = 2 := by omega
    rw [one, digits]
  · have digits : (4 * count + 2) / 3 % 4 = 3 := by omega
    rw [two, digits]

theorem length_encode (bytes : Bytes) :
    (encode bytes).length = 4 * ((bytes.length + 2) / 3) := by
  rw [encode, List.length_append, length_unpadded, padding, List.length_replicate]
  omega

theorem padding_not_mem_unpadded (bytes : Bytes) : 61 ∉ unpadded bytes := by
  intro membership
  obtain ⟨digit, digitOf, letter⟩ := List.mem_map.mp membership
  exact symbol_ne_padding (digits_small bytes digit digitOf) letter

end Base64

import AirTizen.Mirror.H264
import AirTizen.Status.Quote

/-!
# Quoting into a buffer

`airtizen_json_quote` with its pointer, its buffer and its size arithmetic, against
the string that it is for: the characters of the text in JSON, and a replacement for
every byte that begins none.
-/

namespace AirTizen.Status

open CText Mirror
open String (utf8EncodeChar)

/-! ## `airtizen_json_quote` -/

/-- The loop over `p[i]` with so many bytes left.  The outer `none` is an access behind
the text; the inner one is an invalid sequence. -/
def continuationCells (text : Bytes) : Nat → Nat → Nat → Option (Option Nat)
  | 0, _, codepoint => some (some codepoint)
  | count + 1, position, codepoint =>
      (Buffer.load text position).bind fun byte =>
        if byte = 0 ∨ byte.toNat &&& 0xc0 ≠ 0x80 then some none
        else continuationCells text count (position + 1)
          ((codepoint <<< 6) ||| (byte.toNat &&& 0x3f))

/-- The length of the sequence at `p`, when it is valid. -/
def sequenceCells (text : Bytes) (p : Nat) (lead : UInt8) : Option (Option Nat) :=
  let length := sequenceLength lead
  if length = 0 then some none
  else
    (continuationCells text (length - 1) (p + 1)
      (lead.toNat &&& ((1 <<< (7 - length)) - 1))).map fun read =>
        match read with
        | none => none
        | some codepoint =>
            if (length = 3 ∧ codepoint < 0x800) ∨ (length = 4 ∧ codepoint < 0x10000) ∨
                codepoint > 0x10ffff ∨ (0xd800 ≤ codepoint ∧ codepoint ≤ 0xdfff) then none
            else some length

/-- `encoded` of the source, up to `need`. -/
def encodedByte (byte : UInt8) : Bytes :=
  if byte < 32 then controlEscape byte
  else if byte = 34 ∨ byte = 92 then [92, byte]
  else if byte ≥ 128 then ascii "\\ufffd"
  else [byte]

/-- `out[0]=0;return -1`. -/
def giveUp (out : Bytes) : Option (Int × Bytes) :=
  (Buffer.store out 0 [0]).map fun out => (-1, out)

/-- The conversion `(int)n`. -/
def toInt (n : Nat) : Int := Int.bmod n (2 ^ 32)

def quoteCells (target : Target) (text : Bytes) : Nat → Nat → Nat → Bytes → Option (Int × Bytes)
  | 0, _, _, _ => none
  | rounds + 1, p, n, out =>
      (Buffer.load text p).bind fun byte =>
        if byte = 0 then
          (Buffer.store out n [34]).bind fun out =>
            (Buffer.store out (n + 1) [0]).map fun out => (toInt (n + 1), out)
        else
          (if byte ≥ 128 then sequenceCells text p byte else some none).bind fun valid =>
            match valid with
            | some length =>
                if target.add (target.add n length) 2 > out.length then giveUp out
                else
                  (Buffer.loadMany text p length).bind fun sequence =>
                    (Buffer.store out n sequence).bind fun out =>
                      quoteCells target text rounds (p + length) (n + length) out
            | none =>
                let encoded := encodedByte byte
                if target.add (target.add n encoded.length) 2 > out.length then giveUp out
                else
                  (Buffer.store out n encoded).bind fun out =>
                    quoteCells target text rounds (p + 1) (n + encoded.length) out

/-- `airtizen_json_quote` on the array of a text with its terminator, or a null pointer:
the result and the buffer behind it. -/
def jsonQuoteCells (target : Target) (rounds : Nat) (out : Bytes) (text : Option Bytes) :
    Option (Int × Bytes) :=
  if out.length < 3 then some (-1, out)
  else
    (Buffer.store out 0 [34]).bind fun out => quoteCells target (text.getD [0]) rounds 0 1 out

/-! ## The quoted string -/

def quotedCharacter (character : Char) : Bytes :=
  if character.toNat < 32 then controlEscape (UInt8.ofNat character.toNat)
  else if character = '"' ∨ character = '\\' then 92 :: utf8EncodeChar character
  else utf8EncodeChar character

/-- The characters of the text, and `\ufffd` for every byte that begins none. -/
def quotedBody : Bytes → Bytes
  | [] => []
  | byte :: rest =>
      match _read : Utf8.first (byte :: rest) with
      | some (character, behind) => quotedCharacter character ++ quotedBody behind
      | none => ascii "\\ufffd" ++ quotedBody rest
termination_by text => text.length
decreasing_by
  · exact Utf8.first_length _read
  · exact Nat.lt_succ_self rest.length

def quoted (text : Bytes) : Bytes := 34 :: quotedBody text ++ [34]

theorem quotedBody_nil : quotedBody [] = [] := by rw [quotedBody]

theorem quotedBody_first {text behind : Bytes} {character : Char}
    (read : Utf8.first text = some (character, behind)) :
    quotedBody text = quotedCharacter character ++ quotedBody behind := by
  cases text with
  | nil => exact absurd (Utf8.first_length read) (Nat.not_lt_zero _)
  | cons byte rest =>
      rw [quotedBody]
      split
      next found => simp_all
      next missing => simp_all

theorem quotedBody_none {byte : UInt8} {rest : Bytes} (missing : Utf8.first (byte :: rest) = none) :
    quotedBody (byte :: rest) = ascii "\\ufffd" ++ quotedBody rest := by
  rw [quotedBody]
  split <;> simp_all

theorem quotedCharacter_ascii {byte : UInt8} (small : byte.toNat < 128) :
    quotedCharacter (Char.ofNat byte.toNat) = encodedByte byte := by
  have every : ∀ number : Fin 128,
      quotedCharacter (Char.ofNat number.val) = encodedByte (UInt8.ofNat number.val) := by
    decide +kernel
  have one := every ⟨byte.toNat, small⟩
  rwa [UInt8.ofNat_toNat] at one

theorem quotedCharacter_beyond {character : Char} (beyond : 128 ≤ character.toNat) :
    quotedCharacter character = utf8EncodeChar character := by
  have control : ¬ character.toNat < 32 := by omega
  have ordinary : ¬ (character = '"' ∨ character = '\\') := by
    rintro (rfl | rfl) <;> exact absurd beyond (by decide)
  rw [quotedCharacter, if_neg control, if_neg ordinary]

theorem encoded_small {byte : UInt8} (small : byte.toNat < 128) (rest : Bytes) :
    encoded byte rest = (encodedByte byte, rest) := by
  have beyond : ¬ byte ≥ 128 := Nat.not_le.mpr small
  rw [encoded, encodedByte, if_neg beyond, if_neg beyond]
  split_ifs <;> rfl

theorem codepoint_beyond {lead : UInt8} {rest : Bytes} {code : Nat} (large : 128 ≤ lead.toNat)
    (read : codepoint lead rest = some code) : 128 ≤ (Char.ofNat code).toNat := by
  by_contra small
  have encoding := encode_of_codepoint read
  have ascii_ : (UInt8.ofNat (Char.ofNat code).toNat).toNat = (Char.ofNat code).toNat := by
    rw [UInt8.toNat_ofNat']
    omega
  have one := @Utf8.utf8EncodeChar_ascii (UInt8.ofNat (Char.ofNat code).toNat) (by omega)
  rw [ascii_, Char.ofNat_toNat] at one
  rw [one] at encoding
  obtain ⟨rfl, _⟩ := List.cons.inj encoding
  omega

theorem quotedBody_encoded (byte : UInt8) (rest : Bytes) :
    quotedBody (byte :: rest) = (encoded byte rest).1 ++ quotedBody (encoded byte rest).2 := by
  by_cases small : byte.toNat < 128
  · rw [quotedBody_first (Utf8.first_ascii small rest), quotedCharacter_ascii small,
      encoded_small small]
  have beyond : byte ≥ 128 := Nat.le_of_not_lt small
  have control : ¬ byte < 32 := fun less => small (Nat.lt_trans less (by decide))
  have ordinary : ¬ (byte = 34 ∨ byte = 92) := by
    rintro (rfl | rfl) <;> exact small (by decide)
  rw [encoded, if_neg control, if_neg ordinary, if_pos beyond]
  cases read : codepoint byte rest with
  | none =>
      refine quotedBody_none (Utf8.first_eq_none fun character behind encoding => ?_)
      rw [codepoint_of_encode beyond encoding] at read
      cases read
  | some code =>
      have encoding := encode_of_codepoint read
      have first : Utf8.first (byte :: rest) =
          some (Char.ofNat code, rest.drop (sequenceLength byte - 1)) := by
        have split := Utf8.first_encode (Char.ofNat code) (rest.drop (sequenceLength byte - 1))
        rwa [← encoding, List.cons_append, List.take_append_drop] at split
      rw [quotedBody_first first, encoding, quotedCharacter_beyond (codepoint_beyond beyond read)]

theorem quoteLoop_eq {capacity n : Nat} {text : Bytes} (room : n + 2 ≤ capacity) :
    quoteLoop capacity n text =
      if n + (quotedBody text).length + 2 ≤ capacity then some (quotedBody text ++ [34]) else none := by
  fun_induction quoteLoop capacity n text with
  | case1 => rw [quotedBody_nil, List.length_nil, Nat.add_zero, if_pos room, List.nil_append]
  | case2 n byte rest piece full =>
      change n + (encoded byte rest).1.length + 2 > capacity at full
      rw [quotedBody_encoded, List.length_append, if_neg (by omega)]
  | case3 n byte rest piece fits inductionHypothesis =>
      have size : piece.length = (encoded byte rest).1.length := rfl
      rw [inductionHypothesis (Nat.le_of_not_lt fits), quotedBody_encoded, List.length_append]
      by_cases whole : n + piece.length + (quotedBody (encoded byte rest).2).length + 2 ≤ capacity
      · rw [if_pos whole, if_pos (by omega), Option.map_some, List.append_assoc]
      · rw [if_neg whole, if_neg (by omega), Option.map_none]

/-! ## The loop in its buffers -/

/-- The loop over the continuation bytes stops at the terminator. -/
theorem continuationCells_eq (count codepoint : Nat) (front rest : Bytes) (text : 0 ∉ rest) :
    continuationCells (front ++ (rest ++ [0])) count front.length codepoint =
      some (continuation count codepoint rest) := by
  induction count generalizing codepoint front rest with
  | zero => rw [continuationCells, continuation]
  | succ count inductionHypothesis =>
      have loaded := Buffer.load_append front (rest ++ [0]) 0
      rw [Nat.add_zero] at loaded
      cases rest with
      | nil =>
          have zero : ([] ++ [0] : Bytes)[0]? = some 0 := rfl
          rw [continuationCells, loaded, zero, Option.bind_some, if_pos (Or.inl rfl), continuation]
      | cons byte rest =>
          rw [List.mem_cons, not_or] at text
          have first : (byte :: rest ++ [0])[0]? = some byte := rfl
          have later := inductionHypothesis ((codepoint <<< 6) ||| (byte.toNat &&& 0x3f))
            (front ++ [byte]) rest text.2
          have whole : front ++ [byte] ++ (rest ++ [0]) = front ++ (byte :: rest ++ [0]) := by
            rw [List.append_assoc]
            rfl
          rw [whole, List.length_append, List.length_singleton] at later
          rw [continuationCells, loaded, first, Option.bind_some, later, continuation]
          split <;> rfl

theorem sequenceCells_eq (front : Bytes) (lead : UInt8) (rest : Bytes) (text : 0 ∉ rest) :
    sequenceCells (front ++ (lead :: rest ++ [0])) front.length lead =
      some ((codepoint lead rest).map fun _ => sequenceLength lead) := by
  have whole : front ++ (lead :: rest ++ [0]) = front ++ [lead] ++ (rest ++ [0]) := by
    rw [List.append_assoc]
    rfl
  have next : front.length + 1 = (front ++ [lead]).length := by
    rw [List.length_append, List.length_singleton]
  rw [sequenceCells, codepoint, whole, next]
  simp only [continuationCells_eq _ _ _ _ text]
  split_ifs with none
  · rfl
  · cases continuation (sequenceLength lead - 1) _ rest with
    | none => rfl
    | some code =>
        simp only [Option.map_some]
        split_ifs <;> rfl

theorem continuation_length {count codepoint code : Nat} {rest : Bytes}
    (valid : continuation count codepoint rest = some code) : count ≤ rest.length := by
  induction count generalizing codepoint rest with
  | zero => exact Nat.zero_le _
  | succ count inductionHypothesis =>
      obtain ⟨byte, behind, rfl, _, later⟩ := (continuation_succ count codepoint rest code).mp valid
      exact Nat.succ_le_succ (inductionHypothesis later)

theorem codepoint_length {lead : UInt8} {rest : Bytes} {code : Nat}
    (valid : codepoint lead rest = some code) :
    0 < sequenceLength lead ∧ sequenceLength lead - 1 ≤ rest.length := by
  have positive : sequenceLength lead ≠ 0 := by
    intro none
    rw [codepoint] at valid
    simp only [if_pos none] at valid
    cases valid
  exact ⟨Nat.pos_of_ne_zero positive,
    continuation_length ((codepoint_eq_some rfl positive).mp valid).1⟩

theorem turn_cases (byte : UInt8) (rest : Bytes) :
    (∃ length, 0 < length ∧ length - 1 ≤ rest.length ∧
      (if byte ≥ 128 then (codepoint byte rest).map fun _ => sequenceLength byte else none) =
        some length ∧
      encoded byte rest = (byte :: rest.take (length - 1), rest.drop (length - 1))) ∨
    ((if byte ≥ 128 then (codepoint byte rest).map fun _ => sequenceLength byte else none) = none ∧
      encoded byte rest = (encodedByte byte, rest)) := by
  by_cases large : byte ≥ 128
  · have control : ¬ byte < 32 := fun less =>
      Nat.not_le.mpr (Nat.lt_trans less (show 32 < 128 by decide)) large
    have ordinary : ¬ (byte = 34 ∨ byte = 92) := by
      rintro (rfl | rfl) <;> exact absurd large (by decide)
    rw [if_pos large, encoded, encodedByte, if_neg control, if_neg ordinary, if_pos large,
      if_neg control, if_neg ordinary, if_pos large]
    cases read : codepoint byte rest with
    | none => exact .inr ⟨rfl, rfl⟩
    | some code =>
        obtain ⟨positive, enough⟩ := codepoint_length read
        exact .inl ⟨_, positive, enough, rfl, rfl⟩
  · rw [if_neg large]
    exact .inr ⟨rfl, encoded_small (Nat.lt_of_not_le large) rest⟩

theorem encoded_body {byte : UInt8} {rest piece behind : Bytes}
    (turn : encoded byte rest = (piece, behind)) :
    quotedBody (byte :: rest) = piece ++ quotedBody behind ∧
      (quotedBody (byte :: rest)).length = piece.length + (quotedBody behind).length ∧
      behind.length ≤ rest.length := by
  have body := quotedBody_encoded byte rest
  have shorter := encoded_shorter byte rest
  rw [turn] at body shorter
  exact ⟨body, by rw [body, List.length_append], Nat.le_of_lt_succ shorter⟩

theorem encodedByte_length (byte : UInt8) : (encodedByte byte).length ≤ 6 := by
  unfold encodedByte
  split_ifs
  · exact Nat.le_refl 6
  · exact (by decide : 2 ≤ 6)
  · exact (by decide : (ascii "\\ufffd").length ≤ 6)
  · exact (by decide : 1 ≤ 6)

theorem sequenceLength_le (lead : UInt8) : sequenceLength lead ≤ 4 := by
  unfold sequenceLength
  split_ifs <;> decide

/-- The sums of the loop do not wrap: the buffer, or the string, leaves room in `size_t`. -/
def NoWrap (target : Target) (capacity used : Nat) : Prop :=
  capacity + 8 ≤ 2 ^ target.sizeBits ∨ used + 8 ≤ 2 ^ target.sizeBits

theorem NoWrap.add_eq {target : Target} {capacity used n need : Nat}
    (noWrap : NoWrap target capacity used) (inside : n + 2 ≤ capacity) (written : n + need ≤ used)
    (small : need ≤ 6) : target.add (target.add n need) 2 = n + need + 2 := by
  have bound : n + need + 2 < 2 ^ target.sizeBits := by
    rcases noWrap with room | room <;> omega
  unfold Target.add
  rw [Nat.mod_eq_of_lt (by omega : n + need < 2 ^ target.sizeBits), Nat.mod_eq_of_lt bound]

/-- What the loop leaves: the rest of the string with its terminator when they fit. -/
structure Written (written room : Bytes) (text : Bytes) (result : Int) (after : Bytes) : Prop where
  size : after.length = (written ++ room).length
  fits : (quotedBody text).length + 2 ≤ room.length →
    result = toInt (written.length + (quotedBody text).length + 1) ∧
      after = written ++ (quotedBody text ++ 34 :: 0 :: room.drop ((quotedBody text).length + 2))
  full : room.length < (quotedBody text).length + 2 → result = -1

theorem store_room {written room cells : Bytes} (fits : cells.length ≤ room.length) :
    Buffer.store (written ++ room) written.length cells =
      some ((written ++ cells) ++ room.drop cells.length) := by
  rw [Buffer.store_append written room cells fits, List.append_assoc]

theorem giveUp_written {written room text : Bytes} (some_ : 0 < (written ++ room).length)
    (full : room.length < (quotedBody text).length + 2) :
    ∃ result after, giveUp (written ++ room) = some (result, after) ∧
      Written written room text result after := by
  have stored := Buffer.store_append [] (written ++ room) [0] some_
  rw [List.nil_append, List.length_nil] at stored
  refine ⟨-1, _, by rw [giveUp, stored, Option.map_some], ?_, fun fits => ?_, fun _ => rfl⟩
  · rw [List.nil_append, List.length_append, List.length_drop, List.length_singleton]
    omega
  · omega

/-- The piece that a turn writes is the front of the rest of the string. -/
theorem Written.turn {written room piece text behind : Bytes} {result : Int} {after : Bytes}
    (body : quotedBody text = piece ++ quotedBody behind) (fits : piece.length + 2 ≤ room.length)
    (later : Written (written ++ piece) (room.drop piece.length) behind result after) :
    Written written room text result after where
  size := by
    rw [later.size, List.length_append, List.length_append, List.length_append, List.length_drop]
    omega
  fits whole := by
    rw [body, List.length_append] at whole
    obtain ⟨number, cells⟩ := later.fits (by
      rw [List.length_drop]
      omega)
    rw [body, List.length_append, number, cells, List.length_append, List.drop_drop]
    refine ⟨congrArg toInt (by omega), ?_⟩
    simp only [List.append_assoc, Nat.add_assoc]
  full short := by
    rw [body, List.length_append] at short
    refine later.full ?_
    rw [List.length_drop]
    omega

/-- With so many rounds the loop ends and writes what is left of the string. -/
def Quotes (target : Target) (rounds : Nat) : Prop :=
  ∀ text front written room : Bytes, 0 ∉ text → text.length < rounds → 2 ≤ room.length →
    NoWrap target (written ++ room).length (written.length + (quotedBody text).length) →
      ∃ result after, quoteCells target (front ++ (text ++ [0])) rounds front.length
        written.length (written ++ room) = some (result, after) ∧
          Written written room text result after

/-- The terminator of the text closes the string. -/
theorem quoteCells_end (target : Target) (rounds : Nat) (front : Bytes) {written room : Bytes}
    (space : 2 ≤ room.length) :
    ∃ result after, quoteCells target (front ++ ([] ++ [0])) (rounds + 1) front.length
      written.length (written ++ room) = some (result, after) ∧
        Written written room [] result after := by
  have loaded := Buffer.load_append front ([] ++ [0]) 0
  rw [Nat.add_zero] at loaded
  have zero : ([] ++ [0] : Bytes)[0]? = some 0 := rfl
  have quote := @store_room written room [34] (show 1 ≤ room.length by omega)
  have last := @store_room (written ++ [34]) (room.drop 1) [0] (by
    rw [List.length_drop]
    show 1 ≤ room.length - 1
    omega)
  rw [List.length_append, List.length_singleton] at last
  rw [List.length_singleton] at quote
  rw [quoteCells, loaded, zero, Option.bind_some, if_pos rfl, quote, Option.bind_some, last,
    Option.map_some]
  refine ⟨_, _, rfl, ?_, fun _ => ?_, fun full => ?_⟩
  · simp only [List.length_append, List.length_drop, List.length_singleton]
    omega
  · rw [quotedBody_nil, List.drop_drop]
    refine ⟨rfl, ?_⟩
    simp only [List.append_assoc, List.nil_append, List.length_nil, List.length_singleton]
    rfl
  · rw [quotedBody_nil, List.length_nil] at full
    omega

namespace Quotes

variable {target : Target} {rounds : Nat} {byte : UInt8} {rest front written room : Bytes}

theorem advance (quotes : Quotes target rounds) {piece behind ahead : Bytes}
    (turn : encoded byte rest = (piece, behind))
    (text : front ++ (byte :: rest ++ [0]) = ahead ++ (behind ++ [0])) (ended : 0 ∉ behind)
    (enough : rest.length < rounds) (fits : piece.length + 2 ≤ room.length)
    (noWrap : NoWrap target (written ++ room).length
      (written.length + (quotedBody (byte :: rest)).length)) :
    ∃ result after, quoteCells target (front ++ (byte :: rest ++ [0])) rounds ahead.length
      (written.length + piece.length) (written ++ piece ++ room.drop piece.length) =
        some (result, after) ∧ Written written room (byte :: rest) result after := by
  obtain ⟨body, length, shorter⟩ := encoded_body turn
  have size : (written ++ piece ++ room.drop piece.length).length = (written ++ room).length := by
    simp only [List.length_append, List.length_drop]
    omega
  have still : NoWrap target (written ++ piece ++ room.drop piece.length).length
      ((written ++ piece).length + (quotedBody behind).length) := by
    rw [size, @List.length_append _ written piece, Nat.add_assoc, ← length]
    exact noWrap
  obtain ⟨result, after, ran, later⟩ := quotes behind ahead (written ++ piece)
    (room.drop piece.length) ended (by omega) (by
      rw [List.length_drop]
      omega) still
  rw [← text, List.length_append] at ran
  exact ⟨result, after, ran, later.turn body fits⟩

/-- A turn that copies a valid sequence. -/
theorem sequence (quotes : Quotes target rounds) {sequence : Nat} (positive : 0 < sequence)
    (most : sequence - 1 ≤ rest.length) (short : sequence ≤ 6)
    (turn : encoded byte rest = (byte :: rest.take (sequence - 1), rest.drop (sequence - 1)))
    (ended : 0 ∉ rest) (enough : rest.length < rounds) (space : 2 ≤ room.length)
    (noWrap : NoWrap target (written ++ room).length
      (written.length + (quotedBody (byte :: rest)).length)) :
    ∃ result after,
      (if target.add (target.add written.length sequence) 2 > (written ++ room).length then
        giveUp (written ++ room)
      else
        (Buffer.loadMany (front ++ (byte :: rest ++ [0])) front.length sequence).bind fun cells =>
          (Buffer.store (written ++ room) written.length cells).bind fun out =>
            quoteCells target (front ++ (byte :: rest ++ [0])) rounds (front.length + sequence)
              (written.length + sequence) out) = some (result, after) ∧
        Written written room (byte :: rest) result after := by
  have total : (written ++ room).length = written.length + room.length := List.length_append
  obtain ⟨_, length, _⟩ := encoded_body turn
  have pieceLength : (byte :: rest.take (sequence - 1)).length = sequence := by
    rw [List.length_cons, List.length_take]
    omega
  rw [pieceLength] at length
  rw [noWrap.add_eq (by omega) (by omega) short]
  by_cases full : written.length + sequence + 2 > (written ++ room).length
  · rw [if_pos full]
    exact giveUp_written (by omega) (by omega)
  · have text : front ++ (byte :: rest ++ [0]) =
        front ++ (byte :: rest.take (sequence - 1)) ++ (rest.drop (sequence - 1) ++ [0]) := by
      simp only [List.append_assoc, List.cons_append, List.take_append_drop,
        ← List.append_assoc (rest.take _)]
    have cells : (byte :: rest ++ [0]).take sequence = byte :: rest.take (sequence - 1) := by
      obtain ⟨fewer, rfl⟩ : ∃ fewer, sequence = fewer + 1 := ⟨sequence - 1, by omega⟩
      rw [Nat.add_sub_cancel] at most ⊢
      rw [List.cons_append, List.take_succ_cons, List.take_append_of_le_length most]
    have next := quotes.advance turn text (fun zero => ended (List.mem_of_mem_drop zero)) enough
      (by omega) noWrap
    have copied := @Buffer.loadMany_append _ front (byte :: rest ++ [0]) sequence (by
      rw [List.length_append, List.length_cons]
      omega)
    rw [List.length_append, pieceLength] at next
    have stored := @store_room written room (byte :: rest.take (sequence - 1)) (by omega)
    rw [pieceLength] at stored
    rwa [if_neg full, copied, cells, Option.bind_some, stored, Option.bind_some]

/-- A turn that replaces or copies one byte. -/
theorem one (quotes : Quotes target rounds) (turn : encoded byte rest = (encodedByte byte, rest))
    (ended : 0 ∉ rest) (enough : rest.length < rounds) (space : 2 ≤ room.length)
    (noWrap : NoWrap target (written ++ room).length
      (written.length + (quotedBody (byte :: rest)).length)) :
    ∃ result after,
      (if target.add (target.add written.length (encodedByte byte).length) 2 >
          (written ++ room).length then
        giveUp (written ++ room)
      else
        (Buffer.store (written ++ room) written.length (encodedByte byte)).bind fun out =>
          quoteCells target (front ++ (byte :: rest ++ [0])) rounds (front.length + 1)
            (written.length + (encodedByte byte).length) out) = some (result, after) ∧
        Written written room (byte :: rest) result after := by
  have total : (written ++ room).length = written.length + room.length := List.length_append
  obtain ⟨_, length, _⟩ := encoded_body turn
  rw [noWrap.add_eq (by omega) (by omega) (encodedByte_length byte)]
  by_cases full : written.length + (encodedByte byte).length + 2 > (written ++ room).length
  · rw [if_pos full]
    exact giveUp_written (by omega) (by omega)
  · rw [if_neg full, store_room (by omega), Option.bind_some]
    have text : front ++ (byte :: rest ++ [0]) = front ++ [byte] ++ (rest ++ [0]) := by
      rw [List.append_assoc]
      rfl
    have next := quotes.advance turn text ended enough (by omega) noWrap
    rwa [List.length_append, List.length_singleton] at next

end Quotes

theorem quoteCells_spec (target : Target) (rounds : Nat) : Quotes target rounds := by
  induction rounds with
  | zero => exact fun _ _ _ _ _ enough => absurd enough (Nat.not_lt_zero _)
  | succ rounds inductionHypothesis =>
      intro text front written room ended enough space noWrap
      cases text with
      | nil => exact quoteCells_end target rounds front space
      | cons byte rest =>
          have loaded := Buffer.load_append front (byte :: rest ++ [0]) 0
          have first : (byte :: rest ++ [0])[0]? = some byte := rfl
          rw [Nat.add_zero] at loaded
          rw [List.mem_cons, not_or] at ended
          rw [List.length_cons] at enough
          have valid : (if byte ≥ 128 then sequenceCells (front ++ (byte :: rest ++ [0]))
              front.length byte else some none) =
                some (if byte ≥ 128 then (codepoint byte rest).map fun _ => sequenceLength byte
                  else none) := by
            rw [sequenceCells_eq front byte rest ended.2]
            split <;> rfl
          rw [quoteCells, loaded, first, Option.bind_some, if_neg (Ne.symm ended.1), valid,
            Option.bind_some]
          rcases turn_cases byte rest with ⟨sequence, positive, most, found, turn⟩ | ⟨found, turn⟩
          · have short : sequence ≤ 6 := by
              split at found
              · obtain ⟨_, _, rfl⟩ := Option.map_eq_some_iff.mp found
                exact (sequenceLength_le byte).trans (by decide)
              · cases found
            rw [found]
            exact inductionHypothesis.sequence positive most short turn ended.2 (by omega) space
              noWrap
          · rw [found]
            exact inductionHypothesis.one turn ended.2 (by omega) space noWrap

/-! ## Results -/

/-- The function on a C string, whatever the buffer holds. -/
theorem jsonQuoteCells_spec (target : Target) {rounds : Nat} {text out : Bytes}
    (ended : 0 ∉ text) (enough : text.length < rounds)
    (noWrap : NoWrap target out.length (quoted text).length) :
    ∃ result after, jsonQuoteCells target rounds out (some (text ++ [0])) = some (result, after) ∧
      after.length = out.length ∧
      ((quoted text).length + 1 ≤ out.length → result = toInt (quoted text).length ∧
        after = quoted text ++ 0 :: out.drop ((quoted text).length + 1)) ∧
      (out.length < (quoted text).length + 1 → result = -1) := by
  have size : (quoted text).length = (quotedBody text).length + 2 := by
    rw [quoted, List.length_append, List.length_cons, List.length_singleton]
  by_cases short : out.length < 3
  · exact ⟨-1, out, if_pos short, rfl, fun fits => by omega, fun _ => rfl⟩
  have opened := Buffer.store_append [] out [34] (show 1 ≤ out.length by omega)
  rw [List.nil_append, List.nil_append, List.length_nil, List.length_singleton] at opened
  have room : (out.drop 1).length = out.length - 1 := List.length_drop
  have capacity : ([34] ++ out.drop 1).length = out.length := by
    rw [List.length_append, room, List.length_singleton]
    omega
  have still : NoWrap target ([34] ++ out.drop 1).length
      (([34] : Bytes).length + (quotedBody text).length) := by
    rw [capacity, List.length_singleton]
    rcases noWrap with buffer | string
    · exact .inl buffer
    · exact .inr (by omega)
  obtain ⟨result, after, ran, written⟩ := quoteCells_spec target rounds text [] [34] (out.drop 1)
    ended enough (by omega) still
  rw [List.nil_append] at ran
  refine ⟨result, after, ?_, written.size.trans capacity, fun fits => ?_, fun full => ?_⟩
  · rw [jsonQuoteCells, if_neg short, opened, Option.bind_some]
    exact ran
  · obtain ⟨number, cells⟩ := written.fits (by omega)
    rw [List.length_singleton] at number
    rw [number, cells, size, List.drop_drop, quoted]
    have behind : 1 + ((quotedBody text).length + 2) = (quotedBody text).length + 2 + 1 := by omega
    refine ⟨congrArg toInt (by omega), ?_⟩
    rw [behind, List.append_assoc]
    rfl
  · exact written.full (by omega)

theorem jsonQuote_eq (capacity : Nat) (text : Bytes) : jsonQuote capacity text =
    if (quoted text).length + 1 ≤ capacity then some (quoted text) else none := by
  have size : (quoted text).length = (quotedBody text).length + 2 := by
    rw [quoted, List.length_append, List.length_cons, List.length_singleton]
  rw [jsonQuote, size]
  by_cases short : capacity < 3
  · rw [if_pos short, if_neg (by omega)]
  · rw [if_neg short, quoteLoop_eq (by omega)]
    by_cases fits : 1 + (quotedBody text).length + 2 ≤ capacity
    · rw [if_pos fits, if_pos (by omega)]
      rfl
    · rw [if_neg fits, if_neg (by omega)]
      rfl

theorem quoted_decode (characters : List Char) :
    Json.decode (quoted (characters.flatMap utf8EncodeChar)) = some (.string characters) := by
  have whole := jsonQuote_eq ((quoted (characters.flatMap utf8EncodeChar)).length + 1)
    (characters.flatMap utf8EncodeChar)
  rw [if_pos (Nat.le_refl _)] at whole
  exact (jsonQuote_utf8 whole).decode

theorem toInt_small {n : Nat} (small : n < 2 ^ 31) : toInt n = n := by
  refine (Int.bmod_eq_iff (Nat.two_pow_pos 32)).mpr ⟨by omega, by omega, ?_⟩
  rw [sub_self]
  exact dvd_zero _

theorem quotedBody_small {text : Bytes} (small : ∀ byte ∈ text, byte.toNat < 128) :
    quotedBody text = text.flatMap encodedByte := by
  induction text with
  | nil => exact quotedBody_nil
  | cons byte rest inductionHypothesis =>
      obtain ⟨first, later⟩ := List.forall_mem_cons.mp small
      rw [quotedBody_encoded, encoded_small first, inductionHypothesis later]
      rfl

theorem quotedBody_plain {text : Bytes} (plain : ∀ byte ∈ text, Json.Plain byte) :
    quotedBody text = text := by
  have one : ∀ byte ∈ text, encodedByte byte = [byte] := by
    intro byte membership
    obtain ⟨control, special, large⟩ := plain byte membership
    rw [encodedByte, if_neg control, if_neg special, if_neg large]
  rw [quotedBody_small fun byte membership => (plain byte membership).small,
    List.flatMap_congr one, List.flatMap_singleton']

/-- The function stays inside of its buffers, and writes the string of the text with a
zero exactly where both fit.  The result is its length, as far as an `int` can tell it. -/
theorem quote_exact (target : Target) (text out : Bytes) (rounds : Nat) (ended : 0 ∉ text)
    (enough : text.length < rounds)
    (small : (quoted text).length < 2 ^ 31 ∨ out.length ≤ 2 ^ 31) :
    (∃ result after,
      jsonQuoteCells target rounds out (some (text ++ [0])) = some (result, after) ∧
        after.length = out.length ∧
        ((quoted text).length + 1 ≤ out.length → result = (quoted text).length ∧
          after = quoted text ++ 0 :: out.drop ((quoted text).length + 1)) ∧
        (result = -1 ↔ out.length < (quoted text).length + 1)) ∧
      ∀ characters : List Char, text = characters.flatMap utf8EncodeChar →
        Json.decode (quoted text) = some (.string characters) := by
  have bits : 2 ^ 32 ≤ 2 ^ target.sizeBits := by cases target <;> decide
  have noWrap : NoWrap target out.length (quoted text).length := by
    rcases small with string | buffer
    · exact .inr (by omega)
    · exact .inl (by omega)
  constructor
  · obtain ⟨result, after, ran, size, fits, full⟩ := jsonQuoteCells_spec target ended enough noWrap
    have whole : (quoted text).length + 1 ≤ out.length → result = (quoted text).length := by
      intro room
      rw [(fits room).1, toInt_small (by omega)]
    refine ⟨result, after, ran, size, fun room => ⟨whole room, (fits room).2⟩, ?_, full⟩
    intro refused
    by_contra room
    have length := whole (Nat.le_of_not_lt room)
    omega
  · rintro characters rfl
    exact quoted_decode characters

/-- A buffer that the string and its terminator just fit into. -/
theorem quote_exact_fits :
    ∃ result after,
      jsonQuoteCells .nacl 4 (List.replicate 7 1) (some ([195, 169, 34] ++ [0])) =
        some (result, after) ∧ result = 6 := by
  obtain ⟨⟨result, after, ran, _, fits, _⟩, _⟩ := quote_exact .nacl [195, 169, 34]
    (List.replicate 7 1) 4 (by decide) (by decide) (.inr (by decide))
  have body : quotedBody [195, 169, 34] = [195, 169, 92, 34] := by
    have cells : utf8EncodeChar 'é' = [195, 169] := by decide
    have first := Utf8.first_encode 'é' [34]
    rw [cells, List.cons_append, List.singleton_append] at first
    rw [quotedBody_first first, quotedCharacter_beyond (by decide), cells, quotedBody_encoded,
      encoded_small (by decide), quotedBody_nil]
    rfl
  have string : (quoted [195, 169, 34]).length = 6 := by
    rw [quoted, body]
    rfl
  rw [string] at fits
  exact ⟨result, after, ran, (fits (by decide)).1⟩

theorem quote_long {size : Nat} (large : 2 ^ 31 ≤ size + 2) (most : size + 2 < 2 ^ 32) :
    ∃ result after,
      jsonQuoteCells .host (size + 1) (List.replicate (size + 3) 0)
          (some (List.replicate size 97 ++ [0])) = some (result, after) ∧
        (quoted (List.replicate size 97)).length + 1 ≤ (List.replicate (size + 3) (0 : UInt8)).length ∧
        result ≠ (quoted (List.replicate size 97)).length := by
  have plain : ∀ byte ∈ List.replicate size (97 : UInt8), Json.Plain byte := by
    intro byte membership
    rw [List.eq_of_mem_replicate membership]
    exact ⟨by decide, by decide, by decide⟩
  have length : (quoted (List.replicate size 97)).length = size + 2 := by
    rw [quoted, quotedBody_plain plain, List.length_append, List.length_cons,
      List.length_replicate, List.length_singleton]
  have ended : 0 ∉ List.replicate size (97 : UInt8) := fun zero =>
    absurd (List.eq_of_mem_replicate zero) (by decide)
  have enough : (List.replicate size (97 : UInt8)).length < size + 1 := by
    rw [List.length_replicate]
    exact Nat.lt_succ_self size
  have noWrap : NoWrap .host (List.replicate (size + 3) (0 : UInt8)).length
      (quoted (List.replicate size 97)).length := by
    have bits : 2 ^ 32 + 16 ≤ 2 ^ Target.host.sizeBits := by decide
    refine .inr ?_
    rw [length]
    omega
  obtain ⟨result, after, ran, _, fits, _⟩ := jsonQuoteCells_spec .host ended enough noWrap
  rw [length, List.length_replicate] at fits
  refine ⟨result, after, ran, ?_, ?_⟩
  · rw [length, List.length_replicate]
  · have wrapped : toInt (size + 2) = (size + 2 : Int) - 2 ^ 32 := by
      refine (Int.bmod_eq_iff (Nat.two_pow_pos 32)).mpr ⟨by omega, by omega, ?_⟩
      exact ⟨-1, by omega⟩
    rw [(fits (Nat.le_refl _)).1, wrapped, length]
    omega

/-- A string of two gigabytes has a length that is no `int`. -/
theorem quote_exact_long :
    ∃ result after,
      jsonQuoteCells .host (2 ^ 31 + 1) (List.replicate (2 ^ 31 + 3) 0)
          (some (List.replicate (2 ^ 31) 97 ++ [0])) = some (result, after) ∧
        (quoted (List.replicate (2 ^ 31) 97)).length + 1 ≤
          (List.replicate (2 ^ 31 + 3) (0 : UInt8)).length ∧
        result ≠ (quoted (List.replicate (2 ^ 31) 97)).length :=
  quote_long (by decide) (by decide)

end AirTizen.Status

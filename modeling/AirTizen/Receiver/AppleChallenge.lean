import AirTizen.Library.Base64
import AirTizen.Discovery.Announcement

/-!
# The Apple-Challenge

`airtizen_apple_challenge.c`: a challenge is accepted exactly if it is canonical
base64, padded or not, of one to sixteen bytes.  Signing is left to the RSA library
of the donor.
-/

namespace AirTizen.Receiver

open CText

/-! ## `valid_challenge` -/

/-- The loop over the padding: the number of letters in front of it. -/
def stripPadding (text : Bytes) : Nat → Nat
  | 0 => 0
  | encoded + 1 => if text[encoded]? = some 61 then stripPadding text encoded else encoded + 1

structure Residue where
  residue : UInt32 := 0
  bits : UInt32 := 0

def Residue.push (state : Residue) (digit : Nat) : Residue :=
  let residue := state.residue <<< 6 ||| UInt32.ofNat digit
  let bits := state.bits + 6
  if 8 ≤ bits then
    let bits := bits - 8
    { residue := residue &&& ((1 <<< bits) - 1), bits := bits }
  else { residue := residue, bits := bits }

/-- The loop over the letters, which fails at one that is not in the alphabet. -/
def residueLoop (state : Residue) : Bytes → Option Residue
  | [] => some state
  | letter :: rest =>
      match strchr letter Base64.alphabet with
      | none => none
      | some (before, _) => residueLoop (state.push before.length) rest

/-- `valid_challenge`, where `none` is a null pointer. -/
def validChallenge (text : Option Bytes) : Bool :=
  match text with
  | none => false
  | some text =>
      let length := text.length
      if length < 2 ∨ 24 < length then false
      else
        let encoded := stripPadding text length
        let padding := length - encoded
        if encoded < 2 ∨ 22 < encoded ∨ encoded % 4 = 1 ∨ 2 < padding then false
        else if padding ≠ 0 ∧ (length % 4 ≠ 0 ∨ padding ≠ (4 - encoded % 4) % 4) then false
        else
          match residueLoop {} (text.take encoded) with
          | none => false
          | some state => state.residue == 0

/-! ## `airtizen_apple_response` -/

def hexDigit (value : UInt8) : Option UInt8 :=
  if 48 ≤ value ∧ value ≤ 57 then some (value - 48)
  else if 65 ≤ value ∧ value ≤ 70 then some (value - 65 + 10)
  else if 97 ≤ value ∧ value ≤ 102 then some (value - 97 + 10)
  else none

def hardwareOf (deviceId : Bytes) : Option Bytes :=
  (List.range 6).mapM fun i => do
    let high ← hexDigit (deviceId.getD (3 * i) 0)
    let low ← hexDigit (deviceId.getD (3 * i + 1) 0)
    if i < 5 ∧ deviceId.getD (3 * i + 2) 0 ≠ 58 then none else some (high <<< 4 ||| low)

/-- The RSA library with the key of the receiver. -/
structure Rsa (Key : Type) where
  /-- `rsakey_init_pem(airtizen_airport_key)`. -/
  initPem : Option Key
  /-- `rsakey_sign`: its result, and what it leaves in the response. -/
  sign : Key → Bytes → Bytes → Bytes → Bytes → Int × Bytes

/-- `response[0] = 0`. -/
def emptied (response : Bytes) : Bytes := response.set 0 0

/-- `airtizen_apple_response`: the result, and what is in the response.  Null pointers
are `none`. -/
def appleResponse {Key : Type} (rsa : Rsa Key)
    (challenge localIp deviceId response : Option Bytes) : Int × Option Bytes :=
  match response with
  | none => (-1, none)
  | some response =>
      let response := emptied response
      if !validChallenge challenge then (-1, some response)
      else
        match challenge, localIp, deviceId with
        | some challenge, some localIp, some deviceId =>
            if localIp.length ≠ 4 ∧ localIp.length ≠ 16 then (-1, some response)
            else if deviceId.length ≠ 17 then (-1, some response)
            else
              match hardwareOf deviceId with
              | none => (-1, some response)
              | some hardware =>
                  match rsa.initPem with
                  | none => (-2, some response)
                  | some key =>
                      let (result, response) := rsa.sign key response challenge localIp hardware
                      if result ≠ 0 then (-2, some (emptied response)) else (0, some response)
        | _, _, _ => (-1, some response)

/-! ## The bits of the letters -/

theorem masked_toNat (residue : UInt32) {digit width : Nat} (small : digit < 64)
    (narrow : width ≤ 6) :
    ((residue <<< 6 ||| UInt32.ofNat digit) &&& UInt32.ofNat (2 ^ width - 1)).toNat =
      digit % 2 ^ width := by
  have mask : 2 ^ width - 1 < 2 ^ 32 := by
    have power : 2 ^ width ≤ 2 ^ 6 := Nat.pow_le_pow_right (by decide) narrow
    omega
  have low : (residue.toNat <<< 6 % 2 ^ 32) % 2 ^ width = 0 := by
    rw [Nat.mod_mod_of_dvd _ (Nat.pow_dvd_pow 2 (by omega)), Nat.shiftLeft_eq]
    exact Nat.mod_eq_zero_of_dvd ((Nat.pow_dvd_pow 2 narrow).mul_left _)
  have shifted : (residue <<< 6).toNat = residue.toNat <<< 6 % 2 ^ 32 := by
    rw [UInt32.toNat_shiftLeft]
    rfl
  have digitIs : (UInt32.ofNat digit).toNat = digit :=
    UInt32.toNat_ofNat_of_lt' (small.trans (by decide))
  have maskIs : (UInt32.ofNat (2 ^ width - 1)).toNat = 2 ^ width - 1 :=
    UInt32.toNat_ofNat_of_lt' mask
  rw [UInt32.toNat_and, UInt32.toNat_or, shifted, digitIs, maskIs, Nat.and_two_pow_sub_one_eq_mod,
    Nat.or_mod_two_pow, low, Nat.zero_or]

section

variable {state : Residue} {digit : Nat}

theorem push_first (bits : state.bits = 0) : (state.push digit).bits = 6 := by
  rw [Residue.push, bits]
  rfl

theorem push_second (bits : state.bits = 6) (small : digit < 64) :
    (state.push digit).bits = 4 ∧ (state.push digit).residue.toNat = digit % 16 := by
  rw [Residue.push, bits]
  exact ⟨rfl, @masked_toNat state.residue digit 4 small (by decide)⟩

theorem push_third (bits : state.bits = 4) (small : digit < 64) :
    (state.push digit).bits = 2 ∧ (state.push digit).residue.toNat = digit % 4 := by
  rw [Residue.push, bits]
  exact ⟨rfl, @masked_toNat state.residue digit 2 small (by decide)⟩

theorem push_fourth (bits : state.bits = 2) (small : digit < 64) :
    (state.push digit).bits = 0 ∧ (state.push digit).residue.toNat = 0 := by
  rw [Residue.push, bits]
  refine ⟨rfl, ?_⟩
  have masked := @masked_toNat state.residue digit 0 small (by decide)
  rwa [Nat.pow_zero, Nat.mod_one] at masked

end

/-- Four letters leave nothing, so the residue is that of the last group. -/
theorem residue_eq {values : List Nat} (small : ∀ value ∈ values, value < 64)
    (whole : values.length % 4 ≠ 1) {state : Residue} (bits : state.bits = 0)
    (nothing : state.residue.toNat = 0) :
    (values.foldl Residue.push state).residue.toNat = Base64.leftover values := by
  fun_induction Base64.leftover values generalizing state with
  | case1 => exact nothing
  | case2 digit => exact absurd rfl whole
  | case3 first second =>
      simp only [List.forall_mem_cons] at small
      rw [List.foldl_cons, List.foldl_cons, List.foldl_nil]
      exact (push_second (push_first bits) small.2.1).2
  | case4 first second third =>
      simp only [List.forall_mem_cons] at small
      rw [List.foldl_cons, List.foldl_cons, List.foldl_cons, List.foldl_nil]
      exact (push_third (push_second (push_first bits) small.2.1).1 small.2.2.1).2
  | case5 first second third fourth rest inductionHypothesis =>
      simp only [List.forall_mem_cons] at small
      obtain ⟨_, smallSecond, smallThird, smallFourth, later⟩ := small
      have wholeRest : rest.length % 4 ≠ 1 := by
        simp only [List.length_cons] at whole
        omega
      have second := push_second (@push_first state first bits) smallSecond
      have third := push_third second.1 smallThird
      have again := push_fourth third.1 smallFourth
      rw [List.foldl_cons, List.foldl_cons, List.foldl_cons, List.foldl_cons]
      exact inductionHypothesis later wholeRest again.1 again.2

theorem residueLoop_symbols (state : Residue) {values : List Nat}
    (small : ∀ value ∈ values, value < 64) :
    residueLoop state (values.map Base64.symbol) = some (values.foldl Residue.push state) := by
  induction values generalizing state with
  | nil => rfl
  | cons value rest inductionHypothesis =>
      rw [List.forall_mem_cons] at small
      obtain ⟨after, found⟩ := Base64.strchr_symbol small.1
      have digit : (Base64.alphabet.take value).length = value := by
        rw [List.length_take, Base64.length_alphabet]
        omega
      have passed := inductionHypothesis (state.push value) small.2
      simp only [List.map_cons, residueLoop, found, digit, List.foldl_cons, passed]

theorem symbols_of_residueLoop {state final : Residue} {text : Bytes}
    (passed : residueLoop state text = some final) :
    ∃ values : List Nat, text = values.map Base64.symbol ∧ ∀ value ∈ values, value < 64 := by
  induction text generalizing state with
  | nil => exact ⟨[], rfl, List.forall_mem_nil _⟩
  | cons letter rest inductionHypothesis =>
      rw [residueLoop] at passed
      cases found : strchr letter Base64.alphabet with
      | none =>
          rw [found] at passed
          cases passed
      | some split =>
          rw [found] at passed
          obtain ⟨small, symbol⟩ := Base64.symbol_of_strchr found
          obtain ⟨values, rfl, later⟩ := inductionHypothesis passed
          exact ⟨split.1.length :: values, by rw [List.map_cons, symbol],
            List.forall_mem_cons.mpr ⟨small, later⟩⟩

/-! ## The padding -/

theorem stripPadding_le (text : Bytes) (length : Nat) : stripPadding text length ≤ length := by
  induction length with
  | zero => exact Nat.le_refl 0
  | succ length inductionHypothesis =>
      rw [stripPadding]
      split
      · exact Nat.le_succ_of_le inductionHypothesis
      · exact Nat.le_refl _

theorem take_stripPadding (text : Bytes) (length : Nat) (inside : length ≤ text.length) :
    text.take length = text.take (stripPadding text length) ++
      List.replicate (length - stripPadding text length) 61 := by
  induction length with
  | zero => rfl
  | succ length inductionHypothesis =>
      rw [stripPadding]
      split
      next padded =>
        have shorter := stripPadding_le text length
        rw [List.take_add_one, padded, inductionHypothesis (Nat.le_of_succ_le inside),
          Nat.succ_sub shorter, List.replicate_succ', List.append_assoc]
        rfl
      · rw [Nat.sub_self, List.replicate_zero, List.append_nil]

theorem stripPadding_eq {body : Bytes} (plain : 61 ∉ body) {pads stripped : Nat}
    (inside : stripped ≤ pads) :
    stripPadding (body ++ List.replicate pads 61) (body.length + stripped) = body.length := by
  induction stripped with
  | zero =>
      rw [Nat.add_zero]
      cases position : body.length with
      | zero => rfl
      | succ last =>
          have before : last < body.length := by omega
          have other : (body ++ List.replicate pads 61)[last]? ≠ some 61 := by
            rw [List.getElem?_append_left before]
            exact fun padded => plain (List.mem_of_getElem? padded)
          rw [stripPadding, if_neg other]
  | succ stripped inductionHypothesis =>
      have padded : (body ++ List.replicate pads 61)[body.length + stripped]? = some 61 := by
        rw [List.getElem?_append_right (Nat.le_add_right _ _), Nat.add_sub_cancel_left,
          List.getElem?_replicate, if_pos (Nat.lt_of_succ_le inside)]
      rw [← Nat.add_assoc, stripPadding, if_pos padded,
        inductionHypothesis (Nat.le_of_succ_le inside)]

/-! ## Exactness -/

theorem residue_unpadded (bytes : Bytes) :
    ∃ state, residueLoop {} (Base64.unpadded bytes) = some state ∧ state.residue = 0 := by
  obtain ⟨small, whole, nothing⟩ := Base64.exists_digits_iff.mp ⟨bytes, rfl⟩
  refine ⟨_, residueLoop_symbols {} small, ?_⟩
  apply UInt32.toNat_inj.mp
  rw [residue_eq small whole rfl rfl, nothing]
  rfl

theorem validChallenge_padded {bytes : Bytes} (some_ : 1 ≤ bytes.length) (most : bytes.length ≤ 16)
    {pads : Nat} (padded : pads = 0 ∨ pads = (3 - bytes.length % 3) % 3) :
    validChallenge (some (Base64.unpadded bytes ++ List.replicate pads 61)) = true := by
  have letters := Base64.length_unpadded bytes
  rw [Base64.padding_count, ← letters] at padded
  have plain := Base64.padding_not_mem_unpadded bytes
  obtain ⟨state, passed, nothing⟩ := residue_unpadded bytes
  have total : (Base64.unpadded bytes ++ List.replicate pads 61).length =
      (Base64.unpadded bytes).length + pads := by
    rw [List.length_append, List.length_replicate]
  simp only [validChallenge, total, stripPadding_eq plain (Nat.le_refl pads), List.take_left,
    passed, nothing, Nat.add_sub_cancel_left]
  rw [if_neg (by omega), if_neg (by omega), if_neg (by omega)]
  rfl

/-- What the checks let pass. -/
theorem validChallenge_cases {text : Bytes} {encoded : Nat}
    (stripped : stripPadding text text.length = encoded)
    (valid : validChallenge (some text) = true) :
    (2 ≤ encoded ∧ encoded ≤ 22 ∧ encoded % 4 ≠ 1) ∧
      (text.length = encoded ∨ text.length - encoded = (4 - encoded % 4) % 4) ∧
      ∃ state, residueLoop {} (text.take encoded) = some state ∧ state.residue = 0 := by
  simp only [validChallenge, stripped] at valid
  by_cases outside : text.length < 2 ∨ 24 < text.length
  · rw [if_pos outside] at valid
    cases valid
  rw [if_neg outside] at valid
  by_cases misshapen : encoded < 2 ∨ 22 < encoded ∨ encoded % 4 = 1 ∨ 2 < text.length - encoded
  · rw [if_pos misshapen] at valid
    cases valid
  rw [if_neg misshapen] at valid
  by_cases mispadded : text.length - encoded ≠ 0 ∧
      (text.length % 4 ≠ 0 ∨ text.length - encoded ≠ (4 - encoded % 4) % 4)
  · rw [if_pos mispadded] at valid
    cases valid
  rw [if_neg mispadded] at valid
  have shorter := stripPadding_le text text.length
  refine ⟨by omega, by omega, ?_⟩
  cases passed : residueLoop {} (text.take encoded) with
  | none =>
      rw [passed] at valid
      cases valid
  | some state =>
      rw [passed] at valid
      exact ⟨state, rfl, by simpa using valid⟩

/-- What is accepted is the encoding of some bytes. -/
theorem exists_of_validChallenge {text : Bytes} (valid : validChallenge (some text) = true) :
    ∃ bytes : Bytes, 1 ≤ bytes.length ∧ bytes.length ≤ 16 ∧
      (text = Base64.encode bytes ∨ text = Base64.unpadded bytes) := by
  have shorter := stripPadding_le text text.length
  have stripped := take_stripPadding text text.length (Nat.le_refl _)
  rw [List.take_length] at stripped
  obtain ⟨⟨least, most, whole⟩, padded, state, passed, zero⟩ := validChallenge_cases rfl valid
  generalize stripPadding text text.length = encoded at *
  obtain ⟨values, letters, small⟩ := symbols_of_residueLoop passed
  have length : values.length = encoded := by
    have lengths := congrArg List.length letters
    rw [List.length_take, List.length_map] at lengths
    omega
  have nothing : Base64.leftover values = 0 := by
    rw [letters, residueLoop_symbols {} small] at passed
    cases passed
    rw [← @residue_eq values small (by omega) {} rfl rfl, zero]
    rfl
  obtain ⟨bytes, rfl⟩ := Base64.exists_digits small (by omega) nothing
  have count := Base64.length_digits bytes
  rw [length] at count
  refine ⟨bytes, by omega, by omega, ?_⟩
  rw [letters] at stripped
  rcases padded with unpadded | padded
  · rw [unpadded, Nat.sub_self, List.replicate_zero, List.append_nil] at stripped
    exact .inr stripped
  · have pads : text.length - encoded = (3 - bytes.length % 3) % 3 := by
      rw [Base64.padding_count, ← count, padded]
    rw [pads] at stripped
    exact .inl stripped

theorem validChallenge_iff (text : Bytes) :
    validChallenge (some text) = true ↔
      ∃ bytes : Bytes, 1 ≤ bytes.length ∧ bytes.length ≤ 16 ∧
        (text = Base64.encode bytes ∨ text = Base64.unpadded bytes) := by
  constructor
  · exact exists_of_validChallenge
  · rintro ⟨bytes, some_, most, rfl | rfl⟩
    · exact validChallenge_padded some_ most (.inr rfl)
    · have accepted := validChallenge_padded some_ most (.inl rfl)
      rwa [List.replicate_zero, List.append_nil] at accepted

/-! ## The device ID -/

def hexLetter (digit : UInt8) : UInt8 := if digit < 10 then 48 + digit else 87 + digit

theorem hexByte_eq (byte : UInt8) : hexByte byte = [hexLetter (byte / 16), hexLetter (byte % 16)] :=
  rfl

theorem hexDigit_letter (letter : UInt8) :
    ∀ value ∈ hexDigit letter, value < 16 ∧ tolower letter = hexLetter value := by
  intro value digit
  unfold hexDigit at digit
  unfold tolower hexLetter
  simp only [UInt8.le_iff_toNat_le, UInt8.lt_iff_toNat_lt, UInt8.reduceToNat] at *
  split_ifs at digit <;> cases digit <;> split_ifs <;>
    simp only [UInt8.toNat_add, UInt8.toNat_sub, ← UInt8.toNat_inj, UInt8.reduceToNat] at * <;>
    omega

theorem hexDigit_tolower (letter : UInt8) : hexDigit (tolower letter) = hexDigit letter := by
  unfold hexDigit tolower
  simp only [UInt8.le_iff_toNat_le]
  split_ifs <;>
    simp only [UInt8.toNat_add, UInt8.toNat_sub, Option.some.injEq, ← UInt8.toNat_inj,
      UInt8.reduceToNat] at * <;>
    omega

theorem hexDigit_hexLetter (value : UInt8) (small : value < 16) :
    hexDigit (hexLetter value) = some value := by
  unfold hexDigit hexLetter
  simp only [UInt8.le_iff_toNat_le, UInt8.lt_iff_toNat_lt] at *
  split_ifs <;>
    simp only [UInt8.toNat_add, UInt8.toNat_sub, Option.some.injEq, ← UInt8.toNat_inj,
      UInt8.reduceToNat] at * <;>
    omega

theorem hexDigit_of_letter {letter value : UInt8} (small : value < 16)
    (same : tolower letter = hexLetter value) : hexDigit letter = some value := by
  rw [← hexDigit_tolower, same, hexDigit_hexLetter value small]

theorem octet_halves {high low : UInt8} (smallHigh : high < 16) (smallLow : low < 16) :
    (high <<< 4 ||| low) / 16 = high ∧ (high <<< 4 ||| low) % 16 = low := by
  have each : ∀ high low : Fin 16,
      (UInt8.ofNat high.val <<< 4 ||| UInt8.ofNat low.val) / 16 = UInt8.ofNat high.val ∧
        (UInt8.ofNat high.val <<< 4 ||| UInt8.ofNat low.val) % 16 = UInt8.ofNat low.val := by
    decide +kernel
  have found := each ⟨high.toNat, smallHigh⟩ ⟨low.toNat, smallLow⟩
  rwa [UInt8.ofNat_toNat, UInt8.ofNat_toNat] at found

theorem octet_whole (byte : UInt8) : (byte / 16) <<< 4 ||| byte % 16 = byte := by
  apply UInt8.toNat_inj.mp
  have small := byte.toNat_lt
  have high : ((byte / 16) <<< 4).toNat = (byte.toNat / 16) <<< 4 := by
    rw [UInt8.toNat_shiftLeft, UInt8.toNat_div]
    change (byte.toNat / 16) <<< 4 % 256 = (byte.toNat / 16) <<< 4
    rw [Nat.shiftLeft_eq]
    omega
  rw [UInt8.toNat_or, high, UInt8.toNat_mod, ← Nat.shiftLeft_add_eq_or_of_lt, Nat.shiftLeft_eq]
  · exact Nat.div_add_mod' _ _
  · exact Nat.mod_lt _ (by decide)

theorem digits_of_octet {high low octet : UInt8} (sameHigh : tolower high = hexLetter (octet / 16))
    (sameLow : tolower low = hexLetter (octet % 16)) :
    hexDigit high = some (octet / 16) ∧ hexDigit low = some (octet % 16) := by
  have small := octet.toNat_lt
  have smallHigh : octet / 16 < 16 := by
    rw [UInt8.lt_iff_toNat_lt, UInt8.toNat_div]
    change octet.toNat / 16 < 16
    omega
  have smallLow : octet % 16 < 16 := by
    rw [UInt8.lt_iff_toNat_lt, UInt8.toNat_mod]
    exact Nat.mod_lt _ (by decide)
  exact ⟨hexDigit_of_letter smallHigh sameHigh, hexDigit_of_letter smallLow sameLow⟩

theorem tolower_colon (letter : UInt8) : tolower letter = 58 ↔ letter = 58 := by
  unfold tolower
  split_ifs <;> grind

theorem octet_eq_some {more : Prop} [Decidable more] (high low behind octet : UInt8) :
    (do
      let first ← hexDigit high
      let second ← hexDigit low
      if more ∧ behind ≠ 58 then none else some (first <<< 4 ||| second)) = some octet ↔
    tolower high = hexLetter (octet / 16) ∧ tolower low = hexLetter (octet % 16) ∧
      (more → behind = 58) := by
  constructor
  · intro read
    obtain ⟨first, isHigh, read⟩ := Option.bind_eq_some_iff.mp read
    obtain ⟨second, isLow, read⟩ := Option.bind_eq_some_iff.mp read
    obtain ⟨colon, same⟩ := Option.ite_none_left_eq_some.mp read
    cases same
    obtain ⟨smallHigh, sameHigh⟩ := hexDigit_letter high first isHigh
    obtain ⟨smallLow, sameLow⟩ := hexDigit_letter low second isLow
    obtain ⟨upper, lower⟩ := octet_halves smallHigh smallLow
    rw [upper, lower]
    exact ⟨sameHigh, sameLow, fun more => not_not.mp fun other => colon ⟨more, other⟩⟩
  · rintro ⟨sameHigh, sameLow, colon⟩
    obtain ⟨isHigh, isLow⟩ := digits_of_octet sameHigh sameLow
    have passed : ¬ (more ∧ behind ≠ 58) := fun ⟨more, other⟩ => other (colon more)
    simp only [isHigh, isLow, Option.bind_eq_bind, Option.bind_some]
    rw [if_neg passed, octet_whole]

theorem mapM_eq_some {Item Result : Type} {round : Item → Option Result} {items : List Item}
    {results : List Result} :
    items.mapM round = some results ↔ items.map round = results.map some := by
  induction items generalizing results with
  | nil => cases results <;> simp
  | cons item rest inductionHypothesis =>
      cases results <;> simp [Option.bind_eq_some_iff, inductionHypothesis]

theorem hardwareOf_iff {deviceId hardware : Bytes} (size : deviceId.length = 17) :
    hardwareOf deviceId = some hardware ↔
      hardware.length = 6 ∧
        deviceId.map tolower = Discovery.Announced.colons (hardware.flatMap hexByte) := by
  have rounds : List.range 6 = [0, 1, 2, 3, 4, 5] := rfl
  rw [hardwareOf, mapM_eq_some, rounds]
  by_cases count : hardware.length = 6
  · match deviceId, size, hardware, count with
    | [_, _, _, _, _, _, _, _, _, _, _, _, _, _, _, _, _], _, [_, _, _, _, _, _], _ =>
        simp only [List.map_cons, List.map_nil, List.cons.injEq, octet_eq_some]
        simp [hexByte_eq, Discovery.Announced.colons, tolower_colon, and_assoc]
  · refine iff_of_false (fun read => count ?_) (fun spelled => count spelled.1)
    have lengths := congrArg List.length read
    rw [List.length_map, List.length_map] at lengths
    exact lengths.symm

theorem hexDigit_isSome (letter : UInt8) (digit : Discovery.hexDigit letter = true) :
    ∃ value, hexDigit letter = some value := by
  unfold Discovery.hexDigit isDigit at digit
  unfold hexDigit
  split_ifs <;> grind

theorem hardwareOf_announced (announced : Discovery.Announced) :
    ∃ hardware, hardwareOf (Discovery.Announced.colons announced.deviceId) = some hardware := by
  have size := announced.deviceId_length
  have digits := announced.deviceId_digits
  generalize announced.deviceId = id at size digits
  match id, size with
  | [d0, d1, d2, d3, d4, d5, d6, d7, d8, d9, d10, d11], _ =>
      have six : List.range 6 = [0, 1, 2, 3, 4, 5] := rfl
      have read : ∀ letter ∈ [d0, d1, d2, d3, d4, d5, d6, d7, d8, d9, d10, d11],
          ∃ value, hexDigit letter = some value :=
        fun letter membership => hexDigit_isSome letter (digits letter membership)
      simp only [List.forall_mem_cons] at read
      obtain ⟨⟨v0, is0⟩, ⟨v1, is1⟩, ⟨v2, is2⟩, ⟨v3, is3⟩, ⟨v4, is4⟩, ⟨v5, is5⟩, ⟨v6, is6⟩,
        ⟨v7, is7⟩, ⟨v8, is8⟩, ⟨v9, is9⟩, ⟨v10, is10⟩, ⟨v11, is11⟩, -⟩ := read
      simp [hardwareOf, six, Discovery.Announced.colons, is0, is1, is2, is3, is4, is5, is6, is7,
        is8, is9, is10, is11]

/-! ## Refused responses -/

/-- An address of four or sixteen bytes, and an ID that spells six octets. -/
def Addressed (localIp deviceId : Option Bytes) : Prop :=
  (∃ address, localIp = some address ∧ (address.length = 4 ∨ address.length = 16)) ∧
    ∃ (id hardware : Bytes), deviceId = some id ∧ hardware.length = 6 ∧
      id.map tolower = Discovery.Announced.colons (hardware.flatMap hexByte)

theorem spelled_iff {id hardware : Bytes} :
    id.length = 17 ∧ hardwareOf id = some hardware ↔
      hardware.length = 6 ∧
        id.map tolower = Discovery.Announced.colons (hardware.flatMap hexByte) := by
  constructor
  · rintro ⟨size, read⟩
    exact (hardwareOf_iff size).mp read
  · rintro ⟨count, spelled⟩
    have digits : (hardware.flatMap hexByte).length = 12 := by
      match hardware, count with
      | [_, _, _, _, _, _], _ => rfl
    have size := congrArg List.length spelled
    rw [List.length_map, Discovery.Announced.colons_length digits] at size
    exact ⟨size, (hardwareOf_iff size).mpr ⟨count, spelled⟩⟩

theorem cString_emptied (response : Bytes) : cString (emptied response) = [] := by
  cases response <;> rfl

section

variable {Key : Type} {rsa : Rsa Key} {challenge localIp deviceId : Option Bytes} {response : Bytes}

theorem appleResponse_refused
    (refused : ¬ (validChallenge challenge = true ∧ Addressed localIp deviceId)) :
    appleResponse rsa challenge localIp deviceId (some response) =
      (-1, some (emptied response)) := by
  unfold appleResponse
  by_cases valid : validChallenge challenge = true
  · rw [valid]
    simp only [Bool.not_true, Bool.false_eq_true, if_false]
    cases challenge with
    | none => rfl
    | some text =>
        cases localIp with
        | none => rfl
        | some address =>
            cases deviceId with
            | none => rfl
            | some id =>
                dsimp only
                split
                · rfl
                next sized =>
                  split
                  · rfl
                  next long =>
                    cases read : hardwareOf id with
                    | none => rfl
                    | some hardware =>
                        have addressed := spelled_iff.mp ⟨not_not.mp long, read⟩
                        exact absurd ⟨valid, ⟨address, rfl, by omega⟩, id, hardware, rfl, addressed⟩
                          refused
  · simp [valid]

theorem appleResponse_passed (valid : validChallenge challenge = true)
    (addressed : Addressed localIp deviceId) :
    (appleResponse rsa challenge localIp deviceId (some response)).1 ≠ -1 := by
  obtain ⟨⟨address, rfl, sized⟩, id, hardware, rfl, spelled⟩ := addressed
  obtain ⟨long, read⟩ := spelled_iff.mpr spelled
  cases challenge with
  | none => cases valid
  | some text =>
      have lengths : ¬ (address.length ≠ 4 ∧ address.length ≠ 16) := by omega
      rw [appleResponse, valid]
      simp only [Bool.not_true, Bool.false_eq_true, if_false, if_neg lengths, long, ne_eq,
        not_true_eq_false, read]
      split
      · simp
      · split
        · simp
        · simp

end

/-- A challenge is valid exactly if it is the standard encoding, padded or not, of one
to sixteen bytes; the result is -1, with an empty response, exactly if the challenge
is not valid or an address is malformed. -/
theorem challenge_exact {Key : Type} (rsa : Rsa Key) :
    (∀ text, validChallenge (some text) = true ↔
      ∃ bytes : Bytes, 1 ≤ bytes.length ∧ bytes.length ≤ 16 ∧
        (text = Base64.encode bytes ∨ text = Base64.unpadded bytes)) ∧
    validChallenge none = false ∧
    ∀ challenge localIp deviceId,
      appleResponse rsa challenge localIp deviceId none = (-1, none) ∧
      ∀ response,
        ((appleResponse rsa challenge localIp deviceId (some response)).1 = -1 ↔
          ¬ (validChallenge challenge = true ∧ Addressed localIp deviceId)) ∧
        (¬ (validChallenge challenge = true ∧ Addressed localIp deviceId) →
          ∃ left, appleResponse rsa challenge localIp deviceId (some response) = (-1, some left) ∧
            cString left = []) := by
  refine ⟨validChallenge_iff, rfl, ?_⟩
  refine fun challenge localIp deviceId => ⟨rfl, fun response => ⟨?_, ?_⟩⟩
  · constructor
    · rintro minus ⟨valid, addressed⟩
      exact appleResponse_passed valid addressed minus
    · intro refused
      rw [appleResponse_refused refused]
  · intro refused
    exact ⟨_, appleResponse_refused refused, cString_emptied response⟩

end AirTizen.Receiver

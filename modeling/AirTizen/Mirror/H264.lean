import AirTizen.Library.Buffer
import AirTizen.Mirror.Packet

/-!
# H.264 payloads in their buffers

The loops of `airtizen_h264.c` with the indices, the arithmetic and the memory
accesses of the source, and what the two functions are for: access units and
parameter sets whose lengths become start codes.
-/

namespace AirTizen.Mirror

open CText

inductive Target where
  | nacl
  | host

def Target.sizeBits : Target → Nat
  | nacl => 32
  | host => 64

/-- Addition of `size_t`. -/
def Target.add (target : Target) (first second : Nat) : Nat :=
  (first + second) % 2 ^ target.sizeBits

theorem Target.add_eq (target : Target) {first second : Nat} (small : first + second < 2 ^ 32) :
    target.add first second = first + second := by
  apply Nat.mod_eq_of_lt
  cases target with
  | nacl => exact small
  | host => exact small.trans (by decide)

/-! ## `airtizen_h264_frame` -/

/-- The length that the four bytes at `data+position` hold. -/
def lengthAt (data : Bytes) (position : Nat) : Option Nat :=
  (Buffer.loadMany data position 4).map bigEndian

/-- The loop that validates every length; `none` is an access outside of the
buffer, or more rounds than given. -/
def validateLoop (target : Target) : Nat → Bytes → Nat → Option Bool
  | 0, _, _ => none
  | rounds + 1, data, position =>
      if position < data.length then
        if data.length - position < 4 then some false
        else
          (lengthAt data position).bind fun length =>
            if length = 0 ∨ data.length - position - 4 < length then some false
            else validateLoop target rounds data (target.add position ((4 + length) % 2 ^ 32))
      else some true

def rewriteLoop (target : Target) : Nat → Bytes → Nat → Option Bytes
  | 0, _, _ => none
  | rounds + 1, data, position =>
      if position < data.length then
        (lengthAt data position).bind fun length =>
          (Buffer.store data position startCode).bind fun data =>
            rewriteLoop target rounds data (target.add position ((4 + length) % 2 ^ 32))
      else some data

/-- `airtizen_h264_frame` on the buffer itself: the result, and the buffer
behind it.  A null pointer is refused like a short buffer. -/
def h264FrameInPlace (target : Target) (rounds : Nat) (data : Bytes) : Option (Int × Bytes) :=
  if data.length < 5 then some (-1, data)
  else
    (validateLoop target rounds data 0).bind fun valid =>
      if valid then (rewriteLoop target rounds data 0).map fun data => (0, data)
      else some (-1, data)

/-- One unit of an access unit or a parameter set. -/
structure Nal where
  payload : Bytes
  nonempty : payload ≠ []

def Nal.type (nal : Nal) : UInt8 := nal.payload.headD 0 &&& 31

def Nal.prefixed (width : Nat) (nal : Nal) : Bytes :=
  Octets.ofNat width nal.payload.length ++ nal.payload

def Nal.started (nal : Nal) : Bytes := startCode ++ nal.payload

theorem Nal.length_pos (nal : Nal) : 0 < nal.payload.length :=
  List.length_pos_iff.mpr nal.nonempty

@[simp]
theorem Nal.length_prefixed (width : Nat) (nal : Nal) :
    (nal.prefixed width).length = width + nal.payload.length := by
  simp [Nal.prefixed]

@[simp]
theorem Nal.length_started (nal : Nal) : nal.started.length = 4 + nal.payload.length := by
  simp [Nal.started, startCode]
  omega

/-- What `airtizen_h264_frame` is for: the result and the buffer behind it. -/
structure Converts (data : Bytes) (result : Int) (after : Bytes) : Prop where
  accepted : result = 0 ↔ ∃ units : List Nal, units ≠ [] ∧ 5 ≤ data.length ∧
    data = units.flatMap (Nal.prefixed 4)
  converted : ∀ units : List Nal, result = 0 → data = units.flatMap (Nal.prefixed 4) →
    after = units.flatMap Nal.started
  refused : result ≠ 0 → result = -1 ∧ after = data

/-! ## Lengths -/

theorem bigEndian_eq {data : Bytes} (long : 4 ≤ data.length) :
    bigEndian data = Octets.toNat (data.take 4) := by
  match data, long with
  | b0 :: b1 :: b2 :: b3 :: rest, _ =>
      simp only [bigEndian, List.take_succ_cons, List.take_zero, Octets.toNat, List.length_cons,
        List.length_nil]
      omega

theorem bigEndian_prefixed (nal : Nal) (rest : Bytes) (small : nal.payload.length < 2 ^ 32) :
    bigEndian (nal.prefixed 4 ++ rest) = nal.payload.length := by
  have four : (nal.prefixed 4 ++ rest).take 4 = Octets.ofNat 4 nal.payload.length := by
    rw [Nal.prefixed, List.append_assoc]
    exact List.take_left' (Octets.length_ofNat 4 _)
  rw [bigEndian_eq, four, Octets.toNat_ofNat]
  · exact Nat.mod_eq_of_lt small
  · rw [List.length_append, Nal.length_prefixed]
    omega

theorem validUnits_succ (rounds : Nat) {data : Bytes} (present : data ≠ []) :
    validUnits (rounds + 1) data =
      if data.length < 4 then false
      else if bigEndian data = 0 ∨ data.length - 4 < bigEndian data then false
      else validUnits rounds (data.drop (4 + bigEndian data)) := by
  cases data with
  | nil => exact absurd rfl present
  | cons byte rest => rfl

theorem startCodes_succ (rounds : Nat) {data : Bytes} (present : data ≠ []) :
    startCodes (rounds + 1) data =
      startCode ++ (data.drop 4).take (bigEndian data) ++
        startCodes rounds (data.drop (4 + bigEndian data)) := by
  cases data with
  | nil => exact absurd rfl present
  | cons byte rest => rfl

theorem lengthAt_append (done rest : Bytes) (long : 4 ≤ rest.length) :
    lengthAt (done ++ rest) done.length = some (bigEndian rest) := by
  rw [lengthAt, Buffer.loadMany_append done rest long, Option.map_some, bigEndian_eq long,
    bigEndian_eq, List.take_take, Nat.min_self]
  rw [List.length_take, Nat.min_eq_left long]

/-! ## The loops against the lists -/

section Frame

variable (target : Target)

/-- The first loop stays inside the buffer and answers like the list function. -/
theorem validateLoop_eq {rounds steps : Nat} (done rest : Bytes)
    (small : (done ++ rest).length < 2 ^ 32) (enough : rest.length < rounds)
    (many : rest.length ≤ steps) :
    validateLoop target rounds (done ++ rest) done.length = some (validUnits steps rest) := by
  induction rounds generalizing done rest steps with
  | zero => omega
  | succ rounds inductionHypothesis =>
      rw [List.length_append] at small
      rw [validateLoop, List.length_append, Nat.add_sub_cancel_left]
      cases steps with
      | zero =>
          rw [List.eq_nil_of_length_eq_zero (Nat.le_zero.mp many)]
          simp [validUnits]
      | succ steps =>
          by_cases empty : rest = []
          · simp [empty, validUnits]
          have positive := List.length_pos_iff.mpr empty
          rw [if_pos (Nat.lt_add_of_pos_right positive), validUnits_succ steps empty]
          by_cases short : rest.length < 4
          · rw [if_pos short, if_pos short]
          rw [if_neg short, if_neg short, lengthAt_append done rest (Nat.le_of_not_lt short),
            Option.bind_some]
          by_cases bad : bigEndian rest = 0 ∨ rest.length - 4 < bigEndian rest
          · rw [if_pos bad, if_pos bad]
          rw [if_neg bad, if_neg bad]
          rw [not_or, Nat.not_lt] at bad
          have inside : (done ++ rest.take (4 + bigEndian rest)).length =
              done.length + (4 + bigEndian rest) := by
            rw [List.length_append, List.length_take]
            omega
          have next : target.add done.length ((4 + bigEndian rest) % 2 ^ 32) =
              (done ++ rest.take (4 + bigEndian rest)).length := by
            rw [inside, Nat.mod_eq_of_lt, target.add_eq]
            · omega
            · omega
          have split : done ++ rest =
              (done ++ rest.take (4 + bigEndian rest)) ++ rest.drop (4 + bigEndian rest) := by
            rw [List.append_assoc, List.take_append_drop]
          rw [next, split]
          apply inductionHypothesis
          · rw [← split, List.length_append]
            exact small
          · rw [List.length_drop]
            omega
          · rw [List.length_drop]
            omega

/-- The second loop stays inside the buffer, and replaces the lengths that the
first one has seen. -/
theorem rewriteLoop_eq {rounds steps : Nat} (done rest : Bytes)
    (small : (done ++ rest).length < 2 ^ 32) (enough : rest.length < rounds)
    (valid : validUnits steps rest = true) :
    rewriteLoop target rounds (done ++ rest) done.length =
      some (done ++ startCodes steps rest) := by
  induction rounds generalizing done rest steps with
  | zero => omega
  | succ rounds inductionHypothesis =>
      rw [List.length_append] at small
      rw [rewriteLoop, List.length_append]
      by_cases empty : rest = []
      · cases steps <;> simp [empty, startCodes]
      have positive := List.length_pos_iff.mpr empty
      rw [if_pos (Nat.lt_add_of_pos_right positive)]
      cases steps with
      | zero =>
          cases rest with
          | nil => exact absurd rfl empty
          | cons byte tail => cases valid
      | succ steps =>
              rw [startCodes_succ steps empty]
              rw [validUnits_succ steps empty] at valid
              by_cases short : rest.length < 4
              · rw [if_pos short] at valid
                cases valid
              rw [if_neg short] at valid
              by_cases bad : bigEndian rest = 0 ∨ rest.length - 4 < bigEndian rest
              · rw [if_pos bad] at valid
                cases valid
              rw [if_neg bad] at valid
              rw [not_or, Nat.not_lt] at bad
              rw [lengthAt_append done rest (Nat.le_of_not_lt short), Option.bind_some,
                Buffer.store_append done rest startCode (Nat.le_of_not_lt short),
                Option.bind_some]
              have inside : (done ++ (startCode ++ (rest.drop 4).take (bigEndian rest))).length =
                  done.length + (4 + bigEndian rest) := by
                rw [List.length_append, List.length_append, List.length_take, List.length_drop]
                simp only [startCode, List.length_cons, List.length_nil]
                omega
              have next : target.add done.length ((4 + bigEndian rest) % 2 ^ 32) =
                  (done ++ (startCode ++ (rest.drop 4).take (bigEndian rest))).length := by
                rw [inside, Nat.mod_eq_of_lt, target.add_eq]
                · omega
                · omega
              have split : done ++ (startCode ++ rest.drop startCode.length) =
                  (done ++ (startCode ++ (rest.drop 4).take (bigEndian rest))) ++
                    rest.drop (4 + bigEndian rest) := by
                rw [← List.drop_drop, List.append_assoc, List.append_assoc,
                  List.take_append_drop]
                rfl
              rw [next, split]
              rw [inductionHypothesis _ _ _ _ valid]
              · simp [List.append_assoc]
              · rw [← split, List.length_append, List.length_append, List.length_drop]
                simp only [startCode, List.length_cons, List.length_nil]
                omega
              · rw [List.length_drop]
                omega

theorem h264FrameInPlace_eq {rounds : Nat} {data : Bytes}
    (small : data.length < 2 ^ 32) (enough : data.length < rounds) :
    h264FrameInPlace target rounds data = some (h264Frame data) := by
  have first := validateLoop_eq target [] data small enough (Nat.le_refl _)
  rw [List.nil_append, List.length_nil] at first
  rw [h264FrameInPlace, h264Frame]
  by_cases short : data.length < 5
  · rw [if_pos short, if_pos short]
  rw [if_neg short, if_neg short, first, Option.bind_some]
  cases valid : validUnits data.length data with
  | false => rfl
  | true =>
      have second := rewriteLoop_eq target [] data small enough valid
      rw [List.nil_append, List.length_nil, List.nil_append] at second
      simp [second]

end Frame

/-! ## The lists against the units -/

theorem unit_of_length {data : Bytes} (long : 4 ≤ data.length) (positive : bigEndian data ≠ 0)
    (inside : bigEndian data ≤ data.length - 4) :
    ∃ nal : Nal, data = nal.prefixed 4 ++ data.drop (4 + bigEndian data) := by
  have length : ((data.drop 4).take (bigEndian data)).length = bigEndian data := by
    rw [List.length_take, List.length_drop]
    omega
  have nonempty : (data.drop 4).take (bigEndian data) ≠ [] := by
    apply List.ne_nil_of_length_pos
    rw [length]
    exact Nat.pos_of_ne_zero positive
  have head : Octets.ofNat 4 (bigEndian data) = data.take 4 := by
    have back := Octets.ofNat_toNat (data.take 4)
    rwa [List.length_take, Nat.min_eq_left long, ← bigEndian_eq long] at back
  refine ⟨⟨_, nonempty⟩, ?_⟩
  rw [Nal.prefixed]
  simp only [length]
  rw [head, List.append_assoc, ← List.drop_drop, List.take_append_drop, List.take_append_drop]

section Unit

variable (nal : Nal) (rest : Bytes)

theorem drop_unit : (nal.prefixed 4 ++ rest).drop (4 + nal.payload.length) = rest :=
  List.drop_left' (nal.length_prefixed 4)

theorem payload_unit :
    ((nal.prefixed 4 ++ rest).drop 4).take nal.payload.length = nal.payload := by
  rw [Nal.prefixed, List.append_assoc, List.drop_left' (Octets.length_ofNat 4 nal.payload.length),
    List.take_left]

theorem unit_nonempty : nal.prefixed 4 ++ rest ≠ [] := by
  apply List.ne_nil_of_length_pos
  rw [List.length_append, Nal.length_prefixed]
  omega

theorem validUnits_unit (steps : Nat) (small : nal.payload.length < 2 ^ 32) :
    validUnits (steps + 1) (nal.prefixed 4 ++ rest) = validUnits steps rest := by
  have positive := nal.length_pos
  rw [validUnits_succ steps (unit_nonempty nal rest), bigEndian_prefixed nal rest small, drop_unit,
    List.length_append, Nal.length_prefixed, if_neg (by omega), if_neg (by omega)]

theorem startCodes_unit (steps : Nat) (small : nal.payload.length < 2 ^ 32) :
    startCodes (steps + 1) (nal.prefixed 4 ++ rest) = nal.started ++ startCodes steps rest := by
  rw [startCodes_succ steps (unit_nonempty nal rest), bigEndian_prefixed nal rest small, drop_unit,
    payload_unit, Nal.started]

end Unit

/-- The first loop accepts concatenations of units. -/
theorem units_of_valid {steps : Nat} {data : Bytes} (many : data.length ≤ steps)
    (valid : validUnits steps data = true) :
    ∃ units : List Nal, data = units.flatMap (Nal.prefixed 4) := by
  induction steps generalizing data with
  | zero => exact ⟨[], List.eq_nil_of_length_eq_zero (Nat.le_zero.mp many)⟩
  | succ steps inductionHypothesis =>
      by_cases empty : data = []
      · exact ⟨[], empty⟩
      rw [validUnits_succ steps empty] at valid
      by_cases short : data.length < 4
      · rw [if_pos short] at valid
        cases valid
      rw [if_neg short] at valid
      by_cases bad : bigEndian data = 0 ∨ data.length - 4 < bigEndian data
      · rw [if_pos bad] at valid
        cases valid
      rw [if_neg bad] at valid
      rw [not_or, Nat.not_lt] at bad
      have fewer : (data.drop (4 + bigEndian data)).length ≤ steps := by
        rw [List.length_drop]
        omega
      obtain ⟨units, rest⟩ := inductionHypothesis fewer valid
      obtain ⟨nal, split⟩ := unit_of_length (Nat.le_of_not_lt short) bad.1 bad.2
      refine ⟨nal :: units, ?_⟩
      rw [List.flatMap_cons, ← rest]
      exact split

theorem loops_units {steps : Nat} {units : List Nal}
    (many : (units.flatMap (Nal.prefixed 4)).length ≤ steps)
    (small : (units.flatMap (Nal.prefixed 4)).length < 2 ^ 32) :
    validUnits steps (units.flatMap (Nal.prefixed 4)) = true ∧
      startCodes steps (units.flatMap (Nal.prefixed 4)) = units.flatMap Nal.started := by
  induction units generalizing steps with
  | nil =>
      cases steps with
      | zero => exact ⟨rfl, rfl⟩
      | succ steps => exact ⟨rfl, rfl⟩
  | cons nal rest inductionHypothesis =>
      rw [List.flatMap_cons, List.length_append, Nal.length_prefixed] at many small
      cases steps with
      | zero => omega
      | succ steps =>
          obtain ⟨valid, converted⟩ := @inductionHypothesis steps (by omega) (by omega)
          rw [List.flatMap_cons, List.flatMap_cons, validUnits_unit nal _ steps (by omega),
            startCodes_unit nal _ steps (by omega), converted]
          exact ⟨valid, rfl⟩

theorem converts_refused {data : Bytes} (invalid : ¬ ∃ units : List Nal, units ≠ [] ∧
    5 ≤ data.length ∧ data = units.flatMap (Nal.prefixed 4)) : Converts data (-1) data where
  accepted := iff_of_false (by decide) invalid
  converted _ zero := by cases zero
  refused _ := ⟨rfl, rfl⟩

/-- The list function converts the concatenations of units and no others. -/
theorem h264Frame_converts {data : Bytes} (range : data.length < 2 ^ 32) :
    Converts data (h264Frame data).1 (h264Frame data).2 := by
  by_cases short : data.length < 5
  · rw [h264Frame, if_pos short]
    apply converts_refused
    rintro ⟨_, _, long, _⟩
    omega
  cases valid : validUnits data.length data with
  | true =>
      have answer : h264Frame data = (0, startCodes data.length data) := by
        simp [h264Frame, short, valid]
      rw [answer]
      obtain ⟨units, split⟩ := units_of_valid (Nat.le_refl _) valid
      refine ⟨iff_of_true rfl ⟨units, ?_, Nat.le_of_not_lt short, split⟩, ?_,
        fun bad => absurd rfl bad⟩
      · rintro rfl
        rw [split] at short
        exact short (by decide)
      · rintro others _ rfl
        exact (loops_units (Nat.le_refl _) range).2
  | false =>
      have answer : h264Frame data = (-1, data) := by
        simp [h264Frame, valid]
      rw [answer]
      apply converts_refused
      rintro ⟨units, _, _, rfl⟩
      rw [(loops_units (Nat.le_refl _) range).1] at valid
      cases valid

/-- In every buffer of at most 2 MiB both loops end inside the buffer.  Exactly
the non-empty concatenations of units behind their lengths are converted, to the
same units behind start codes; every other buffer is left as it was. -/
theorem h264Frame_in_place (target : Target) {data : Bytes} {rounds : Nat}
    (small : data.length ≤ 2 * 1024 * 1024) (enough : data.length < rounds) :
    ∃ result after, h264FrameInPlace target rounds data = some (result, after) ∧
      Converts data result after := by
  have range : data.length < 2 ^ 32 := small.trans_lt (by decide)
  exact ⟨_, _, h264FrameInPlace_eq target range enough, h264Frame_converts range⟩

/-- Two units in a buffer of eleven bytes. -/
theorem h264Frame_in_place_two :
    ∃ result after, h264FrameInPlace .nacl 12 [0, 0, 0, 1, 9, 0, 0, 0, 2, 7, 8] =
      some (result, after) ∧ Converts [0, 0, 0, 1, 9, 0, 0, 0, 2, 7, 8] result after :=
  h264Frame_in_place .nacl (by decide) (by decide)

end AirTizen.Mirror

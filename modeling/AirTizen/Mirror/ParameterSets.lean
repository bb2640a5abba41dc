import AirTizen.Mirror.H264

/-!
# Parameter sets in their buffers

`airtizen_h264_config` with the cursor, the arithmetic and the memory accesses of
the source, and the configuration record that it takes apart.
-/

namespace AirTizen.Mirror

open CText

/-! ## `airtizen_h264_config` -/

/-- How the function ends early: it returns zero, or has left its buffers. -/
inductive Exit where
  | refused
  | fault
  deriving DecidableEq

def access {Value : Type} : Option Value → Except Exit Value
  | some value => .ok value
  | none => .error .fault

/-- `position` and `used`, with the output buffer. -/
structure Cursor where
  position : Nat
  used : Nat
  out : Bytes

/-- A start code and so many bytes from `data+position`, appended to the output. -/
def appendSet (target : Target) (data : Bytes) (position length : Nat) (cursor : Cursor) :
    Except Exit Cursor := do
  let out ← access (Buffer.store cursor.out cursor.used startCode)
  let used := target.add cursor.used 4
  let set ← access (Buffer.loadMany data position length)
  let out ← access (Buffer.store out used set)
  return ⟨target.add position length, target.add used length, out⟩

def copySetAt (target : Target) (data : Bytes) (wanted : UInt8) (cursor : Cursor) :
    Except Exit Cursor :=
  if data.length < target.add cursor.position 2 then .error .refused
  else do
    let high ← access (Buffer.load data cursor.position)
    let low ← access (Buffer.load data (target.add cursor.position 1))
    let length := high.toNat * 256 + low.toNat
    let position := target.add cursor.position 2
    if length = 0 ∨ data.length - position < length ∨
        cursor.out.length < target.add (target.add cursor.used 4) length then .error .refused
    else do
      let first ← access (Buffer.load data position)
      if first &&& 31 ≠ wanted then .error .refused
      else appendSet target data position length cursor

def copySetsAt (target : Target) (data : Bytes) (wanted : UInt8) : Nat → Cursor →
    Except Exit Cursor
  | 0, cursor => .ok cursor
  | count + 1, cursor => do
      let cursor ← copySetAt target data wanted cursor
      copySetsAt target data wanted count cursor

def copyPicturesAt (target : Target) (data : Bytes) (cursor : Cursor) : Except Exit Cursor :=
  if data.length ≤ cursor.position then .error .refused
  else do
    let count ← access (Buffer.load data cursor.position)
    if count.toNat = 0 then .error .refused
    else
      copySetsAt target data 8 count.toNat
        { cursor with position := target.add cursor.position 1 }

/-- `airtizen_h264_config` on its buffers: the length that it returns, and the
output buffer behind it.  Null pointers are refused like a short input. -/
def h264ConfigAt (target : Target) (data out : Bytes) : Except Exit (Nat × Bytes) :=
  if data.length < 7 then .error .refused
  else do
    let version ← access (Buffer.load data 0)
    let lengthSize ← access (Buffer.load data 4)
    if version ≠ 1 ∨ lengthSize &&& 3 ≠ 3 then .error .refused
    else do
      let count ← access (Buffer.load data 5)
      if (count &&& 31).toNat = 0 then .error .refused
      else do
        let cursor ← copySetsAt target data 7 (count &&& 31).toNat ⟨6, 0, out⟩
        let cursor ← copyPicturesAt target data cursor
        return (cursor.used, cursor.out)

/-- A configuration record of version 1 with lengths of four bytes. -/
structure AvcRecord where
  profile : Bytes
  /-- The length size in its low bits. -/
  lengthSize : UInt8
  /-- The number of sequence parameter sets in its low bits. -/
  countByte : UInt8
  sequence : List Nal
  picture : List Nal
  profile_length : profile.length = 3
  four : lengthSize &&& 3 = 3
  counted : sequence.length = (countByte &&& 31).toNat
  some_sequence : sequence ≠ []
  some_picture : picture ≠ []
  few_picture : picture.length ≤ 255
  sequence_type : ∀ nal ∈ sequence, nal.type = 7
  picture_type : ∀ nal ∈ picture, nal.type = 8
  small : ∀ nal ∈ sequence ++ picture, nal.payload.length < 2 ^ 16

namespace AvcRecord

def encode (record : AvcRecord) : Bytes :=
  1 :: record.profile ++ [record.lengthSize, record.countByte] ++
    record.sequence.flatMap (Nal.prefixed 2) ++ [UInt8.ofNat record.picture.length] ++
    record.picture.flatMap (Nal.prefixed 2)

def annexB (record : AvcRecord) : Bytes :=
  record.sequence.flatMap Nal.started ++ record.picture.flatMap Nal.started

end AvcRecord

/-! ## The loop against the list -/

@[simp]
theorem access_bind {Value Result : Type} (value : Value) (next : Value → Except Exit Result) :
    (access (some value) >>= next) = next value := rfl

section Loop

variable (target : Target)

theorem appendSet_eq (done rest payload out buffer : Bytes)
    (near : done.length + payload.length < 2 ^ 32)
    (room : out.length + 4 + payload.length ≤ buffer.length)
    (low : out.length + 4 + payload.length < 2 ^ 32) :
    appendSet target (done ++ (payload ++ rest)) done.length payload.length
        ⟨done.length, out.length, out ++ buffer.drop out.length⟩ =
      .ok ⟨(done ++ payload).length, (out ++ startCode ++ payload).length,
        out ++ startCode ++ payload ++ buffer.drop (out ++ startCode ++ payload).length⟩ := by
  have coded : (out ++ startCode).length = out.length + 4 := List.length_append
  have total : (out ++ startCode ++ payload).length = out.length + 4 + payload.length := by
    rw [List.length_append, coded]
  have four : target.add out.length 4 = (out ++ startCode).length := by
    rw [coded, target.add_eq (by omega)]
  have used : target.add (out ++ startCode).length payload.length =
      (out ++ startCode ++ payload).length := by
    rw [total, coded, target.add_eq low]
  have code : Buffer.store (out ++ buffer.drop out.length) out.length startCode =
      some ((out ++ startCode) ++ buffer.drop (out ++ startCode).length) := by
    rw [Buffer.store_append, List.drop_drop, List.length_append, List.append_assoc]
    simp only [List.length_drop, startCode, List.length_cons, List.length_nil]
    omega
  have set : Buffer.loadMany (done ++ (payload ++ rest)) done.length payload.length =
      some payload := by
    rw [Buffer.loadMany_append, List.take_left]
    rw [List.length_append]
    exact Nat.le_add_right _ _
  have body : Buffer.store ((out ++ startCode) ++ buffer.drop (out ++ startCode).length)
      (out ++ startCode).length payload =
        some (out ++ startCode ++ payload ++ buffer.drop (out ++ startCode ++ payload).length) := by
    have longer : (out ++ startCode ++ payload).length =
        (out ++ startCode).length + payload.length := List.length_append
    rw [Buffer.store_append, List.drop_drop, longer, ← List.append_assoc]
    simp only [List.length_drop, List.length_append, startCode, List.length_cons, List.length_nil]
    omega
  have position : target.add done.length payload.length = (done ++ payload).length := by
    rw [List.length_append, target.add_eq near]
  unfold appendSet
  simp only [code, set, four, used, body, position, access_bind]
  rfl

/-- One round, behind what was read and written so far. -/
theorem copySetAt_eq {wanted : UInt8} (done rest out buffer : Bytes)
    (near : done.length + 65537 < 2 ^ 32)
    (low : out.length + 65539 < 2 ^ 32) (fits : out.length ≤ buffer.length) :
    match copySets buffer.length wanted 1 rest out with
    | none =>
        copySetAt target (done ++ rest) wanted
          ⟨done.length, out.length, out ++ buffer.drop out.length⟩ = .error .refused
    | some (after, output) => ∃ read, read ++ after = done ++ rest ∧
        output.length ≤ buffer.length ∧ read.length ≤ done.length + 65537 ∧
        output.length ≤ out.length + 65539 ∧
        copySetAt target (done ++ rest) wanted
          ⟨done.length, out.length, out ++ buffer.drop out.length⟩ =
            .ok ⟨read.length, output.length, output ++ buffer.drop output.length⟩ := by
  have two : target.add done.length 2 = done.length + 2 := target.add_eq (by omega)
  have one : target.add done.length 1 = done.length + 1 := target.add_eq (by omega)
  have room : (out ++ buffer.drop out.length).length = buffer.length := by
    rw [List.length_append, List.length_drop]
    omega
  cases rest with
  | nil => simp [copySets, copySetAt, two]
  | cons high rest => cases rest with
    | nil => simp [copySets, copySetAt, two]
    | cons low payload =>
        have first : Buffer.load (done ++ high :: low :: payload) done.length = some high :=
          Buffer.load_append done _ 0
        have second : Buffer.load (done ++ high :: low :: payload) (done.length + 1) = some low :=
          Buffer.load_append done _ 1
        have third : Buffer.load (done ++ high :: low :: payload) (done.length + 2) = payload[0]? :=
          Buffer.load_append done _ 2
        have long : ¬ (done ++ high :: low :: payload).length < done.length + 2 := by
          simp
        have left : (done ++ high :: low :: payload).length - (done.length + 2) =
            payload.length := by
          simp only [List.length_append, List.length_cons]
          omega
        unfold copySetAt
        simp only [two, one, first, second, third, if_neg long, left, room, access_bind, copySets]
        have small : high.toNat * 256 + low.toNat < 65536 := by
          have := high.toNat_lt
          have := low.toNat_lt
          omega
        generalize high.toNat * 256 + low.toNat = length at small ⊢
        have four : target.add (target.add out.length 4) length = out.length + 4 + length := by
          rw [target.add_eq, target.add_eq]
          · omega
          · rw [target.add_eq]
            · omega
            · omega
        rw [four]
        by_cases bad : length = 0 ∨ payload.length < length ∨
            buffer.length < out.length + 4 + length
        · rw [if_pos bad, if_pos]
          rcases bad with zero | short | full
          · exact .inl zero
          · exact .inr (.inl short)
          · exact .inr (.inr (.inl full))
        rw [if_neg bad]
        rw [not_or, not_or, Nat.not_lt, Nat.not_lt] at bad
        obtain ⟨positive, inside, fitting⟩ := bad
        have begins : payload[0]? = some (payload.headD 0) := by
          cases payload with
          | nil => exact absurd (Nat.le_zero.mp inside) positive
          | cons byte rest => rfl
        rw [begins, access_bind]
        by_cases other : payload.headD 0 &&& 31 ≠ wanted
        · rw [if_pos other, if_pos (.inr (.inr (.inr other)))]
        rw [if_neg other, if_neg (by simp only [not_or]; exact
          ⟨positive, Nat.not_lt.mpr inside, Nat.not_lt.mpr fitting, other⟩)]
        have taken : (payload.take length).length = length := by
          rw [List.length_take, Nat.min_eq_left inside]
        have source : done ++ high :: low :: payload =
            (done ++ [high, low]) ++ (payload.take length ++ payload.drop length) := by
          rw [List.take_append_drop, List.append_assoc]
          rfl
        have behind : done.length + 2 = (done ++ [high, low]).length := by
          rw [List.length_append]
          rfl
        have copied : (out ++ startCode ++ payload.take length).length =
            out.length + 4 + length := by
          rw [List.length_append, taken, List.length_append]
          rfl
        have appended := appendSet_eq target (done ++ [high, low]) (payload.drop length)
          (payload.take length) out buffer (by rw [taken, ← behind]; omega) (by omega) (by omega)
        rw [← source, ← behind, taken] at appended
        refine ⟨done ++ [high, low] ++ payload.take length, ?_, ?_, ?_, ?_, appended⟩
        · rw [source, List.append_assoc]
        · rw [copied]
          exact fitting
        · rw [List.length_append, ← behind, taken]
          omega
        · rw [copied]
          omega

theorem copySets_succ (capacity : Nat) (wanted : UInt8) (count : Nat) (rest out : Bytes) :
    copySets capacity wanted (count + 1) rest out =
      match copySets capacity wanted 1 rest out with
      | none => none
      | some (after, output) => copySets capacity wanted count after output := by
  match rest with
  | [] => rfl
  | [_] => rfl
  | high :: low :: payload =>
      rw [copySets, copySets]
      split
      · rfl
      · rfl

/-- All rounds of one group. -/
theorem copySetsAt_eq {wanted : UInt8} (count : Nat) (done rest out buffer : Bytes)
    (near : done.length + count * 65537 < 2 ^ 32) (low : out.length + count * 65539 < 2 ^ 32)
    (fits : out.length ≤ buffer.length) :
    match copySets buffer.length wanted count rest out with
    | none =>
        copySetsAt target (done ++ rest) wanted count
          ⟨done.length, out.length, out ++ buffer.drop out.length⟩ = .error .refused
    | some (after, output) => ∃ read, read ++ after = done ++ rest ∧
        output.length ≤ buffer.length ∧ read.length ≤ done.length + count * 65537 ∧
        output.length ≤ out.length + count * 65539 ∧
        copySetsAt target (done ++ rest) wanted count
          ⟨done.length, out.length, out ++ buffer.drop out.length⟩ =
            .ok ⟨read.length, output.length, output ++ buffer.drop output.length⟩ := by
  induction count generalizing done rest out with
  | zero => exact ⟨done, rfl, fits, by omega, by omega, rfl⟩
  | succ count inductionHypothesis =>
      have round := @copySetAt_eq target wanted done rest out buffer (by omega) (by omega) fits
      rw [copySets_succ]
      cases one : copySets buffer.length wanted 1 rest out with
      | none =>
          rw [one] at round
          rw [copySetsAt, round]
          rfl
      | some copied =>
          obtain ⟨after, output⟩ := copied
          rw [one] at round
          obtain ⟨read, split, room, position, used, first⟩ := round
          have others := inductionHypothesis read after output (by omega) (by omega) room
          have step : copySetsAt target (done ++ rest) wanted (count + 1)
              ⟨done.length, out.length, out ++ buffer.drop out.length⟩ =
                copySetsAt target (read ++ after) wanted count
                  ⟨read.length, output.length, output ++ buffer.drop output.length⟩ := by
            rw [copySetsAt, first, split]
            rfl
          simp only
          rw [step]
          cases last : copySets buffer.length wanted count after output with
          | none =>
              rw [last] at others
              exact others
          | some all =>
              rw [last] at others
              obtain ⟨whole, sameSplit, roomy, far, high, result⟩ := others
              exact ⟨whole, sameSplit.trans split, roomy, by omega, by omega, result⟩

end Loop

/-! ## The list against the record -/

theorem headD_take {payload : Bytes} {count : Nat} (positive : count ≠ 0) :
    (payload.take count).headD 0 = payload.headD 0 := by
  cases payload with
  | nil => simp
  | cons byte rest =>
      cases count with
      | zero => exact absurd rfl positive
      | succ count => rfl

/-- A round takes one set of the type. -/
theorem copySet_iff {capacity : Nat} {wanted : UInt8} {rest out after output : Bytes} :
    copySets capacity wanted 1 rest out = some (after, output) ↔
      ∃ nal : Nal, nal.type = wanted ∧ nal.payload.length < 2 ^ 16 ∧
        rest = nal.prefixed 2 ++ after ∧ output = out ++ nal.started ∧
        output.length ≤ capacity := by
  constructor
  · intro copied
    match rest, copied with
    | high :: low :: payload, copied =>
        have number : Octets.toNat [high, low] = high.toNat * 256 + low.toNat := by
          simp [Octets.toNat]
        rw [copySets, ← number] at copied
        have small : Octets.toNat [high, low] < 2 ^ 16 := by
          have bound := Octets.toNat_lt [high, low]
          simp only [List.length_cons, List.length_nil] at bound
          omega
        have digits : Octets.ofNat 2 (Octets.toNat [high, low]) = [high, low] :=
          Octets.ofNat_toNat [high, low]
        generalize Octets.toNat [high, low] = length at copied small digits
        by_cases bad : length = 0 ∨ payload.length < length ∨
            capacity < out.length + 4 + length ∨ payload.headD 0 &&& 31 ≠ wanted
        · simp only [if_pos bad] at copied
          cases copied
        simp only [if_neg bad, copySets, Option.some.injEq, Prod.mk.injEq] at copied
        simp only [not_or, Nat.not_lt, ne_eq, Decidable.not_not] at bad
        obtain ⟨positive, inside, room, type⟩ := bad
        obtain ⟨rfl, rfl⟩ := copied
        have taken : (payload.take length).length = length := by
          rw [List.length_take, Nat.min_eq_left inside]
        have nonempty : payload.take length ≠ [] := by
          apply List.ne_nil_of_length_pos
          rw [taken]
          exact Nat.pos_of_ne_zero positive
        refine ⟨⟨_, nonempty⟩, ?_, ?_, ?_, ?_, ?_⟩
        · rw [Nal.type, headD_take positive, type]
        · rw [taken]
          exact small
        · rw [Nal.prefixed]
          simp only [taken]
          rw [digits, List.append_assoc, List.take_append_drop]
          rfl
        · rw [Nal.started, List.append_assoc]
        · rw [List.length_append, List.length_append, taken]
          exact room
  · rintro ⟨nal, rfl, small, rfl, rfl, room⟩
    have positive := nal.length_pos
    have number := Octets.toNat_ofNat 2 nal.payload.length
    rw [Nat.mod_eq_of_lt (by omega)] at number
    rw [Nal.prefixed]
    have digits : Octets.ofNat 2 nal.payload.length =
        [UInt8.ofNat (nal.payload.length / 256 ^ 1), UInt8.ofNat (nal.payload.length / 256 ^ 0)] :=
      rfl
    rw [digits] at number ⊢
    generalize UInt8.ofNat (nal.payload.length / 256 ^ 1) = high at number ⊢
    generalize UInt8.ofNat (nal.payload.length / 256 ^ 0) = low at number ⊢
    have value : high.toNat * 256 + low.toNat = nal.payload.length := by
      rw [← number]
      simp [Octets.toNat]
    have head : (nal.payload ++ after).headD 0 &&& 31 = nal.type := by
      rw [Nal.type, ← headD_take (Nat.ne_of_gt positive), List.take_left]
    rw [List.length_append, Nal.length_started] at room
    simp only [List.cons_append, List.nil_append, copySets, value, head]
    rw [if_neg, List.drop_left, List.take_left, Nal.started, List.append_assoc]
    simp only [List.length_append, not_or, Nat.not_lt, ne_eq, Decidable.not_not]
    exact ⟨Nat.ne_of_gt positive, Nat.le_add_right _ _, by omega, trivial⟩

structure Group (wanted : UInt8) (sets : List Nal) : Prop where
  type : ∀ nal ∈ sets, nal.type = wanted
  small : ∀ nal ∈ sets, nal.payload.length < 2 ^ 16

/-- The rounds of a group take as many sets of its type. -/
theorem copySets_iff {capacity : Nat} {wanted : UInt8} {count : Nat}
    {rest out after output : Bytes} (fits : out.length ≤ capacity) :
    copySets capacity wanted count rest out = some (after, output) ↔
      ∃ sets : List Nal, sets.length = count ∧ Group wanted sets ∧
        rest = sets.flatMap (Nal.prefixed 2) ++ after ∧
        output = out ++ sets.flatMap Nal.started ∧ output.length ≤ capacity := by
  induction count generalizing rest out output with
  | zero =>
      rw [copySets, Option.some.injEq, Prod.mk.injEq]
      constructor
      · rintro ⟨rfl, rfl⟩
        refine ⟨[], rfl, ⟨?_, ?_⟩, rfl, (List.append_nil _).symm, fits⟩
        · intro nal membership
          cases membership
        · intro nal membership
          cases membership
      · rintro ⟨sets, none, _, rfl, rfl, _⟩
        rw [List.eq_nil_of_length_eq_zero none]
        simp
  | succ count inductionHypothesis =>
      rw [copySets_succ]
      constructor
      · intro copied
        cases one : copySets capacity wanted 1 rest out with
        | none =>
            rw [one] at copied
            cases copied
        | some first =>
            obtain ⟨middle, written⟩ := first
            rw [one] at copied
            obtain ⟨nal, type, small, rfl, rfl, room⟩ := copySet_iff.mp one
            obtain ⟨sets, length, group, rfl, rfl, all⟩ := (inductionHypothesis room).mp copied
            refine ⟨nal :: sets, congrArg (· + 1) length, ⟨?_, ?_⟩, ?_, ?_, all⟩
            · exact List.forall_mem_cons.mpr ⟨type, group.type⟩
            · exact List.forall_mem_cons.mpr ⟨small, group.small⟩
            · rw [List.flatMap_cons, List.append_assoc]
            · rw [List.flatMap_cons, List.append_assoc]
      · rintro ⟨sets, length, group, rfl, rfl, all⟩
        cases sets with
        | nil => cases length
        | cons nal sets =>
            have type := List.forall_mem_cons.mp group.type
            have small := List.forall_mem_cons.mp group.small
            rw [List.flatMap_cons, ← List.append_assoc] at all
            have room : (out ++ nal.started).length ≤ capacity := by
              rw [List.length_append] at all
              omega
            have one : copySets capacity wanted 1
                ((nal :: sets).flatMap (Nal.prefixed 2) ++ after) out =
                  some (sets.flatMap (Nal.prefixed 2) ++ after, out ++ nal.started) := by
              apply copySet_iff.mpr
              refine ⟨nal, type.1, small.1, ?_, rfl, room⟩
              rw [List.flatMap_cons, List.append_assoc]
            rw [one, List.flatMap_cons, ← List.append_assoc]
            apply (inductionHypothesis room).mpr
            exact ⟨sets, Nat.succ.inj length, ⟨type.2, small.2⟩, rfl, rfl, all⟩

/-! ## The whole function -/

/-- The groups behind the six bytes of the head, with the count between them. -/
def groups (capacity : Nat) (count : Nat) (rest : Bytes) : Option Bytes :=
  match copySets capacity 7 count rest [] with
  | none => none
  | some ([], _) => none
  | some (count :: rest, out) =>
      if count.toNat = 0 then none
      else (copySets capacity 8 count.toNat rest out).map Prod.snd

/-- What the checks of the head leave. -/
theorem h264Config_head (b0 b1 b2 b3 b4 b5 : UInt8) (rest : Bytes) (capacity : Nat) :
    h264Config (b0 :: b1 :: b2 :: b3 :: b4 :: b5 :: rest) capacity =
      if rest = [] ∨ b0 ≠ 1 ∨ b4 &&& 3 ≠ 3 ∨ (b5 &&& 31).toNat = 0 then []
      else (groups capacity (b5 &&& 31).toNat rest).getD [] := by
  have short : (b0 :: b1 :: b2 :: b3 :: b4 :: b5 :: rest).length < 7 ↔ rest = [] := by
    rw [← List.length_eq_zero_iff]
    simp only [List.length_cons]
    omega
  unfold h264Config
  simp only [short, List.headD_cons, List.drop_succ_cons, List.drop_zero]
  by_cases bad : rest = [] ∨ b0 ≠ 1 ∨ b4 &&& 3 ≠ 3
  · rw [if_pos bad, if_pos]
    rcases bad with empty | version | size
    · exact .inl empty
    · exact .inr (.inl version)
    · exact .inr (.inr (.inl size))
  rw [if_neg bad]
  by_cases none : (b5 &&& 31).toNat = 0
  · rw [if_pos none, if_pos (.inr (.inr (.inr none)))]
  rw [if_neg none, if_neg]
  · unfold groups
    cases copySets capacity 7 (b5 &&& 31).toNat rest [] with
    | none => rfl
    | some copied =>
        obtain ⟨after, out⟩ := copied
        cases after with
        | nil => rfl
        | cons count rest =>
            by_cases zero : count = 0
            · simp [zero]
            · have positive : count.toNat ≠ 0 := by
                intro same
                exact zero (UInt8.toNat_inj.mp same)
              simp only [if_neg zero, if_neg positive]
              cases copySets capacity 8 count.toNat rest out with
              | none => rfl
              | some all => rfl
  · rintro (empty | version | size | zero)
    · exact bad (.inl empty)
    · exact bad (.inr (.inl version))
    · exact bad (.inr (.inr size))
    · exact none zero

/-- The second group, behind what was read and written so far. -/
theorem copyPicturesAt_eq (target : Target) (done rest out buffer : Bytes)
    (near : done.length + 1 + 255 * 65537 < 2 ^ 32) (low : out.length + 255 * 65539 < 2 ^ 32)
    (fits : out.length ≤ buffer.length) :
    (copyPicturesAt target (done ++ rest)
        ⟨done.length, out.length, out ++ buffer.drop out.length⟩).map
          (fun cursor => (cursor.used, cursor.out)) =
      match rest with
      | [] => .error .refused
      | count :: rest =>
          if count.toNat = 0 then .error .refused
          else
            match copySets buffer.length 8 count.toNat rest out with
            | none => .error .refused
            | some (_, output) => .ok (output.length, output ++ buffer.drop output.length) := by
  cases rest with
  | nil => simp [copyPicturesAt, Except.map]
  | cons count rest =>
      have inside : ¬ (done ++ count :: rest).length ≤ done.length := by
        simp
      have first : Buffer.load (done ++ count :: rest) done.length = some count :=
        Buffer.load_append done _ 0
      unfold copyPicturesAt
      simp only [if_neg inside, first, access_bind]
      by_cases zero : count.toNat = 0
      · rw [if_pos zero, if_pos zero]
        rfl
      rw [if_neg zero, if_neg zero]
      have few : count.toNat ≤ 255 := Nat.le_of_lt_succ count.toNat_lt
      have ahead : (done ++ [count]).length + count.toNat * 65537 < 2 ^ 32 := by
        rw [List.length_append, List.length_singleton]
        exact (Nat.add_le_add_left (Nat.mul_le_mul_right 65537 few) _).trans_lt near
      have below : out.length + count.toNat * 65539 < 2 ^ 32 :=
        (Nat.add_le_add_left (Nat.mul_le_mul_right 65539 few) _).trans_lt low
      have next : target.add done.length 1 = (done ++ [count]).length := by
        rw [target.add_eq (by omega), List.length_append]
        rfl
      have group := @copySetsAt_eq target 8 count.toNat (done ++ [count]) rest out buffer
        ahead below fits
      rw [List.append_assoc, List.singleton_append] at group
      rw [next]
      cases copied : copySets buffer.length 8 count.toNat rest out with
      | none =>
          rw [copied] at group
          simp only at group ⊢
          rw [group]
          rfl
      | some all =>
          rw [copied] at group
          obtain ⟨read, _, _, _, _, result⟩ := group
          simp only
          rw [result]
          rfl

theorem h264ConfigAt_head (target : Target) (b0 b1 b2 b3 b4 b5 : UInt8) (rest buffer : Bytes) :
    h264ConfigAt target (b0 :: b1 :: b2 :: b3 :: b4 :: b5 :: rest) buffer =
      if rest = [] ∨ b0 ≠ 1 ∨ b4 &&& 3 ≠ 3 ∨ (b5 &&& 31).toNat = 0 then .error .refused
      else
        match groups buffer.length (b5 &&& 31).toNat rest with
        | none => .error .refused
        | some output => .ok (output.length, output ++ buffer.drop output.length) := by
  have short : (b0 :: b1 :: b2 :: b3 :: b4 :: b5 :: rest).length < 7 ↔ rest = [] := by
    rw [← List.length_eq_zero_iff]
    simp only [List.length_cons]
    omega
  unfold h264ConfigAt
  by_cases empty : rest = []
  · rw [if_pos (short.mpr empty), if_pos (.inl empty)]
  have zeroth : Buffer.load (b0 :: b1 :: b2 :: b3 :: b4 :: b5 :: rest) 0 = some b0 := rfl
  have fourth : Buffer.load (b0 :: b1 :: b2 :: b3 :: b4 :: b5 :: rest) 4 = some b4 := rfl
  have fifth : Buffer.load (b0 :: b1 :: b2 :: b3 :: b4 :: b5 :: rest) 5 = some b5 := rfl
  simp only [if_neg (mt short.mp empty), zeroth, fourth, fifth, access_bind]
  by_cases bad : b0 ≠ 1 ∨ b4 &&& 3 ≠ 3
  · rw [if_pos bad, if_pos]
    rcases bad with version | size
    · exact .inr (.inl version)
    · exact .inr (.inr (.inl size))
  rw [if_neg bad]
  by_cases none : (b5 &&& 31).toNat = 0
  · rw [if_pos none, if_pos (.inr (.inr (.inr none)))]
  rw [if_neg none, if_neg]
  · have few : (b5 &&& 31).toNat ≤ 31 := by
      rw [UInt8.toNat_and]
      exact Nat.and_le_right
    have first := @copySetsAt_eq target 7 (b5 &&& 31).toNat [b0, b1, b2, b3, b4, b5] rest [] buffer
      (by simp only [List.length_cons, List.length_nil]; omega)
      (by simp only [List.length_nil]; omega) (Nat.zero_le _)
    simp only [List.length_nil, List.drop_zero, List.nil_append] at first
    unfold groups
    cases copied : copySets buffer.length 7 (b5 &&& 31).toNat rest [] with
    | none =>
        rw [copied] at first
        have first : copySetsAt target (b0 :: b1 :: b2 :: b3 :: b4 :: b5 :: rest) 7
            (b5 &&& 31).toNat ⟨6, 0, buffer⟩ = .error .refused := first
        rw [first]
        rfl
    | some all =>
        obtain ⟨after, out⟩ := all
        rw [copied] at first
        obtain ⟨read, split, room, near, low, first⟩ := first
        have first : copySetsAt target (b0 :: b1 :: b2 :: b3 :: b4 :: b5 :: rest) 7
            (b5 &&& 31).toNat ⟨6, 0, buffer⟩ =
              .ok ⟨read.length, out.length, out ++ buffer.drop out.length⟩ := first
        have split : read ++ after = b0 :: b1 :: b2 :: b3 :: b4 :: b5 :: rest := split
        simp only [List.length_cons, List.length_nil] at near low
        have second := copyPicturesAt_eq target read after out buffer (by omega) (by omega) room
        rw [first, ← split]
        change (copyPicturesAt target (read ++ after)
          ⟨read.length, out.length, out ++ buffer.drop out.length⟩).map _ = _
        rw [second]
        cases after with
        | nil => rfl
        | cons count rest =>
            simp only
            split
            · rfl
            · cases copySets buffer.length 8 count.toNat rest out with
              | none => rfl
              | some all => rfl
  · rintro (nothing | version | size | zero)
    · exact empty nothing
    · exact bad (.inl version)
    · exact bad (.inr size)
    · exact none zero

/-- Groups of parameter sets with their count. -/
theorem groups_iff {capacity count : Nat} {rest output : Bytes} :
    groups capacity count rest = some output ↔
      ∃ (sequence picture : List Nal) (tail : Bytes), sequence.length = count ∧
        Group 7 sequence ∧ Group 8 picture ∧ picture ≠ [] ∧ picture.length ≤ 255 ∧
        rest = sequence.flatMap (Nal.prefixed 2) ++ UInt8.ofNat picture.length ::
          (picture.flatMap (Nal.prefixed 2) ++ tail) ∧
        output = sequence.flatMap Nal.started ++ picture.flatMap Nal.started ∧
        output.length ≤ capacity := by
  unfold groups
  constructor
  · intro found
    cases first : copySets capacity 7 count rest [] with
    | none => simp [first] at found
    | some copied =>
        obtain ⟨after, out⟩ := copied
        obtain ⟨sequence, length, seven, rfl, rfl, room⟩ :=
          (copySets_iff (Nat.zero_le _)).mp first
        simp only [first] at found
        cases after with
        | nil => cases found
        | cons byte after =>
            simp only at found
            by_cases zero : byte.toNat = 0
            · rw [if_pos zero] at found
              cases found
            rw [if_neg zero, Option.map_eq_some_iff] at found
            obtain ⟨⟨tail, all⟩, second, rfl⟩ := found
            obtain ⟨picture, pictures, eight, rfl, rfl, fits⟩ := (copySets_iff room).mp second
            have small := byte.toNat_lt
            refine ⟨sequence, picture, tail, length, seven, eight, ?_, ?_, ?_, rfl, fits⟩
            · rintro rfl
              exact zero pictures.symm
            · omega
            · rw [pictures, UInt8.ofNat_toNat]
  · rintro ⟨sequence, picture, tail, length, seven, eight, present, few, rfl, rfl, fits⟩
    have room : (sequence.flatMap Nal.started).length ≤ capacity := by
      rw [List.length_append] at fits
      omega
    have first : copySets capacity 7 count (sequence.flatMap (Nal.prefixed 2) ++
        UInt8.ofNat picture.length :: (picture.flatMap (Nal.prefixed 2) ++ tail)) [] =
          some (UInt8.ofNat picture.length :: (picture.flatMap (Nal.prefixed 2) ++ tail),
            sequence.flatMap Nal.started) := by
      apply (copySets_iff (Nat.zero_le _)).mpr
      exact ⟨sequence, length, seven, rfl, rfl, room⟩
    have number : (UInt8.ofNat picture.length).toNat = picture.length := by
      rw [UInt8.toNat_ofNat']
      exact Nat.mod_eq_of_lt (by omega)
    have positive := List.length_pos_iff.mpr present
    have second : copySets capacity 8 picture.length
        (picture.flatMap (Nal.prefixed 2) ++ tail) (sequence.flatMap Nal.started) =
          some (tail, sequence.flatMap Nal.started ++ picture.flatMap Nal.started) := by
      apply (copySets_iff room).mpr
      exact ⟨picture, rfl, eight, rfl, rfl, fits⟩
    simp only [first, number]
    rw [if_neg (Nat.ne_of_gt positive), second]
    rfl

theorem started_nonempty {sets : List Nal} (present : sets ≠ []) : sets.flatMap Nal.started ≠ [] := by
  cases sets with
  | nil => exact absurd rfl present
  | cons nal rest =>
      apply List.ne_nil_of_length_pos
      rw [List.flatMap_cons, List.length_append, Nal.length_started]
      omega

theorem AvcRecord.annexB_nonempty (record : AvcRecord) : record.annexB ≠ [] := by
  intro empty
  exact started_nonempty record.some_sequence (List.append_eq_nil_iff.mp empty).1

/-- The head and the groups are a record. -/
theorem record_iff {b0 b1 b2 b3 b4 b5 : UInt8} {rest output : Bytes} {capacity : Nat} :
    (¬ (rest = [] ∨ b0 ≠ 1 ∨ b4 &&& 3 ≠ 3 ∨ (b5 &&& 31).toNat = 0) ∧
      groups capacity (b5 &&& 31).toNat rest = some output) ↔
      ∃ (record : AvcRecord) (tail : Bytes),
        b0 :: b1 :: b2 :: b3 :: b4 :: b5 :: rest = record.encode ++ tail ∧
        output = record.annexB ∧ output.length ≤ capacity := by
  rw [groups_iff]
  constructor
  · rintro ⟨head, sequence, picture, tail, length, seven, eight, present, few, rfl, rfl, fits⟩
    simp only [not_or, ne_eq, Decidable.not_not] at head
    obtain ⟨_, rfl, four, positive⟩ := head
    refine ⟨⟨[b1, b2, b3], b4, b5, sequence, picture, rfl, four, length, ?_, present, few,
      seven.type, eight.type, ?_⟩, tail, ?_, rfl, fits⟩
    · rintro rfl
      exact positive length.symm
    · intro nal membership
      rcases List.mem_append.mp membership with first | second
      · exact seven.small nal first
      · exact eight.small nal second
    · simp [AvcRecord.encode]
  · rintro ⟨record, tail, split, rfl, fits⟩
    obtain ⟨profile, lengthSize, countByte, sequence, picture, three, four, counted, present,
      pictures, few, seven, eight, small⟩ := record
    match profile, three with
    | [p1, p2, p3], _ =>
        simp only [AvcRecord.encode, List.cons_append, List.nil_append, List.append_assoc,
          List.cons.injEq] at split
        obtain ⟨rfl, rfl, rfl, rfl, rfl, rfl, rfl⟩ := split
        refine ⟨?_, sequence, picture, tail, counted, ⟨seven, ?_⟩, ⟨eight, ?_⟩, pictures, few, rfl,
          rfl, fits⟩
        · simp only [not_or, ne_eq, Decidable.not_not]
          refine ⟨by simp, trivial, four, ?_⟩
          rw [← counted]
          exact Nat.ne_of_gt (List.length_pos_iff.mpr present)
        · intro nal membership
          exact small nal (List.mem_append_left _ membership)
        · intro nal membership
          exact small nal (List.mem_append_right _ membership)

theorem AvcRecord.length_encode (record : AvcRecord) : record.encode.length =
    7 + (record.sequence.flatMap (Nal.prefixed 2)).length +
      (record.picture.flatMap (Nal.prefixed 2)).length := by
  simp only [AvcRecord.encode, List.length_append, List.length_cons, List.length_nil,
    record.profile_length]
  omega

theorem h264Config_iff {data output : Bytes} {capacity : Nat} (present : output ≠ []) :
    h264Config data capacity = output ↔
      ∃ (record : AvcRecord) (tail : Bytes), data = record.encode ++ tail ∧
        output = record.annexB ∧ output.length ≤ capacity := by
  by_cases short : data.length < 7
  · rw [h264Config, if_pos (.inl short)]
    refine iff_of_false present.symm ?_
    rintro ⟨record, tail, rfl, _⟩
    have long := record.length_encode
    rw [List.length_append] at short
    omega
  match data, Nat.le_of_not_lt short with
  | b0 :: b1 :: b2 :: b3 :: b4 :: b5 :: rest, _ =>
      rw [h264Config_head, ← record_iff]
      by_cases bad : rest = [] ∨ b0 ≠ 1 ∨ b4 &&& 3 ≠ 3 ∨ (b5 &&& 31).toNat = 0
      · rw [if_pos bad]
        exact iff_of_false present.symm fun found => found.1 bad
      rw [if_neg bad]
      cases found : groups capacity (b5 &&& 31).toNat rest with
      | none => exact iff_of_false present.symm fun found => by cases found.2
      | some found =>
          rw [Option.getD_some, Option.some.injEq]
          exact ⟨fun same => ⟨bad, same⟩, fun same => same.2⟩

theorem h264ConfigAt_eq (target : Target) (data buffer : Bytes) :
    h264ConfigAt target data buffer =
      if h264Config data buffer.length = [] then .error .refused
      else
        .ok ((h264Config data buffer.length).length,
          h264Config data buffer.length ++
            buffer.drop (h264Config data buffer.length).length) := by
  by_cases short : data.length < 7
  · have nothing : h264Config data buffer.length = [] := if_pos (.inl short)
    rw [nothing, if_pos rfl, h264ConfigAt, if_pos short]
  match data, Nat.le_of_not_lt short with
  | b0 :: b1 :: b2 :: b3 :: b4 :: b5 :: rest, _ =>
      rw [h264Config_head, h264ConfigAt_head]
      by_cases bad : rest = [] ∨ b0 ≠ 1 ∨ b4 &&& 3 ≠ 3 ∨ (b5 &&& 31).toNat = 0
      · rw [if_pos bad, if_pos bad, if_pos rfl]
      rw [if_neg bad, if_neg bad]
      cases found : groups buffer.length (b5 &&& 31).toNat rest with
      | none => rfl
      | some output =>
          obtain ⟨record, _, _, rfl, _⟩ := (@record_iff b0 b1 b2 b3 b4 b5 rest output _).mp
            ⟨bad, found⟩
          rw [Option.getD_some, if_neg record.annexB_nonempty]

theorem length_started (sets : List Nal) :
    (sets.flatMap Nal.started).length =
      (sets.flatMap (Nal.prefixed 2)).length + 2 * sets.length := by
  induction sets with
  | nil => rfl
  | cons nal rest inductionHypothesis =>
      simp only [List.flatMap_cons, List.length_append, Nal.length_started, Nal.length_prefixed,
        List.length_cons, inductionHypothesis]
      omega

theorem AvcRecord.length_annexB (record : AvcRecord) : record.annexB.length + 7 =
    record.encode.length + 2 * (record.sequence.length + record.picture.length) := by
  rw [record.length_encode]
  simp only [AvcRecord.annexB, List.length_append, length_started]
  omega

theorem AvcRecord.growth (record : AvcRecord) :
    record.annexB.length ≤ record.encode.length + 2048 := by
  have few : record.sequence.length ≤ 31 := by
    rw [record.counted, UInt8.toNat_and]
    exact Nat.and_le_right
  have pictures := record.few_picture
  have sizes := record.length_annexB
  omega

/-- The function succeeds exactly for inputs that begin with a record whose sets
fit the output, and puts them there in order behind start codes; no access leaves
the buffers, and 2048 bytes more than the input always fit. -/
theorem h264Config_exact (target : Target) (data buffer : Bytes) :
    (∀ used after, h264ConfigAt target data buffer = .ok (used, after) ↔
      ∃ (record : AvcRecord) (tail : Bytes), data = record.encode ++ tail ∧
        record.annexB.length ≤ buffer.length ∧ used = record.annexB.length ∧ used ≠ 0 ∧
        after = record.annexB ++ buffer.drop used) ∧
    h264ConfigAt target data buffer ≠ .error .fault ∧
    ∀ (record : AvcRecord) (tail : Bytes), data = record.encode ++ tail →
      record.annexB.length ≤ data.length + 2048 := by
  refine ⟨fun used after => ?_, ?_, ?_⟩
  · rw [h264ConfigAt_eq]
    constructor
    · intro result
      by_cases empty : h264Config data buffer.length = []
      · rw [if_pos empty] at result
        cases result
      rw [if_neg empty] at result
      cases result
      obtain ⟨record, tail, split, same, fits⟩ := (h264Config_iff empty).mp rfl
      refine ⟨record, tail, split, same ▸ fits, congrArg List.length same, ?_, ?_⟩
      · exact fun zero => empty (List.eq_nil_of_length_eq_zero zero)
      · rw [same]
    · rintro ⟨record, tail, split, fits, rfl, _, rfl⟩
      have output := (h264Config_iff record.annexB_nonempty).mpr ⟨record, tail, split, rfl, fits⟩
      rw [output, if_neg record.annexB_nonempty]
  · rw [h264ConfigAt_eq]
    split
    · intro fault
      cases fault
    · intro fault
      cases fault
  · rintro record tail rfl
    have growth := record.growth
    rw [List.length_append]
    omega

end AirTizen.Mirror

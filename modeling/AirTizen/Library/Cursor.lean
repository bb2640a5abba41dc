import Mathlib.Control.Basic
import AirTizen.Library.Buffer

/-!
# Writing and reading at a position

A writer stores cells at a position of a buffer and moves the position on; a
reader takes a value from the position on.  What a writer appends and what a
reader takes compose, whatever stands in front and behind.
-/

namespace Cursor

/-! ## Writers -/

/-- A buffer with the position of the next store; `none` outside of the buffer. -/
abbrev Writer := List UInt8 × Nat → Option (List UInt8 × Nat)

/-- The cells, one store after the other or at once. -/
def put (cells : List UInt8) : Writer := fun (buffer, position) =>
  (Buffer.store buffer position cells).map fun buffer => (buffer, position + cells.length)

def putNumber (width number : Nat) : Writer := put (Octets.ofNat width number)

/-- The data behind its length: the field is zero at first, and its two bytes are
patched when the data is written. -/
def putMeasured (data : Writer) : Writer := fun (buffer, field) => do
  let (buffer, start) ← putNumber 2 0 (buffer, field)
  let (buffer, position) ← data (buffer, start)
  let buffer ← Buffer.store buffer field [UInt8.ofNat ((position - start) / 256)]
  let buffer ← Buffer.store buffer (field + 1) [UInt8.ofNat (position - start)]
  some (buffer, position)

/-- Where there is room, the writer adds these cells. -/
def Appends (writer : Writer) (cells : List UInt8) : Prop :=
  ∀ front back : List UInt8, cells.length ≤ back.length →
    writer (front ++ back, front.length) =
      some (front ++ cells ++ back.drop cells.length, (front ++ cells).length)

theorem appends_put (cells : List UInt8) : Appends (put cells) cells := by
  intro front back room
  rw [put, Buffer.store_append front back cells room, Option.map_some, List.length_append,
    List.append_assoc]

theorem appends_putNumber (width number : Nat) :
    Appends (putNumber width number) (Octets.ofNat width number) := appends_put _

theorem Appends.andThen {first second : Writer} {before after : List UInt8}
    (firstAppends : Appends first before) (secondAppends : Appends second after) :
    Appends (first >=> second) (before ++ after) := by
  intro front back room
  rw [List.length_append] at room
  have rest : after.length ≤ (back.drop before.length).length := by
    rw [List.length_drop]
    exact Nat.le_sub_of_add_le' room
  show (first (front ++ back, front.length)).bind second = _
  rw [firstAppends front back (Nat.le_of_add_right_le room), Option.bind_some,
    secondAppends (front ++ before) _ rest, List.drop_drop, ← List.length_append,
    List.append_assoc front]

/-- The length in front of the data is the right one. -/
theorem appends_putMeasured {data : Writer} {cells : List UInt8} (appends : Appends data cells) :
    Appends (putMeasured data) (Octets.ofNat 2 cells.length ++ cells) := by
  intro front back room
  rw [List.length_append, Octets.length_ofNat] at room
  have field : ∀ number, Octets.ofNat 2 number =
      [UInt8.ofNat (number / 256), UInt8.ofNat number] := by
    intro number
    simp [Octets.ofNat]
  have zero := appends_putNumber 2 0 front back (by
    rw [Octets.length_ofNat]
    exact Nat.le_of_add_right_le room)
  rw [Octets.length_ofNat] at zero
  have written := appends (front ++ Octets.ofNat 2 0) (back.drop 2) (by
    rw [List.length_drop]
    exact Nat.le_sub_of_add_le' room)
  have size : (front ++ Octets.ofNat 2 0 ++ cells).length - (front ++ Octets.ofNat 2 0).length =
      cells.length := by
    rw [@List.length_append _ _ cells, Nat.add_sub_cancel_left]
  simp only [putMeasured, zero, Option.bind_eq_bind, Option.bind_some]
  rw [written, Option.bind_some]
  simp only [size]
  simp only [field]
  have high := Buffer.store_append front
    ([UInt8.ofNat (0 / 256), UInt8.ofNat 0] ++ cells ++ (back.drop 2).drop cells.length)
    [UInt8.ofNat (cells.length / 256)] (by simp)
  have low := Buffer.store_append (front ++ [UInt8.ofNat (cells.length / 256)])
    ([UInt8.ofNat 0] ++ cells ++ (back.drop 2).drop cells.length)
    [UInt8.ofNat cells.length] (by simp)
  simp only [List.append_assoc] at high low ⊢
  rw [high, Option.bind_some]
  rw [List.length_append, List.length_singleton] at low
  simp only [List.cons_append, List.nil_append, List.length_cons, List.length_nil,
    List.drop_succ_cons, List.drop_zero] at low ⊢
  rw [low]
  simp [Nat.add_comm, Nat.add_left_comm]

/-! ## Readers -/

universe u

def Reader (Value : Type u) := List UInt8 → Nat → Option (Value × Nat)

namespace Reader

variable {Value Other : Type u}

instance : Monad Reader where
  pure value := fun _ position => some (value, position)
  bind reader next := fun message position =>
    (reader message position).bind fun (value, behind) => next value message behind

def refuse : Reader Value := fun _ _ => none

def take (count : Nat) : Reader (List UInt8) := fun message position =>
  (Buffer.loadMany message position count).map fun cells => (cells, position + count)

def number (width : Nat) : Reader Nat := do
  let digits ← take width
  pure (Octets.toNat digits)

def peek (target : Nat) (reader : Reader Value) : Reader Value := fun message position =>
  (reader message target).map fun (value, _) => (value, position)

def repeated (reader : Reader Value) : Nat → Reader (List Value)
  | 0 => pure []
  | count + 1 => do
      let first ← reader
      let later ← repeated reader count
      pure (first :: later)

def toEnd (reader : Reader Value) : Nat → Reader (List Value)
  | 0 => fun message position => if message.length ≤ position then some ([], position) else none
  | most + 1 => fun message position =>
      if message.length ≤ position then some ([], position)
      else
        (do
          let first ← reader
          let later ← toEnd reader most
          pure (first :: later) : Reader (List Value)) message position

/-- The next `size` bytes with what a reader makes of them: for it the message ends
behind them, and it takes all of them. -/
def within (size : Nat) (reader : Reader Value) : Reader (List UInt8 × Value) :=
  fun message position =>
    (Buffer.loadMany message position size).bind fun cells =>
      (reader (message.take (position + size)) position).bind fun (value, behind) =>
        if behind = position + size then some ((cells, value), behind) else none

end Reader

/-- The reader takes these cells for the value, whatever follows. -/
def Reads {Value : Type u} (reader : Reader Value) (cells : List UInt8) (value : Value) : Prop :=
  ∀ front back : List UInt8, reader (front ++ (cells ++ back)) front.length =
    some (value, (front ++ cells).length)

/-- The reader takes these cells for the value at the end of a message. -/
def ReadsLast {Value : Type u} (reader : Reader Value) (cells : List UInt8) (value : Value) :
    Prop :=
  ∀ front : List UInt8, reader (front ++ cells) front.length =
    some (value, (front ++ cells).length)

variable {Value Other : Type u}

theorem Reads.last {reader : Reader Value} {cells : List UInt8} {value : Value}
    (reads : Reads reader cells value) : ReadsLast reader cells value := by
  intro front
  have whole := reads front []
  rwa [List.append_nil] at whole

theorem reads_pure (value : Value) : Reads (pure value) [] value := by
  intro front back
  rw [List.append_nil]
  rfl

theorem Reads.bind {reader : Reader Value} {next : Value → Reader Other}
    {before after : List UInt8} {value : Value} {result : Other}
    (first : Reads reader before value) (second : Reads (next value) after result) :
    Reads (reader >>= next) (before ++ after) result := by
  intro front back
  show (reader _ _).bind _ = _
  rw [List.append_assoc, first front (after ++ back), Option.bind_some]
  have rest := second (front ++ before) back
  rwa [List.append_assoc, List.append_assoc] at rest

theorem Reads.bindLast {reader : Reader Value} {next : Value → Reader Other}
    {before after : List UInt8} {value : Value} {result : Other}
    (first : Reads reader before value) (second : ReadsLast (next value) after result) :
    ReadsLast (reader >>= next) (before ++ after) result := by
  intro front
  show (reader _ _).bind _ = _
  rw [first front after, Option.bind_some]
  have rest := second (front ++ before)
  rwa [List.append_assoc] at rest

theorem Reads.andThen {reader : Reader Value} {next : Value → Reader Other}
    {cells : List UInt8} {value : Value} {result : Other}
    (first : Reads reader cells value) (second : Reads (next value) [] result) :
    Reads (reader >>= next) cells result := by
  have both := first.bind second
  rwa [List.append_nil] at both

theorem Reads.value {reader : Reader Value} {cells : List UInt8} {value : Value}
    (reads : Reads reader cells value) (make : Value → Other) :
    Reads (do
      let value ← reader
      pure (make value)) cells (make value) :=
  reads.andThen (reads_pure (make value))

theorem ReadsLast.value {reader : Reader Value} {cells : List UInt8} {value : Value}
    (reads : ReadsLast reader cells value) (make : Value → Other) :
    ReadsLast (do
      let value ← reader
      pure (make value)) cells (make value) := by
  intro front
  show (reader _ _).bind _ = _
  rw [reads front]
  rfl

theorem reads_take (cells : List UInt8) : Reads (Reader.take cells.length) cells cells := by
  intro front back
  have inside : cells.length ≤ (cells ++ back).length := by
    rw [List.length_append]
    exact Nat.le_add_right _ _
  rw [Reader.take, Buffer.loadMany_append front _ inside, List.take_left, Option.map_some,
    List.length_append]

theorem reads_number {width number : Nat} (small : number < 256 ^ width) :
    Reads (Reader.number width) (Octets.ofNat width number) number := by
  have digits := reads_take (Octets.ofNat width number)
  rw [Octets.length_ofNat] at digits
  have value := digits.value Octets.toNat
  rwa [Octets.toNat_ofNat, Nat.mod_eq_of_lt small] at value

theorem reads_repeated {reader : Reader Value} {encode : Value → List UInt8}
    {values : List Value} (each : ∀ value ∈ values, Reads reader (encode value) value) :
    Reads (reader.repeated values.length) (values.flatMap encode) values := by
  induction values with
  | nil => exact reads_pure []
  | cons value rest inductionHypothesis =>
      have first := each value List.mem_cons_self
      have later := inductionHypothesis fun other mem => each other (List.mem_cons_of_mem _ mem)
      exact first.bind (later.value (value :: ·))

theorem readsLast_toEnd {reader : Reader Value} {encode : Value → List UInt8}
    {values : List Value} {most : Nat} (enough : values.length ≤ most)
    (each : ∀ value ∈ values, encode value ≠ [] ∧ Reads reader (encode value) value) :
    ReadsLast (reader.toEnd most) (values.flatMap encode) values := by
  induction values generalizing most with
  | nil =>
      intro front
      rw [List.flatMap_nil, List.append_nil]
      cases most with
      | zero => exact if_pos (Nat.le_refl _)
      | succ most => exact if_pos (Nat.le_refl _)
  | cons value rest inductionHypothesis =>
      obtain ⟨nonempty, first⟩ := each value List.mem_cons_self
      cases most with
      | zero => exact absurd enough (Nat.not_succ_le_zero _)
      | succ most =>
          have later := inductionHypothesis (Nat.le_of_succ_le_succ enough)
            fun other mem => each other (List.mem_cons_of_mem _ mem)
          intro front
          have inside : ¬ (front ++ (value :: rest).flatMap encode).length ≤ front.length := by
            have positive := List.length_pos_of_ne_nil nonempty
            rw [List.length_append, List.flatMap_cons, List.length_append]
            omega
          show (if _ then _ else _) = _
          rw [if_neg inside]
          exact first.bindLast (later.value (value :: ·)) front

theorem reads_within {reader : Reader Value} {cells : List UInt8} {value : Value}
    (reads : ReadsLast reader cells value) :
    Reads (reader.within cells.length) cells (cells, value) := by
  intro front back
  have inside : cells.length ≤ (cells ++ back).length := by
    rw [List.length_append]
    exact Nat.le_add_right _ _
  have prefix_ : (front ++ (cells ++ back)).take (front.length + cells.length) =
      front ++ cells := by
    rw [← List.length_append, ← List.append_assoc, List.take_left]
  rw [Reader.within, Buffer.loadMany_append front _ inside, prefix_, reads front, List.take_left,
    Option.bind_some, Option.bind_some]
  exact if_pos List.length_append

/-- The reader refuses a message that goes on with these cells. -/
def Refuses {Value : Type u} (reader : Reader Value) (cells : List UInt8) : Prop :=
  ∀ front back : List UInt8, reader (front ++ (cells ++ back)) front.length = none

theorem Refuses.append {reader : Reader Value} {cells : List UInt8}
    (refuses : Refuses reader cells) (more : List UInt8) : Refuses reader (cells ++ more) := by
  intro front back
  rw [List.append_assoc]
  exact refuses front (more ++ back)

theorem Refuses.bind {reader : Reader Value} {cells : List UInt8}
    (refuses : Refuses reader cells) (next : Value → Reader Other) :
    Refuses (reader >>= next) cells := by
  intro front back
  show (reader _ _).bind _ = _
  rw [refuses front back, Option.bind_none]

theorem Reads.refuses {reader : Reader Value} {next : Value → Reader Other}
    {before after : List UInt8} {value : Value} (first : Reads reader before value)
    (second : Refuses (next value) after) : Refuses (reader >>= next) (before ++ after) := by
  intro front back
  show (reader _ _).bind _ = _
  rw [List.append_assoc, first front (after ++ back), Option.bind_some]
  have rest := second (front ++ before) back
  rwa [List.append_assoc] at rest

theorem refuses_repeated {reader : Reader Value} {encode : Value → List UInt8}
    {values : List Value} {cells : List UInt8}
    (each : ∀ value ∈ values, Reads reader (encode value) value) (refuses : Refuses reader cells)
    (more : Nat) :
    Refuses (reader.repeated (values.length + (more + 1))) (values.flatMap encode ++ cells) := by
  induction values with
  | nil =>
      rw [List.length_nil, Nat.zero_add, List.flatMap_nil, List.nil_append]
      exact refuses.bind _
  | cons value rest inductionHypothesis =>
      have first := each value List.mem_cons_self
      have later := inductionHypothesis fun other mem => each other (List.mem_cons_of_mem _ mem)
      rw [List.length_cons, Nat.succ_add, List.flatMap_cons, List.append_assoc]
      exact first.refuses (later.bind _)

theorem refuses_within {reader : Reader Value} {cells rest : List UInt8} {value : Value}
    (reads : Reads reader cells value) (more : rest ≠ []) :
    Refuses (reader.within (cells ++ rest).length) (cells ++ rest) := by
  intro front back
  have inside : (cells ++ rest).length ≤ (cells ++ rest ++ back).length :=
    (List.prefix_append (cells ++ rest) back).length_le
  have prefix_ : (front ++ (cells ++ rest ++ back)).take (front.length + (cells ++ rest).length) =
      front ++ (cells ++ rest) := by
    rw [← List.length_append, ← List.append_assoc front (cells ++ rest) back, List.take_left]
  have left : (front ++ cells).length ≠ front.length + (cells ++ rest).length := by
    have positive := List.length_pos_of_ne_nil more
    rw [List.length_append, List.length_append]
    omega
  rw [Reader.within, Buffer.loadMany_append front _ inside, prefix_, reads front rest,
    Option.bind_some, Option.bind_some]
  exact if_neg left

end Cursor

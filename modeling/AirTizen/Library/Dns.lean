import AirTizen.Library.Cursor

/-!
# DNS messages

The wire format of domain names, resource records and messages as RFC 1035 and
RFC 2782 lay it down: what a decoder reads, compressed names included, and the
encoding without compression that it reads back.
-/

namespace Dns

open Cursor

abbrev Name := List (List UInt8)

inductive Data where
  | address (octets : List UInt8)
  | pointer (target : Name)
  | text (strings : List (List UInt8))
  | service (priority weight port : Nat) (target : Name)
  | other (octets : List UInt8)
  deriving DecidableEq

structure Question where
  name : Name
  type : Nat
  class_ : Nat
  deriving DecidableEq

structure Record where
  owner : Name
  type : Nat
  class_ : Nat
  ttl : Nat
  /-- The data as it stands in the message, as many bytes as `RDLENGTH` tells. -/
  rdata : List UInt8
  data : Data
  deriving DecidableEq

structure Message where
  id : Nat
  flags : Nat
  questions : List Question
  answers : List Record
  authority : List Record
  additional : List Record
  deriving DecidableEq

def Data.target : Data → Name
  | .pointer target | .service _ _ _ target => target
  | .address _ | .text _ | .other _ => []

/-! ## Decoding -/

/-- Labels up to the root.  A length with its two high bits set is half of a
pointer to where the name goes on. -/
def readLabels : Nat → Reader Name
  | 0 => Reader.refuse
  | steps + 1 => do
      let size ← Reader.number 1
      if size = 0 then pure []
      else if size < 64 then do
        let label ← Reader.take size
        let rest ← readLabels steps
        pure (label :: rest)
      else if size < 192 then Reader.refuse
      else do
        let low ← Reader.number 1
        Reader.peek ((size - 192) * 256 + low) (readLabels steps)

/-- How many bytes the name takes on the wire. -/
def Name.size (name : Name) : Nat := (name.map fun label => label.length + 1).sum + 1

def readName : Reader Name := do
  let name ← readLabels 128
  if 255 < name.size then Reader.refuse else pure name

def readString : Reader (List UInt8) := do
  let size ← Reader.number 1
  Reader.take size

def readData (type size : Nat) : Reader Data :=
  match type with
  | 1 => do
      let octets ← Reader.take 4
      pure (.address octets)
  | 12 => do
      let target ← readName
      pure (.pointer target)
  | 16 => do
      let strings ← readString.toEnd size
      pure (.text strings)
  | 33 => do
      let priority ← Reader.number 2
      let weight ← Reader.number 2
      let port ← Reader.number 2
      let target ← readName
      pure (.service priority weight port target)
  | _ => do
      let octets ← Reader.take size
      pure (.other octets)

def readQuestion : Reader Question := do
  let name ← readName
  let type ← Reader.number 2
  let class_ ← Reader.number 2
  pure ⟨name, type, class_⟩

def readRecord : Reader Record := do
  let owner ← readName
  let type ← Reader.number 2
  let class_ ← Reader.number 2
  let ttl ← Reader.number 4
  let size ← Reader.number 2
  let body ← (readData type size).within size
  pure ⟨owner, type, class_, ttl, body.1, body.2⟩

def readMessage : Reader Message := do
  let id ← Reader.number 2
  let flags ← Reader.number 2
  let questionCount ← Reader.number 2
  let answerCount ← Reader.number 2
  let authorityCount ← Reader.number 2
  let additionalCount ← Reader.number 2
  let questions ← readQuestion.repeated questionCount
  let answers ← readRecord.repeated answerCount
  let authority ← readRecord.repeated authorityCount
  let additional ← readRecord.repeated additionalCount
  pure ⟨id, flags, questions, answers, authority, additional⟩

/-- The message that these bytes are, from the first to the last. -/
def decode (bytes : List UInt8) : Option Message :=
  (readMessage.within bytes.length bytes 0).map fun ((_, message), _) => message

/-! ## Encoding -/

def labelWire (label : List UInt8) : List UInt8 := UInt8.ofNat label.length :: label

def nameWire (name : Name) : List UInt8 := name.flatMap labelWire ++ [0]

def dataWire : Data → List UInt8
  | .address octets | .other octets => octets
  | .pointer target => nameWire target
  | .text strings => strings.flatMap labelWire
  | .service priority weight port target =>
      Octets.ofNat 2 priority ++ Octets.ofNat 2 weight ++ Octets.ofNat 2 port ++ nameWire target

def recordWire (record : Record) : List UInt8 :=
  nameWire record.owner ++ Octets.ofNat 2 record.type ++ Octets.ofNat 2 record.class_ ++
    Octets.ofNat 4 record.ttl ++ Octets.ofNat 2 record.rdata.length ++ record.rdata

/-- A response: answers only. -/
def responseWire (flags : Nat) (answers : List Record) : List UInt8 :=
  Octets.ofNat 2 0 ++ Octets.ofNat 2 flags ++ Octets.ofNat 2 0 ++
    Octets.ofNat 2 answers.length ++ Octets.ofNat 2 0 ++ Octets.ofNat 2 0 ++
    answers.flatMap recordWire

/-! ## Reading back -/

/-- Labels of 1 to 63 bytes, 255 bytes in all. -/
structure Name.Valid (name : Name) : Prop where
  labels : ∀ label ∈ name, label ≠ [] ∧ label.length ≤ 63
  size : name.size ≤ 255

theorem nameWire_length (name : Name) : (nameWire name).length = name.size := by
  simp [nameWire, Name.size, labelWire, List.length_flatMap]

theorem labelWire_eq (label : List UInt8) :
    labelWire label = Octets.ofNat 1 label.length ++ label := by
  simp [labelWire, Octets.ofNat]

theorem nameWire_cons (label : List UInt8) (rest : Name) :
    nameWire (label :: rest) = Octets.ofNat 1 label.length ++ (label ++ nameWire rest) := by
  rw [nameWire, List.flatMap_cons, labelWire_eq, List.append_assoc, List.append_assoc]
  rfl

theorem readLabels_wire {name : Name} {steps : Nat} (enough : name.length < steps)
    (labels : ∀ label ∈ name, label ≠ [] ∧ label.length ≤ 63) :
    Reads (readLabels steps) (nameWire name) name := by
  induction name generalizing steps with
  | nil =>
      cases steps with
      | zero => exact absurd enough (Nat.not_lt_zero _)
      | succ steps =>
          have root : Reads (Reader.number 1) (Octets.ofNat 1 0) 0 := reads_number (by decide)
          exact root.bind (reads_pure [])
  | cons label rest inductionHypothesis =>
      cases steps with
      | zero => exact absurd enough (Nat.not_lt_zero _)
      | succ steps =>
          obtain ⟨nonempty, short⟩ := labels label List.mem_cons_self
          have size : Reads (Reader.number 1) (Octets.ofNat 1 label.length) label.length :=
            reads_number (Nat.lt_of_le_of_lt short (by decide))
          have later := inductionHypothesis (Nat.lt_of_succ_lt_succ enough)
            fun other membership => labels other (List.mem_cons_of_mem _ membership)
          rw [nameWire_cons]
          refine size.bind ?_
          rw [if_neg fun empty => nonempty (List.length_eq_zero_iff.mp empty),
            if_pos (Nat.lt_succ_of_le short)]
          exact (reads_take label).bind (later.value (label :: ·))

/-- Labels are not empty, so a name of 255 octets has less than 128 of them. -/
theorem Name.Valid.length_lt {name : Name} (valid : name.Valid) : name.length < 128 := by
  have each : ∀ labels : Name, (∀ label ∈ labels, label ≠ [] ∧ label.length ≤ 63) →
      2 * labels.length ≤ (labels.map fun label => label.length + 1).sum := by
    intro labels short
    induction labels with
    | nil => exact Nat.le_refl _
    | cons label rest inductionHypothesis =>
        have later := inductionHypothesis fun other membership =>
          short other (List.mem_cons_of_mem _ membership)
        have positive := List.length_pos_of_ne_nil (short label List.mem_cons_self).1
        rw [List.length_cons, List.map_cons, List.sum_cons]
        omega
  have total := each name valid.labels
  have size := valid.size
  unfold Name.size at size
  omega

theorem readName_wire {name : Name} (valid : name.Valid) :
    Reads readName (nameWire name) name := by
  refine (readLabels_wire valid.length_lt valid.labels).andThen ?_
  rw [if_neg (Nat.not_lt.mpr valid.size)]
  exact reads_pure name

theorem readString_wire {string : List UInt8} (short : string.length ≤ 255) :
    Reads readString (labelWire string) string := by
  have size : Reads (Reader.number 1) (Octets.ofNat 1 string.length) string.length :=
    reads_number (Nat.lt_of_le_of_lt short (by decide))
  rw [labelWire_eq]
  exact size.bind (reads_take string)

/-! ## Records -/

/-- The data fits its type and its fields. -/
def Data.Valid (type : Nat) : Data → Prop
  | .address octets => type = 1 ∧ octets.length = 4
  | .pointer target => type = 12 ∧ target.Valid
  | .text strings => type = 16 ∧ ∀ string ∈ strings, string.length ≤ 255
  | .service priority weight port target =>
      type = 33 ∧ priority < 2 ^ 16 ∧ weight < 2 ^ 16 ∧ port < 2 ^ 16 ∧ target.Valid
  | .other _ => type ≠ 1 ∧ type ≠ 12 ∧ type ≠ 16 ∧ type ≠ 33

structure Record.Valid (record : Record) : Prop where
  owner : record.owner.Valid
  type : record.type < 2 ^ 16
  class_ : record.class_ < 2 ^ 16
  ttl : record.ttl < 2 ^ 32
  rdata : record.rdata = dataWire record.data
  size : record.rdata.length < 2 ^ 16
  data : record.data.Valid record.type

theorem length_le_text (strings : List (List UInt8)) :
    strings.length ≤ (strings.flatMap labelWire).length := by
  induction strings with
  | nil => exact Nat.le_refl _
  | cons string rest inductionHypothesis =>
      rw [List.flatMap_cons, List.length_append, List.length_cons, labelWire, List.length_cons]
      omega

theorem readData_wire {type : Nat} {data : Data} (valid : data.Valid type) :
    ReadsLast (readData type (dataWire data).length) (dataWire data) data := by
  cases data with
  | address octets =>
      obtain ⟨rfl, size⟩ := valid
      have read := reads_take octets
      rw [size] at read
      exact (read.value Data.address).last
  | pointer target =>
      obtain ⟨rfl, name⟩ := valid
      exact ((readName_wire name).value Data.pointer).last
  | text strings =>
      obtain ⟨rfl, short⟩ := valid
      have each : ∀ string ∈ strings,
          labelWire string ≠ [] ∧ Reads readString (labelWire string) string :=
        fun string membership =>
          ⟨List.cons_ne_nil _ _, readString_wire (short string membership)⟩
      exact (readsLast_toEnd (length_le_text strings) each).value Data.text
  | service priority weight port target =>
      obtain ⟨rfl, first, second, third, name⟩ := valid
      have fields : ∀ size, Reads (readData 33 size)
          (Octets.ofNat 2 priority ++ (Octets.ofNat 2 weight ++
            (Octets.ofNat 2 port ++ nameWire target)))
          (.service priority weight port target) := by
        intro size
        refine (reads_number first).bind ?_
        refine (reads_number second).bind ?_
        refine (reads_number third).bind ?_
        exact (readName_wire name).value (Data.service _ _ _)
      rw [dataWire, List.append_assoc, List.append_assoc]
      exact (fields _).last
  | other octets =>
      obtain ⟨address, pointer, text, service⟩ := valid
      have unknown : readData type octets.length = (do
          let octets ← Reader.take octets.length
          pure (.other octets)) := by
        unfold readData
        split <;> first | contradiction | rfl
      show ReadsLast (readData type octets.length) octets _
      rw [unknown]
      exact ((reads_take octets).value Data.other).last

theorem readRecord_wire {record : Record} (valid : record.Valid) :
    Reads readRecord (recordWire record) record := by
  have data := readData_wire valid.data
  rw [← valid.rdata] at data
  rw [recordWire, List.append_assoc, List.append_assoc, List.append_assoc, List.append_assoc]
  refine (readName_wire valid.owner).bind ?_
  refine (reads_number valid.type).bind ?_
  refine (reads_number valid.class_).bind ?_
  refine (reads_number valid.ttl).bind ?_
  refine (reads_number valid.size).bind ?_
  exact (reads_within data).value fun body => Record.mk _ _ _ _ body.1 body.2

theorem Record.Valid.labels {record : Record} (valid : record.Valid) :
    ∀ label ∈ record.owner ++ record.data.target, label.length ≤ 63 := by
  intro label membership
  rcases List.mem_append.mp membership with inOwner | inTarget
  · exact (valid.owner.labels label inOwner).2
  · have data := valid.data
    cases kind : record.data with
    | pointer target =>
        rw [kind] at data inTarget
        exact (data.2.labels label inTarget).2
    | service priority weight port target =>
        rw [kind] at data inTarget
        exact (data.2.2.2.2.labels label inTarget).2
    | address octets | text strings | other octets =>
        rw [kind] at inTarget
        cases inTarget

/-- A response is decoded from its first byte to its last one. -/
theorem decode_responseWire {flags : Nat} {answers : List Record} (small : flags < 2 ^ 16)
    (count : answers.length < 2 ^ 16) (valid : ∀ record ∈ answers, record.Valid) :
    decode (responseWire flags answers) =
      some { id := 0, flags := flags, questions := [], answers := answers, authority := [],
             additional := [] } := by
  have zero : Reads (Reader.number 2) (Octets.ofNat 2 0) 0 := reads_number (by decide)
  have records := reads_repeated fun record membership => readRecord_wire (valid record membership)
  have message : Reads readMessage (responseWire flags answers)
      { id := 0, flags := flags, questions := [], answers := answers, authority := [],
        additional := [] } := by
    rw [responseWire, List.append_assoc, List.append_assoc, List.append_assoc, List.append_assoc,
      List.append_assoc]
    refine zero.bind ?_
    refine (reads_number small).bind ?_
    refine zero.bind ?_
    refine (reads_number count).bind ?_
    refine zero.bind ?_
    refine zero.bind ?_
    refine (reads_pure []).bind ?_
    refine records.andThen ?_
    refine (reads_pure []).andThen ?_
    exact (reads_pure []).value fun additional => Message.mk 0 flags [] answers [] additional
  have whole := reads_within message.last [] []
  rw [List.nil_append, List.append_nil] at whole
  rw [decode, ← List.length_nil (α := UInt8), whole]
  rfl

/-! ## Empty labels -/

/-- An empty label is a root: the name ends there for a reader. -/
theorem nameWire_empty (before after : Name) :
    nameWire (before ++ [] :: after) = nameWire before ++ nameWire after := by
  have root : labelWire [] = [0] := rfl
  simp only [nameWire, List.flatMap_append, List.flatMap_cons, root, List.append_assoc]

theorem exists_nameWire {name : Name} (empty : [] ∈ name)
    (short : ∀ label ∈ name, label.length ≤ 63) (size : name.size ≤ 255) :
    ∃ before rest, before.Valid ∧ rest ≠ [] ∧ nameWire name = nameWire before ++ rest := by
  obtain ⟨before, after, rfl, first⟩ := List.eq_append_cons_of_mem empty
  refine ⟨before, nameWire after, ⟨fun label membership => ⟨?_, ?_⟩, ?_⟩, ?_, nameWire_empty _ _⟩
  · rintro rfl
    exact first membership
  · exact short label (List.mem_append_left _ membership)
  · have whole := nameWire_length (before ++ [] :: after)
    rw [nameWire_empty, List.length_append, nameWire_length] at whole
    omega
  · exact List.append_ne_nil_of_right_ne_nil _ (List.cons_ne_nil _ _)

theorem refuses_record {record : Record} (owner : record.owner.Valid)
    (fields : record.type < 2 ^ 16 ∧ record.class_ < 2 ^ 16 ∧ record.ttl < 2 ^ 32)
    (small : record.rdata.length < 2 ^ 16) {front rest : List UInt8} {data : Data}
    (rdata : record.rdata = front ++ rest) (more : rest ≠ [])
    (reads : Reads (readData record.type record.rdata.length) front data) :
    Refuses readRecord (recordWire record) := by
  have body := refuses_within reads more
  rw [← rdata] at body
  rw [recordWire, List.append_assoc, List.append_assoc, List.append_assoc, List.append_assoc]
  refine (readName_wire owner).refuses ?_
  refine (reads_number fields.1).refuses ?_
  refine (reads_number fields.2.1).refuses ?_
  refine (reads_number fields.2.2).refuses ?_
  refine (reads_number small).refuses ?_
  exact body.bind _

/-- A response with a record that cannot be read is no message. -/
theorem decode_refused {flags : Nat} {before after : List Record} {record : Record}
    (small : flags < 2 ^ 16) (count : (before ++ record :: after).length < 2 ^ 16)
    (valid : ∀ record ∈ before, record.Valid)
    (refused : Refuses readRecord (recordWire record)) :
    decode (responseWire flags (before ++ record :: after)) = none := by
  have zero : Reads (Reader.number 2) (Octets.ofNat 2 0) 0 := reads_number (by decide)
  have records := refuses_repeated (fun record membership => readRecord_wire (valid record membership))
    refused after.length
  have wires : (before ++ record :: after).flatMap recordWire =
      (before.flatMap recordWire ++ recordWire record) ++ after.flatMap recordWire := by
    rw [List.flatMap_append, List.flatMap_cons, List.append_assoc]
  have message : Refuses readMessage (responseWire flags (before ++ record :: after)) := by
    rw [responseWire, wires, List.append_assoc, List.append_assoc, List.append_assoc, List.append_assoc,
      List.append_assoc]
    refine zero.refuses ?_
    refine (reads_number small).refuses ?_
    refine zero.refuses ?_
    refine (reads_number count).refuses ?_
    refine zero.refuses ?_
    refine zero.refuses ?_
    refine (reads_pure []).refuses ?_
    rw [List.length_append, List.length_cons]
    exact (records.append _).bind _
  have whole := message [] []
  rw [List.append_nil, List.nil_append, List.length_nil] at whole
  rw [decode, Reader.within, Nat.zero_add, List.take_length, whole]
  cases Buffer.loadMany (responseWire flags (before ++ record :: after)) 0
    (responseWire flags (before ++ record :: after)).length <;> rfl

/-! ## Compressed names -/

/-- The name from a position on: its labels, how many pointers are followed, and the
position behind its first pointer or its root. -/
inductive Spells (message : List UInt8) : Nat → Name → Nat → Nat → Prop
  | root {position : Nat} (zero : message[position]? = some 0) :
      Spells message position [] 0 (position + 1)
  | label {position jumps behind : Nat} {label : List UInt8} {rest : Name}
      (nonempty : label ≠ []) (short : label.length ≤ 63)
      (size : message[position]? = some (UInt8.ofNat label.length))
      (text : Buffer.loadMany message (position + 1) label.length = some label)
      (later : Spells message (position + 1 + label.length) rest jumps behind) :
      Spells message position (label :: rest) jumps behind
  | pointer {position jumps behind : Nat} {high low : UInt8} {name : Name}
      (mark : 192 ≤ high.toNat) (first : message[position]? = some high)
      (second : message[position + 1]? = some low)
      (later : Spells message ((high.toNat - 192) * 256 + low.toNat) name jumps behind) :
      Spells message position name (jumps + 1) (position + 2)

section Spells

variable {message : List UInt8} {position jumps behind : Nat} {name : Name}

/-- The first byte decides how a name goes on. -/
theorem spells_iff : Spells message position name jumps behind ↔
    ∃ byte, message[position]? = some byte ∧
      ((byte = 0 ∧ name = [] ∧ jumps = 0 ∧ behind = position + 1) ∨
        (byte ≠ 0 ∧ byte.toNat ≤ 63 ∧ ∃ label rest, name = label :: rest ∧
          Buffer.loadMany message (position + 1) byte.toNat = some label ∧
          Spells message (position + 1 + byte.toNat) rest jumps behind) ∨
        (192 ≤ byte.toNat ∧ behind = position + 2 ∧ ∃ low before after,
          message[position + 1]? = some low ∧ jumps = before + 1 ∧
          Spells message ((byte.toNat - 192) * 256 + low.toNat) name before after)) := by
  constructor
  · intro spells
    cases spells with
    | root zero => exact ⟨0, zero, .inl ⟨rfl, rfl, rfl, rfl⟩⟩
    | @label _ _ _ label rest nonempty short size text later =>
        have number : (UInt8.ofNat label.length).toNat = label.length := by
          rw [UInt8.toNat_ofNat']
          omega
        refine ⟨_, size, .inr (.inl ⟨?_, ?_, label, rest, rfl, ?_, ?_⟩)⟩
        · rw [ne_eq, ← UInt8.toNat_inj, number]
          exact fun zero => nonempty (List.eq_nil_of_length_eq_zero zero)
        · rwa [number]
        · rwa [number]
        · rwa [number]
    | pointer mark first second later =>
        exact ⟨_, first, .inr (.inr ⟨mark, rfl, _, _, _, second, rfl, later⟩)⟩
  · rintro ⟨byte, first, ⟨rfl, rfl, rfl, rfl⟩ | ⟨positive, short, label, rest, rfl, text, later⟩ |
      ⟨mark, rfl, low, before, after, second, rfl, later⟩⟩
    · exact .root first
    · have size : label.length = byte.toNat := Buffer.loadMany_length text
      rw [← size] at text later short
      have number : UInt8.ofNat label.length = byte := by rw [size, UInt8.ofNat_toNat]
      refine .label ?_ short (number ▸ first) text later
      rintro rfl
      exact positive (UInt8.toNat_inj.mp size.symm)
    · exact .pointer mark first second later

theorem Spells.short (spells : Spells message position name jumps behind) :
    ∀ label ∈ name, label ≠ [] ∧ label.length ≤ 63 := by
  induction spells with
  | root zero => exact fun label none => by cases none
  | label nonempty short _ _ _ inductionHypothesis =>
      exact List.forall_mem_cons.mpr ⟨⟨nonempty, short⟩, inductionHypothesis⟩
  | pointer _ _ _ _ inductionHypothesis => exact inductionHypothesis

/-- A position spells one name. -/
theorem Spells.unique (spells : Spells message position name jumps behind) {other : Name}
    {otherJumps otherBehind : Nat}
    (also : Spells message position other otherJumps otherBehind) :
    other = name ∧ otherJumps = jumps ∧ otherBehind = behind := by
  induction spells generalizing other otherJumps otherBehind with
  | root zero =>
      obtain ⟨byte, first, ⟨_, rfl, rfl, rfl⟩ | ⟨positive, _⟩ | ⟨mark, _⟩⟩ := spells_iff.mp also
      · exact ⟨rfl, rfl, rfl⟩
      · exact absurd (Option.some.inj (first.symm.trans zero)) positive
      · rw [Option.some.inj (first.symm.trans zero)] at mark
        exact absurd mark (by decide)
  | @label position _ _ label rest nonempty short size text later inductionHypothesis =>
      have number : (UInt8.ofNat label.length).toNat = label.length := by
        rw [UInt8.toNat_ofNat']
        omega
      obtain ⟨byte, first, cases⟩ := spells_iff.mp also
      obtain rfl := Option.some.inj (first.symm.trans size)
      rw [number] at cases
      obtain ⟨zero, _⟩ | ⟨_, _, same, behind, rfl, again, after⟩ | ⟨mark, _⟩ := cases
      · rw [← UInt8.toNat_inj, number] at zero
        exact absurd (List.eq_nil_of_length_eq_zero zero) nonempty
      · obtain rfl := Option.some.inj (again.symm.trans text)
        obtain ⟨rfl, rfl, rfl⟩ := inductionHypothesis after
        exact ⟨rfl, rfl, rfl⟩
      · omega
  | @pointer position jumps behind high low name mark first second later inductionHypothesis =>
      obtain ⟨byte, again, cases⟩ := spells_iff.mp also
      obtain rfl := Option.some.inj (again.symm.trans first)
      obtain ⟨rfl, _⟩ | ⟨_, small, _⟩ | ⟨_, rfl, other, before, after, next, rfl, rest⟩ := cases
      · exact absurd mark (by decide)
      · omega
      · obtain rfl := Option.some.inj (next.symm.trans second)
        obtain ⟨rfl, rfl, _⟩ := inductionHypothesis rest
        exact ⟨rfl, rfl, rfl⟩

/-- The wire form of a name spells it, whatever stands in front and behind. -/
theorem spells_wire {name : Name} (labels : ∀ label ∈ name, label ≠ [] ∧ label.length ≤ 63)
    (front back : List UInt8) :
    Spells (front ++ (nameWire name ++ back)) front.length name 0
      (front ++ nameWire name).length := by
  induction name generalizing front with
  | nil =>
      have zero : (front ++ (nameWire [] ++ back))[front.length]? = some 0 := by
        rw [List.getElem?_append_right (Nat.le_refl _), Nat.sub_self]
        rfl
      rw [List.length_append]
      exact .root zero
  | cons label rest inductionHypothesis =>
      obtain ⟨nonempty, short⟩ := labels label List.mem_cons_self
      have split : front ++ (nameWire (label :: rest) ++ back) =
          (front ++ labelWire label) ++ (nameWire rest ++ back) := by
        simp only [nameWire, List.flatMap_cons, List.append_assoc]
      have length : (front ++ labelWire label).length = front.length + 1 + label.length := by
        rw [List.length_append, labelWire, List.length_cons]
        omega
      have later := inductionHypothesis
        (fun other membership => labels other (List.mem_cons_of_mem _ membership))
        (front ++ labelWire label)
      have whole : front ++ nameWire (label :: rest) = front ++ labelWire label ++ nameWire rest := by
        simp only [nameWire, List.flatMap_cons, List.append_assoc]
      rw [← split, length] at later
      rw [whole]
      refine .label nonempty short ?_ ?_ later
      · rw [List.getElem?_append_right (Nat.le_refl _), Nat.sub_self]
        simp [nameWire, labelWire]
      · have behindSize : front ++ (nameWire (label :: rest) ++ back) =
            (front ++ [UInt8.ofNat label.length]) ++ (label ++ (nameWire rest ++ back)) := by
          simp [nameWire, labelWire, List.flatMap_cons, List.append_assoc]
        have start : front.length + 1 = (front ++ [UInt8.ofNat label.length]).length := by
          rw [List.length_append, List.length_singleton]
        rw [behindSize, start, Buffer.loadMany_append, List.take_left]
        rw [List.length_append]
        exact Nat.le_add_right _ _

end Spells

end Dns

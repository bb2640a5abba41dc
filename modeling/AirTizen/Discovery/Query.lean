import AirTizen.Discovery.Names

/-!
# Questions the responder answers

`query_matches` of `airtizen_mdns.c`.  The labels of a question are joined to a C
string before it is compared with the dotted names of the receiver, so that names
which differ in their labels can have the same text; without dots and zeros in the
labels they cannot.
-/

namespace AirTizen.Discovery

open CText Cursor Dns

/-! ## Labels and texts -/

/-- The same labels, whatever the case of their letters. -/
def sameName (first second : Name) : Bool :=
  first.map (·.map tolower) == second.map (·.map tolower)

/-- Labels with some text, without a dot or a zero in it. -/
def Textual (name : Name) : Prop := ∀ label ∈ name, label ≠ [] ∧ 46 ∉ label ∧ 0 ∉ label

theorem tolower_mem {byte : UInt8} (fixed : byte < 65) {text : Bytes} :
    byte ∈ text.map tolower ↔ byte ∈ text := by
  have small : ∀ other : UInt8, tolower other = byte ↔ other = byte := by
    intro other
    unfold tolower
    split
    next upper =>
        have shifted : (other + 32).toNat = other.toNat + 32 := by
          have bound := UInt8.le_iff_toNat_le.mp upper.2
          have most : (90 : UInt8).toNat = 90 := rfl
          have step : (32 : UInt8).toNat = 32 := rfl
          rw [UInt8.toNat_add, step, Nat.mod_eq_of_lt]
          omega
        have least := UInt8.le_iff_toNat_le.mp upper.1
        have below := UInt8.lt_iff_toNat_lt.mp fixed
        constructor
        · intro same
          rw [← same, shifted] at below
          omega
        · rintro rfl
          omega
    · exact Iff.rfl
  rw [List.mem_map]
  constructor
  · rintro ⟨other, membership, same⟩
    rwa [(small other).mp same] at membership
  · exact fun membership => ⟨byte, membership, (small byte).mpr rfl⟩

theorem dotted_intercalate (name : Name) : dotted name = [46].intercalate name := by
  induction name with
  | nil => rfl
  | cons first rest inductionHypothesis =>
      cases rest with
      | nil => rw [dotted, List.intercalate_singleton]
      | cons second rest =>
          rw [dotted_cons, inductionHypothesis, List.intercalate_cons_cons]
          simp

theorem dotted_map (name : Name) :
    dotted (name.map (·.map tolower)) = (dotted name).map tolower := by
  induction name with
  | nil => rfl
  | cons first rest inductionHypothesis =>
      cases rest with
      | nil => rfl
      | cons second rest =>
          have later := congrArg (first.map tolower ++ 46 :: ·) inductionHypothesis
          rw [dotted_cons, List.map_append]
          exact later

theorem dotted_splitOn (text : Bytes) : dotted (text.splitOn 46) = text := by
  rw [dotted_intercalate, List.intercalate_splitOn]

theorem splitOn_undotted (text : Bytes) : ∀ label ∈ text.splitOn 46, 46 ∉ label := by
  induction text with
  | nil => simp
  | cons byte text inductionHypothesis =>
      rw [List.splitOn_cons_eq_if_modifyHead]
      split
      · exact List.forall_mem_cons.mpr ⟨List.not_mem_nil, inductionHypothesis⟩
      next other =>
          cases split_ : text.splitOn 46 with
          | nil => exact absurd split_ (List.splitOn_ne_nil _ _)
          | cons first rest =>
              rw [split_, List.forall_mem_cons] at inductionHypothesis
              refine List.forall_mem_cons.mpr ⟨?_, inductionHypothesis.2⟩
              rw [List.mem_cons, not_or]
              exact ⟨fun same => other (beq_iff_eq.mpr same.symm), inductionHypothesis.1⟩

theorem sameLetters_dotted {first second : Name} (nonempty : first ≠ []) (also : second ≠ [])
    (undotted : ∀ label ∈ first, 46 ∉ label) (alsoUndotted : ∀ label ∈ second, 46 ∉ label) :
    sameLetters (dotted first) (dotted second) = sameName first second := by
  have back : ∀ name : Name, name ≠ [] → (∀ label ∈ name, 46 ∉ label) →
      ((dotted name).map tolower).splitOn 46 = name.map (·.map tolower) := by
    intro name some_ plain
    rw [← dotted_map, dotted_intercalate]
    refine List.splitOn_intercalate 46 ?_ fun none => some_ (List.map_eq_nil_iff.mp none)
    intro label membership
    obtain ⟨original, origin, rfl⟩ := List.mem_map.mp membership
    exact (tolower_mem (by decide)).not.mpr (plain original origin)
  rw [Bool.eq_iff_iff, sameLetters, sameName, beq_iff_eq, beq_iff_eq]
  constructor
  · intro same
    rw [← back first nonempty undotted, ← back second also alsoUndotted, same]
  · intro same
    rw [← dotted_map, ← dotted_map, same]

theorem Textual.dotted_zero {name : Name} (textual : Textual name) : 0 ∉ dotted name := by
  induction name with
  | nil => exact List.not_mem_nil
  | cons first rest inductionHypothesis =>
      obtain ⟨⟨_, _, whole⟩, later⟩ := List.forall_mem_cons.mp textual
      cases rest with
      | nil => exact whole
      | cons second rest =>
          rw [dotted_cons, List.mem_append, List.mem_cons, not_or, not_or]
          exact ⟨whole, by decide, inductionHypothesis later⟩

theorem Textual.dotted_nonempty {name : Name} (textual : Textual name) (some_ : name ≠ []) :
    dotted name ≠ [] := by
  cases name with
  | nil => exact absurd rfl some_
  | cons first rest =>
      have head := (textual first List.mem_cons_self).1
      cases rest with
      | nil => exact head
      | cons second rest => exact List.append_ne_nil_of_left_ne_nil head _

theorem Textual.sameLetters_iff {name : Name} (textual : Textual name) {text : Bytes}
    (some_ : text ≠ []) :
    sameLetters (cString (dotted name)) text = sameName name (text.splitOn 46) := by
  rw [cString_eq textual.dotted_zero]
  have labels : text.splitOn 46 ≠ [] := List.splitOn_ne_nil _ _
  by_cases empty : name = []
  · subst empty
    have different : ∀ bytes : Bytes, bytes ≠ [] → sameLetters [] bytes = false := by
      intro bytes more
      cases bytes with
      | nil => exact absurd rfl more
      | cons _ _ => rfl
    have other : ∀ other : Name, other ≠ [] → sameName [] other = false := by
      intro other more
      cases other with
      | nil => exact absurd rfl more
      | cons _ _ => rfl
    rw [other _ labels]
    exact different text some_
  · rw [← sameLetters_dotted empty labels (fun label membership => (textual label membership).2.1)
      (splitOn_undotted text), dotted_splitOn]

theorem Textual.of_sameName {first second : Name} (textual : Textual first)
    (same : sameName first second = true) : Textual second := by
  intro label membership
  have labels : first.map (·.map tolower) = second.map (·.map tolower) := beq_iff_eq.mp same
  have mapped : label.map tolower ∈ first.map (·.map tolower) := by
    rw [labels]
    exact List.mem_map_of_mem membership
  obtain ⟨other, inside, letters⟩ := List.mem_map.mp mapped
  obtain ⟨some_, undotted, whole⟩ := textual other inside
  refine ⟨?_, ?_, ?_⟩
  · rintro rfl
    exact some_ (List.map_eq_nil_iff.mp letters)
  · rw [← tolower_mem (by decide), ← letters, tolower_mem (by decide)]
    exact undotted
  · rw [← tolower_mem (by decide), ← letters, tolower_mem (by decide)]
    exact whole

theorem Textual.unconfused {first second : Name} (textual : Textual first)
    (also : Textual second)
    (same : sameLetters (cString (dotted first)) (cString (dotted second)) = true) :
    sameName first second = true := by
  by_cases empty : second = []
  · subst empty
    rw [cString_eq textual.dotted_zero] at same
    have nothing : (dotted first).map tolower = [] := beq_iff_eq.mp same
    have root : first = [] := by
      by_contra some_
      exact textual.dotted_nonempty some_ (List.map_eq_nil_iff.mp nothing)
    subst root
    rfl
  · have some_ := also.dotted_nonempty empty
    rw [cString_eq also.dotted_zero] at same
    rw [textual.sameLetters_iff some_, dotted_intercalate,
      List.splitOn_intercalate 46 (fun label membership => (also label membership).2.1) empty]
      at same
    exact same

/-- The dotted text of one name is the C string of the other, as the code compares. -/
def sameText (first second : Name) : Bool :=
  sameLetters (dotted first) (cString (dotted second))

theorem Textual.sameName_iff {first second : Name} (textual : Textual first) :
    sameName first second = true ↔ Textual second ∧ sameText first second = true := by
  constructor
  · intro same
    have also := textual.of_sameName same
    refine ⟨also, ?_⟩
    rw [sameText, cString_eq also.dotted_zero, sameLetters, ← dotted_map, ← dotted_map,
      beq_iff_eq.mp same, beq_self_eq_true]
  · rintro ⟨also, same⟩
    rw [sameText, ← cString_eq textual.dotted_zero] at same
    exact textual.unconfused also same

/-! ## `query_matches` -/

namespace Announced

variable (announced : Announced)

/-- The texts that a question is compared with. -/
def answered : List Bytes :=
  let host := printed 160 (announced.deviceName ++ ascii ".local")
  let raop := printed 220 (announced.deviceId ++ ascii "@" ++ announced.deviceName ++ ascii "._raop._tcp.local")
  let air := printed 180 (announced.deviceName ++ ascii "._airplay._tcp.local")
  [ascii "_raop._tcp.local", ascii "_airplay._tcp.local", ascii "_services._dns-sd._udp.local",
    host, raop, air]

/-- More rounds than `read_dns_name` takes for its 256 bytes. -/
def nameRounds : Nat := 265

/-- The loop over the questions; `none` is an access outside of a buffer. -/
def queryLoop (packet : Bytes) : Nat → Nat → Bytes → Option Bool
  | 0, _, _ => some false
  | count + 1, position, receiver =>
      (readDnsName packet nameRounds position receiver).bind fun read =>
        match read with
        | none => some false
        | some (position, receiver) =>
            if packet.length < position + 4 then some false
            else if announced.answered.any (sameLetters (cString receiver)) then some true
            else queryLoop packet count (position + 4) receiver

/-- `query_matches`, with its uninitialised array. -/
def queryMatches (packet : Bytes) (receiver : Stack 256) : Option Bool :=
  if packet.length < 12 then some false
  else
    (Buffer.load packet 2).bind fun flags =>
      if flags &&& 0xf8 ≠ 0 then some false
      else
        (Buffer.load packet 4).bind fun high =>
          (Buffer.load packet 5).bind fun low =>
            let count := high.toNat * 256 + low.toNat
            if count = 0 ∨ 16 < count then some false
            else announced.queryLoop packet count 12 receiver.1

/-! ## Questions -/

/-- A well-formed question for the name, with the position of the next one. -/
def Asks (packet : Bytes) (position : Nat) (name : Name) (next : Nat) : Prop :=
  ∃ jumps behind, Spells packet position name jumps behind ∧ jumps ≤ 8 ∧
    (dotted name).length < 256 ∧ behind + 4 ≤ packet.length ∧ next = behind + 4

/-- One of the next questions in front of the first malformed one is for the name. -/
inductive Asked (packet : Bytes) : Nat → Nat → Name → Prop
  | here {count position next : Nat} {name : Name} (asks : Asks packet position name next) :
      Asked packet (count + 1) position name
  | later {count position next : Nat} {other name : Name}
      (asks : Asks packet position other next) (rest : Asked packet count next name) :
      Asked packet (count + 1) position name

/-- The text of the name is one that is answered. -/
def Owned (name : Name) : Prop :=
  ∃ text ∈ announced.answered, sameLetters (cString (dotted name)) text = true

/-- The first of the next questions whose name is owned, in front of the first
malformed one. -/
inductive Matched (packet : Bytes) : Nat → Nat → Name → Prop
  | here {count position next : Nat} {name : Name} (asks : Asks packet position name next)
      (owned : announced.Owned name) : Matched packet (count + 1) position name
  | later {count position next : Nat} {other name : Name}
      (asks : Asks packet position other next) (foreign : ¬ announced.Owned other)
      (rest : Matched packet count next name) : Matched packet (count + 1) position name

/-- A standard query with one to sixteen questions. -/
structure Standard (packet : Bytes) (count : Nat) : Prop where
  length : 12 ≤ packet.length
  flags : ∃ flags, packet[2]? = some flags ∧ flags.toNat < 8
  announces : ∃ high low, packet[4]? = some high ∧ packet[5]? = some low ∧
    count = high.toNat * 256 + low.toNat
  range : 1 ≤ count ∧ count ≤ 16

def Triggers (packet : Bytes) (question : Name) : Prop :=
  ∃ count, Standard packet count ∧ announced.Matched packet count 12 question

variable {announced} {packet : Bytes}

theorem asks_unique {position next otherNext : Nat} {name other : Name}
    (asks : Asks packet position name next) (also : Asks packet position other otherNext) :
    other = name ∧ otherNext = next := by
  obtain ⟨_, behind, spells, _, _, _, rfl⟩ := asks
  obtain ⟨_, _, again, _, _, _, rfl⟩ := also
  obtain ⟨rfl, _, rfl⟩ := spells.unique again
  exact ⟨rfl, rfl⟩

theorem Matched.owned {count position : Nat} {name : Name}
    (found : announced.Matched packet count position name) : announced.Owned name := by
  induction found with
  | here _ owned => exact owned
  | later _ _ _ inductionHypothesis => exact inductionHypothesis

theorem matched_iff {count position : Nat} :
    (∃ name, announced.Matched packet count position name) ↔
      ∃ name, Asked packet count position name ∧ announced.Owned name := by
  constructor
  · rintro ⟨name, found⟩
    refine ⟨name, ?_, found.owned⟩
    induction found with
    | here asks _ => exact .here asks
    | later asks _ _ inductionHypothesis => exact .later asks inductionHypothesis
  · rintro ⟨name, asked, owned⟩
    induction asked with
    | here asks => exact ⟨_, .here asks owned⟩
    | @later count position next other name asks rest inductionHypothesis =>
        by_cases first : announced.Owned other
        · exact ⟨other, .here asks first⟩
        · obtain ⟨found, later⟩ := inductionHypothesis owned
          exact ⟨found, .later asks first later⟩

theorem owned_iff {name : Name} (rest : Bytes) :
    announced.answered.any (sameLetters (cString (dotted name ++ 0 :: rest))) = true ↔
      announced.Owned name := by
  rw [cString_text, List.any_eq_true]
  rfl

theorem queryLoop_spec {count position : Nat} {receiver : Bytes} (capacity : receiver.length = 256) :
    ∃ answer, announced.queryLoop packet count position receiver = some answer ∧
      (answer = true ↔ ∃ name, announced.Matched packet count position name) := by
  induction count generalizing position receiver with
  | zero =>
      refine ⟨false, rfl, iff_of_false Bool.false_ne_true ?_⟩
      rintro ⟨_, found⟩
      cases found
  | succ count inductionHypothesis =>
      obtain ⟨result, ran, answers⟩ := @readDnsName_spec packet receiver nameRounds
        (by rw [capacity]; decide) (by rw [capacity]; decide) position
      rw [capacity] at answers
      rw [queryLoop, ran, Option.bind_some]
      cases result with
      | none =>
          refine ⟨false, rfl, iff_of_false Bool.false_ne_true ?_⟩
          have nothing : ∀ name next, ¬ Asks packet position name next := by
            rintro name next ⟨jumps, behind, spells, few, fits, _⟩
            cases (answers _ _).mpr ⟨name, jumps, spells, few, fits, rfl⟩
          rintro ⟨name, found⟩
          cases found with
          | here asks _ => exact nothing _ _ asks
          | later asks _ _ => exact nothing _ _ asks
      | some read =>
          obtain ⟨behind, out⟩ := read
          obtain ⟨name, jumps, spells, few, fits, rfl⟩ := (answers behind out).mp rfl
          simp only
          by_cases cut : packet.length < behind + 4
          · rw [if_pos cut]
            refine ⟨false, rfl, iff_of_false Bool.false_ne_true ?_⟩
            have nothing : ∀ name next, ¬ Asks packet position name next := by
              rintro name next ⟨_, after, again, _, _, room, _⟩
              obtain ⟨_, _, rfl⟩ := spells.unique again
              omega
            rintro ⟨name, found⟩
            cases found with
            | here asks _ => exact nothing _ _ asks
            | later asks _ _ => exact nothing _ _ asks
          rw [if_neg cut]
          have asks : Asks packet position name (behind + 4) :=
            ⟨jumps, behind, spells, few, fits, Nat.le_of_not_lt cut, rfl⟩
          by_cases owned : announced.Owned name
          · rw [if_pos ((owned_iff _).mpr owned)]
            exact ⟨true, rfl, iff_of_true rfl ⟨name, .here asks owned⟩⟩
          · rw [if_neg ((owned_iff _).not.mpr owned)]
            have size : (dotted name ++ 0 :: receiver.drop ((dotted name).length + 1)).length =
                256 := by
              rw [List.length_append, List.length_cons, List.length_drop, capacity]
              omega
            obtain ⟨answer, looped, found⟩ := @inductionHypothesis (behind + 4) _ size
            refine ⟨answer, looped, found.trans ⟨?_, ?_⟩⟩
            · rintro ⟨other, rest⟩
              exact ⟨other, .later asks owned rest⟩
            · rintro ⟨other, rest⟩
              cases rest with
              | here again also =>
                  obtain ⟨rfl, _⟩ := asks_unique asks again
                  exact absurd also owned
              | later again _ rest =>
                  obtain ⟨_, rfl⟩ := asks_unique asks again
                  exact ⟨other, rest⟩

theorem standard_flags (flags : UInt8) : flags &&& 0xf8 ≠ 0 ↔ ¬ flags.toNat < 8 := by
  revert flags
  exact forall_byte (by decide +kernel)

/-- The function stays inside its buffers, and finds the question that triggers. -/
theorem queryMatches_spec (receiver : Stack 256) :
    ∃ answer, announced.queryMatches packet receiver = some answer ∧
      (answer = true ↔ ∃ question, announced.Triggers packet question) := by
  unfold queryMatches
  by_cases short : packet.length < 12
  · rw [if_pos short]
    refine ⟨false, rfl, iff_of_false Bool.false_ne_true ?_⟩
    rintro ⟨_, _, standard, _⟩
    exact absurd standard.length (Nat.not_le.mpr short)
  have long := Nat.le_of_not_lt short
  have loads : ∀ index < 12, ∃ byte, packet[index]? = some byte := fun index small =>
    ⟨_, List.getElem?_eq_getElem (small.trans_le long)⟩
  obtain ⟨flags, second⟩ := loads 2 (by decide)
  obtain ⟨high, fourth⟩ := loads 4 (by decide)
  obtain ⟨low, fifth⟩ := loads 5 (by decide)
  simp only [if_neg short, Buffer.load, second, fourth, fifth, Option.bind_some]
  by_cases response : flags &&& 0xf8 ≠ 0
  · rw [if_pos response]
    refine ⟨false, rfl, iff_of_false Bool.false_ne_true ?_⟩
    rintro ⟨_, _, ⟨_, ⟨other, again, small⟩, _, _⟩, _⟩
    obtain rfl := Option.some.inj (again.symm.trans second)
    exact (standard_flags other).mp response small
  rw [if_neg response]
  by_cases range : high.toNat * 256 + low.toNat = 0 ∨ 16 < high.toNat * 256 + low.toNat
  · rw [if_pos range]
    refine ⟨false, rfl, iff_of_false Bool.false_ne_true ?_⟩
    rintro ⟨_, count, ⟨_, _, ⟨_, _, first, next, rfl⟩, between⟩, _⟩
    obtain rfl := Option.some.inj (first.symm.trans fourth)
    obtain rfl := Option.some.inj (next.symm.trans fifth)
    omega
  rw [if_neg range]
  obtain ⟨answer, looped, found⟩ := @queryLoop_spec announced packet
    (high.toNat * 256 + low.toNat) 12 receiver.1 receiver.2
  refine ⟨answer, looped, found.trans ⟨?_, ?_⟩⟩
  · rintro ⟨question, rest⟩
    refine ⟨question, _, ⟨long, ⟨flags, second, ?_⟩, ⟨high, low, fourth, fifth, rfl⟩, ?_⟩, rest⟩
    · exact not_not.mp ((standard_flags flags).not.mp response)
    · omega
  · rintro ⟨question, count, ⟨_, _, ⟨_, _, first, next, rfl⟩, _⟩, rest⟩
    obtain rfl := Option.some.inj (first.symm.trans fourth)
    obtain rfl := Option.some.inj (next.symm.trans fifth)
    exact ⟨question, rest⟩

theorem answered_nonempty {text : Bytes} (answered : text ∈ announced.answered) : text ≠ [] := by
  have cut : ∀ (capacity : Nat) (front back : Bytes), 1 < capacity → back ≠ [] →
      printed capacity (front ++ back) ≠ [] := by
    intro capacity front back wide more
    rw [printed, ne_eq, List.take_eq_nil_iff, not_or]
    exact ⟨by omega, List.append_ne_nil_of_right_ne_nil _ more⟩
  simp only [Announced.answered, List.mem_cons, List.not_mem_nil, or_false] at answered
  rcases answered with rfl | rfl | rfl | rfl | rfl | rfl
  · decide
  · decide
  · decide
  · exact cut _ _ _ (by decide) (by decide)
  · exact cut _ _ _ (by decide) (by decide)
  · exact cut _ _ _ (by decide) (by decide)

variable (announced packet)

/-- The responder answers a standard query of at most sixteen questions when the text
of a question in front of the first malformed one is a name of its own, and stays
inside its buffers.  Where no label holds a dot or a zero, that is a comparison label
by label, which confuses no two names. -/
theorem answers_owned_names (receiver : Stack 256) :
    ∃ answer, announced.queryMatches packet receiver = some answer ∧
      (answer = true ↔ ∃ count, Standard packet count ∧
        ∃ name, Asked packet count 12 name ∧ announced.Owned name) ∧
      (∀ name, Textual name → (announced.Owned name ↔
        ∃ text ∈ announced.answered, sameName name (text.splitOn 46) = true)) ∧
      ∀ first second, Textual first → Textual second →
        sameLetters (cString (dotted first)) (cString (dotted second)) = true →
          sameName first second = true := by
  obtain ⟨answer, ran, found⟩ := @queryMatches_spec announced packet receiver
  refine ⟨answer, ran, found.trans ?_, ?_, fun first second => Textual.unconfused⟩
  · constructor
    · rintro ⟨question, count, standard, matched⟩
      exact ⟨count, standard, matched_iff.mp ⟨question, matched⟩⟩
    · rintro ⟨count, standard, asked⟩
      obtain ⟨question, matched⟩ := matched_iff.mpr asked
      exact ⟨question, count, standard, matched⟩
  · intro name textual
    refine exists_congr fun text => and_congr_right fun answered => ?_
    rw [textual.sameLetters_iff (answered_nonempty answered)]

end Announced

def shortNamed : Announced where
  deviceName := ascii "TV"
  deviceId := ascii "0123456789ab"
  publicKey := []
  uxplayTest := false
  port := 7000
  address := [192, 168, 1, 2]
  ttl := 120
  deviceName_length := by decide
  deviceName_text := by decide
  deviceId_length := by decide
  deviceId_digits := by decide
  publicKey_length := .inl rfl
  publicKey_digits := by decide
  port_lt := by decide
  address_length := rfl
  ttl_lt := by decide

def queryFor (name : Name) : Bytes :=
  [0, 0, 0, 0, 0, 1, 0, 0, 0, 0, 0, 0] ++ (nameWire name ++ [0, 12, 0, 1])

theorem asks_queryFor {name : Name} (short : ∀ label ∈ name, label ≠ [] ∧ label.length ≤ 63)
    (fits : (dotted name).length < 256) :
    Announced.Asks (queryFor name) 12 name (queryFor name).length := by
  have spells := spells_wire short [0, 0, 0, 0, 0, 1, 0, 0, 0, 0, 0, 0] [0, 12, 0, 1]
  have behind : (queryFor name).length = 12 + (nameWire name).length + 4 := by
    rw [queryFor, List.length_append, List.length_append, Nat.add_assoc]
    rfl
  rw [List.length_append] at spells
  exact ⟨0, _, spells, by decide, fits, behind.ge, behind⟩

theorem standard_queryFor (name : Name) : Announced.Standard (queryFor name) 1 where
  length := by
    rw [queryFor, List.length_append]
    exact Nat.le_add_right 12 _
  flags := ⟨0, rfl, by decide⟩
  announces := ⟨0, 1, rfl, rfl, rfl⟩
  range := by decide

theorem standard_unique {packet : Bytes} {count other : Nat}
    (standard : Announced.Standard packet count) (also : Announced.Standard packet other) :
    other = count := by
  obtain ⟨high, low, fourth, fifth, rfl⟩ := standard.announces
  obtain ⟨_, _, again, next, rfl⟩ := also.announces
  obtain rfl := Option.some.inj (again.symm.trans fourth)
  obtain rfl := Option.some.inj (next.symm.trans fifth)
  rfl

/-- One label with dots in it is answered as if it were three. -/
theorem dotted_label_answered :
    (∀ receiver : Stack 256,
        shortNamed.queryMatches (queryFor [ascii "_raop._tcp.local"]) receiver = some true) ∧
      ¬ ∃ count, Announced.Standard (queryFor [ascii "_raop._tcp.local"]) count ∧
        ∃ name, Announced.Asked (queryFor [ascii "_raop._tcp.local"]) count 12 name ∧
          ∃ text ∈ shortNamed.answered, sameName name (text.splitOn 46) = true := by
  have asks : Announced.Asks (queryFor [ascii "_raop._tcp.local"]) 12 [ascii "_raop._tcp.local"] _ :=
    asks_queryFor (by decide) (by decide)
  have standard := standard_queryFor [ascii "_raop._tcp.local"]
  constructor
  · intro receiver
    obtain ⟨answer, ran, found⟩ := @Announced.queryMatches_spec shortNamed
      (queryFor [ascii "_raop._tcp.local"]) receiver
    have owned : shortNamed.Owned [ascii "_raop._tcp.local"] :=
      ⟨ascii "_raop._tcp.local", List.mem_cons_self, by decide⟩
    rw [ran, found.mpr ⟨_, 1, standard, .here asks owned⟩]
  · rintro ⟨count, again, name, asked, matched⟩
    obtain rfl := standard_unique standard again
    cases asked with
    | here other =>
        obtain ⟨rfl, _⟩ := Announced.asks_unique asks other
        revert matched
        decide
    | later _ rest => cases rest

end AirTizen.Discovery

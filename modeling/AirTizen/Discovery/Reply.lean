import AirTizen.Discovery.Query

/-!
# What a query is answered with

The names that `query_matches` knows and the owners of the records in `build_packet`
are listed in two functions.  One name is missing in the second list, and a device
name with an empty part makes a packet that cannot be read.
-/

namespace AirTizen.Discovery

open CText Cursor Dns

/-! ## Names with dots in the device name -/

theorem splitOn_append_undotted {front : Bytes} (undotted : 46 ∉ front) (text : Bytes) :
    (front ++ text).splitOn 46 = (text.splitOn 46).modifyHead (front ++ ·) := by
  induction front with
  | nil =>
      rw [List.nil_append]
      cases text.splitOn 46 <;> rfl
  | cons byte front inductionHypothesis =>
      rw [List.mem_cons, not_or] at undotted
      have other : ¬ (byte == 46) = true := fun same => undotted.1 (beq_iff_eq.mp same).symm
      rw [List.cons_append, List.splitOn_cons_eq_if_modifyHead, if_neg other,
        inductionHypothesis undotted.2]
      cases text.splitOn 46 <;> rfl

theorem mem_dotted {labels : Name} {label : Bytes} {byte : UInt8} (membership : label ∈ labels)
    (inside : byte ∈ label) : byte ∈ dotted labels := by
  induction labels with
  | nil => cases membership
  | cons first rest inductionHypothesis =>
      cases rest with
      | nil => rwa [List.mem_singleton.mp membership] at inside
      | cons second rest =>
          rw [dotted_cons, List.mem_append, List.mem_cons]
          rcases List.mem_cons.mp membership with rfl | later
          · exact .inl inside
          · exact .inr (.inr (inductionHypothesis later))

theorem length_le_dotted {labels : Name} {label : Bytes} (membership : label ∈ labels) :
    label.length ≤ (dotted labels).length := by
  induction labels with
  | nil => cases membership
  | cons first rest inductionHypothesis =>
      cases rest with
      | nil =>
          rw [List.mem_singleton.mp membership]
          exact Nat.le_refl _
      | cons second rest =>
          rw [dotted_cons, List.length_append, List.length_cons]
          rcases List.mem_cons.mp membership with rfl | later
          · exact Nat.le_add_right _ _
          · have more := inductionHypothesis later
            omega

theorem size_splitOn (text : Bytes) : Name.size (text.splitOn 46) = text.length + 2 := by
  have each : ∀ labels : Name, labels ≠ [] →
      (labels.map fun label => label.length + 1).sum = (dotted labels).length + 1 := by
    intro labels some_
    induction labels with
    | nil => exact absurd rfl some_
    | cons first rest inductionHypothesis =>
        cases rest with
        | nil => rfl
        | cons second rest =>
            rw [List.map_cons, List.sum_cons, inductionHypothesis (List.cons_ne_nil _ _),
              dotted_cons, List.length_append, List.length_cons]
            omega
  rw [Name.size, each _ (List.splitOn_ne_nil _ _), dotted_splitOn]

namespace Announced

variable (announced : Announced)

def parts : Name := announced.deviceName.splitOn 46

def raopOwner : Name :=
  announced.parts.modifyHead (announced.deviceId ++ 64 :: ·) ++ raopService

def airOwner : Name := announced.parts ++ airplayService

def hostOwner : Name := announced.parts ++ [ascii "local"]

theorem deviceId_undotted : 46 ∉ announced.deviceId := fun dot =>
  absurd (announced.deviceId_digits 46 dot) (by decide)

theorem raopText_splitOn : announced.raopText.splitOn 46 = announced.raopOwner := by
  have undotted : 46 ∉ announced.deviceId ++ [64] := by
    rw [List.mem_append, not_or]
    exact ⟨announced.deviceId_undotted, by decide⟩
  have service : ascii "._raop._tcp.local" = 46 :: dotted raopService := by decide
  have labels : (dotted raopService).splitOn 46 = raopService := by decide
  have text : announced.raopText =
      (announced.deviceId ++ [64]) ++ announced.deviceName ++ 46 :: dotted raopService := by
    rw [raopText, service]
    rfl
  have joined : ∀ part : Bytes,
      announced.deviceId ++ [64] ++ part = announced.deviceId ++ 64 :: part := fun part => by
    rw [List.append_assoc, List.singleton_append]
  rw [text, List.splitOn_append_cons_self, labels, splitOn_append_undotted undotted, raopOwner,
    parts]
  simp only [joined]

theorem airText_splitOn : announced.airText.splitOn 46 = announced.airOwner := by
  have service : ascii "._airplay._tcp.local" = 46 :: dotted airplayService := by decide
  have labels : (dotted airplayService).splitOn 46 = airplayService := by decide
  rw [airText, service, List.splitOn_append_cons_self, labels]
  rfl

theorem hostText_splitOn : announced.hostText.splitOn 46 = announced.hostOwner := by
  have domain : ascii ".local" = 46 :: ascii "local" := by decide
  have labels : (ascii "local").splitOn 46 = [ascii "local"] := by decide
  rw [hostText, domain, List.splitOn_append_cons_self, labels]
  rfl

theorem part_short {part : Bytes} (membership : part ∈ announced.parts) :
    part.length ≤ 48 ∧ 46 ∉ part ∧ 0 ∉ part := by
  have small := length_le_dotted membership
  rw [parts, dotted_splitOn] at small
  refine ⟨small.trans announced.deviceName_length.2, splitOn_undotted _ part membership, ?_⟩
  intro zero
  have inside := mem_dotted membership zero
  rw [parts, dotted_splitOn] at inside
  exact announced.deviceName_text inside

/-- A label of a record that is not empty, unless it is a part of the device name. -/
def Short (label : Bytes) : Prop :=
  label.length ≤ 63 ∧ 46 ∉ label ∧ 0 ∉ label ∧ (label = [] → [] ∈ announced.parts)

theorem short_service {service : Name}
    (plain : ∀ label ∈ service, label.length ≤ 63 ∧ 46 ∉ label ∧ 0 ∉ label ∧ label ≠ []) :
    ∀ label ∈ service, announced.Short label := fun label membership =>
  have ⟨small, undotted, whole, some_⟩ := plain label membership
  ⟨small, undotted, whole, fun empty => absurd empty some_⟩

theorem short_part : ∀ part ∈ announced.parts, announced.Short part := fun part membership =>
  have ⟨small, undotted, whole⟩ := announced.part_short membership
  ⟨small.trans (by decide), undotted, whole, fun empty => empty ▸ membership⟩

theorem short_airOwner : ∀ label ∈ announced.airOwner, announced.Short label :=
  List.forall_mem_append.mpr ⟨announced.short_part, announced.short_service (by decide)⟩

theorem short_hostOwner : ∀ label ∈ announced.hostOwner, announced.Short label :=
  List.forall_mem_append.mpr ⟨announced.short_part, announced.short_service (by decide)⟩

theorem short_raopOwner : ∀ label ∈ announced.raopOwner, announced.Short label := by
  refine List.forall_mem_append.mpr ⟨?_, announced.short_service (by decide)⟩
  have all := announced.short_part
  cases found : announced.parts with
  | nil =>
      intro label membership
      cases membership
  | cons first rest =>
      rw [found, List.forall_mem_cons] at all
      refine List.forall_mem_cons.mpr ⟨?_, all.2⟩
      have first_ : first ∈ announced.parts := by
        rw [found]
        exact List.mem_cons_self
      obtain ⟨small, undotted, whole⟩ := announced.part_short first_
      have id := announced.deviceId_length
      refine ⟨?_, ?_, ?_, ?_⟩
      · rw [List.length_append, List.length_cons]
        omega
      · rw [List.mem_append, List.mem_cons, not_or, not_or]
        exact ⟨announced.deviceId_undotted, by decide, undotted⟩
      · rw [List.mem_append, List.mem_cons, not_or, not_or]
        exact ⟨fun zero => absurd (announced.deviceId_digits 0 zero) (by decide), by decide, whole⟩
      · exact fun empty => absurd empty
          (List.append_ne_nil_of_right_ne_nil _ (List.cons_ne_nil _ _))

theorem sized : Sized announced.raopOwner announced.airOwner announced.hostOwner := by
  obtain ⟨raop, air, host⟩ := announced.texts_length
  constructor
  · rw [← raopText_splitOn, size_splitOn]
    exact Nat.add_le_add_right raop 2
  · rw [← airText_splitOn, size_splitOn]
    exact Nat.add_le_add_right air 2
  · rw [← hostText_splitOn, size_splitOn]
    exact Nat.add_le_add_right host 2

theorem appends_owner {text : Bytes} {owner : Name} (split_ : text.splitOn 46 = owner)
    (ends : owner.getLast? = some (ascii "local"))
    (short : ∀ label ∈ owner, announced.Short label) :
    Appends (name text) (nameWire owner) := by
  rw [← dotted_splitOn text, split_]
  exact appends_labels (by decide) ends fun label membership =>
    ⟨(short label membership).1, (short label membership).2.1⟩

theorem announce_owners (packet : Stack mdnsMax) :
    announced.announce packet = some (responseWire 0x8400
      (announced.recordsOf announced.raopOwner announced.airOwner announced.hostOwner)) := by
  refine announced.sized.announce ?_ ?_ ?_ packet
  · exact announced.appends_owner announced.raopText_splitOn (List.getLast?_append_of_ne_nil _ (by decide))
      announced.short_raopOwner
  · exact announced.appends_owner announced.airText_splitOn (List.getLast?_append_of_ne_nil _ (by decide))
      announced.short_airOwner
  · exact announced.appends_owner announced.hostText_splitOn (List.getLast?_append_of_ne_nil _ (by decide))
      announced.short_hostOwner

/-! ## Packets that cannot be read -/

variable {announced}

theorem valid_owner {owner : Name} (short : ∀ label ∈ owner, announced.Short label)
    (size : owner.size ≤ 255) (some_ : [] ∉ owner) : owner.Valid :=
  ⟨fun label membership => ⟨fun empty => some_ (empty ▸ membership), (short label membership).1⟩,
    size⟩

theorem refuses_pointer {owner target : Name} (valid : owner.Valid) (empty : [] ∈ target)
    (short : ∀ label ∈ target, announced.Short label) (size : target.size ≤ 255) :
    Refuses readRecord (recordWire (announced.record owner 12 1 (.pointer target))) := by
  obtain ⟨before, rest, named, more, wire⟩ :=
    exists_nameWire empty (fun label membership => (short label membership).1) size
  have kind : 12 < 2 ^ 16 ∧ 1 < 2 ^ 16 := by decide
  refine refuses_record valid ⟨kind.1, kind.2, announced.ttl_lt⟩ ?_ wire more
    ((readName_wire named).value Data.pointer)
  show (nameWire target).length < _
  rw [nameWire_length]
  exact Nat.lt_of_le_of_lt size (by decide)

theorem refuses_srv {owner host : Name} (valid : owner.Valid) (empty : [] ∈ host)
    (short : ∀ label ∈ host, announced.Short label) (size : host.size ≤ 255) :
    Refuses readRecord
      (recordWire (announced.record owner 33 0x8001 (.service 0 0 announced.port host))) := by
  obtain ⟨before, rest, named, more, wire⟩ :=
    exists_nameWire empty (fun label membership => (short label membership).1) size
  have zero : Reads (Reader.number 2) (Octets.ofNat 2 0) 0 := reads_number (by decide)
  have fields : ∀ size, Reads (readData 33 size) (Octets.ofNat 2 0 ++ (Octets.ofNat 2 0 ++
      (Octets.ofNat 2 announced.port ++ nameWire before))) (.service 0 0 announced.port before) :=
    fun size => zero.bind <| zero.bind <| (reads_number announced.port_lt).bind <|
      (readName_wire named).value (Data.service 0 0 announced.port)
  have cells : dataWire (.service 0 0 announced.port host) = (Octets.ofNat 2 0 ++
      (Octets.ofNat 2 0 ++ (Octets.ofNat 2 announced.port ++ nameWire before))) ++ rest := by
    simp only [dataWire, wire, List.append_assoc]
  have kind : 33 < 2 ^ 16 ∧ 0x8001 < 2 ^ 16 := by decide
  refine refuses_record valid ⟨kind.1, kind.2, announced.ttl_lt⟩ ?_ cells more (fields _)
  show (dataWire (.service 0 0 announced.port host)).length < _
  simp only [dataWire, List.length_append, Octets.length_ofNat, nameWire_length]
  omega

/-- With an empty part in the device name, the packet is no DNS message. -/
theorem decode_owners_none (empty : [] ∈ announced.parts) :
    Dns.decode (responseWire 0x8400
      (announced.recordsOf announced.raopOwner announced.airOwner announced.hostOwner)) = none := by
  have service : raopService.Valid := ⟨by decide, by decide⟩
  have sized := announced.sized
  have raopSize : announced.raopOwner.size ≤ 255 := sized.raopSize.trans (by decide)
  have hostEmpty : [] ∈ announced.hostOwner := List.mem_append_left _ empty
  by_cases raop : [] ∈ announced.raopOwner
  · exact @decode_refused 0x8400 [] _ _ (by decide) count_recordsOf (fun _ absent => by cases absent)
      (refuses_pointer service raop announced.short_raopOwner raopSize)
  · have valid := valid_owner announced.short_raopOwner raopSize raop
    refine @decode_refused 0x8400 [_] _ _ (by decide) count_recordsOf ?_
      (refuses_srv valid hostEmpty announced.short_hostOwner (sized.hostSize.trans (by decide)))
    exact List.forall_mem_singleton.mpr (valid_ptr service valid)

theorem decode_owners (some_ : [] ∉ announced.parts) :
    Dns.decode (responseWire 0x8400
        (announced.recordsOf announced.raopOwner announced.airOwner announced.hostOwner)) =
      some
        { id := 0, flags := 0x8400, questions := [],
          answers := announced.recordsOf announced.raopOwner announced.airOwner
            announced.hostOwner,
          authority := [], additional := [] } := by
  have labels : ∀ owner : Name, (∀ label ∈ owner, announced.Short label) →
      ∀ label ∈ owner, label ≠ [] ∧ label.length ≤ 63 := fun owner short label membership =>
    have ⟨small, _, _, empty⟩ := short label membership
    ⟨fun none => some_ (empty none), small⟩
  exact Spelled.decode
    { announced.sized with
      raopLabels := labels _ announced.short_raopOwner
      airLabels := labels _ announced.short_airOwner
      hostLabels := labels _ announced.short_hostOwner }

/-! ## Answers -/

variable (announced)

def services : Bytes := ascii "_services._dns-sd._udp.local"

/-- The packet in this state is a message with a record of the question's name. -/
def Answers (packet : Stack mdnsMax) (same : Name → Name → Bool) (question : Name) : Prop :=
  ∃ sent message, announced.announce packet = some sent ∧ Dns.decode sent = some message ∧
    ∃ record ∈ message.answers ++ message.authority ++ message.additional,
      same record.owner question = true

/-- The device name has no empty part, and the question is not the one for all
services, which only a device of that name owns. -/
structure Covered (question : Name) : Prop where
  parts : ∀ part ∈ announced.deviceName.splitOn 46, part ≠ []
  recorded : sameLetters (cString (dotted question)) services = true →
    sameLetters announced.deviceName (ascii "_services._dns-sd._udp") = true

def Owner (owner : Name) : Prop :=
  owner = raopService ∨ owner = airplayService ∨ owner = announced.raopOwner ∨
    owner = announced.airOwner ∨ owner = announced.hostOwner

variable {announced} {question : Name}

theorem answers_iff (packet : Stack mdnsMax) (same : Name → Name → Bool) :
    announced.Answers packet same question ↔
      [] ∉ announced.parts ∧ ∃ owner, announced.Owner owner ∧ same owner question = true := by
  by_cases empty : [] ∈ announced.parts
  · refine iff_of_false ?_ fun parted => parted.1 empty
    rintro ⟨sent, message, sends, decoded, _⟩
    rw [announce_owners, Option.some.injEq] at sends
    rw [← sends, decode_owners_none empty] at decoded
    cases decoded
  · constructor
    · rintro ⟨sent, message, sends, decoded, record, membership, named⟩
      rw [announce_owners, Option.some.injEq] at sends
      rw [← sends, decode_owners empty, Option.some.injEq] at decoded
      subst decoded
      refine ⟨empty, record.owner, ?_, named⟩
      simp only [recordsOf, List.append_nil, List.mem_cons, List.not_mem_nil, or_false]
        at membership
      rcases membership with rfl | rfl | rfl | rfl | rfl | rfl | rfl
      · exact .inl rfl
      · exact .inr (.inr (.inl rfl))
      · exact .inr (.inr (.inl rfl))
      · exact .inr (.inl rfl)
      · exact .inr (.inr (.inr (.inl rfl)))
      · exact .inr (.inr (.inr (.inl rfl)))
      · exact .inr (.inr (.inr (.inr rfl)))
    · rintro ⟨_, owner, listed, named⟩
      refine ⟨_, _, announce_owners announced packet, decode_owners empty, ?_⟩
      simp only [recordsOf, List.append_nil, List.exists_mem_cons_iff]
      rcases listed with rfl | rfl | rfl | rfl | rfl
      · exact .inl named
      · exact .inr (.inr (.inr (.inl named)))
      · exact .inr (.inl named)
      · exact .inr (.inr (.inr (.inr (.inl named))))
      · exact .inr (.inr (.inr (.inr (.inr (.inr (.inl named))))))

theorem Owner.textual {owner : Name} (listed : announced.Owner owner)
    (some_ : [] ∉ announced.parts) : Textual owner := by
  have short : ∀ label ∈ owner, announced.Short label := by
    rcases listed with rfl | rfl | rfl | rfl | rfl
    · exact announced.short_service (by decide)
    · exact announced.short_service (by decide)
    · exact announced.short_raopOwner
    · exact announced.short_airOwner
    · exact announced.short_hostOwner
  intro label membership
  obtain ⟨_, undotted, whole, empty⟩ := short label membership
  exact ⟨fun none => some_ (empty none), undotted, whole⟩

theorem services_ends {text tail : Bytes} (other : ¬ tail.map tolower <:+ services.map tolower) :
    sameLetters (text ++ tail) services = false := by
  apply Bool.eq_false_iff.mpr
  intro same
  have letters : (text ++ tail).map tolower = services.map tolower := beq_iff_eq.mp same
  rw [List.map_append] at letters
  exact other ⟨_, letters⟩

theorem services_hostText : sameLetters announced.hostText services =
    sameLetters announced.deviceName (ascii "_services._dns-sd._udp") := by
  have text : services = ascii "_services._dns-sd._udp" ++ ascii ".local" := by decide
  rw [Bool.eq_iff_iff, sameLetters, sameLetters, beq_iff_eq, beq_iff_eq, hostText, text,
    List.map_append, List.map_append, List.append_left_inj]

theorem dotted_owner {text : Bytes} {owner : Name} (split_ : text.splitOn 46 = owner) :
    dotted owner = text := by rw [← split_, dotted_splitOn]

theorem Answers.covered {packet : Stack mdnsMax}
    (answers : announced.Answers packet sameText question) : announced.Covered question := by
  obtain ⟨some_, owner, listed, same⟩ := (answers_iff packet sameText).mp answers
  refine ⟨fun part membership empty => some_ (empty ▸ membership), ?_⟩
  intro asked
  have letters : (dotted owner).map tolower = (cString (dotted question)).map tolower :=
    beq_iff_eq.mp same
  have owned : sameLetters (dotted owner) services = true := by
    rwa [sameLetters, letters]
  rcases listed with rfl | rfl | rfl | rfl | rfl
  · exact absurd owned (by decide)
  · exact absurd owned (by decide)
  · rw [dotted_owner announced.raopText_splitOn, raopText, services_ends (by decide)] at owned
    cases owned
  · rw [dotted_owner announced.airText_splitOn, airText, services_ends (by decide)] at owned
    cases owned
  · rwa [dotted_owner announced.hostText_splitOn, services_hostText] at owned

/-- Such a question has a record when it triggers the packet. -/
theorem Covered.answers {query : Bytes} (covered : announced.Covered question)
    (triggers : announced.Triggers query question) (packet : Stack mdnsMax) :
    announced.Answers packet sameText question := by
  obtain ⟨_, _, matched⟩ := triggers
  obtain ⟨text, inside, same⟩ := matched.owned
  have found : ∀ {text : Bytes} {owner : Name}, text.splitOn 46 = owner →
      sameLetters (cString (dotted question)) text = true → sameText owner question = true := by
    intro text owner split_ same
    rwa [sameText, dotted_owner split_, sameLetters, Bool.beq_comm]
  obtain ⟨raop, air, host⟩ := announced.texts_length
  refine (answers_iff packet sameText).mpr ⟨fun empty => covered.parts [] empty rfl, ?_⟩
  simp only [answered, List.mem_cons, List.not_mem_nil, or_false] at inside
  rcases inside with rfl | rfl | rfl | rfl | rfl | rfl
  · exact ⟨raopService, .inl rfl, found (by decide) same⟩
  · exact ⟨airplayService, .inr (.inl rfl), found (by decide) same⟩
  · -- the question for all services is one for the host
    have named := covered.recorded same
    rw [← services_hostText] at named
    have letters : announced.hostText.map tolower = services.map tolower := beq_iff_eq.mp named
    have asked : sameLetters (cString (dotted question)) announced.hostText = true := by
      rw [sameLetters, letters]
      exact same
    exact ⟨announced.hostOwner, .inr (.inr (.inr (.inr rfl))),
      found announced.hostText_splitOn asked⟩
  · have printed_ : printed 160 (announced.deviceName ++ ascii ".local") = announced.hostText :=
      printed_eq (host.trans_lt (by decide))
    rw [printed_] at same
    exact ⟨announced.hostOwner, .inr (.inr (.inr (.inr rfl))),
      found announced.hostText_splitOn same⟩
  · have printed_ : printed 220 (announced.deviceId ++ ascii "@" ++ announced.deviceName ++
        ascii "._raop._tcp.local") = announced.raopText := printed_eq (raop.trans_lt (by decide))
    rw [printed_] at same
    exact ⟨announced.raopOwner, .inr (.inr (.inl rfl)), found announced.raopText_splitOn same⟩
  · have printed_ : printed 180 (announced.deviceName ++ ascii "._airplay._tcp.local") =
        announced.airText := printed_eq (air.trans_lt (by decide))
    rw [printed_] at same
    exact ⟨announced.airOwner, .inr (.inr (.inr (.inl rfl))), found announced.airText_splitOn same⟩

theorem answers_labels (packet : Stack mdnsMax) : announced.Answers packet sameName question ↔
    Textual question ∧ announced.Answers packet sameText question := by
  rw [answers_iff, answers_iff]
  constructor
  · rintro ⟨some_, owner, listed, same⟩
    obtain ⟨textual, text⟩ := (listed.textual some_).sameName_iff.mp same
    exact ⟨textual, some_, owner, listed, text⟩
  · rintro ⟨textual, some_, owner, listed, text⟩
    exact ⟨some_, owner, listed, (listed.textual some_).sameName_iff.mpr ⟨textual, text⟩⟩

variable (announced)

/-- Exactly the questions of this kind are answered with a record of their name: for
the others the packet holds none, or cannot be read.  Label by label it is their name
where no label holds a dot or a zero. -/
theorem replies_answer (query : Bytes) (receiver : Stack 256) (packet : Stack mdnsMax) :
    (announced.queryMatches query receiver = some true ↔
        ∃ question, announced.Triggers query question) ∧
      ∀ question, announced.Triggers query question →
        (announced.Answers packet sameText question ↔ announced.Covered question) ∧
          (announced.Answers packet sameName question ↔
            announced.Covered question ∧ Textual question) := by
  constructor
  · obtain ⟨answer, ran, found⟩ := @queryMatches_spec announced query receiver
    rw [ran, Option.some.injEq, found]
  · intro question triggers
    have text : announced.Answers packet sameText question ↔ announced.Covered question :=
      ⟨Answers.covered, fun covered => covered.answers triggers packet⟩
    rw [answers_labels, text]
    exact ⟨Iff.rfl, and_comm⟩

end Announced

/-- The question for all services triggers a packet that has no record for it. -/
theorem services_unanswered :
    let question : Name := [ascii "_services", ascii "_dns-sd", ascii "_udp", ascii "local"]
    (∀ receiver : Stack 256,
        shortNamed.queryMatches (queryFor question) receiver = some true) ∧
      shortNamed.Triggers (queryFor question) question ∧
        ∀ packet : Stack mdnsMax, ¬ shortNamed.Answers packet sameText question ∧
          ¬ shortNamed.Answers packet sameName question := by
  intro question
  have asks : Announced.Asks (queryFor question) 12 question _ :=
    asks_queryFor (by decide) (by decide)
  have owned : shortNamed.Owned question :=
    ⟨Announced.services, .tail _ (.tail _ List.mem_cons_self), by decide⟩
  have triggers : shortNamed.Triggers (queryFor question) question :=
    ⟨1, standard_queryFor question, .here asks owned⟩
  refine ⟨?_, triggers, ?_⟩
  · intro receiver
    obtain ⟨answer, ran, found⟩ :=
      @Announced.queryMatches_spec shortNamed (queryFor question) receiver
    rw [ran, found.mpr ⟨question, triggers⟩]
  · intro packet
    have unanswered : ¬ shortNamed.Answers packet sameText question := fun answers =>
      absurd (answers.covered.recorded (by decide)) (by decide)
    exact ⟨unanswered, fun labels => unanswered ((Announced.answers_labels packet).mp labels).2⟩

end AirTizen.Discovery

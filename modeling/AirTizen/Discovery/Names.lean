import AirTizen.Discovery.Announcement

/-!
# Names of questions

`read_dns_name` of `airtizen_mdns.c`: it follows labels and compression pointers
through a packet from anyone on the network, and writes the labels with dots
between them.  It is checked against the names that RFC 1035 spells, and undoes
what `name` writes.
-/

namespace AirTizen.Discovery

open CText Cursor Dns

/-! ## `read_dns_name` -/

structure NameCursor where
  cursor : Nat
  used : Nat := 0
  resume : Nat := 0
  jumps : Nat := 0
  out : Bytes

def NameCursor.dot (state : NameCursor) : Option NameCursor :=
  if state.used = 0 then some state
  else
    (Buffer.store state.out state.used [46]).map fun out =>
      { state with used := state.used + 1, out := out }

/-- So many bytes of the packet, appended to the output. -/
def NameCursor.copy (packet : Bytes) (length : Nat) (state : NameCursor) : Option NameCursor :=
  (Buffer.loadMany packet state.cursor length).bind fun text =>
    (Buffer.store state.out state.used text).map fun out =>
      { state with cursor := state.cursor + length, used := state.used + length, out := out }

/-- The loop.  The outer `none` is an access outside of a buffer, or more rounds
than given; the inner one is -1. -/
def readNameLoop (packet : Bytes) : Nat → NameCursor → Option (Option (Nat × Bytes))
  | 0, _ => none
  | rounds + 1, state =>
      if state.cursor < packet.length then
        (Buffer.load packet state.cursor).bind fun label =>
          let state := { state with cursor := state.cursor + 1 }
          if label = 0 then
            (Buffer.store state.out state.used [0]).map fun out =>
              some (if state.resume = 0 then state.cursor else state.resume, out)
          else if label &&& 0xc0 = 0xc0 then
            if packet.length ≤ state.cursor ∨ 8 < state.jumps + 1 then some none
            else
              (Buffer.load packet state.cursor).bind fun low =>
                readNameLoop packet rounds
                  { state with
                    cursor := (label &&& 0x3f).toNat * 256 + low.toNat
                    resume := if state.resume = 0 then state.cursor + 1 else state.resume
                    jumps := state.jumps + 1 }
          else if 63 < label.toNat ∨ packet.length < state.cursor + label.toNat ∨
              state.out.length < state.used + label.toNat + 2 then some none
          else
            (state.dot.bind (·.copy packet label.toNat)).bind (readNameLoop packet rounds)
      else some none

/-- `read_dns_name` from `*position` into `out`: the new position and the output
buffer behind the call. -/
def readDnsName (packet : Bytes) (rounds position : Nat) (out : Bytes) :
    Option (Option (Nat × Bytes)) :=
  readNameLoop packet rounds { cursor := position, out := out }

/-! ## One label -/

def appendLabel (text label : Bytes) : Bytes := if text = [] then label else text ++ 46 :: label

def joined (text : Bytes) (labels : Name) : Bytes := labels.foldl appendLabel text

theorem dotted_cons (label next : Bytes) (rest : Name) :
    dotted (label :: next :: rest) = label ++ 46 :: dotted (next :: rest) := rfl

theorem joined_nonempty {text : Bytes} (some : text ≠ []) (label : Bytes) (rest : Name) :
    joined text (label :: rest) = text ++ 46 :: dotted (label :: rest) := by
  induction rest generalizing text label with
  | nil => rw [joined, List.foldl_cons, List.foldl_nil, appendLabel, if_neg some, dotted]
  | cons next rest inductionHypothesis =>
      have longer : text ++ 46 :: label ≠ [] := List.append_ne_nil_of_left_ne_nil some _
      have later := inductionHypothesis longer next
      rw [joined, List.foldl_cons, appendLabel, if_neg some, ← joined, later, dotted_cons label,
        List.append_assoc]
      rfl

theorem joined_empty {labels : Name} (nonempty : ∀ label ∈ labels, label ≠ []) :
    joined [] labels = dotted labels := by
  cases labels with
  | nil => rfl
  | cons label rest =>
      have first : joined [] (label :: rest) = joined label rest := rfl
      rw [first]
      cases rest with
      | nil => rfl
      | cons next rest =>
          rw [joined_nonempty (nonempty label List.mem_cons_self), dotted_cons]

theorem length_joined (text : Bytes) (labels : Name) :
    text.length ≤ (joined text labels).length := by
  induction labels generalizing text with
  | nil => exact Nat.le_refl _
  | cons label rest inductionHypothesis =>
      have step : text.length ≤ (appendLabel text label).length := by
        unfold appendLabel
        split
        next empty => simp [empty]
        · rw [List.length_append]
          exact Nat.le_add_right _ _
      exact step.trans (inductionHypothesis (appendLabel text label))

section Loop

variable {packet text buffer : Bytes}

/-- A dot, if it needs one, and the label behind the text. -/
theorem copy_eq {label : Bytes} {cursor resume jumps : Nat}
    (loaded : Buffer.loadMany packet cursor label.length = some label)
    (room : text.length + label.length + 2 ≤ buffer.length) :
    ((NameCursor.mk cursor text.length resume jumps (text ++ buffer.drop text.length)).dot.bind
        (·.copy packet label.length)) =
      some ⟨cursor + label.length, (appendLabel text label).length, resume, jumps,
        appendLabel text label ++ buffer.drop (appendLabel text label).length⟩ := by
  have stored : ∀ front cells : Bytes, front.length + cells.length ≤ buffer.length →
      Buffer.store (front ++ buffer.drop front.length) front.length cells =
        some (front ++ cells ++ buffer.drop (front ++ cells).length) := by
    intro front cells fits
    rw [Buffer.store_append, List.drop_drop, List.length_append, List.append_assoc]
    rw [List.length_drop]
    omega
  unfold NameCursor.dot appendLabel
  by_cases empty : text = []
  · subst empty
    have written := stored [] label (by simp only [List.length_nil] at room ⊢; omega)
    simp only [List.length_nil, List.nil_append] at written ⊢
    simp only [if_true, Option.bind_some, NameCursor.copy, loaded, written, Option.map_some,
      Nat.zero_add]
  · have used : text.length ≠ 0 := fun zero => empty (List.eq_nil_of_length_eq_zero zero)
    have dot := stored text [46] (by simp only [List.length_singleton]; omega)
    have whole : (text ++ [46]).length = text.length + 1 := List.length_append
    have written := stored (text ++ [46]) label (by rw [whole]; omega)
    rw [whole] at dot written
    simp only [if_neg used, if_neg empty, dot, Option.map_some, Option.bind_some,
      NameCursor.copy, loaded, written]
    simp only [List.append_assoc, List.singleton_append, List.length_append, List.length_cons]
    simp only [Nat.add_assoc, Nat.add_comm 1]

theorem pointer_mark (byte : UInt8) : byte &&& 0xc0 = 0xc0 ↔ 192 ≤ byte.toNat := by
  revert byte
  exact forall_byte (by decide +kernel)

theorem pointer_high {byte : UInt8} (mark : 192 ≤ byte.toNat) :
    (byte &&& 0x3f).toNat = byte.toNat - 192 := by
  have small := byte.toNat_lt
  have low : (byte &&& 0x3f).toNat = byte.toNat % 64 := by
    rw [UInt8.toNat_and]
    exact Nat.and_two_pow_sub_one_eq_mod byte.toNat 6
  omega

/-- What the loop has found out behind the text and the pointers so far. -/
def Found (packet text buffer : Bytes) (cursor resume jumps : Nat) (answer : Nat × Bytes) : Prop :=
  ∃ name taken behind, Spells packet cursor name taken behind ∧ jumps + taken ≤ 8 ∧
    (joined text name).length < buffer.length ∧
    answer = (if resume = 0 then behind else resume,
      joined text name ++ 0 :: buffer.drop ((joined text name).length + 1))

section Found

variable {cursor resume jumps : Nat} {label : UInt8}

theorem found_root (first : packet[cursor]? = some 0) (room : text.length < buffer.length)
    (few : jumps ≤ 8) (answer : Nat × Bytes) :
    some (if resume = 0 then cursor + 1 else resume, text ++ 0 :: buffer.drop (text.length + 1)) =
      some answer ↔ Found packet text buffer cursor resume jumps answer := by
  constructor
  · rintro ⟨rfl⟩
    exact ⟨[], 0, cursor + 1, .root first, few, room, rfl⟩
  · rintro ⟨name, taken, behind, spells, _, _, rfl⟩
    obtain ⟨rfl, _, rfl⟩ := (Spells.root first).unique spells
    rfl

/-- A pointer leads to another position, and settles where the name ends. -/
theorem found_pointer {low : UInt8} (mark : 192 ≤ label.toNat)
    (first : packet[cursor]? = some label) (second : packet[cursor + 1]? = some low)
    (answer : Nat × Bytes) :
    Found packet text buffer ((label.toNat - 192) * 256 + low.toNat)
        (if resume = 0 then cursor + 1 + 1 else resume) (jumps + 1) answer ↔
      Found packet text buffer cursor resume jumps answer := by
  have resumed : ∀ after : Nat,
      (if (if resume = 0 then cursor + 1 + 1 else resume) = 0 then after
        else if resume = 0 then cursor + 1 + 1 else resume) =
      if resume = 0 then cursor + 2 else resume := by
    intro after
    by_cases fresh : resume = 0
    · simp [fresh]
    · simp [fresh]
  constructor
  · rintro ⟨name, taken, behind, spells, pointers, fits, rfl⟩
    rw [resumed]
    exact ⟨name, taken + 1, cursor + 2, .pointer mark first second spells, by omega, fits, rfl⟩
  · rintro ⟨name, taken, behind, spells, pointers, fits, rfl⟩
    obtain ⟨byte, again, cases⟩ := spells_iff.mp spells
    obtain rfl := Option.some.inj (again.symm.trans first)
    obtain ⟨rfl, _⟩ | ⟨_, small, _⟩ | ⟨_, rfl, next, before, after, also, rfl, rest⟩ := cases
    · exact absurd mark (by decide)
    · omega
    · obtain rfl := Option.some.inj (also.symm.trans second)
      exact ⟨name, before, after, rest, by omega, fits, by rw [resumed]⟩

theorem found_label {copied : Bytes} (some_ : copied ≠ []) (short : copied.length ≤ 63)
    (first : packet[cursor]? = some (UInt8.ofNat copied.length))
    (loaded : Buffer.loadMany packet (cursor + 1) copied.length = some copied)
    (answer : Nat × Bytes) :
    Found packet (appendLabel text copied) buffer (cursor + 1 + copied.length) resume jumps
        answer ↔ Found packet text buffer cursor resume jumps answer := by
  constructor
  · rintro ⟨name, taken, behind, spells, pointers, fits, rfl⟩
    exact ⟨copied :: name, taken, behind, .label some_ short first loaded spells, pointers, fits,
      rfl⟩
  · rintro ⟨name, taken, behind, spells, pointers, fits, rfl⟩
    have number : (UInt8.ofNat copied.length).toNat = copied.length := by
      rw [UInt8.toNat_ofNat']
      omega
    obtain ⟨byte, again, cases⟩ := spells_iff.mp spells
    obtain rfl := Option.some.inj (again.symm.trans first)
    rw [number] at cases
    obtain ⟨zero, _⟩ | ⟨_, _, other, rest, rfl, also, later⟩ | ⟨high, _⟩ := cases
    · rw [← UInt8.toNat_inj, number] at zero
      exact absurd (List.eq_nil_of_length_eq_zero zero) some_
    · obtain rfl := Option.some.inj (also.symm.trans loaded)
      exact ⟨rest, taken, behind, later, pointers, fits, rfl⟩
    · omega

theorem not_found_cut (cut : packet.length ≤ cursor ∨ ∃ label, packet[cursor]? = some label ∧
      192 ≤ label.toNat ∧ (packet.length ≤ cursor + 1 ∨ 8 < jumps + 1)) (answer : Nat × Bytes) :
    ¬ Found packet text buffer cursor resume jumps answer := by
  rintro ⟨name, taken, behind, spells, pointers, _⟩
  obtain ⟨byte, again, cases⟩ := spells_iff.mp spells
  have inside := (List.getElem?_eq_some_iff.mp again).1
  rcases cut with outside | ⟨label, first, mark, stop⟩
  · omega
  · obtain rfl := Option.some.inj (again.symm.trans first)
    obtain ⟨rfl, _⟩ | ⟨_, small, _⟩ | ⟨_, _, low, before, _, second, rfl, _⟩ := cases
    · exact absurd mark (by decide)
    · omega
    · have beyond := (List.getElem?_eq_some_iff.mp second).1
      omega

/-- A label is too long, cut off by the packet, or too much for the output.  In 65
bytes the first label fits without its dot. -/
theorem not_found_label (capacity : 65 ≤ buffer.length) (first : packet[cursor]? = some label)
    (positive : label ≠ 0) (unmarked : ¬ 192 ≤ label.toNat)
    (bad : 63 < label.toNat ∨ packet.length < cursor + 1 + label.toNat ∨
      buffer.length < text.length + label.toNat + 2) (answer : Nat × Bytes) :
    ¬ Found packet text buffer cursor resume jumps answer := by
  rintro ⟨name, taken, behind, spells, _, fits, _⟩
  obtain ⟨byte, again, cases⟩ := spells_iff.mp spells
  obtain rfl := Option.some.inj (again.symm.trans first)
  obtain ⟨zero, _⟩ | ⟨_, short, copied, rest, rfl, loaded, _⟩ | ⟨high, _⟩ := cases
  · exact positive zero
  · have length := Buffer.loadMany_length loaded
    have within := Buffer.loadMany_inside loaded
    have longer := length_joined (appendLabel text copied) rest
    change (joined (appendLabel text copied) rest).length < buffer.length at fits
    unfold appendLabel at longer fits
    by_cases empty : text = []
    · subst empty
      simp only [List.length_nil] at bad
      omega
    · rw [if_neg empty] at longer fits
      rw [List.length_append, List.length_cons] at longer
      omega
  · exact unmarked high

end Found

theorem length_appendLabel {label : Bytes} (some : label ≠ []) :
    text.length < (appendLabel text label).length ∧
      (appendLabel text label).length < text.length + label.length + 2 := by
  have positive := List.length_pos_of_ne_nil some
  unfold appendLabel
  split
  next empty =>
    rw [empty, List.length_nil]
    omega
  · rw [List.length_append, List.length_cons]
    omega

/-- Every round writes a label or follows one of the eight pointers, so the loop
ends; it stays inside its buffers, and finds what the packet spells. -/
theorem readNameLoop_spec {rounds cursor resume jumps : Nat} (capacity : 65 ≤ buffer.length)
    (room : text.length < buffer.length) (few : jumps ≤ 8)
    (enough : buffer.length - text.length + (8 - jumps) < rounds) :
    ∃ result, readNameLoop packet rounds
        ⟨cursor, text.length, resume, jumps, text ++ buffer.drop text.length⟩ = some result ∧
      ∀ answer, result = some answer ↔ Found packet text buffer cursor resume jumps answer := by
  induction rounds generalizing text cursor resume jumps with
  | zero => exact absurd enough (Nat.not_lt_zero _)
  | succ rounds inductionHypothesis =>
      have refused : (∀ answer, ¬ Found packet text buffer cursor resume jumps answer) →
          ∃ result, some (none : Option (Nat × Bytes)) = some result ∧
            ∀ answer, result = some answer ↔
              Found packet text buffer cursor resume jumps answer :=
        fun nothing => ⟨none, rfl, fun answer =>
          iff_of_false (fun same => by cases same) (nothing answer)⟩
      have size : (text ++ buffer.drop text.length).length = buffer.length := by
        rw [List.length_append, List.length_drop]
        omega
      rw [readNameLoop]
      by_cases inside : cursor < packet.length
      swap
      · rw [if_neg inside]
        exact refused (not_found_cut (.inl (Nat.not_lt.mp inside)))
      obtain ⟨label, first⟩ : ∃ label, packet[cursor]? = some label :=
        ⟨_, List.getElem?_eq_getElem inside⟩
      have load : Buffer.load packet cursor = some label := first
      rw [if_pos inside, load, Option.bind_some]
      simp only
      by_cases zero : label = 0
      · -- the root
        subst zero
        have stored : Buffer.store (text ++ buffer.drop text.length) text.length [0] =
            some (text ++ 0 :: buffer.drop (text.length + 1)) := by
          rw [Buffer.store_append, List.drop_drop]
          · rfl
          · rw [List.length_drop, List.length_singleton]
            omega
        rw [if_pos rfl, stored]
        exact ⟨_, rfl, found_root first room few⟩
      rw [if_neg zero]
      by_cases mark : label &&& 0xc0 = 0xc0
      · -- a pointer
        have high := (pointer_mark label).mp mark
        rw [if_pos mark]
        by_cases stop : packet.length ≤ cursor + 1 ∨ 8 < jumps + 1
        · rw [if_pos stop]
          exact refused (not_found_cut (.inr ⟨label, first, high, stop⟩))
        rw [if_neg stop]
        rw [not_or, Nat.not_le, Nat.not_lt] at stop
        obtain ⟨low, second⟩ : ∃ low, packet[cursor + 1]? = some low :=
          ⟨_, List.getElem?_eq_getElem stop.1⟩
        have loadLow : Buffer.load packet (cursor + 1) = some low := second
        rw [loadLow, Option.bind_some, pointer_high high]
        obtain ⟨result, ran, found⟩ := @inductionHypothesis text
          ((label.toNat - 192) * 256 + low.toNat)
          (if resume = 0 then cursor + 1 + 1 else resume) (jumps + 1) room stop.2 (by omega)
        exact ⟨result, ran, fun answer =>
          (found answer).trans (found_pointer high first second answer)⟩
      · -- a label
        rw [if_neg mark, size]
        have unmarked : ¬ 192 ≤ label.toNat := (pointer_mark label).not.mp mark
        by_cases bad : 63 < label.toNat ∨ packet.length < cursor + 1 + label.toNat ∨
            buffer.length < text.length + label.toNat + 2
        · rw [if_pos bad]
          exact refused (not_found_label capacity first zero unmarked bad)
        rw [if_neg bad]
        rw [not_or, not_or, Nat.not_lt, Nat.not_lt, Nat.not_lt] at bad
        obtain ⟨short, within, fitting⟩ := bad
        obtain ⟨copied, loaded⟩ : ∃ copied,
            Buffer.loadMany packet (cursor + 1) label.toNat = some copied := ⟨_, if_pos within⟩
        have length := Buffer.loadMany_length loaded
        have some_ : copied ≠ [] := by
          rintro rfl
          exact zero (UInt8.toNat_inj.mp length.symm)
        have firstCopied : packet[cursor]? = some (UInt8.ofNat copied.length) := by
          rw [first, length, UInt8.ofNat_toNat]
        rw [← length] at loaded fitting short ⊢
        rw [copy_eq loaded fitting, Option.bind_some]
        obtain ⟨longer, bounded⟩ := @length_appendLabel text copied some_
        obtain ⟨result, ran, found⟩ := @inductionHypothesis (appendLabel text copied)
          (cursor + 1 + copied.length) resume jumps (by omega) few (by omega)
        exact ⟨result, ran, fun answer =>
          (found answer).trans (found_label some_ short firstCopied loaded answer)⟩

/-- The function ends and stays inside its buffers.  It succeeds on the names that the
packet spells with at most eight pointers, as far as their text fits. -/
theorem readDnsName_spec {rounds : Nat} (capacity : 65 ≤ buffer.length)
    (enough : buffer.length + 8 < rounds) (position : Nat) :
    ∃ result, readDnsName packet rounds position buffer = some result ∧
      ∀ behind out, result = some (behind, out) ↔
        ∃ name jumps, Spells packet position name jumps behind ∧ jumps ≤ 8 ∧
          (dotted name).length < buffer.length ∧
          out = dotted name ++ 0 :: buffer.drop ((dotted name).length + 1) := by
  obtain ⟨result, ran, found⟩ := @readNameLoop_spec packet [] buffer rounds position 0 0
    capacity (by rw [List.length_nil]; omega) (by decide) (by rw [List.length_nil]; omega)
  refine ⟨result, ran, fun behind out => (found (behind, out)).trans ⟨?_, ?_⟩⟩
  · rintro ⟨name, jumps, after, spells, pointers, fits, same⟩
    rw [joined_empty fun label membership => (spells.short label membership).1] at fits same
    rw [if_pos rfl, Prod.mk.injEq] at same
    obtain ⟨rfl, rfl⟩ := same
    exact ⟨name, jumps, spells, by omega, fits, rfl⟩
  · rintro ⟨name, jumps, spells, pointers, fits, rfl⟩
    have text := joined_empty fun label membership => (spells.short label membership).1
    refine ⟨name, jumps, behind, spells, by omega, by rwa [text], ?_⟩
    rw [text]
    rfl

end Loop

/-! ## Decoding what `name` writes -/

def PointsTo (packet : Bytes) (position target : Nat) : Prop :=
  packet[position]? = some (UInt8.ofNat (192 + target / 256)) ∧
    packet[position + 1]? = some (UInt8.ofNat target)

theorem spells_pointer {packet : Bytes} {position target behind : Nat} {labels : Name}
    (points : PointsTo packet position target) (near : target < 2 ^ 14)
    (spells : Spells packet target labels 0 behind) :
    Spells packet position labels 1 (position + 2) := by
  have high : (UInt8.ofNat (192 + target / 256)).toNat = 192 + target / 256 := by
    rw [UInt8.toNat_ofNat']
    omega
  have low : (UInt8.ofNat target).toNat = target % 256 := by rw [UInt8.toNat_ofNat']
  have whole : (192 + target / 256 - 192) * 256 + target % 256 = target := by omega
  have later : Spells packet (((UInt8.ofNat (192 + target / 256)).toNat - 192) * 256 +
      (UInt8.ofNat target).toNat) labels 0 behind := by rwa [high, low, whole]
  refine .pointer ?_ points.1 points.2 later
  rw [high]
  exact Nat.le_add_right _ _

theorem appends_dotted {labels : Name} (plain : ∀ label ∈ labels, Plain label) :
    Appends (name (dotted labels)) (nameWire labels) := by
  by_cases some_ : labels = []
  · subst some_
    have root : name (dotted []) = put [0] := by
      rw [name, if_pos]
      rfl
    rw [root]
    exact appends_put [0]
  · exact appends_name some_ plain

/-- A name in a packet from anyone is decoded or refused inside of the buffers, after
at most eight pointers and as many labels as fit the output; and decoding undoes
`name`, at the name itself and at every pointer to it. -/
theorem names_decoded (packet buffer : Bytes) (rounds position : Nat)
    (capacity : 65 ≤ buffer.length) (enough : buffer.length + 8 < rounds) :
    (∃ result, readDnsName packet rounds position buffer = some result ∧
      ∀ behind out, result = some (behind, out) ↔
        ∃ name jumps, Spells packet position name jumps behind ∧ jumps ≤ 8 ∧
          (dotted name).length < buffer.length ∧
          out = dotted name ++ 0 :: buffer.drop ((dotted name).length + 1)) ∧
      ∀ (labels : Name) (front back : Bytes), (∀ label ∈ labels, Plain label) →
        (dotted labels).length < buffer.length → (nameWire labels).length ≤ back.length →
          let out := dotted labels ++ 0 :: buffer.drop ((dotted labels).length + 1)
          ∃ written behind, name (dotted labels) (front ++ back, front.length) =
              some (written, behind) ∧
            readDnsName written rounds front.length buffer = some (some (behind, out)) ∧
            ∀ pointer, front.length < 2 ^ 14 → PointsTo written pointer front.length →
              readDnsName written rounds pointer buffer = some (some (pointer + 2, out)) := by
  refine ⟨readDnsName_spec capacity enough position, ?_⟩
  intro labels front back plain fits room out
  have spells := spells_wire (fun label membership =>
    ⟨(plain label membership).1, (plain label membership).2.1⟩) front
      (back.drop (nameWire labels).length)
  have written := appends_dotted plain front back room
  rw [List.append_assoc] at written
  generalize front ++ (nameWire labels ++ back.drop (nameWire labels).length) = whole at *
  -- whatever spells the labels is decoded to them
  have decoded : ∀ {start jumps behind : Nat}, Spells whole start labels jumps behind →
      jumps ≤ 8 → readDnsName whole rounds start buffer = some (some (behind, out)) := by
    intro start jumps behind found few
    obtain ⟨result, ran, answers⟩ := @readDnsName_spec whole buffer rounds capacity enough start
    rw [ran, (answers behind out).mpr ⟨labels, jumps, found, few, fits, rfl⟩]
  refine ⟨whole, _, written, decoded spells (by decide), ?_⟩
  intro pointer near points
  exact decoded (spells_pointer points near spells) (by decide)

/-- A pointer to a name in front of it. -/
theorem names_decoded_pointer :
    let packet : Bytes := [1, 97, 2, 98, 99, 0, 192, 2]
    let buffer : Bytes := List.replicate 65 255
    (∃ result, readDnsName packet 80 6 buffer = some result ∧
      ∀ behind out, result = some (behind, out) ↔
        ∃ name jumps, Spells packet 6 name jumps behind ∧ jumps ≤ 8 ∧
          (dotted name).length < buffer.length ∧
          out = dotted name ++ 0 :: buffer.drop ((dotted name).length + 1)) :=
  (names_decoded [1, 97, 2, 98, 99, 0, 192, 2] (List.replicate 65 255) 80 6 (by decide)
    (by decide)).1

end AirTizen.Discovery

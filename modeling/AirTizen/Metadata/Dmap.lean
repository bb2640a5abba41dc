import AirTizen.Library.TagLength
import AirTizen.Library.Text

/-!
# Texts of a track

`parse` and `airtizen_metadata_parse` of `airtizen_metadata.c`, with the indices and
the memory accesses of the source.  The texts of a track come as nested items, and
are published when all of them are well formed.
-/

namespace AirTizen.Metadata

open CText TagLength

/-! ## `parse` -/

/-- The arrays of 256 `char`s in `airtizen_metadata_state`. -/
structure Texts where
  title : Bytes
  artist : Bytes
  album : Bytes

structure State extends Texts where
  artwork : Nat
  progress : Nat
  total : Nat

/-- Which array `out` points to. -/
inductive Field where
  | title
  | artist
  | album
  deriving DecidableEq

namespace Texts

def get (texts : Texts) : Field → Bytes
  | .title => texts.title
  | .artist => texts.artist
  | .album => texts.album

def set (texts : Texts) : Field → Bytes → Texts
  | .title, cells => { texts with title := cells }
  | .artist, cells => { texts with artist := cells }
  | .album, cells => { texts with album := cells }

end Texts

def container (tag : Bytes) : Bool := tag == ascii "mlit" || tag == ascii "mdcl"

def target (tag : Bytes) : Option Field :=
  if tag = ascii "minm" then some .title
  else if tag = ascii "asar" then some .artist
  else if tag = ascii "asal" then some .album
  else none

def copyText (data : Bytes) (start length : Nat) (out : Bytes) : Option Bytes :=
  let copied := if 255 < length then 255 else length
  (Buffer.loadMany data start copied).bind fun text =>
    (Buffer.store out 0 text).bind fun out => Buffer.store out copied [0]

/-- The loop of `parse` over the `size` bytes at `data+base`, with the check at the
head of the call that it makes.  The outer `none` is an access outside of a buffer, or
more rounds than given; the inner one is -1. -/
def parseLoop (data : Bytes) : Nat → Nat → Nat → Nat → Nat → Texts → Option (Option Texts)
  | 0, _, _, _, _, _ => none
  | rounds + 1, base, size, depth, position, next =>
      if position < size then
        if size - position < 8 then some none
        else
          (Buffer.loadMany data (base + position) 8).bind fun header =>
            let length := lengthField header
            let tag := header.take 4
            let position := position + 8
            if size - position < length then some none
            else if container tag then
              (if 8 < depth + 1 then some none
                else parseLoop data rounds (base + position) length (depth + 1) 0 next).bind
                fun parsed =>
                  match parsed with
                  | none => some none
                  | some next => parseLoop data rounds base size depth (position + length) next
            else
              (match target tag with
                | none => some next
                | some field =>
                    (copyText data (base + position) length (next.get field)).map
                      (next.set field)).bind fun next =>
                parseLoop data rounds base size depth (position + length) next
      else some (some next)

def parse (data : Bytes) (rounds base size depth : Nat) (next : Texts) : Option (Option Texts) :=
  if 8 < depth then some none else parseLoop data rounds base size depth 0 next

/-- Arrays behind `memset`. -/
def zeroed : Texts where
  title := List.replicate 256 0
  artist := List.replicate 256 0
  album := List.replicate 256 0

/-- `airtizen_metadata_parse`: the result and the published state behind it.  There are
no bytes at a null pointer. -/
def metadataParse (rounds : Nat) (data : Option Bytes) (state : State) : Option (Int × State) :=
  match data with
  | none => some (-1, state)
  | some data =>
      if data.length = 0 ∨ 65536 < data.length then some (-1, state)
      else
        (parse data rounds 0 data.length 0 zeroed).map fun parsed =>
          match parsed with
          | none => (-1, state)
          | some next => (0, { state with toTexts := next })

/-! ## One text -/

def Texts.Sized (texts : Texts) : Prop := ∀ field, (texts.get field).length = 256

theorem Texts.get_set (texts : Texts) (field other : Field) (cells : Bytes) :
    (texts.set field cells).get other = if field = other then cells else texts.get other := by
  cases field <;> cases other <;> rfl

theorem copyText_eq (front payload back out : Bytes) (size : out.length = 256) :
    ∃ cells, copyText (front ++ (payload ++ back)) front.length payload.length out = some cells ∧
      cells.length = 256 ∧ cString cells = cString (payload.take 255) := by
  have copied : (if 255 < payload.length then 255 else payload.length) =
      (payload.take 255).length := by
    rw [List.length_take]
    split <;> omega
  have small : (payload.take 255).length ≤ 255 := List.length_take_le _ _
  have inside : (payload.take 255).length ≤ (payload ++ back).length := by
    rw [List.length_append, List.length_take]
    omega
  have text : (payload ++ back).take (payload.take 255).length = payload.take 255 := by
    rw [List.take_append_of_le_length (by rw [List.length_take]; omega), List.length_take,
      ← List.take_take, List.take_length]
  have first := Buffer.store_append [] out (payload.take 255) (by omega)
  have room : 1 ≤ (out.drop (payload.take 255).length).length := by
    rw [List.length_drop]
    omega
  have last := Buffer.store_append (payload.take 255) (out.drop (payload.take 255).length) [0] room
  rw [List.nil_append, List.nil_append, List.length_nil] at first
  refine ⟨payload.take 255 ++ 0 :: (out.drop (payload.take 255).length).drop 1, ?_, ?_, ?_⟩
  · unfold copyText
    simp only [copied, Buffer.loadMany_append front _ inside, text, Option.bind_some, first, last]
    rfl
  · rw [List.length_append, List.length_cons, List.length_drop, List.length_drop]
    omega
  · exact cString_text _ _

/-! ## Items -/

def Field.tag : Field → Bytes
  | .title => ascii "minm"
  | .artist => ascii "asar"
  | .album => ascii "asal"

theorem target_eq_some {tag : Bytes} {field : Field} : target tag = some field ↔ tag = field.tag := by
  constructor
  · unfold target
    intro found
    split at found
    next same =>
      cases found
      exact same
    split at found
    next same =>
      cases found
      exact same
    split at found
    next same =>
      cases found
      exact same
    cases found
  · rintro rfl
    cases field <;> decide

def latest (field : Field) (leaves : List Leaf) : Option Leaf :=
  (leaves.filter fun leaf => leaf.tag = field.tag).getLast?

/-- The text of a field behind the items, when it had another in front of them. -/
def shown (field : Field) (leaves : List Leaf) (before : Bytes) : Bytes :=
  match latest field leaves with
  | some leaf => cString (leaf.payload.take 255)
  | none => before

theorem shown_append (field : Field) (inner later : List Leaf) (before : Bytes) :
    shown field (inner ++ later) before = shown field later (shown field inner before) := by
  rw [shown, shown, shown, latest, List.filter_append, List.getLast?_append, ← latest, ← latest]
  cases latest field later <;> rfl

theorem shown_leaf (field : Field) (leaf : Leaf) (before : Bytes) :
    shown field [leaf] before =
      if leaf.tag = field.tag then cString (leaf.payload.take 255) else before := by
  rw [shown, latest]
  by_cases same : leaf.tag = field.tag
  · simp only [same, decide_true, List.filter_cons_of_pos, if_pos]
    rfl
  · simp [same]

structure Recorded (leaves : List Leaf) (before after : Texts) : Prop where
  sized : after.Sized
  shown : ∀ field, cString (after.get field) = shown field leaves (cString (before.get field))

theorem Recorded.append {inner later : List Leaf} {before between after : Texts}
    (first : Recorded inner before between) (second : Recorded later between after) :
    Recorded (inner ++ later) before after where
  sized := second.sized
  shown field := by rw [second.shown, first.shown, shown_append]

/-- One item that is no container. -/
theorem recorded_leaf {next : Texts} (sized : next.Sized) (front tag payload back : Bytes) :
    ∃ after, (match target tag with
        | none => some next
        | some field =>
            (copyText (front ++ (payload ++ back)) front.length payload.length
              (next.get field)).map (next.set field)) = some after ∧
      Recorded [⟨tag, payload⟩] next after := by
  cases found : target tag with
  | none =>
      refine ⟨next, rfl, sized, fun field => ?_⟩
      rw [shown_leaf, if_neg]
      rintro rfl
      rw [target_eq_some.mpr rfl] at found
      cases found
  | some field =>
      obtain ⟨cells, copied, size, text⟩ := copyText_eq front payload back _ (sized field)
      refine ⟨next.set field cells, by simp only [copied, Option.map_some], fun other => ?_,
        fun other => ?_⟩
      · rw [Texts.get_set]
        split
        · exact size
        · exact sized other
      · obtain rfl := target_eq_some.mp found
        rw [shown_leaf, Texts.get_set]
        have injective : field.tag = other.tag ↔ field = other := by
          cases field <;> cases other <;> decide
        by_cases same : field = other
        · rw [if_pos same, if_pos (injective.mpr same), text]
        · rw [if_neg same, if_neg (injective.not.mpr same)]

/-- What `parse` makes of the bytes, with so many levels of containers left. -/
def Parsed (levels : Nat) (bytes : Bytes) (before : Texts) : Option Texts → Prop
  | some after => ∃ leaves, Sequence container levels bytes leaves ∧ Recorded leaves before after
  | none => ∀ leaves, ¬ Sequence container levels bytes leaves

/-! ## The loop -/

/-- With so many rounds the loop ends and stays inside of the bytes; it accepts the sequences
of items, and records their texts. -/
def Reads (rounds : Nat) : Prop :=
  ∀ (bytes front back : Bytes) (base depth position : Nat) (next : Texts),
    bytes.length < rounds → base + position = front.length → depth ≤ 8 → next.Sized →
      ∃ parsed, parseLoop (front ++ (bytes ++ back)) rounds base (position + bytes.length) depth
        position next = some parsed ∧ Parsed (8 - depth) bytes next parsed

theorem parseLoop_refused {bytes : Bytes} (nonempty : bytes ≠ [])
    (cut : bytes.length < 8 ∨ bytes.length - 8 < lengthField bytes) {front : Bytes} (back : Bytes)
    {base position : Nat} (start : base + position = front.length) (rounds depth : Nat)
    (next : Texts) :
    parseLoop (front ++ (bytes ++ back)) (rounds + 1) base (position + bytes.length) depth position
      next = some none := by
  have some_ := List.length_pos_of_ne_nil nonempty
  rw [parseLoop, if_pos (Nat.lt_add_of_pos_right some_), Nat.add_sub_cancel_left]
  by_cases short : bytes.length < 8
  · rw [if_pos short]
  have long := Nat.le_of_not_lt short
  have inside : 8 ≤ (bytes ++ back).length := by
    rw [List.length_append]
    omega
  have header : lengthField (bytes.take 8) = lengthField bytes := by
    rw [lengthField, lengthField, List.drop_take, List.take_take]
    rfl
  have behind : position + bytes.length - (position + 8) = bytes.length - 8 := by omega
  rw [if_neg short, start, Buffer.loadMany_append front _ inside,
    List.take_append_of_le_length long, Option.bind_some]
  simp only [header, behind]
  rw [if_pos (cut.resolve_left short)]

/-- An item that can be written stands behind `front`. -/
structure ItemAt (tag payload front : Bytes) (base position : Nat) : Prop where
  size : tag.length = 4
  small : payload.length < 2 ^ 32
  start : base + position = front.length

namespace ItemAt

variable {tag payload front rest back : Bytes} {base position rounds depth : Nat} {next : Texts}

/-- The header of an item is read, and its tag decides. -/
theorem parseLoop (item : ItemAt tag payload front base position) :
    parseLoop (front ++ (itemWire tag payload ++ rest ++ back)) (rounds + 1) base
        (position + (itemWire tag payload ++ rest).length) depth position next =
      if container tag then
        (if 8 < depth + 1 then some none
          else Metadata.parseLoop (front ++ (itemWire tag payload ++ rest ++ back)) rounds
            (base + (position + 8)) payload.length (depth + 1) 0 next).bind fun parsed =>
          match parsed with
          | none => some none
          | some next =>
              Metadata.parseLoop (front ++ (itemWire tag payload ++ rest ++ back)) rounds base
                (position + 8 + payload.length + rest.length) depth
                (position + 8 + payload.length) next
      else
        (match target tag with
          | none => some next
          | some field =>
              (copyText (front ++ (itemWire tag payload ++ rest ++ back)) (base + (position + 8))
                payload.length (next.get field)).map (next.set field)).bind fun next =>
          Metadata.parseLoop (front ++ (itemWire tag payload ++ rest ++ back)) rounds base
            (position + 8 + payload.length + rest.length) depth
            (position + 8 + payload.length) next := by
  have start := item.start
  have length : (itemWire tag payload ++ rest).length = 8 + payload.length + rest.length := by
    rw [List.length_append, length_itemWire item.size]
  have total : position + (itemWire tag payload ++ rest).length =
      position + 8 + payload.length + rest.length := by omega
  have inside : 8 ≤ (itemWire tag payload ++ rest ++ back).length := by
    rw [List.length_append]
    omega
  have header : lengthField ((itemWire tag payload ++ rest).take 8) = payload.length := by
    rw [← lengthField_itemWire item.size item.small rest, lengthField, lengthField,
      List.drop_take, List.take_take]
    rfl
  have first : ((itemWire tag payload ++ rest).take 8).take 4 = tag := by
    rw [List.take_take, itemWire, List.append_assoc]
    exact List.take_left' item.size
  have behind : position + 8 + payload.length + rest.length - (position + 8) =
      payload.length + rest.length := by omega
  rw [Metadata.parseLoop, if_pos (by omega), if_neg (by omega), start,
    Buffer.loadMany_append front _ inside, List.take_append_of_le_length (by omega),
    Option.bind_some]
  simp only [header, first, total, behind]
  rw [if_neg (by omega)]

theorem payload_eq (item : ItemAt tag payload front base position) :
    front ++ (itemWire tag payload ++ rest ++ back) =
        (front ++ (tag ++ Octets.ofNat 4 payload.length)) ++ (payload ++ (rest ++ back)) ∧
      base + (position + 8) = (front ++ (tag ++ Octets.ofNat 4 payload.length)).length := by
  have start := item.start
  constructor
  · simp only [itemWire, List.append_assoc]
  · rw [List.length_append, List.length_append, Octets.length_ofNat, item.size]
    omega

theorem goesOn (item : ItemAt tag payload front base position) (reads : Reads rounds)
    (enough : rest.length < rounds) (shallow : depth ≤ 8) (sized : next.Sized) :
    ∃ parsed, Metadata.parseLoop (front ++ (itemWire tag payload ++ rest ++ back)) rounds base
        (position + 8 + payload.length + rest.length) depth (position + 8 + payload.length)
        next = some parsed ∧ Parsed (8 - depth) rest next parsed := by
  have start := item.start
  have split : front ++ (itemWire tag payload ++ rest ++ back) =
      (front ++ itemWire tag payload) ++ (rest ++ back) := by
    simp only [List.append_assoc]
  rw [split]
  refine reads rest (front ++ itemWire tag payload) back base depth _ next enough ?_ shallow sized
  rw [List.length_append, length_itemWire item.size]
  omega

theorem container_refused (item : ItemAt tag payload front base position)
    (nested : container tag = true) {levels : Nat}
    (refused : ∀ fewer inner, levels = fewer + 1 → ¬ Sequence container fewer payload inner) :
    Parsed levels (itemWire tag payload ++ rest) next none := by
  intro leaves sequence
  rcases (sequence_item item.size item.small).mp sequence with
    ⟨plain, _⟩ | ⟨_, fewer, inner, _, deeper, _, content, _⟩
  · rw [nested] at plain
    cases plain
  · exact refused fewer inner deeper content

/-- A container: its payload, and then the rest. -/
theorem container (item : ItemAt tag payload front base position) (reads : Reads rounds)
    (nested : container tag = true) (enough : payload.length + rest.length < rounds)
    (shallow : depth ≤ 8) (sized : next.Sized) :
    ∃ parsed, Metadata.parseLoop (front ++ (itemWire tag payload ++ rest ++ back)) (rounds + 1)
        base (position + (itemWire tag payload ++ rest).length) depth position next =
          some parsed ∧ Parsed (8 - depth) (itemWire tag payload ++ rest) next parsed := by
  rw [item.parseLoop, if_pos nested]
  by_cases deep : 8 < depth + 1
  · rw [if_pos deep, Option.bind_some]
    exact ⟨none, rfl, item.container_refused nested fun fewer inner levels => by omega⟩
  have fewer : 8 - depth = 8 - (depth + 1) + 1 := by omega
  obtain ⟨split, headed⟩ := @payload_eq _ _ _ rest back _ _ item
  obtain ⟨content, parsed, inside⟩ := reads payload (front ++ (tag ++ Octets.ofNat 4 payload.length))
    (rest ++ back) (base + (position + 8)) (depth + 1) 0 next (by omega) headed
    (Nat.le_of_not_lt deep) sized
  rw [← split, Nat.zero_add] at parsed
  rw [if_neg deep, parsed, Option.bind_some]
  cases content with
  | none =>
      refine ⟨none, rfl, item.container_refused nested fun other inner levels => ?_⟩
      obtain rfl : other = 8 - (depth + 1) := by omega
      exact inside inner
  | some between =>
      obtain ⟨inner, contains, texts⟩ := inside
      obtain ⟨parsed, ran, spec⟩ :=
        @goesOn _ _ _ rest back _ _ _ _ _ item reads (by omega) shallow texts.sized
      refine ⟨parsed, ran, ?_⟩
      cases parsed with
      | none =>
          intro leaves sequence
          rcases (sequence_item item.size item.small).mp sequence with
            ⟨plain, _⟩ | ⟨_, _, _, more, _, _, _, rest⟩
          · rw [nested] at plain
            cases plain
          · exact spec more rest
      | some after =>
          obtain ⟨more, sequence, others⟩ := spec
          rw [fewer] at sequence
          refine ⟨inner ++ more, ?_, texts.append others⟩
          rw [fewer]
          exact .nested item.size item.small nested contains sequence

/-- Any other item: its text is recorded, and the loop goes on. -/
theorem leaf (item : ItemAt tag payload front base position) (reads : Reads rounds)
    (plain : Metadata.container tag = false) (enough : rest.length < rounds)
    (shallow : depth ≤ 8) (sized : next.Sized) :
    ∃ parsed, Metadata.parseLoop (front ++ (itemWire tag payload ++ rest ++ back)) (rounds + 1)
        base (position + (itemWire tag payload ++ rest).length) depth position next =
          some parsed ∧ Parsed (8 - depth) (itemWire tag payload ++ rest) next parsed := by
  rw [item.parseLoop, if_neg (by simp [plain])]
  obtain ⟨split, headed⟩ := @payload_eq _ _ _ rest back _ _ item
  obtain ⟨between, copied, recorded⟩ := recorded_leaf sized
    (front ++ (tag ++ Octets.ofNat 4 payload.length)) tag payload (rest ++ back)
  rw [← split, ← headed] at copied
  obtain ⟨parsed, ran, spec⟩ :=
    @goesOn _ _ _ rest back _ _ _ _ _ item reads enough shallow recorded.sized
  rw [copied, Option.bind_some]
  refine ⟨parsed, ran, ?_⟩
  cases parsed with
  | none =>
      intro leaves sequence
      rcases (sequence_item item.size item.small).mp sequence with ⟨_, more, _, rest⟩ | ⟨holds, _⟩
      · exact spec more rest
      · rw [plain] at holds
        cases holds
  | some after =>
      obtain ⟨more, sequence, texts⟩ := spec
      exact ⟨_, .leaf item.size item.small plain sequence, recorded.append texts⟩

end ItemAt

theorem parseLoop_spec (rounds : Nat) : Reads rounds := by
  induction rounds with
  | zero => exact fun _ _ _ _ _ _ _ enough => absurd enough (Nat.not_lt_zero _)
  | succ rounds inductionHypothesis =>
      intro bytes front back base depth position next enough start shallow sized
      by_cases empty : bytes = []
      · subst empty
        exact ⟨some next, if_neg (Nat.lt_irrefl _), [], .done, sized, fun field => rfl⟩
      by_cases cut : bytes.length < 8 ∨ bytes.length - 8 < lengthField bytes
      · refine ⟨none, parseLoop_refused empty cut back start rounds depth next, ?_⟩
        intro leaves sequence
        obtain ⟨long, whole⟩ := sequence.header empty
        omega
      · simp only [not_or, not_lt] at cut
        obtain ⟨tag, payload, rest, size, small, rfl⟩ := exists_item cut.1 cut.2
        have item : ItemAt tag payload front base position := ⟨size, small, start⟩
        rw [List.length_append, length_itemWire size] at enough
        by_cases nested : container tag = true
        · exact item.container inductionHypothesis nested (by omega) shallow sized
        · exact item.leaf inductionHypothesis (by simpa using nested) (by omega) shallow sized

/-! ## `airtizen_metadata_parse` -/

theorem zeroed_sized : zeroed.Sized := by
  intro field
  cases field <;> exact List.length_replicate

/-- Metadata is taken over as a whole or not at all: a sequence of items that fills the
bytes, with at most eight levels of containers, sets the three texts and nothing else;
everything else is refused and changes nothing. -/
theorem metadata_parsed (data : Bytes) (state : State) (rounds : Nat)
    (enough : data.length < rounds) :
    ∃ result after, metadataParse rounds (some data) state = some (result, after) ∧
      (result = 0 ↔ (1 ≤ data.length ∧ data.length ≤ 65536) ∧
        ∃ leaves, Sequence container 8 data leaves) ∧
      (result ≠ 0 → result = -1 ∧ after = state) ∧
      (result = 0 → ∀ leaves, Sequence container 8 data leaves →
        cString after.title = shown .title leaves [] ∧
          cString after.artist = shown .artist leaves [] ∧
          cString after.album = shown .album leaves [] ∧
          after.artwork = state.artwork ∧ after.progress = state.progress ∧
          after.total = state.total) := by
  by_cases size : data.length = 0 ∨ 65536 < data.length
  · refine ⟨-1, state, if_pos size, iff_of_false (by decide) ?_, fun _ => ⟨rfl, rfl⟩,
      fun accepted => by cases accepted⟩
    rintro ⟨⟨_, _⟩, _⟩
    omega
  have range : 1 ≤ data.length ∧ data.length ≤ 65536 := by omega
  obtain ⟨parsed, ran, spec⟩ := parseLoop_spec rounds data [] [] 0 0 0 zeroed enough rfl
    (Nat.zero_le _) zeroed_sized
  rw [List.nil_append, List.append_nil, Nat.zero_add] at ran
  have whole : metadataParse rounds (some data) state =
      (parseLoop data rounds 0 data.length 0 0 zeroed).map fun parsed =>
        match parsed with
        | none => (-1, state)
        | some next => (0, { state with toTexts := next }) := if_neg size
  rw [whole, ran]
  cases parsed with
  | none =>
      refine ⟨-1, state, rfl, iff_of_false (by decide) ?_, fun _ => ⟨rfl, rfl⟩,
        fun accepted => by cases accepted⟩
      rintro ⟨_, leaves, sequence⟩
      exact spec leaves sequence
  | some next =>
      obtain ⟨leaves, sequence, texts⟩ := spec
      refine ⟨0, _, rfl, iff_of_true rfl ⟨range, leaves, sequence⟩, fun refused => absurd rfl refused,
        fun _ others also => ?_⟩
      obtain rfl := sequence.unique also
      have empty : ∀ field, cString (zeroed.get field) = [] := by
        intro field
        cases field <;> rfl
      have title := texts.shown .title
      have artist := texts.shown .artist
      have album := texts.shown .album
      rw [empty] at title artist album
      exact ⟨title, artist, album, rfl, rfl, rfl⟩

/-- A title in a container, in front of an item that is not text. -/
theorem metadata_parsed_title :
    let data := itemWire (ascii "mlit") (itemWire (ascii "minm") (ascii "a")) ++
      itemWire (ascii "mper") [0]
    ∃ result after, metadataParse 27 (some data)
        { zeroed with artwork := 3, progress := 5, total := 9 } = some (result, after) ∧
      result = 0 ∧ cString after.title = ascii "a" ∧ cString after.artist = [] ∧
        after.artwork = 3 := by
  intro data
  have title : Sequence container 7 (itemWire (ascii "minm") (ascii "a") ++ []) _ :=
    @Sequence.leaf container 7 _ _ [] [] (by decide) (by decide) (by decide) .done
  have identifier : Sequence container 8 (itemWire (ascii "mper") [0] ++ []) _ :=
    @Sequence.leaf container 8 _ _ [] [] (by decide) (by decide) (by decide) .done
  rw [List.append_nil] at title identifier
  have sequence : Sequence container 8 data _ :=
    .nested (by decide) (by decide) (by decide) title identifier
  obtain ⟨result, after, ran, accepted, _, texts⟩ := metadata_parsed data
    { zeroed with artwork := 3, progress := 5, total := 9 } 27 (by decide)
  have success := accepted.mpr ⟨by decide, _, sequence⟩
  obtain ⟨title, artist, _, artwork, _⟩ := texts success _ sequence
  exact ⟨result, after, ran, success, title, artist, artwork⟩

end AirTizen.Metadata

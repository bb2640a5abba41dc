import AirTizen.Library.Json
import AirTizen.Library.Printf

/-!
# Formats that print JSON

A shape is a JSON value with holes for the arguments of a format.  What the
format prints is read as the shape with the meanings of the arguments filled in.
-/

namespace Json

open CText Printf

inductive Shape where
  | bool (value : Bool)
  | word (text : String)
  /-- An argument that is a value. -/
  | hole (conversion : Conversion) (index : Nat)
  /-- An argument between quotes. -/
  | quotedHole (conversion : Conversion) (index : Nat)
  | object (members : List (String × Shape))

def constant (bytes : Bytes) : List Token := bytes.map .byte

def key (name : String) : List Token := constant (34 :: ascii name ++ [34, 58])

mutual

def Shape.tokens : Shape → List Token
  | .bool value => constant (ascii (if value then "true" else "false"))
  | .word text => constant (34 :: ascii text ++ [34])
  | .hole conversion index => [.hole conversion index]
  | .quotedHole conversion index => [.byte 34, .hole conversion index, .byte 34]
  | .object members => .byte 123 :: memberTokens members ++ [.byte 125]

def memberTokens : List (String × Shape) → List Token
  | [] => []
  | [(name, shape)] => key name ++ shape.tokens
  | (name, shape) :: second :: more =>
      key name ++ shape.tokens ++ .byte 44 :: memberTokens (second :: more)

end

/-- What an argument denotes: a value, or the characters between quotes. -/
inductive Meaning where
  | value (read : Value)
  | word (text : List Char)

def Meaning.isWord : Meaning → Bool
  | .value _ => false
  | .word _ => true

def Denotes (text : Bytes) : Meaning → Prop
  | .value read => Parses text read
  | .word characters => Body text characters

mutual

def Shape.value (meanings : List Meaning) : Shape → Value
  | .bool value => .bool value
  | .word text => .string text.toList
  | .hole _ index =>
      match meanings[index]? with
      | some (.value read) => read
      | _ => .null
  | .quotedHole _ index =>
      match meanings[index]? with
      | some (.word text) => .string text
      | _ => .null
  | .object members => .object (memberValues meanings members)

def memberValues (meanings : List Meaning) : List (String × Shape) → List (List Char × Value)
  | [] => []
  | (name, shape) :: more => (name.toList, shape.value meanings) :: memberValues meanings more

end

def plainText (text : String) : Bool :=
  text.toList.all fun character =>
    decide (character.toNat < 128) && decide (Plain character.toNat.toUInt8)

mutual

def Shape.wellFormed (words : List Bool) : Shape → Bool
  | .bool _ => true
  | .word text => plainText text
  | .hole _ index => words[index]? == some false
  | .quotedHole _ index => words[index]? == some true
  | .object members => membersWellFormed words members

def membersWellFormed (words : List Bool) : List (String × Shape) → Bool
  | [] => true
  | (name, shape) :: more =>
      plainText name && shape.wellFormed words && membersWellFormed words more

end

theorem body_ascii {text : String} (plain : plainText text = true) :
    Body (ascii text) text.toList := by
  simp only [plainText, List.all_eq_true, Bool.and_eq_true, decide_eq_true_eq] at plain
  have body : Body (ascii text) (Utf8.lossy (ascii text)) := by
    apply body_plain
    intro byte membership
    obtain ⟨character, present, rfl⟩ := List.mem_map.mp membership
    exact (plain character present).2
  rwa [ascii, Utf8.lossy_characters fun character present => (plain character present).1] at body

variable {arguments : List Argument} {meanings : List Meaning}

theorem denotes_text
    (denotes : List.Forall₂ (fun argument meaning => Denotes argument.print meaning)
      arguments meanings) {index : Nat} {meaning : Meaning}
    (found : meanings[index]? = some meaning) : Denotes (text arguments index) meaning := by
  induction denotes generalizing index with
  | nil => cases found
  | cons one _ inductionHypothesis =>
      cases index with
      | zero =>
          obtain rfl := Option.some.inj found
          exact one
      | succ index => exact inductionHypothesis found

theorem found_of_isWord {index : Nat} {word : Bool}
    (kind : ((meanings.map Meaning.isWord)[index]? == some word) = true) :
    ∃ meaning, meanings[index]? = some meaning ∧ meaning.isWord = word := by
  rw [beq_iff_eq, List.getElem?_map, Option.map_eq_some_iff] at kind
  exact kind

theorem expand_member (name : String) (tokens : List Token) :
    expand arguments (key name ++ tokens) = member (ascii name, expand arguments tokens) := by
  rw [expand_append, key, constant, expand_bytes]
  simp only [member, List.cons_append, List.append_assoc, List.nil_append]

mutual

/-- What the format of a shape prints is read as the shape. -/
theorem Shape.parses
    (denotes : List.Forall₂ (fun argument meaning => Denotes argument.print meaning)
      arguments meanings) :
    ∀ shape : Shape, shape.wellFormed (meanings.map Meaning.isWord) = true →
      Parses (expand arguments shape.tokens) (shape.value meanings)
  | .bool flag, _ => by
      rw [Shape.tokens, constant, expand_bytes]
      exact .bool flag
  | .word text, plain => by
      rw [Shape.tokens, constant, expand_bytes]
      exact .string (body_ascii plain)
  | .hole _ index, kind => by
      obtain ⟨meaning, found, isWord⟩ := found_of_isWord kind
      have one := denotes_text denotes found
      cases meaning with
      | word => cases isWord
      | value read =>
          rw [Shape.tokens, Shape.value, found, expand_hole, expand_nil, List.append_nil]
          exact one
  | .quotedHole _ index, kind => by
      obtain ⟨meaning, found, isWord⟩ := found_of_isWord kind
      have one := denotes_text denotes found
      cases meaning with
      | value => cases isWord
      | word characters =>
          rw [Shape.tokens, Shape.value, found, expand_byte, expand_hole, expand_byte, expand_nil]
          exact .string one
  | .object members, wellFormed => by
      obtain ⟨texts, printed, reads⟩ := memberTokens_commas denotes members wellFormed
      rw [Shape.tokens, Shape.value, List.cons_append, expand_byte, expand_append, printed]
      exact .object reads

theorem memberTokens_commas
    (denotes : List.Forall₂ (fun argument meaning => Denotes argument.print meaning)
      arguments meanings) :
    ∀ members : List (String × Shape),
      membersWellFormed (meanings.map Meaning.isWord) members = true →
      ∃ texts, expand arguments (memberTokens members) = commas (texts.map member) ∧
        List.Forall₂ IsMember texts (memberValues meanings members)
  | [], _ => ⟨[], rfl, .nil⟩
  | [(name, shape)], wellFormed => by
      simp only [membersWellFormed, Bool.and_eq_true] at wellFormed
      obtain ⟨⟨plain, inner⟩, -⟩ := wellFormed
      refine ⟨[(ascii name, expand arguments shape.tokens)], ?_, .cons ⟨body_ascii plain, ?_⟩ .nil⟩
      · rw [memberTokens, expand_member, List.map_singleton, commas_singleton]
      · exact shape.parses denotes inner
  | (name, shape) :: second :: more, wellFormed => by
      rw [membersWellFormed, Bool.and_eq_true, Bool.and_eq_true] at wellFormed
      obtain ⟨⟨plain, inner⟩, others⟩ := wellFormed
      obtain ⟨texts, printed, reads⟩ := memberTokens_commas denotes (second :: more) others
      refine ⟨(ascii name, expand arguments shape.tokens) :: texts, ?_,
        .cons ⟨body_ascii plain, shape.parses denotes inner⟩ reads⟩
      cases reads with
      | cons =>
          rw [memberTokens, expand_append, expand_member, expand_byte, printed]
          exact (commas_cons _ _ _).symm

end

end Json

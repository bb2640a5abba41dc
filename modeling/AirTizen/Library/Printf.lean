import AirTizen.Library.Text

/-!
# Formats of `printf`

The conversions `%s`, `%u`, `%llu` and `%.9g`.  A format is a list of bytes and
holes, and each hole takes the next argument.
-/

namespace Printf

open CText

inductive Conversion where
  | string
  | unsigned
  | unsignedLong
  | double
  deriving DecidableEq

inductive Argument where
  | string (text : Bytes)
  | unsigned (number : Nat)
  | unsignedLong (number : Nat)
  /-- A double, as the text that `%.9g` prints for it. -/
  | double (text : Bytes)

def Argument.conversion : Argument → Conversion
  | .string _ => .string
  | .unsigned _ => .unsigned
  | .unsignedLong _ => .unsignedLong
  | .double _ => .double

def Argument.print : Argument → Bytes
  | .string text | .double text => text
  | .unsigned number | .unsignedLong number => decimal number

inductive Token where
  | byte (byte : UInt8)
  | hole (conversion : Conversion) (index : Nat)
  deriving DecidableEq

def Token.conversion : Token → Option Conversion
  | .byte _ => none
  | .hole conversion _ => some conversion

/-- The tokens of a format whose first hole takes the argument at `index`. -/
def tokens (index : Nat) : Bytes → List Token
  | 37 :: 115 :: rest => .hole .string index :: tokens (index + 1) rest
  | 37 :: 117 :: rest => .hole .unsigned index :: tokens (index + 1) rest
  | 37 :: 108 :: 108 :: 117 :: rest => .hole .unsignedLong index :: tokens (index + 1) rest
  | 37 :: 46 :: 57 :: 103 :: rest => .hole .double index :: tokens (index + 1) rest
  | byte :: rest => .byte byte :: tokens index rest
  | [] => []

variable (arguments : List Argument)

def text (index : Nat) : Bytes := (arguments[index]?.map Argument.print).getD []

def expand (tokens : List Token) : Bytes :=
  tokens.flatMap fun
    | .byte byte => [byte]
    | .hole _ index => text arguments index

/-- The printed text, or none where a conversion and its argument disagree. -/
def printf (format : Bytes) : Option Bytes :=
  if (tokens 0 format).filterMap Token.conversion = arguments.map Argument.conversion then
    some (expand arguments (tokens 0 format))
  else none

@[simp]
theorem expand_nil : expand arguments [] = [] := rfl

@[simp]
theorem expand_byte (byte : UInt8) (rest : List Token) :
    expand arguments (.byte byte :: rest) = byte :: expand arguments rest := rfl

@[simp]
theorem expand_hole (conversion : Conversion) (index : Nat) (rest : List Token) :
    expand arguments (.hole conversion index :: rest) =
      text arguments index ++ expand arguments rest := rfl

@[simp]
theorem expand_append (first second : List Token) :
    expand arguments (first ++ second) = expand arguments first ++ expand arguments second :=
  List.flatMap_append

@[simp]
theorem expand_bytes (bytes : Bytes) : expand arguments (bytes.map .byte) = bytes := by
  induction bytes with
  | nil => rfl
  | cons byte bytes inductionHypothesis => rw [List.map_cons, expand_byte, inductionHypothesis]

def weight (bounds : List Nat) (tokens : List Token) : Nat :=
  (tokens.map fun
    | .byte _ => 1
    | .hole _ index => bounds.getD index 0).sum

variable {arguments}

theorem text_length {bounds : List Nat}
    (within : List.Forall₂ (fun argument bound => argument.print.length ≤ bound) arguments bounds)
    (index : Nat) : (text arguments index).length ≤ bounds.getD index 0 := by
  induction within generalizing index with
  | nil => exact Nat.zero_le _
  | cons one _ inductionHypothesis =>
      cases index with
      | zero => exact one
      | succ index => exact inductionHypothesis index

theorem expand_length {bounds : List Nat}
    (within : List.Forall₂ (fun argument bound => argument.print.length ≤ bound) arguments bounds)
    (tokens : List Token) : (expand arguments tokens).length ≤ weight bounds tokens := by
  induction tokens with
  | nil => exact Nat.zero_le _
  | cons token rest inductionHypothesis =>
      cases token with
      | byte byte =>
          show (expand arguments rest).length + 1 ≤ 1 + weight bounds rest
          omega
      | hole conversion index =>
          have one := text_length within index
          rw [expand_hole, List.length_append]
          exact Nat.add_le_add one inductionHypothesis

end Printf

import AirTizen.Library.BlockCipher
import AirTizen.Library.Words

/-!
# AES byte by byte

The block cipher of the mirror stream, on a state of four columns of four bytes, with
keys of 128 bits.  Its rounds are substitutions followed by a mixing that is additive,
because doubling in the field is.
-/

namespace AirTizen.Crypto.Aes2

open CText Words

/-- `state_t`. -/
abbrev State := Quad (Quad UInt8)

def sbox : Bytes :=
  [
    0x63, 0x7c, 0x77, 0x7b, 0xf2, 0x6b, 0x6f, 0xc5, 0x30, 0x01, 0x67, 0x2b, 0xfe, 0xd7, 0xab, 0x76,
    0xca, 0x82, 0xc9, 0x7d, 0xfa, 0x59, 0x47, 0xf0, 0xad, 0xd4, 0xa2, 0xaf, 0x9c, 0xa4, 0x72, 0xc0,
    0xb7, 0xfd, 0x93, 0x26, 0x36, 0x3f, 0xf7, 0xcc, 0x34, 0xa5, 0xe5, 0xf1, 0x71, 0xd8, 0x31, 0x15,
    0x04, 0xc7, 0x23, 0xc3, 0x18, 0x96, 0x05, 0x9a, 0x07, 0x12, 0x80, 0xe2, 0xeb, 0x27, 0xb2, 0x75,
    0x09, 0x83, 0x2c, 0x1a, 0x1b, 0x6e, 0x5a, 0xa0, 0x52, 0x3b, 0xd6, 0xb3, 0x29, 0xe3, 0x2f, 0x84,
    0x53, 0xd1, 0x00, 0xed, 0x20, 0xfc, 0xb1, 0x5b, 0x6a, 0xcb, 0xbe, 0x39, 0x4a, 0x4c, 0x58, 0xcf,
    0xd0, 0xef, 0xaa, 0xfb, 0x43, 0x4d, 0x33, 0x85, 0x45, 0xf9, 0x02, 0x7f, 0x50, 0x3c, 0x9f, 0xa8,
    0x51, 0xa3, 0x40, 0x8f, 0x92, 0x9d, 0x38, 0xf5, 0xbc, 0xb6, 0xda, 0x21, 0x10, 0xff, 0xf3, 0xd2,
    0xcd, 0x0c, 0x13, 0xec, 0x5f, 0x97, 0x44, 0x17, 0xc4, 0xa7, 0x7e, 0x3d, 0x64, 0x5d, 0x19, 0x73,
    0x60, 0x81, 0x4f, 0xdc, 0x22, 0x2a, 0x90, 0x88, 0x46, 0xee, 0xb8, 0x14, 0xde, 0x5e, 0x0b, 0xdb,
    0xe0, 0x32, 0x3a, 0x0a, 0x49, 0x06, 0x24, 0x5c, 0xc2, 0xd3, 0xac, 0x62, 0x91, 0x95, 0xe4, 0x79,
    0xe7, 0xc8, 0x37, 0x6d, 0x8d, 0xd5, 0x4e, 0xa9, 0x6c, 0x56, 0xf4, 0xea, 0x65, 0x7a, 0xae, 0x08,
    0xba, 0x78, 0x25, 0x2e, 0x1c, 0xa6, 0xb4, 0xc6, 0xe8, 0xdd, 0x74, 0x1f, 0x4b, 0xbd, 0x8b, 0x8a,
    0x70, 0x3e, 0xb5, 0x66, 0x48, 0x03, 0xf6, 0x0e, 0x61, 0x35, 0x57, 0xb9, 0x86, 0xc1, 0x1d, 0x9e,
    0xe1, 0xf8, 0x98, 0x11, 0x69, 0xd9, 0x8e, 0x94, 0x9b, 0x1e, 0x87, 0xe9, 0xce, 0x55, 0x28, 0xdf,
    0x8c, 0xa1, 0x89, 0x0d, 0xbf, 0xe6, 0x42, 0x68, 0x41, 0x99, 0x2d, 0x0f, 0xb0, 0x54, 0xbb, 0x16]

def rsbox : Bytes :=
  [
    0x52, 0x09, 0x6a, 0xd5, 0x30, 0x36, 0xa5, 0x38, 0xbf, 0x40, 0xa3, 0x9e, 0x81, 0xf3, 0xd7, 0xfb,
    0x7c, 0xe3, 0x39, 0x82, 0x9b, 0x2f, 0xff, 0x87, 0x34, 0x8e, 0x43, 0x44, 0xc4, 0xde, 0xe9, 0xcb,
    0x54, 0x7b, 0x94, 0x32, 0xa6, 0xc2, 0x23, 0x3d, 0xee, 0x4c, 0x95, 0x0b, 0x42, 0xfa, 0xc3, 0x4e,
    0x08, 0x2e, 0xa1, 0x66, 0x28, 0xd9, 0x24, 0xb2, 0x76, 0x5b, 0xa2, 0x49, 0x6d, 0x8b, 0xd1, 0x25,
    0x72, 0xf8, 0xf6, 0x64, 0x86, 0x68, 0x98, 0x16, 0xd4, 0xa4, 0x5c, 0xcc, 0x5d, 0x65, 0xb6, 0x92,
    0x6c, 0x70, 0x48, 0x50, 0xfd, 0xed, 0xb9, 0xda, 0x5e, 0x15, 0x46, 0x57, 0xa7, 0x8d, 0x9d, 0x84,
    0x90, 0xd8, 0xab, 0x00, 0x8c, 0xbc, 0xd3, 0x0a, 0xf7, 0xe4, 0x58, 0x05, 0xb8, 0xb3, 0x45, 0x06,
    0xd0, 0x2c, 0x1e, 0x8f, 0xca, 0x3f, 0x0f, 0x02, 0xc1, 0xaf, 0xbd, 0x03, 0x01, 0x13, 0x8a, 0x6b,
    0x3a, 0x91, 0x11, 0x41, 0x4f, 0x67, 0xdc, 0xea, 0x97, 0xf2, 0xcf, 0xce, 0xf0, 0xb4, 0xe6, 0x73,
    0x96, 0xac, 0x74, 0x22, 0xe7, 0xad, 0x35, 0x85, 0xe2, 0xf9, 0x37, 0xe8, 0x1c, 0x75, 0xdf, 0x6e,
    0x47, 0xf1, 0x1a, 0x71, 0x1d, 0x29, 0xc5, 0x89, 0x6f, 0xb7, 0x62, 0x0e, 0xaa, 0x18, 0xbe, 0x1b,
    0xfc, 0x56, 0x3e, 0x4b, 0xc6, 0xd2, 0x79, 0x20, 0x9a, 0xdb, 0xc0, 0xfe, 0x78, 0xcd, 0x5a, 0xf4,
    0x1f, 0xdd, 0xa8, 0x33, 0x88, 0x07, 0xc7, 0x31, 0xb1, 0x12, 0x10, 0x59, 0x27, 0x80, 0xec, 0x5f,
    0x60, 0x51, 0x7f, 0xa9, 0x19, 0xb5, 0x4a, 0x0d, 0x2d, 0xe5, 0x7a, 0x9f, 0x93, 0xc9, 0x9c, 0xef,
    0xa0, 0xe0, 0x3b, 0x4d, 0xae, 0x2a, 0xf5, 0xb0, 0xc8, 0xeb, 0xbb, 0x3c, 0x83, 0x53, 0x99, 0x61,
    0x17, 0x2b, 0x04, 0x7e, 0xba, 0x77, 0xd6, 0x26, 0xe1, 0x69, 0x14, 0x63, 0x55, 0x21, 0x0c, 0x7d]

def rcon : Bytes := [0x8d, 0x01, 0x02, 0x04, 0x08, 0x10, 0x20, 0x40, 0x80, 0x1b, 0x36]

def sboxValue (byte : UInt8) : UInt8 := sbox.getD byte.toNat 0

def sboxInvert (byte : UInt8) : UInt8 := rsbox.getD byte.toNat 0

/-! ## Keys -/

def rotWord (tempa : Quad UInt8) : Quad UInt8 := ⟨tempa.at1, tempa.at2, tempa.at3, tempa.at0⟩

def subWord (tempa : Quad UInt8) : Quad UInt8 := tempa.map sboxValue

/-- Four bytes of `RoundKey`, from the index `4 * i` on. -/
def column (roundKey : List (Quad UInt8)) (i : Nat) : Quad UInt8 := roundKey.getD i ⟨0, 0, 0, 0⟩

/-- One turn of the second loop of `KeyExpansion`. -/
def expand (roundKey : List (Quad UInt8)) (i : Nat) : List (Quad UInt8) :=
  let tempa := column roundKey (i - 1)
  let tempa :=
    if i % 4 = 0 then subWord (rotWord tempa) ^^^ ⟨rcon.getD (i / 4) 0, 0, 0, 0⟩ else tempa
  roundKey ++ [column roundKey (i - 4) ^^^ tempa]

/-- `KeyExpansion`: `RoundKey`, four bytes at a time. -/
def keyExpansion (key : Bytes) : List (Quad UInt8) :=
  (List.range' 4 40).foldl expand (block key).toList

/-! ## Steps -/

def addRoundKey (round : Nat) (state : State) (roundKey : List (Quad UInt8)) : State :=
  state ^^^ Quad.ofFn fun i => column roundKey (round * 4 + i)

def subBytes (state : State) : State := state.map (Quad.map sboxValue)

def shiftRows (state : State) : State :=
  ⟨⟨state.at0.at0, state.at1.at1, state.at2.at2, state.at3.at3⟩,
    ⟨state.at1.at0, state.at2.at1, state.at3.at2, state.at0.at3⟩,
    ⟨state.at2.at0, state.at3.at1, state.at0.at2, state.at1.at3⟩,
    ⟨state.at3.at0, state.at0.at1, state.at1.at2, state.at2.at3⟩⟩

def xtime (x : UInt8) : UInt8 := x <<< 1 ^^^ (x >>> 7 &&& 1) * 0x1b

def mixColumn (bytes : Quad UInt8) : Quad UInt8 :=
  let t := bytes.at0
  let tmp := bytes.at0 ^^^ bytes.at1 ^^^ bytes.at2 ^^^ bytes.at3
  ⟨bytes.at0 ^^^ (xtime (bytes.at0 ^^^ bytes.at1) ^^^ tmp),
    bytes.at1 ^^^ (xtime (bytes.at1 ^^^ bytes.at2) ^^^ tmp),
    bytes.at2 ^^^ (xtime (bytes.at2 ^^^ bytes.at3) ^^^ tmp),
    bytes.at3 ^^^ (xtime (bytes.at3 ^^^ t) ^^^ tmp)⟩

def mixColumns (state : State) : State := state.map mixColumn

def multiply (x y : UInt8) : UInt8 :=
  let bit (k : UInt8) : UInt8 := y >>> k &&& 1
  bit 0 * x ^^^ bit 1 * xtime x ^^^ bit 2 * xtime (xtime x) ^^^
    bit 3 * xtime (xtime (xtime x)) ^^^ bit 4 * xtime (xtime (xtime (xtime x)))

def invMixColumn (bytes : Quad UInt8) : Quad UInt8 :=
  let ⟨a, b, c, d⟩ := bytes
  ⟨multiply a 0x0e ^^^ multiply b 0x0b ^^^ multiply c 0x0d ^^^ multiply d 0x09,
    multiply a 0x09 ^^^ multiply b 0x0e ^^^ multiply c 0x0b ^^^ multiply d 0x0d,
    multiply a 0x0d ^^^ multiply b 0x09 ^^^ multiply c 0x0e ^^^ multiply d 0x0b,
    multiply a 0x0b ^^^ multiply b 0x0d ^^^ multiply c 0x09 ^^^ multiply d 0x0e⟩

def invMixColumns (state : State) : State := state.map invMixColumn

def invSubBytes (state : State) : State := state.map (Quad.map sboxInvert)

def invShiftRows (state : State) : State :=
  ⟨⟨state.at0.at0, state.at3.at1, state.at2.at2, state.at1.at3⟩,
    ⟨state.at1.at0, state.at0.at1, state.at3.at2, state.at2.at3⟩,
    ⟨state.at2.at0, state.at1.at1, state.at0.at2, state.at3.at3⟩,
    ⟨state.at3.at0, state.at2.at1, state.at1.at2, state.at0.at3⟩⟩

/-! ## The cipher -/

def cipher (state : State) (roundKey : List (Quad UInt8)) : State :=
  let state := addRoundKey 0 state roundKey
  let state := (List.range' 1 9).foldl (fun state round =>
    addRoundKey round (mixColumns (shiftRows (subBytes state))) roundKey) state
  addRoundKey 10 (shiftRows (subBytes state)) roundKey

-- the first block of the standard's example in the source
example :
    bytes (cipher
      (block [0x6b, 0xc1, 0xbe, 0xe2, 0x2e, 0x40, 0x9f, 0x96, 0xe9, 0x3d, 0x7e, 0x11, 0x73,
        0x93, 0x17, 0x2a])
      (keyExpansion [0x2b, 0x7e, 0x15, 0x16, 0x28, 0xae, 0xd2, 0xa6, 0xab, 0xf7, 0x15, 0x88,
        0x09, 0xcf, 0x4f, 0x3c])) =
      [0x3a, 0xd7, 0x7b, 0xb4, 0x0d, 0x7a, 0x36, 0x60, 0xa8, 0x9e, 0xca, 0xf3, 0x24, 0x66,
        0xef, 0x97] := by
  decide +kernel

/-! ## Doubling is additive -/

theorem xtime_eq : ∀ x : UInt8,
    xtime x = x <<< 1 ^^^ if x.toBitVec.msb then (0x1b : UInt8) else 0 :=
  forall_byte (by decide +kernel)

theorem xor_cancel (byte key : UInt8) : byte ^^^ key ^^^ key = byte := by
  rw [UInt8.xor_assoc, UInt8.xor_self, UInt8.xor_zero]

theorem xor_left_self (byte other : UInt8) : byte ^^^ (byte ^^^ other) = other := by
  rw [← UInt8.xor_assoc, UInt8.xor_self, UInt8.zero_xor]

theorem xor_left_comm (first second third : UInt8) :
    first ^^^ (second ^^^ third) = second ^^^ (first ^^^ third) := by
  rw [← UInt8.xor_assoc, UInt8.xor_comm first, UInt8.xor_assoc]

theorem xtime_xor (left right : UInt8) : xtime (left ^^^ right) = xtime left ^^^ xtime right := by
  rw [xtime_eq, xtime_eq, xtime_eq, UInt8.toBitVec_xor, BitVec.msb_xor, UInt8.shiftLeft_xor]
  cases left.toBitVec.msb <;> cases right.toBitVec.msb
  all_goals simp [UInt8.xor_assoc, UInt8.xor_comm, xor_left_comm]

theorem multiply_factors : ∀ x : UInt8,
    multiply x 0x09 = x ^^^ xtime (xtime (xtime x)) ∧
      multiply x 0x0b = x ^^^ (xtime x ^^^ xtime (xtime (xtime x))) ∧
      multiply x 0x0d = x ^^^ (xtime (xtime x) ^^^ xtime (xtime (xtime x))) ∧
      multiply x 0x0e = xtime x ^^^ (xtime (xtime x) ^^^ xtime (xtime (xtime x))) :=
  forall_byte (by decide +kernel)

theorem invMixColumn_eq (a b c d : UInt8) :
    invMixColumn ⟨a, b, c, d⟩ =
      ⟨xtime (a ^^^ b) ^^^ (b ^^^ c ^^^ d ^^^ xtime (xtime (a ^^^ b) ^^^ xtime (b ^^^ c)) ^^^
          xtime (xtime (xtime (a ^^^ b) ^^^ xtime (b ^^^ c)) ^^^
            xtime (xtime (b ^^^ c) ^^^ xtime (c ^^^ d)))),
        xtime (b ^^^ c) ^^^ (a ^^^ c ^^^ d ^^^ xtime (xtime (b ^^^ c) ^^^ xtime (c ^^^ d)) ^^^
          xtime (xtime (xtime (a ^^^ b) ^^^ xtime (b ^^^ c)) ^^^
            xtime (xtime (b ^^^ c) ^^^ xtime (c ^^^ d)))),
        xtime (c ^^^ d) ^^^ (a ^^^ b ^^^ d ^^^ xtime (xtime (a ^^^ b) ^^^ xtime (b ^^^ c)) ^^^
          xtime (xtime (xtime (a ^^^ b) ^^^ xtime (b ^^^ c)) ^^^
            xtime (xtime (b ^^^ c) ^^^ xtime (c ^^^ d)))),
        xtime (d ^^^ a) ^^^ (a ^^^ b ^^^ c ^^^ xtime (xtime (b ^^^ c) ^^^ xtime (c ^^^ d)) ^^^
          xtime (xtime (xtime (a ^^^ b) ^^^ xtime (b ^^^ c)) ^^^
            xtime (xtime (b ^^^ c) ^^^ xtime (c ^^^ d))))⟩ := by
  obtain ⟨nine_a, eleven_a, thirteen_a, fourteen_a⟩ := multiply_factors a
  obtain ⟨nine_b, eleven_b, thirteen_b, fourteen_b⟩ := multiply_factors b
  obtain ⟨nine_c, eleven_c, thirteen_c, fourteen_c⟩ := multiply_factors c
  obtain ⟨nine_d, eleven_d, thirteen_d, fourteen_d⟩ := multiply_factors d
  simp only [invMixColumn, nine_a, eleven_a, thirteen_a, fourteen_a, nine_b, eleven_b, thirteen_b,
    fourteen_b, nine_c, eleven_c, thirteen_c, fourteen_c, nine_d, eleven_d, thirteen_d, fourteen_d,
    Quad.mk.injEq, xtime_xor, UInt8.xor_assoc]
  refine ⟨?_, ?_, ?_, ?_⟩
  all_goals simp only [xor_left_comm, xor_left_self]

theorem mixColumn_differences {a b c d : UInt8} {m0 m1 m2 m3 : UInt8}
    (mixed : mixColumn ⟨a, b, c, d⟩ = ⟨m0, m1, m2, m3⟩) :
    m0 ^^^ m1 = a ^^^ b ^^^ xtime (a ^^^ c) ∧ m1 ^^^ m2 = b ^^^ c ^^^ xtime (b ^^^ d) ∧
      m2 ^^^ m3 = c ^^^ d ^^^ xtime (a ^^^ c) ∧ m3 ^^^ m0 = d ^^^ a ^^^ xtime (b ^^^ d) := by
  rw [mixColumn, Quad.mk.injEq] at mixed
  obtain ⟨rfl, rfl, rfl, rfl⟩ := mixed
  simp only [xtime_xor, UInt8.xor_assoc]
  refine ⟨?_, ?_, ?_, ?_⟩
  all_goals simp only [UInt8.xor_assoc, UInt8.xor_comm, xor_left_comm, xor_left_self,
    UInt8.xor_self, UInt8.zero_xor]

theorem mixColumn_others {a b c d : UInt8} {m0 m1 m2 m3 : UInt8}
    (mixed : mixColumn ⟨a, b, c, d⟩ = ⟨m0, m1, m2, m3⟩) :
    m1 ^^^ m2 ^^^ m3 = a ^^^ xtime (a ^^^ b) ∧ m0 ^^^ m2 ^^^ m3 = b ^^^ xtime (b ^^^ c) ∧
      m0 ^^^ m1 ^^^ m3 = c ^^^ xtime (c ^^^ d) ∧ m0 ^^^ m1 ^^^ m2 = d ^^^ xtime (d ^^^ a) := by
  rw [mixColumn, Quad.mk.injEq] at mixed
  obtain ⟨rfl, rfl, rfl, rfl⟩ := mixed
  simp only [xtime_xor, UInt8.xor_assoc]
  refine ⟨?_, ?_, ?_, ?_⟩
  all_goals simp only [UInt8.xor_assoc, UInt8.xor_comm, xor_left_comm, xor_left_self,
    UInt8.xor_self, UInt8.zero_xor]

theorem invMixColumn_mixColumn (bytes : Quad UInt8) : invMixColumn (mixColumn bytes) = bytes := by
  obtain ⟨a, b, c, d⟩ := bytes
  obtain ⟨⟨m0, m1, m2, m3⟩, mixed⟩ : ∃ column, mixColumn ⟨a, b, c, d⟩ = column := ⟨_, rfl⟩
  obtain ⟨first, second, third, fourth⟩ := mixColumn_differences mixed
  obtain ⟨others0, others1, others2, others3⟩ := mixColumn_others mixed
  rw [mixed, invMixColumn_eq, others0, others1, others2, others3, first, second, third, fourth]
  simp only [xtime_xor, UInt8.xor_assoc, Quad.mk.injEq]
  refine ⟨?_, ?_, ?_, ?_⟩
  all_goals simp only [UInt8.xor_assoc, UInt8.xor_comm, xor_left_comm, xor_left_self,
    UInt8.xor_self, UInt8.zero_xor, UInt8.xor_zero]

theorem xor_pairs (first second third fourth first' second' third' fourth' : UInt8) :
    first ^^^ first' ^^^ (second ^^^ second') ^^^ (third ^^^ third') ^^^ (fourth ^^^ fourth') =
      first ^^^ second ^^^ third ^^^ fourth ^^^ (first' ^^^ second' ^^^ third' ^^^ fourth') := by
  simp only [UInt8.xor_assoc]
  simp only [xor_left_comm]

theorem multiply_xor {factor : UInt8} (inverse : factor ∈ ([0x09, 0x0b, 0x0d, 0x0e] : Bytes))
    (left right : UInt8) :
    multiply (left ^^^ right) factor = multiply left factor ^^^ multiply right factor := by
  obtain ⟨nine, eleven, thirteen, fourteen⟩ := multiply_factors (left ^^^ right)
  obtain ⟨nine_l, eleven_l, thirteen_l, fourteen_l⟩ := multiply_factors left
  obtain ⟨nine_r, eleven_r, thirteen_r, fourteen_r⟩ := multiply_factors right
  simp only [List.mem_cons, List.not_mem_nil, or_false] at inverse
  rcases inverse with rfl | rfl | rfl | rfl
  · rw [nine, nine_l, nine_r]
    simp only [xtime_xor, UInt8.xor_assoc, xor_left_comm]
  · rw [eleven, eleven_l, eleven_r]
    simp only [xtime_xor, UInt8.xor_assoc, xor_left_comm]
  · rw [thirteen, thirteen_l, thirteen_r]
    simp only [xtime_xor, UInt8.xor_assoc, xor_left_comm]
  · rw [fourteen, fourteen_l, fourteen_r]
    simp only [xtime_xor, UInt8.xor_assoc, xor_left_comm]

theorem invMixColumn_xor (left right : Quad UInt8) :
    invMixColumn (left ^^^ right) = invMixColumn left ^^^ invMixColumn right := by
  have nine := fun left right => @multiply_xor 0x09 (by decide) left right
  have eleven := fun left right => @multiply_xor 0x0b (by decide) left right
  have thirteen := fun left right => @multiply_xor 0x0d (by decide) left right
  have fourteen := fun left right => @multiply_xor 0x0e (by decide) left right
  obtain ⟨a, b, c, d⟩ := left
  obtain ⟨a', b', c', d'⟩ := right
  simp only [Quad.xor_mk, invMixColumn, nine, eleven, thirteen, fourteen, xor_pairs]

/-! ## Rounds -/

theorem sboxInvert_sboxValue : ∀ byte : UInt8, sboxInvert (sboxValue byte) = byte :=
  forall_byte (by decide +kernel)

def layers : BlockCipher.Layers State where
  substitute := fun state => shiftRows (subBytes state)
  restore := fun state => invSubBytes (invShiftRows state)
  mix := mixColumns
  unmix := invMixColumns
  cancel := Quad.xor_cancel (Quad.xor_cancel xor_cancel)
  restore_substitute := by
    intro state
    simp only [shiftRows, invShiftRows, subBytes, invSubBytes, Quad.map, sboxInvert_sboxValue]
  unmix_mix := by
    intro state
    rw [invMixColumns, mixColumns, Quad.map_map]
    simp only [invMixColumn_mixColumn]
    rfl
  unmix_xor := Quad.map_xor invMixColumn_xor

/-- The key of a round, out of `RoundKey`. -/
def keyOf (roundKey : List (Quad UInt8)) (round : Nat) : State :=
  Quad.ofFn fun i => column roundKey (round * 4 + i)

theorem rounds_eq (roundKey : List (Quad UInt8)) (count : Nat) (state : State) :
    (List.range' 1 count).foldl (fun state round =>
        addRoundKey round (mixColumns (shiftRows (subBytes state))) roundKey)
      (addRoundKey 0 state roundKey) = layers.rounds (keyOf roundKey) count state := by
  induction count with
  | zero => rfl
  | succ count inductionHypothesis =>
      rw [List.range'_1_concat, List.foldl_append, inductionHypothesis, Nat.add_comm 1]
      rfl

theorem cipher_eq (roundKey : List (Quad UInt8)) (state : State) :
    cipher state roundKey = layers.encrypt (keyOf roundKey) 9 state := by
  dsimp only [cipher]
  rw [rounds_eq]
  rfl

end AirTizen.Crypto.Aes2

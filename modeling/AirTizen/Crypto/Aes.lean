import AirTizen.Crypto.Aes2

/-!
# AES on words

The block cipher of the pairing and of the audio stream: the bytes of a column are one
word, a decryption round doubles four bytes at once, and keys have 128 or 256 bits.
-/

namespace AirTizen.Crypto.Aes

open CText Words

def aesSbox : Bytes := Aes2.sbox

def aesIsbox : Bytes := Aes2.rsbox

def rcon : Bytes :=
  [0x01, 0x02, 0x04, 0x08, 0x10, 0x20, 0x40, 0x80, 0x1b, 0x36, 0x6c, 0xd8, 0xab, 0x4d, 0x9a,
    0x2f, 0x5e, 0xbc, 0x63, 0xc6, 0x97, 0x35, 0x6a, 0xd4, 0xb3, 0x7d, 0xfa, 0xef, 0xc5, 0x91]

/-- `(uint32_t)aes_sbox[x]`. -/
def sboxWord (x : UInt32) : UInt32 := (aesSbox.getD x.toNat 0).toUInt32

def isboxWord (x : UInt32) : UInt32 := (aesIsbox.getD x.toNat 0).toUInt32

def rot1 (x : UInt32) : UInt32 := x <<< 24 ||| x >>> 8

def rot2 (x : UInt32) : UInt32 := x <<< 16 ||| x >>> 16

def rot3 (x : UInt32) : UInt32 := x <<< 8 ||| x >>> 24

def mt : UInt32 := 0x80808080

def mh : UInt32 := 0xfefefefe

def mm : UInt32 := 0x1b1b1b1b

def mul2 (x : UInt32) : UInt32 :=
  let t := x &&& mt
  x + x &&& mh ^^^ (t - t >>> 7 &&& mm)

def invMixCol (x : UInt32) : UInt32 :=
  let f2 := mul2 x
  let f4 := mul2 f2
  let f8 := mul2 f4
  let f9 := x ^^^ f8
  let f8 := f2 ^^^ f4 ^^^ f8
  let f2 := f2 ^^^ f9
  let f4 := f4 ^^^ f9
  let f8 := f8 ^^^ rot3 f2
  let f8 := f8 ^^^ rot2 f4
  f8 ^^^ rot1 f9

def aesXtime (x : UInt32) : UInt8 :=
  if x &&& 0x80 ≠ 0 then (x <<< 1 ^^^ 0x1b).toUInt8 else (x <<< 1).toUInt8

/-! ## Keys -/

inductive Mode where
  | mode128
  | mode256
  deriving DecidableEq, Repr

structure Ctx where
  rounds : Nat
  keySize : Nat
  ks : List UInt32
  iv : Bytes
  deriving DecidableEq, Repr

def Mode.rounds : Mode → Nat
  | mode128 => 10
  | mode256 => 14

def Mode.words : Mode → Nat
  | mode128 => 4
  | mode256 => 8

/-- One turn of the second loop of `AES_set_key`; `*ip` has moved on whenever `i` was a
multiple of `words`. -/
def expand (words : Nat) (w : List UInt32) (i : Nat) : List UInt32 :=
  let tmp := w.getD (i - 1) 0
  let tmp :=
    if i % words = 0 then
      let tmp2 := sboxWord (tmp &&& 0xff) <<< 8
      let tmp2 := tmp2 ||| sboxWord (tmp >>> 8 &&& 0xff) <<< 16
      let tmp2 := tmp2 ||| sboxWord (tmp >>> 16 &&& 0xff) <<< 24
      let tmp2 := tmp2 ||| sboxWord (tmp >>> 24)
      tmp2 ^^^ (rcon.getD (i / words - 1) 0).toUInt32 <<< 24
    else tmp
  let tmp :=
    if words = 8 ∧ i % words = 4 then
      let tmp2 := sboxWord (tmp &&& 0xff)
      let tmp2 := tmp2 ||| sboxWord (tmp >>> 8 &&& 0xff) <<< 8
      let tmp2 := tmp2 ||| sboxWord (tmp >>> 16 &&& 0xff) <<< 16
      tmp2 ||| sboxWord (tmp >>> 24) <<< 24
    else tmp
  w ++ [w.getD (i - words) 0 ^^^ tmp]

def setKey (key iv : Bytes) (mode : Mode) : Ctx :=
  let words := mode.words
  let w := (List.range words).map fun i =>
    (key.getD (4 * i) 0).toUInt32 <<< 24 ||| (key.getD (4 * i + 1) 0).toUInt32 <<< 16 |||
      (key.getD (4 * i + 2) 0).toUInt32 <<< 8 ||| (key.getD (4 * i + 3) 0).toUInt32
  { rounds := mode.rounds
    keySize := words
    ks := (List.range' words (4 * (mode.rounds + 1) - words)).foldl (expand words) w
    iv := iv.take 16 }

def Ctx.convertKey (ctx : Ctx) : Ctx :=
  { ctx with
    ks := ctx.ks.mapIdx fun i w => if 4 ≤ i ∧ i < ctx.rounds * 4 then invMixCol w else w }

/-! ## Blocks -/

/-- `data[row]`, where the row is taken modulo four. -/
def row (data : Quad UInt32) (index : Nat) : UInt32 :=
  match index % 4 with
  | 0 => data.at0
  | 1 => data.at1
  | 2 => data.at2
  | _ => data.at3

def Ctx.key (ctx : Ctx) (round : Nat) : Quad UInt32 :=
  Quad.ofFn fun index => ctx.ks.getD (4 * round + index) 0

/-- `tmp[row]` in a round of `AES_encrypt`, where `mix` tells whether it is not the last. -/
def encryptRow (data : Quad UInt32) (mix : Bool) (index : Nat) : UInt32 :=
  let a0 := sboxWord (row data index >>> 24 &&& 0xff)
  let a1 := sboxWord (row data (index + 1) >>> 16 &&& 0xff)
  let a2 := sboxWord (row data (index + 2) >>> 8 &&& 0xff)
  let a3 := sboxWord (row data (index + 3) &&& 0xff)
  if mix then
    let tmp1 := a0 ^^^ a1 ^^^ a2 ^^^ a3
    let oldA0 := a0
    let a0 := a0 ^^^ (tmp1 ^^^ (aesXtime (a0 ^^^ a1)).toUInt32)
    let a1 := a1 ^^^ (tmp1 ^^^ (aesXtime (a1 ^^^ a2)).toUInt32)
    let a2 := a2 ^^^ (tmp1 ^^^ (aesXtime (a2 ^^^ a3)).toUInt32)
    let a3 := a3 ^^^ (tmp1 ^^^ (aesXtime (a3 ^^^ oldA0)).toUInt32)
    a0 <<< 24 ||| a1 <<< 16 ||| a2 <<< 8 ||| a3
  else a0 <<< 24 ||| a1 <<< 16 ||| a2 <<< 8 ||| a3

def Ctx.encrypt (ctx : Ctx) (data : Quad UInt32) : Quad UInt32 :=
  (List.range ctx.rounds).foldl (fun data currRnd =>
    Quad.ofFn (encryptRow data (currRnd < ctx.rounds - 1)) ^^^ ctx.key (currRnd + 1))
    (data ^^^ ctx.key 0)

/-- `tmp[row-1]` in a round of `AES_decrypt`, for `row` from four down to one. -/
def decryptRow (data : Quad UInt32) (mix : Bool) (index : Nat) : UInt32 :=
  let a0 := isboxWord (row data (index + 3) >>> 24 &&& 0xff)
  let a1 := isboxWord (row data (index + 2) >>> 16 &&& 0xff)
  let a2 := isboxWord (row data (index + 1) >>> 8 &&& 0xff)
  let a3 := isboxWord (row data index &&& 0xff)
  if mix then
    let xt0 := (aesXtime (a0 ^^^ a1)).toUInt32
    let xt1 := (aesXtime (a1 ^^^ a2)).toUInt32
    let xt2 := (aesXtime (a2 ^^^ a3)).toUInt32
    let xt3 := (aesXtime (a3 ^^^ a0)).toUInt32
    let xt4 := (aesXtime (xt0 ^^^ xt1)).toUInt32
    let xt5 := (aesXtime (xt1 ^^^ xt2)).toUInt32
    let xt6 := (aesXtime (xt4 ^^^ xt5)).toUInt32
    let xt0 := xt0 ^^^ (a1 ^^^ a2 ^^^ a3 ^^^ xt4 ^^^ xt6)
    let xt1 := xt1 ^^^ (a0 ^^^ a2 ^^^ a3 ^^^ xt5 ^^^ xt6)
    let xt2 := xt2 ^^^ (a0 ^^^ a1 ^^^ a3 ^^^ xt4 ^^^ xt6)
    let xt3 := xt3 ^^^ (a0 ^^^ a1 ^^^ a2 ^^^ xt5 ^^^ xt6)
    xt0 <<< 24 ||| xt1 <<< 16 ||| xt2 <<< 8 ||| xt3
  else a0 <<< 24 ||| a1 <<< 16 ||| a2 <<< 8 ||| a3

def Ctx.decrypt (ctx : Ctx) (data : Quad UInt32) : Quad UInt32 :=
  (List.range ctx.rounds).foldl (fun data currRnd =>
    Quad.ofFn (fun index => decryptRow data (currRnd < ctx.rounds - 1) (index + 1)) ^^^
      ctx.key (ctx.rounds - 1 - currRnd))
    (data ^^^ ctx.key ctx.rounds)

/-! ## Chains of blocks -/

def ntohl (block : Quad (Quad UInt8)) : Quad UInt32 := block.map word

def htonl (words : Quad UInt32) : Quad (Quad UInt8) := words.map octets

/-- `AES_cbc_encrypt`: what is written to `out`, which is as much as there are whole blocks. -/
def Ctx.cbcEncrypt (ctx : Ctx) (msg : Bytes) : Bytes × Ctx :=
  let (out, tout) := BlockCipher.chain ctx.encrypt (ntohl (block ctx.iv)) ((blocks msg).map ntohl)
  (out.flatMap fun words => bytes (htonl words), { ctx with iv := bytes (htonl tout) })

theorem Ctx.length_cbcEncrypt (ctx : Ctx) (msg : Bytes) :
    (ctx.cbcEncrypt msg).1.length = msg.length / 16 * 16 := by
  have written (out : List (Quad UInt32)) :
      (out.flatMap fun words => bytes (htonl words)).length = out.length * 16 := by
    simp [List.length_flatMap]
  dsimp only [Ctx.cbcEncrypt]
  rw [written, BlockCipher.length_chain, List.length_map, blocks, List.length_map,
    List.length_range]

def Ctx.cbcDecrypt (ctx : Ctx) (msg : Bytes) : Bytes × Ctx :=
  let (out, xor) := BlockCipher.unchain ctx.decrypt (ntohl (block ctx.iv)) ((blocks msg).map ntohl)
  (out.flatMap fun words => bytes (htonl words), { ctx with iv := bytes (htonl xor) })

end AirTizen.Crypto.Aes

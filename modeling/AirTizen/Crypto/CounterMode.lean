import AirTizen.Crypto.Rounds
import AirTizen.Library.Buffer
import AirTizen.Library.KeyStream
import AirTizen.Mirror.Packet

/-!
# Counter mode

Three functions make a key stream from a counter: one per call, one over packets of the
mirror stream, and one over the messages of the pairing.  All of them combine a text with
the encryptions of successive 128-bit numbers, and continue where the last call ended if
they keep what is left of a block.
-/

namespace AirTizen.Crypto

open CText Words

/-! ## Counters -/

namespace Aes2

/-- The loop that increments `Iv`, from its last byte on. -/
def carry : Bytes → Bytes
  | [] => []
  | byte :: rest => if byte = 255 then 0 :: carry rest else (byte + 1) :: rest

def increment (iv : Bytes) : Bytes := (carry iv.reverse).reverse

structure Ctx where
  roundKey : List (Quad UInt8)
  iv : Bytes
  deriving DecidableEq, Repr

def initCtxIv (key iv : Bytes) : Ctx where
  roundKey := keyExpansion key
  iv := iv.take 16

/-- The loop of `AES_CTR_xcrypt_buffer` from some byte of `buf` on. -/
def Ctx.xcryptFrom (ctx : Ctx) (bi : Nat) (buffer : Bytes) : Bytes → Bytes × Ctx
  | [] => ([], ctx)
  | byte :: rest =>
      if bi = 16 then
        let buffer := bytes (cipher (block ctx.iv) ctx.roundKey)
        let (buf, after) := { ctx with iv := increment ctx.iv }.xcryptFrom 1 buffer rest
        ((byte ^^^ buffer.getD 0 0) :: buf, after)
      else
        let (buf, after) := ctx.xcryptFrom (bi + 1) buffer rest
        ((byte ^^^ buffer.getD bi 0) :: buf, after)

/-- `AES_CTR_xcrypt_buffer`, where the bytes of its block that are left at the end are lost. -/
def Ctx.ctrXcrypt (ctx : Ctx) (buf : Bytes) : Bytes × Ctx := ctx.xcryptFrom 16 [] buf

def source (roundKey : List (Quad UInt8)) : KeyStream.Source Bytes where
  width := 16
  positive := by decide
  block := fun iv => bytes (cipher (block iv) roundKey)
  advance := increment

/-- A call runs through the stream of its counter. -/
theorem Ctx.xcryptFrom_eq (ctx : Ctx) {bi : Nat} (within : bi ≤ 16) (buffer buf : Bytes) :
    (ctx.xcryptFrom bi buffer buf).1 =
        (KeyStream.Generator.apply (source ctx.roundKey) ⟨ctx.iv, buffer, 16 - bi⟩ buf).1 ∧
      (ctx.xcryptFrom bi buffer buf).2 =
        { ctx with iv := (KeyStream.Generator.apply (source ctx.roundKey)
          ⟨ctx.iv, buffer, 16 - bi⟩ buf).2.counter } := by
  induction buf generalizing ctx bi buffer with
  | nil => exact ⟨rfl, rfl⟩
  | cons byte rest inductionHypothesis =>
      unfold xcryptFrom KeyStream.Generator.apply KeyStream.Generator.refill
      by_cases full : bi = 16
      · obtain ⟨combined, after⟩ := inductionHypothesis { ctx with iv := increment ctx.iv }
          (show 1 ≤ 16 by decide) (bytes (cipher (block ctx.iv) ctx.roundKey))
        rw [if_pos full, if_pos (show 16 - bi = 0 by omega)]
        dsimp only
        rw [combined, after]
        exact ⟨rfl, rfl⟩
      · obtain ⟨combined, after⟩ := inductionHypothesis ctx (show bi + 1 ≤ 16 by omega) buffer
        have index : 16 - (16 - bi) = bi := Nat.sub_sub_self within
        rw [if_neg full, if_neg (show ¬ 16 - bi = 0 by omega)]
        dsimp only
        rw [combined, after]
        dsimp only [KeyStream.Generator.current, KeyStream.Generator.drop, source]
        rw [index, Nat.sub_sub]
        exact ⟨rfl, rfl⟩

theorem Ctx.ctrXcrypt_zeros (ctx : Ctx) :
    ctx.ctrXcrypt (List.replicate 16 0) =
      (bytes (cipher (block ctx.iv) ctx.roundKey), { ctx with iv := increment ctx.iv }) := by
  obtain ⟨combined, after⟩ := ctx.xcryptFrom_eq (Nat.le_refl 16) [] (List.replicate 16 0)
  have zeros := @KeyStream.Generator.apply_zeros _ (source ctx.roundKey)
    ⟨ctx.iv, [], 16 - 16⟩ rfl (length_bytes _)
  exact Prod.ext (combined.trans (congrArg Prod.fst zeros))
    (after.trans (congrArg (fun reached => { ctx with iv := reached.2.counter }) zeros))

end Aes2

/-! ## Successive numbers -/

theorem length_carry (counter : Bytes) : (Aes2.carry counter).length = counter.length := by
  induction counter with
  | nil => rfl
  | cons byte rest inductionHypothesis =>
      unfold Aes2.carry
      split
      · rw [List.length_cons, List.length_cons, inductionHypothesis]
      · rfl

theorem length_increment (iv : Bytes) : (Aes2.increment iv).length = iv.length := by
  rw [Aes2.increment, List.length_reverse, length_carry, List.length_reverse]

theorem toNat_concat (front : Bytes) (last : UInt8) :
    Octets.toNat (front ++ [last]) = Octets.toNat front * 256 + last.toNat := by
  induction front with
  | nil => simp [Octets.toNat]
  | cons byte rest inductionHypothesis =>
      rw [List.cons_append, Octets.toNat, inductionHypothesis, Octets.toNat, List.length_append,
        List.length_singleton, Nat.pow_succ]
      ring

/-- The counter is a number that is incremented, and begins again behind the largest one. -/
theorem toNat_increment (iv : Bytes) :
    Octets.toNat (Aes2.increment iv) = (Octets.toNat iv + 1) % 256 ^ iv.length := by
  induction iv using List.reverseRecOn with
  | nil => rfl
  | append_singleton front last inductionHypothesis =>
      have bound := Octets.toNat_lt front
      have step : Aes2.increment (front ++ [last]) =
          if last = 255 then Aes2.increment front ++ [0] else front ++ [last + 1] := by
        rw [Aes2.increment, List.reverse_append, List.reverse_singleton, List.singleton_append,
          Aes2.carry]
        split
        · rw [List.reverse_cons]
          rfl
        · rw [List.reverse_cons, List.reverse_reverse]
      rw [step, List.length_append, List.length_singleton, Nat.pow_succ]
      split
      next full =>
        rw [toNat_concat, inductionHypothesis, toNat_concat, full]
        have total : Octets.toNat front * 256 + (255 : UInt8).toNat + 1 =
            (Octets.toNat front + 1) * 256 := by
          have largest : (255 : UInt8).toNat = 255 := rfl
          rw [largest]
          ring
        rw [total, Nat.mul_mod_mul_right, UInt8.toNat_zero, Nat.add_zero]
      next room =>
        have small : last.toNat + 1 < 256 := by
          have range := last.toNat_lt
          have other : last.toNat ≠ 255 := fun same => room (UInt8.toNat_inj.mp same)
          omega
        have next : (last + 1).toNat = last.toNat + 1 := by
          rw [UInt8.toNat_add]
          exact Nat.mod_eq_of_lt small
        rw [toNat_concat, toNat_concat, next, Nat.mod_eq_of_lt, Nat.add_assoc]
        calc Octets.toNat front * 256 + last.toNat + 1
            < Octets.toNat front * 256 + 256 := by omega
          _ = (Octets.toNat front + 1) * 256 := by ring
          _ ≤ 256 ^ front.length * 256 := Nat.mul_le_mul_right 256 bound

theorem increment_iterate (iv : Bytes) (count : Nat) :
    Aes2.increment^[count] iv = Octets.ofNat iv.length (Octets.toNat iv + count) := by
  have counted : (Aes2.increment^[count] iv).length = iv.length ∧
      Octets.toNat (Aes2.increment^[count] iv) =
        (Octets.toNat iv + count) % 256 ^ iv.length := by
    induction count with
    | zero => exact ⟨rfl, (Nat.mod_eq_of_lt (Octets.toNat_lt iv)).symm⟩
    | succ count inductionHypothesis =>
        obtain ⟨sized, number⟩ := inductionHypothesis
        rw [Function.iterate_succ_apply']
        refine ⟨(length_increment _).trans sized, ?_⟩
        rw [toNat_increment, sized, number, Nat.mod_add_mod, Nat.add_assoc]
  rw [← Octets.ofNat_toNat (Aes2.increment^[count] iv), counted.1, counted.2, Octets.ofNat_mod]

/-- A byte of the key stream: of the encryption of the number that is as far from the
vector as whole blocks are before it. -/
def keyByte (key iv : Bytes) (index : Nat) : UInt8 :=
  (bytes (Aes2.cipher (block (Octets.ofNat 16 (Octets.toNat iv + index / 16)))
    (Aes2.keyExpansion key))).getD (index % 16) 0

theorem byteAt_source (key : Bytes) {iv : Bytes} (sized : iv.length = 16) (index : Nat) :
    (Aes2.source (Aes2.keyExpansion key)).byteAt iv index = keyByte key iv index := by
  dsimp only [KeyStream.Source.byteAt, keyByte, Aes2.source]
  rw [increment_iterate, sized]

/-! ## The mirror stream -/

/-- `mirror_buffer_t`. -/
structure MirrorBuffer where
  aesCtx : Aes2.Ctx
  nextDecryptCount : Nat
  og : Bytes
  aeskey : Bytes
  ecdhSecret : Bytes
  deriving DecidableEq, Repr

abbrev Digest := { digest : Bytes // digest.length = 64 }

def MirrorBuffer.streamKey (sha512 : Bytes → Digest) (buffer : MirrorBuffer)
    (streamConnectionID : Nat) : Bytes × Bytes :=
  let eaeskey := (sha512 (buffer.aeskey ++ buffer.ecdhSecret)).val
  let hash1 := sha512 (ascii "AirPlayStreamKey" ++ decimal streamConnectionID ++ eaeskey.take 16)
  let hash2 := sha512 (ascii "AirPlayStreamIV" ++ decimal streamConnectionID ++ eaeskey.take 16)
  (hash1.val.take 16, hash2.val.take 16)

def MirrorBuffer.initAes (sha512 : Bytes → Digest) (buffer : MirrorBuffer)
    (streamConnectionID : Nat) : MirrorBuffer :=
  let (key, iv) := buffer.streamKey sha512 streamConnectionID
  { buffer with aesCtx := Aes2.initCtxIv key iv, nextDecryptCount := 0 }

def MirrorBuffer.decrypt : MirrorBuffer → Bytes → Bytes × MirrorBuffer
  | buffer, [] => ([], buffer)
  | buffer, byte :: rest =>
      let buffer :=
        if buffer.nextDecryptCount = 0 then
          let (og, aesCtx) := buffer.aesCtx.ctrXcrypt (List.replicate 16 0)
          { buffer with og := og, aesCtx := aesCtx, nextDecryptCount := 16 }
        else buffer
      let decoded := byte ^^^ buffer.og.getD (16 - buffer.nextDecryptCount) 0
      let (output, after) :=
        { buffer with nextDecryptCount := buffer.nextDecryptCount - 1 }.decrypt rest
      (decoded :: output, after)

def MirrorBuffer.generator (buffer : MirrorBuffer) : KeyStream.Generator Bytes :=
  ⟨buffer.aesCtx.iv, buffer.og, buffer.nextDecryptCount⟩

/-- Decryption runs through the stream of the buffer and touches nothing else of it. -/
theorem MirrorBuffer.decrypt_eq (buffer : MirrorBuffer) (input : Bytes) :
    (buffer.decrypt input).1 =
        (buffer.generator.apply (Aes2.source buffer.aesCtx.roundKey) input).1 ∧
      (buffer.decrypt input).2.generator =
        (buffer.generator.apply (Aes2.source buffer.aesCtx.roundKey) input).2 ∧
      (buffer.decrypt input).2.aesCtx.roundKey = buffer.aesCtx.roundKey := by
  induction input generalizing buffer with
  | nil => exact ⟨rfl, rfl, rfl⟩
  | cons byte rest inductionHypothesis =>
      unfold decrypt KeyStream.Generator.apply KeyStream.Generator.refill
      by_cases empty : buffer.nextDecryptCount = 0
      · rw [if_pos empty, if_pos (show buffer.generator.available = 0 from empty),
          Aes2.Ctx.ctrXcrypt_zeros]
        dsimp only
        obtain ⟨combined, after, kept⟩ := inductionHypothesis
          { buffer with
            og := bytes (Aes2.cipher (block buffer.aesCtx.iv) buffer.aesCtx.roundKey)
            aesCtx := { buffer.aesCtx with iv := Aes2.increment buffer.aesCtx.iv }
            nextDecryptCount := 15 }
        refine ⟨?_, after, kept⟩
        rw [combined]
        rfl
      · rw [if_neg empty, if_neg (show ¬ buffer.generator.available = 0 from empty)]
        dsimp only
        obtain ⟨combined, after, kept⟩ := inductionHypothesis
          { buffer with nextDecryptCount := buffer.nextDecryptCount - 1 }
        refine ⟨?_, after, kept⟩
        rw [combined]
        rfl

structure MirrorBuffer.Represents (buffer : MirrorBuffer) (cipher : Mirror.Cipher) : Prop where
  reached : ∃ start, start.length = 16 ∧
    cipher.keystream = (Aes2.source buffer.aesCtx.roundKey).byteAt start ∧
    buffer.generator.At (Aes2.source buffer.aesCtx.roundKey) start cipher.used

theorem MirrorBuffer.initAes_represents (sha512 : Bytes → Digest) (buffer : MirrorBuffer)
    (streamConnectionID : Nat) :
    (buffer.initAes sha512 streamConnectionID).Represents
      { keystream := keyByte (buffer.streamKey sha512 streamConnectionID).1
          (buffer.streamKey sha512 streamConnectionID).2
        used := 0 } := by
  have sized : (buffer.streamKey sha512 streamConnectionID).2.length = 16 := by
    dsimp only [streamKey]
    rw [List.length_take, (sha512 _).property]
    rfl
  have whole : (buffer.streamKey sha512 streamConnectionID).2.take 16 =
      (buffer.streamKey sha512 streamConnectionID).2 :=
    List.take_of_length_le (Nat.le_of_eq sized)
  refine ⟨_, sized, ?_, ?_⟩
  · funext index
    exact (byteAt_source _ sized index).symm
  · have start := @KeyStream.Generator.at_start _
      (Aes2.source (buffer.initAes sha512 streamConnectionID).aesCtx.roundKey)
      (buffer.initAes sha512 streamConnectionID).generator rfl
    have counter : (buffer.initAes sha512 streamConnectionID).generator.counter =
        (buffer.streamKey sha512 streamConnectionID).2 := whole
    rwa [counter] at start

theorem MirrorBuffer.Represents.decrypt {cipher : Mirror.Cipher} {buffer : MirrorBuffer}
    (represents : buffer.Represents cipher) (input : Bytes) :
    (buffer.decrypt input).1 = (cipher.decrypt input).1 ∧
      (buffer.decrypt input).2.Represents (cipher.decrypt input).2 := by
  obtain ⟨start, sized, same, reached⟩ := represents
  obtain ⟨combined, after, kept⟩ := buffer.decrypt_eq input
  obtain ⟨output, next⟩ := reached.apply input
  refine ⟨?_, start, sized, ?_, ?_⟩
  · rw [combined, output, Mirror.Cipher.decrypt, same]
    rfl
  · rw [kept]
    exact same
  · rw [kept, after]
    exact next

/-! ## The stream of the pairing -/

namespace Aes

/-- The loop of `ctr128_inc`, from the last byte on. -/
def addCarry : UInt32 → Bytes → Bytes
  | _, [] => []
  | c, byte :: rest =>
      let c := c + byte.toUInt32
      c.toUInt8 :: addCarry (c >>> 8) rest

def ctr128Inc (counter : Bytes) : Bytes := (addCarry 1 counter.reverse).reverse

structure CtrCtx where
  aesCtx : Ctx
  counter : Bytes
  state : Bytes
  available : Nat
  deriving DecidableEq, Repr

def ctrSetKey (key nonce : Bytes) (mode : Mode) : CtrCtx where
  aesCtx := setKey key nonce mode
  counter := nonce.take 16
  state := List.replicate 16 0
  available := 0

/-- A new block into `state`, if there are no bytes. -/
def CtrCtx.refill (ctx : CtrCtx) : CtrCtx :=
  if ctx.available = 0 then
    let (state, aesCtx) := { ctx.aesCtx with iv := List.replicate 16 0 }.cbcEncrypt ctx.counter
    { aesCtx := aesCtx, state := state, available := 16, counter := ctr128Inc ctx.counter }
  else ctx

theorem CtrCtx.refill_available (ctx : CtrCtx) : 0 < ctx.refill.available := by
  unfold refill
  split
  · exact Nat.succ_pos 15
  next left => exact Nat.pos_of_ne_zero left

/-- `AES_ctr_encrypt`: what is available of a block, and then the next one. -/
def CtrCtx.encrypt (ctx : CtrCtx) (msg : Bytes) : Bytes × CtrCtx :=
  if msg.length = 0 then ([], ctx)
  else
    let filled := ctx.refill
    let count := min filled.available msg.length
    let out := (msg.take count).mapIdx fun i byte =>
      byte ^^^ filled.state.getD (16 - filled.available + i) 0
    let (rest, after) :=
      { filled with available := filled.available - count }.encrypt (msg.drop count)
    (out ++ rest, after)
termination_by msg.length
decreasing_by
  have some := ctx.refill_available
  rw [List.length_drop]
  omega

theorem addCarry_eq (counter : Bytes) :
    addCarry 1 counter = Aes2.carry counter ∧ addCarry 0 counter = counter := by
  have added : ∀ byte : UInt8,
      (1 + byte.toUInt32).toUInt8 = (if byte = 255 then 0 else byte + 1) ∧
        (1 + byte.toUInt32) >>> 8 = (if byte = 255 then (1 : UInt32) else 0) ∧
        (0 + byte.toUInt32).toUInt8 = byte ∧ (0 + byte.toUInt32) >>> 8 = (0 : UInt32) :=
    forall_byte (by decide +kernel)
  induction counter with
  | nil => exact ⟨rfl, rfl⟩
  | cons byte rest inductionHypothesis =>
      obtain ⟨carried, kept⟩ := inductionHypothesis
      obtain ⟨sum, carriedOn, same, none⟩ := added byte
      dsimp only [addCarry]
      rw [sum, carriedOn, same, none, kept, Aes2.carry]
      refine ⟨?_, rfl⟩
      split
      · rw [carried]
      · rw [kept]

theorem ctr128Inc_eq (counter : Bytes) : ctr128Inc counter = Aes2.increment counter := by
  rw [ctr128Inc, Aes2.increment, (addCarry_eq _).1]

theorem Ctx.cbcEncrypt_zeros (ctx : Ctx) {counter : Bytes} (sized : counter.length = 16) :
    { ctx with iv := List.replicate 16 0 }.cbcEncrypt counter =
      (bytes (htonl (ctx.encrypt (ntohl (block counter)))),
        { ctx with iv := bytes (htonl (ctx.encrypt (ntohl (block counter)))) }) := by
  have one : blocks counter = [block counter] := by
    rw [← List.append_nil counter, blocks_append sized, blocks_short (by decide)]
    rw [List.append_nil]
  have zeros : ntohl (block (List.replicate 16 0)) = ⟨0, 0, 0, 0⟩ := by decide
  have plain : ∀ words : Quad UInt32, words ^^^ ⟨0, 0, 0, 0⟩ = words := by
    intro words
    cases words
    simp only [Quad.xor_mk, UInt32.xor_zero]
  have same : ∀ iv, { ctx with iv := iv }.encrypt = ctx.encrypt := fun _ => rfl
  dsimp only [cbcEncrypt]
  rw [one, List.map_singleton, zeros]
  dsimp only [BlockCipher.chain]
  rw [plain, same, List.flatMap_singleton]

def CtrCtx.generator (ctx : CtrCtx) : KeyStream.Generator Bytes :=
  ⟨ctx.counter, ctx.state, ctx.available⟩

structure CtrCtx.Keyed (ctx : CtrCtx) (key : Bytes) : Prop where
  key : ∃ nonce iv, ctx.aesCtx = { setKey key nonce .mode128 with iv := iv }
  sized : ctx.counter.length = 16

theorem ctrSetKey_keyed (key : Bytes) {nonce : Bytes} (sized : nonce.length = 16) :
    (ctrSetKey key nonce .mode128).Keyed key where
  key := ⟨nonce, nonce.take 16, rfl⟩
  sized := by
    dsimp only [ctrSetKey]
    rw [List.length_take, sized]
    rfl

theorem CtrCtx.Keyed.refill {ctx : CtrCtx} {key : Bytes} (keyed : ctx.Keyed key) :
    ctx.refill.Keyed key ∧
      ctx.refill.generator = ctx.generator.refill (Aes2.source (Aes2.keyExpansion key)) := by
  obtain ⟨⟨nonce, iv, same⟩, sized⟩ := keyed
  unfold CtrCtx.refill KeyStream.Generator.refill
  by_cases empty : ctx.available = 0
  · rw [if_pos empty, if_pos (show ctx.generator.available = 0 from empty),
      Ctx.cbcEncrypt_zeros _ sized]
    have cipher : htonl (ctx.aesCtx.encrypt (ntohl (block ctx.counter))) =
        Aes2.cipher (block ctx.counter) (Aes2.keyExpansion key) := by
      have agreed := octets_encrypt_eq_cipher key nonce (ntohl (block ctx.counter))
      have bytes : (ntohl (block ctx.counter)).map octets = block ctx.counter := htonl_ntohl _
      rw [bytes] at agreed
      rw [same]
      exact agreed
    refine ⟨⟨⟨nonce, _, by rw [same]⟩, ?_⟩, ?_⟩
    · dsimp only
      rw [ctr128Inc_eq, length_increment, sized]
    · dsimp only [CtrCtx.generator, Aes2.source]
      rw [cipher, ctr128Inc_eq]
  · rw [if_neg empty, if_neg (show ¬ ctx.generator.available = 0 from empty)]
    exact ⟨⟨⟨nonce, iv, same⟩, sized⟩, rfl⟩

/-- Encryption runs through the stream of the context. -/
theorem CtrCtx.Keyed.encrypt {ctx : CtrCtx} {key : Bytes} (keyed : ctx.Keyed key)
    (available : ctx.available ≤ 16) (msg : Bytes) :
    (ctx.encrypt msg).1 =
        (ctx.generator.apply (Aes2.source (Aes2.keyExpansion key)) msg).1 ∧
      (ctx.encrypt msg).2.generator =
        (ctx.generator.apply (Aes2.source (Aes2.keyExpansion key)) msg).2 ∧
      (ctx.encrypt msg).2.Keyed key ∧ (ctx.encrypt msg).2.available ≤ 16 := by
  induction msg using WellFounded.induction (measure List.length).wf generalizing ctx with
  | _ msg inductionHypothesis =>
      unfold CtrCtx.encrypt
      by_cases empty : msg.length = 0
      · rw [if_pos empty, List.length_eq_zero_iff.mp empty]
        exact ⟨rfl, rfl, keyed, available⟩
      · have some : msg ≠ [] := fun none => empty (congrArg List.length none)
        obtain ⟨filledKeyed, filled⟩ := keyed.refill
        have left := ctx.refill_available
        have sized : ctx.refill.available ≤ 16 := by
          unfold CtrCtx.refill
          split
          · exact Nat.le_refl 16
          · exact available
        rw [if_neg empty]
        dsimp only
        generalize ctx.refill = after at filledKeyed filled left sized
        have fits : (msg.take (min after.available msg.length)).length ≤ after.available := by
          rw [List.length_take]
          omega
        have shorter : (msg.drop (min after.available msg.length)).length < msg.length := by
          rw [List.length_drop]
          omega
        -- the bytes that are available, and the rest behind them
        have whole := KeyStream.Generator.apply_append (Aes2.source (Aes2.keyExpansion key))
          after.generator (msg.take (min after.available msg.length))
          (msg.drop (min after.available msg.length))
        have enough := @KeyStream.Generator.apply_within _ (Aes2.source (Aes2.keyExpansion key))
          after.generator _ fits sized
        have start : after.generator.apply (Aes2.source (Aes2.keyExpansion key)) msg =
            ctx.generator.apply (Aes2.source (Aes2.keyExpansion key)) msg := by
          rw [filled, KeyStream.Generator.apply_refill _ _ some]
        rw [List.take_append_drop, start, enough] at whole
        have taken : (msg.take (min after.available msg.length)).length =
            min after.available msg.length :=
          List.length_take_of_le (Nat.min_le_right _ _)
        rw [taken] at whole
        obtain ⟨combined, reached, nextKeyed, nextSized⟩ := @inductionHypothesis _ shorter
          { after with available := after.available - min after.available msg.length }
          ⟨filledKeyed.key, filledKeyed.sized⟩ (Nat.le_trans (Nat.sub_le _ _) sized)
        rw [whole]
        refine ⟨?_, reached, nextKeyed, nextSized⟩
        rw [combined]
        rfl

end Aes

/-! ## Texts in pieces -/

def MirrorBuffer.decryptAll : MirrorBuffer → List Bytes → List Bytes × MirrorBuffer
  | buffer, [] => ([], buffer)
  | buffer, piece :: rest =>
      let (output, buffer) := buffer.decrypt piece
      let (outputs, buffer) := buffer.decryptAll rest
      (output :: outputs, buffer)

def Aes.CtrCtx.encryptAll : Aes.CtrCtx → List Bytes → List Bytes × Aes.CtrCtx
  | ctx, [] => ([], ctx)
  | ctx, piece :: rest =>
      let (output, ctx) := ctx.encrypt piece
      let (outputs, ctx) := ctx.encryptAll rest
      (output :: outputs, ctx)

theorem MirrorBuffer.decryptAll_eq (buffer : MirrorBuffer) (pieces : List Bytes) :
    (buffer.decryptAll pieces).1 =
      (buffer.generator.applyAll (Aes2.source buffer.aesCtx.roundKey) pieces).1 := by
  induction pieces generalizing buffer with
  | nil => rfl
  | cons piece rest inductionHypothesis =>
      obtain ⟨combined, after, kept⟩ := buffer.decrypt_eq piece
      dsimp only [decryptAll, KeyStream.Generator.applyAll]
      rw [combined, inductionHypothesis, after, kept]

theorem Aes.CtrCtx.Keyed.encryptAll {ctx : CtrCtx} {key : Bytes} (keyed : ctx.Keyed key)
    (available : ctx.available ≤ 16) (pieces : List Bytes) :
    (ctx.encryptAll pieces).1 =
      (ctx.generator.applyAll (Aes2.source (Aes2.keyExpansion key)) pieces).1 := by
  induction pieces generalizing ctx with
  | nil => rfl
  | cons piece rest inductionHypothesis =>
      obtain ⟨combined, after, next, left⟩ := keyed.encrypt available piece
      dsimp only [CtrCtx.encryptAll, KeyStream.Generator.applyAll]
      rw [combined, inductionHypothesis next left, after]

/-- However a text is cut into pieces, the mirror stream and the pairing combine it with the
same bytes: those of the encrypted numbers from the vector on. -/
theorem counter_modes_agree (key : Bytes) {iv : Bytes} (sized : iv.length = 16)
    (buffer : MirrorBuffer) (ready : buffer.nextDecryptCount = 0)
    (keyed : buffer.aesCtx = Aes2.initCtxIv key iv) (pieces : List Bytes) :
    (buffer.decryptAll pieces).1.flatten =
        pieces.flatten.mapIdx (fun index byte => byte ^^^ keyByte key iv index) ∧
      ((Aes.ctrSetKey key iv .mode128).encryptAll pieces).1.flatten =
        pieces.flatten.mapIdx fun index byte => byte ^^^ keyByte key iv index := by
  have whole : iv.take 16 = iv := List.take_of_length_le (Nat.le_of_eq sized)
  have stream : (Aes2.source (Aes2.keyExpansion key)).combine iv 0 pieces.flatten =
      pieces.flatten.mapIdx fun index byte => byte ^^^ keyByte key iv index := by
    simp only [KeyStream.Source.combine, byteAt_source key sized, Nat.zero_add]
  have roundKey : buffer.aesCtx.roundKey = Aes2.keyExpansion key := by
    rw [keyed, Aes2.initCtxIv]
  have mirror := @KeyStream.Generator.at_start _ (Aes2.source (Aes2.keyExpansion key))
    buffer.generator ready
  have pairing := @KeyStream.Generator.at_start _ (Aes2.source (Aes2.keyExpansion key))
    (Aes.ctrSetKey key iv .mode128).generator rfl
  have mirrorCounter : buffer.generator.counter = iv :=
    (congrArg Aes2.Ctx.iv keyed).trans whole
  have pairingCounter : (Aes.ctrSetKey key iv .mode128).generator.counter = iv := whole
  rw [mirrorCounter] at mirror
  rw [pairingCounter] at pairing
  constructor
  · rw [buffer.decryptAll_eq, roundKey, (mirror.applyAll pieces).1, stream]
  · rw [(Aes.ctrSetKey_keyed key sized).encryptAll (Nat.zero_le 16), (pairing.applyAll pieces).1,
      stream]

def zeroBuffer : MirrorBuffer where
  aesCtx := Aes2.initCtxIv (List.replicate 16 0) (List.replicate 16 0)
  nextDecryptCount := 0
  og := []
  aeskey := []
  ecdhSecret := []

theorem counter_modes_agree_zeros :
    (zeroBuffer.decryptAll [[1, 2, 3], [], [4]]).1.flatten =
        [[1, 2, 3], [], [4]].flatten.mapIdx (fun index byte =>
          byte ^^^ keyByte (List.replicate 16 0) (List.replicate 16 0) index) ∧
      ((Aes.ctrSetKey (List.replicate 16 0) (List.replicate 16 0) .mode128).encryptAll
          [[1, 2, 3], [], [4]]).1.flatten =
        [[1, 2, 3], [], [4]].flatten.mapIdx fun index byte =>
          byte ^^^ keyByte (List.replicate 16 0) (List.replicate 16 0) index :=
  counter_modes_agree (List.replicate 16 0) List.length_replicate zeroBuffer rfl rfl
    [[1, 2, 3], [], [4]]

end AirTizen.Crypto

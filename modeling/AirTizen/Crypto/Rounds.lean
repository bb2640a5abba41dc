import AirTizen.Crypto.Aes

/-!
# One cipher

The words of the second implementation are the columns of the first: their rounds do the
same to the bytes, and so do their key schedules.  The keys that are converted for the
decryption are those that the rounds want to be mixed back.
-/

namespace AirTizen.Crypto.Aes

open CText Words

/-! ## Bytes in words -/

theorem low_byte (x : UInt32) : (x &&& 0xff).toNat = x.toUInt8.toNat := by
  rw [UInt32.toNat_and, UInt32.toNat_toUInt8]
  exact Nat.and_two_pow_sub_one_eq_mod x.toNat 8

theorem high_byte (x : UInt32) : (x >>> 24).toNat = (x >>> 24).toUInt8.toNat := by
  have small : (x >>> 24).toNat < 2 ^ 8 := by
    have bound := x.toNat_lt
    rw [UInt32.toNat_shiftRight]
    simp only [UInt32.reduceToNat, Nat.reduceMod, Nat.shiftRight_eq_div_pow]
    omega
  rw [UInt32.toNat_toUInt8, Nat.mod_eq_of_lt small]

theorem sboxWord_low (x : UInt32) :
    sboxWord (x &&& 0xff) = (Aes2.sboxValue x.toUInt8).toUInt32 := by
  rw [sboxWord, low_byte]
  rfl

theorem isboxWord_low (x : UInt32) :
    isboxWord (x &&& 0xff) = (Aes2.sboxInvert x.toUInt8).toUInt32 := by
  rw [isboxWord, low_byte]
  rfl

theorem aesXtime_eq : ∀ x : UInt8, aesXtime x.toUInt32 = Aes2.xtime x :=
  forall_byte (by decide +kernel)

theorem word_parts (first second third fourth : UInt8) :
    first.toUInt32 <<< 24 ||| second.toUInt32 <<< 16 ||| third.toUInt32 <<< 8 |||
      fourth.toUInt32 = word ⟨first, second, third, fourth⟩ := rfl

/-! ## Rounds -/

theorem octets_encryptRow (data : Quad UInt32) (mix : Bool) (index : Nat) :
    octets (encryptRow data mix index) =
      (if mix then Aes2.mixColumn else id)
        ⟨Aes2.sboxValue (octets (row data index)).at0,
          Aes2.sboxValue (octets (row data (index + 1))).at1,
          Aes2.sboxValue (octets (row data (index + 2))).at2,
          Aes2.sboxValue (octets (row data (index + 3))).at3⟩ := by
  unfold encryptRow
  simp only [sboxWord_low, ← UInt8.toUInt32_xor, aesXtime_eq, word_parts]
  cases mix
  · exact octets_word _
  · rw [if_pos rfl, if_pos rfl, octets_word, Aes2.mixColumn]
    simp only [UInt8.xor_comm]
    rfl

theorem octets_decryptRow (data : Quad UInt32) (mix : Bool) (index : Nat) :
    octets (decryptRow data mix index) =
      (if mix then Aes2.invMixColumn else id)
        ⟨Aes2.sboxInvert (octets (row data (index + 3))).at0,
          Aes2.sboxInvert (octets (row data (index + 2))).at1,
          Aes2.sboxInvert (octets (row data (index + 1))).at2,
          Aes2.sboxInvert (octets (row data index)).at3⟩ := by
  unfold decryptRow
  simp only [isboxWord_low, ← UInt8.toUInt32_xor, aesXtime_eq, word_parts]
  cases mix
  · exact octets_word _
  · rw [if_pos rfl, if_pos rfl, octets_word, Aes2.invMixColumn_eq]
    rfl

theorem octets_encryptRound (data : Quad UInt32) (mix : Bool) :
    (Quad.ofFn (encryptRow data mix)).map octets =
      (if mix then Aes2.mixColumns else id)
        (Aes2.shiftRows (Aes2.subBytes (data.map octets))) := by
  rw [Quad.map_ofFn]
  simp only [octets_encryptRow]
  cases mix
  · rfl
  · rfl

theorem octets_decryptRound (data : Quad UInt32) (mix : Bool) :
    (Quad.ofFn fun index => decryptRow data mix (index + 1)).map octets =
      (if mix then Aes2.invMixColumns else id)
        (Aes2.invSubBytes (Aes2.invShiftRows (data.map octets))) := by
  rw [Quad.map_ofFn]
  simp only [octets_decryptRow]
  cases mix
  · rfl
  · rfl

def Ctx.keyBytes (ctx : Ctx) (round : Nat) : Aes2.State := (ctx.key round).map octets

theorem octets_block_xor (left right : Quad UInt32) :
    (left ^^^ right).map octets = left.map octets ^^^ right.map octets :=
  Quad.map_xor octets_xor left right

theorem octets_encrypt {ctx : Ctx} {count : Nat} (rounds : ctx.rounds = count + 1)
    (data : Quad UInt32) :
    (ctx.encrypt data).map octets =
      Aes2.layers.encrypt ctx.keyBytes count (data.map octets) := by
  -- all rounds but the last one mix
  have mixing : ∀ done, done ≤ count →
      ((List.range done).foldl (fun data currRnd =>
        Quad.ofFn (encryptRow data (currRnd < count)) ^^^ ctx.key (currRnd + 1))
        (data ^^^ ctx.key 0)).map octets =
      Aes2.layers.rounds ctx.keyBytes done (data.map octets) := by
    intro done
    induction done with
    | zero => exact fun _ => octets_block_xor _ _
    | succ done inductionHypothesis =>
        intro within
        have mixes : decide (done < count) = true := decide_eq_true within
        rw [List.range_succ, List.foldl_append, List.foldl_cons, List.foldl_nil, octets_block_xor,
          octets_encryptRound, inductionHypothesis (Nat.le_of_lt within), mixes]
        rfl
  have last : decide (count < count) = false := decide_eq_false (Nat.lt_irrefl count)
  rw [Ctx.encrypt, rounds, Nat.add_sub_cancel, List.range_succ, List.foldl_append, List.foldl_cons,
    List.foldl_nil, octets_block_xor, octets_encryptRound, mixing count (Nat.le_refl count), last]
  rfl

/-- Decryption takes the layers back, with the round keys as they are. -/
theorem octets_decrypt {ctx : Ctx} {count : Nat} (rounds : ctx.rounds = count + 1)
    (data : Quad UInt32) :
    (ctx.decrypt data).map octets =
      Aes2.layers.decrypt ctx.keyBytes count (data.map octets) := by
  -- the rounds that are left, the last of them without mixing
  have remaining : ∀ left, left ≤ count → ∀ data : Quad UInt32,
      ((List.range' (count - left) (left + 1)).foldl (fun data currRnd =>
        Quad.ofFn (fun index => decryptRow data (currRnd < count) (index + 1)) ^^^
          ctx.key (count - currRnd)) data).map octets =
      Aes2.layers.unrounds ctx.keyBytes left (data.map octets) := by
    intro left
    induction left with
    | zero =>
        intro _ data
        have last : decide (count < count) = false := decide_eq_false (Nat.lt_irrefl count)
        rw [Nat.sub_zero, List.range'_one, List.foldl_cons, List.foldl_nil, octets_block_xor,
          octets_decryptRound, last, Nat.sub_self]
        rfl
    | succ left inductionHypothesis =>
        intro within data
        have mixes : decide (count - (left + 1) < count) = true :=
          decide_eq_true (by omega)
        have next : count - (left + 1) + 1 = count - left := by omega
        have round : count - (count - (left + 1)) = left + 1 := by omega
        rw [List.range'_succ, List.foldl_cons, next,
          inductionHypothesis (Nat.le_of_succ_le within), octets_block_xor, octets_decryptRound,
          mixes, round]
        rfl
  have all := remaining count (Nat.le_refl count) (data ^^^ ctx.key (count + 1))
  rw [Nat.sub_self, ← List.range_eq_range', octets_block_xor] at all
  rw [Ctx.decrypt, rounds, Nat.add_sub_cancel]
  exact all

/-! ## Keys mixed back -/

theorem octets_mul2 (x : UInt32) : octets (mul2 x) = (octets x).map Aes2.xtime := by
  -- what the high bits become is looked up in a table of their sixteen values
  have reduced : ∀ a b c d : Bool,
      let t := word ⟨if a then 0x80 else 0, if b then 0x80 else 0, if c then 0x80 else 0,
        if d then 0x80 else 0⟩
      octets (t - t >>> 7 &&& mm) =
        ⟨if a then 0x1b else 0, if b then 0x1b else 0, if c then 0x1b else 0,
          if d then 0x1b else 0⟩ := by
    decide +kernel
  have sum := reduced (octets x).at0.toBitVec.msb (octets x).at1.toBitVec.msb
    (octets x).at2.toBitVec.msb (octets x).at3.toBitVec.msb
  dsimp only at sum
  dsimp only [mul2]
  have high : x &&& mt = word ((octets x).map fun byte =>
      if byte.toBitVec.msb then 0x80 else 0) := high_bits x
  have double : octets (x + x &&& mh) = (octets x).map fun byte : UInt8 => byte <<< 1 :=
    octets_double x
  rw [octets_xor, double, high]
  simp only [Quad.map] at sum ⊢
  rw [sum, Quad.xor_mk]
  simp only [Aes2.xtime_eq]

theorem octets_invMixCol (x : UInt32) : octets (invMixCol x) = Aes2.invMixColumn (octets x) := by
  obtain ⟨nine_a, eleven_a, thirteen_a, fourteen_a⟩ := Aes2.multiply_factors (octets x).at0
  obtain ⟨nine_b, eleven_b, thirteen_b, fourteen_b⟩ := Aes2.multiply_factors (octets x).at1
  obtain ⟨nine_c, eleven_c, thirteen_c, fourteen_c⟩ := Aes2.multiply_factors (octets x).at2
  obtain ⟨nine_d, eleven_d, thirteen_d, fourteen_d⟩ := Aes2.multiply_factors (octets x).at3
  simp only [invMixCol, rot1, rot2, rot3, octets_xor, octets_rotate, octets_rotate_twice,
    octets_rotate_left, octets_mul2, Aes2.invMixColumn, Quad.map, rotate]
  rw [nine_a, nine_b, nine_c, nine_d, eleven_a, eleven_b, eleven_c, eleven_d, thirteen_a,
    thirteen_b, thirteen_c, thirteen_d, fourteen_a, fourteen_b, fourteen_c, fourteen_d]
  obtain ⟨a, b, c, d⟩ := octets x
  simp only [Quad.xor_mk, Quad.mk.injEq, UInt8.xor_assoc]
  refine ⟨?_, ?_, ?_, ?_⟩
  all_goals simp only [UInt8.xor_assoc, UInt8.xor_comm, Aes2.xor_left_comm]

structure Ctx.Keyed (ctx : Ctx) (count : Nat) : Prop where
  rounds : ctx.rounds = count + 1
  keys : ctx.ks.length = 4 * (count + 2)

theorem Ctx.convertKey_getD (ctx : Ctx) {index : Nat} (inside : index < ctx.ks.length) :
    ctx.convertKey.ks.getD index 0 =
      if 4 ≤ index ∧ index < ctx.rounds * 4 then invMixCol (ctx.ks.getD index 0)
      else ctx.ks.getD index 0 := by
  rw [convertKey, List.getD_eq_getElem?_getD, List.getElem?_mapIdx, List.getD_eq_getElem?_getD,
    List.getElem?_eq_getElem inside]
  rfl

theorem Ctx.Keyed.convertKey_key {ctx : Ctx} {count round : Nat} (keyed : ctx.Keyed count)
    (known : round ≤ count + 1) :
    ctx.convertKey.key round =
      if 1 ≤ round ∧ round ≤ count then (ctx.key round).map invMixCol else ctx.key round := by
  have lookup : ∀ row, row < 4 → ctx.convertKey.ks.getD (4 * round + row) 0 =
      if 1 ≤ round ∧ round ≤ count then invMixCol (ctx.ks.getD (4 * round + row) 0)
      else ctx.ks.getD (4 * round + row) 0 := by
    intro row small
    rw [ctx.convertKey_getD (by rw [keyed.keys]; omega), keyed.rounds]
    apply if_congr _ rfl rfl
    omega
  rw [key, Quad.ofFn, lookup 0 (by decide), lookup 1 (by decide), lookup 2 (by decide),
    lookup 3 (by decide)]
  split
  · rfl
  · rfl

theorem Ctx.Keyed.unmixed {ctx : Ctx} {count : Nat} (keyed : ctx.Keyed count) :
    Aes2.layers.Unmixed ctx.keyBytes ctx.convertKey.keyBytes count := by
  refine ⟨?_, fun round small => ?_, ?_⟩
  · rw [keyBytes, keyBytes, keyed.convertKey_key (Nat.zero_le _), if_neg (by omega)]
  · have inner : 1 ≤ round + 1 ∧ round + 1 ≤ count := ⟨Nat.le_add_left 1 round, small⟩
    rw [keyBytes, keyed.convertKey_key (Nat.le_succ_of_le small), if_pos inner, Quad.map_map]
    simp only [octets_invMixCol]
    rfl
  · rw [keyBytes, keyBytes, keyed.convertKey_key (Nat.le_refl _), if_neg (by omega)]

theorem htonl_ntohl (block : Quad (Quad UInt8)) : htonl (ntohl block) = block := by
  dsimp only [ntohl, htonl]
  rw [Quad.map_map]
  simp only [octets_word]
  rfl

theorem ntohl_htonl (words : Quad UInt32) : ntohl (htonl words) = words := by
  dsimp only [ntohl, htonl]
  rw [Quad.map_map]
  simp only [word_octets]
  rfl

theorem Ctx.Keyed.decrypt_encrypt {ctx : Ctx} {count : Nat} (keyed : ctx.Keyed count)
    (data : Quad UInt32) : ctx.convertKey.decrypt (ctx.encrypt data) = data := by
  have rounds : ctx.convertKey.rounds = count + 1 := keyed.rounds
  have bytes : (ctx.convertKey.decrypt (ctx.encrypt data)).map octets = data.map octets := by
    rw [octets_decrypt rounds, octets_encrypt keyed.rounds]
    exact Aes2.layers.decrypt_encrypt keyed.unmixed _
  rw [← ntohl_htonl (ctx.convertKey.decrypt _)]
  exact (congrArg ntohl bytes).trans (ntohl_htonl data)

theorem length_expand (words : Nat) (first : List UInt32) (start count : Nat) :
    ((List.range' start count).foldl (expand words) first).length = first.length + count := by
  induction count generalizing start first with
  | zero => rfl
  | succ count inductionHypothesis =>
      rw [List.range'_succ, List.foldl_cons, inductionHypothesis]
      unfold expand
      rw [List.length_append, List.length_singleton, Nat.add_assoc, Nat.add_comm 1]

theorem setKey_keyed (key iv : Bytes) (mode : Mode) :
    (setKey key iv mode).Keyed (mode.rounds - 1) := by
  cases mode with
  | mode128 => exact ⟨rfl, length_expand 4 _ 4 40⟩
  | mode256 => exact ⟨rfl, length_expand 8 _ 8 52⟩

/-- Whole blocks that are chained are unchained with the converted key, whatever the key, the
vector and the blocks are. -/
theorem cbcDecrypt_cbcEncrypt (key iv : Bytes) (mode : Mode) (msg : Bytes) :
    ((setKey key iv mode).convertKey.cbcDecrypt ((setKey key iv mode).cbcEncrypt msg).1).1 =
      msg.take (msg.length / 16 * 16) := by
  have inverse := (setKey_keyed key iv mode).decrypt_encrypt
  have cancel : ∀ block key : Quad UInt32, block ^^^ key ^^^ key = block :=
    Quad.xor_cancel fun value key => by rw [UInt32.xor_assoc, UInt32.xor_self, UInt32.xor_zero]
  generalize setKey key iv mode = ctx at inverse
  have vector : ctx.convertKey.iv = ctx.iv := rfl
  have loaded : ∀ written : List (Quad UInt32),
      (blocks (written.flatMap fun words => bytes (htonl words))).map ntohl = written := by
    intro written
    have flat : (written.flatMap fun words => bytes (htonl words)) =
        (written.map htonl).flatMap bytes := by
      rw [List.flatMap_map]
    rw [flat, blocks_flatMap, List.map_map]
    exact List.map_id'' ntohl_htonl written
  dsimp only [Ctx.cbcDecrypt, Ctx.cbcEncrypt]
  rw [loaded, vector, BlockCipher.unchain_chain cancel inverse, List.flatMap_map]
  simp only [htonl_ntohl]
  exact flatMap_blocks msg

/-! ## The same keys -/

theorem column_map_octets (w : List UInt32) (index : Nat) :
    Aes2.column (w.map octets) index = octets (w.getD index 0) := by
  rw [Aes2.column, List.getD_eq_getElem?_getD, List.getElem?_map, List.getD_eq_getElem?_getD]
  cases w[index]? with
  | none => rfl
  | some word => rfl

theorem octets_turned (tmp : UInt32) :
    octets (sboxWord (tmp &&& 0xff) <<< 8 ||| sboxWord (tmp >>> 8 &&& 0xff) <<< 16 |||
      sboxWord (tmp >>> 16 &&& 0xff) <<< 24 ||| sboxWord (tmp >>> 24)) =
      Aes2.subWord (Aes2.rotWord (octets tmp)) := by
  have high : sboxWord (tmp >>> 24) = (Aes2.sboxValue (tmp >>> 24).toUInt8).toUInt32 := by
    rw [sboxWord, high_byte]
    rfl
  have reversed : ∀ first second third fourth : UInt32,
      first ||| second ||| third ||| fourth = third ||| second ||| first ||| fourth := by
    intro first second third fourth
    rw [UInt32.or_comm (first ||| second), UInt32.or_comm first, ← UInt32.or_assoc]
  rw [sboxWord_low, sboxWord_low, sboxWord_low, high, reversed, word_parts, octets_word]
  rfl

theorem octets_constant (constant : UInt8) :
    octets (constant.toUInt32 <<< 24) = ⟨constant, 0, 0, 0⟩ := by
  have whole : constant.toUInt32 <<< 24 = word ⟨constant, 0, 0, 0⟩ := by
    simp [word]
  rw [whole, octets_word]

theorem rcon_eq {i : Nat} (first : 4 ≤ i) (last : i < 44) :
    rcon.getD (i / 4 - 1) 0 = Aes2.rcon.getD (i / 4) 0 := by
  have above : 1 ≤ i / 4 := (Nat.le_div_iff_mul_le (by decide)).mpr first
  have below : i / 4 < 11 := Nat.div_lt_of_lt_mul last
  interval_cases i / 4
  all_goals rfl

theorem map_octets_expand (w : List UInt32) {i : Nat} (first : 4 ≤ i) (last : i < 44) :
    (expand 4 w i).map octets = Aes2.expand (w.map octets) i := by
  have short : ¬ (4 = 8 ∧ i % 4 = 4) := fun wide => absurd wide.1 (by decide)
  unfold expand Aes2.expand
  rw [List.map_append, List.map_singleton, octets_xor, column_map_octets, column_map_octets,
    if_neg short]
  congr 3
  split
  · rw [octets_xor, octets_turned, octets_constant, rcon_eq first last]
  · rfl

/-- Both key schedules make the same round keys. -/
theorem map_octets_setKey (key iv : Bytes) :
    (setKey key iv .mode128).ks.map octets = Aes2.keyExpansion key := by
  have steps : ∀ count, count ≤ 40 → ∀ w : List UInt32,
      ((List.range' 4 count).foldl (expand 4) w).map octets =
        (List.range' 4 count).foldl Aes2.expand (w.map octets) := by
    intro count
    induction count with
    | zero => exact fun _ _ => rfl
    | succ count inductionHypothesis =>
        intro within w
        rw [List.range'_1_concat, List.foldl_append, List.foldl_append, List.foldl_cons,
          List.foldl_nil, List.foldl_cons, List.foldl_nil,
          map_octets_expand _ (Nat.le_add_right 4 count) (by omega),
          inductionHypothesis (Nat.le_of_succ_le within)]
  have read : ∀ i, (key.getD (4 * i) 0).toUInt32 <<< 24 |||
      (key.getD (4 * i + 1) 0).toUInt32 <<< 16 ||| (key.getD (4 * i + 2) 0).toUInt32 <<< 8 |||
      (key.getD (4 * i + 3) 0).toUInt32 =
        word ⟨key.getD (4 * i) 0, key.getD (4 * i + 1) 0, key.getD (4 * i + 2) 0,
          key.getD (4 * i + 3) 0⟩ := fun _ => rfl
  have all := steps 40 (Nat.le_refl 40) ((List.range 4).map fun i =>
    word ⟨key.getD (4 * i) 0, key.getD (4 * i + 1) 0, key.getD (4 * i + 2) 0,
      key.getD (4 * i + 3) 0⟩)
  rw [List.map_map] at all
  simp only [Function.comp_def, octets_word] at all
  dsimp only [setKey]
  simp only [read]
  exact all

/-- Both implementations encrypt every block to the same bytes under every key. -/
theorem octets_encrypt_eq_cipher (key iv : Bytes) (data : Quad UInt32) :
    ((setKey key iv .mode128).encrypt data).map octets =
      Aes2.cipher (data.map octets) (Aes2.keyExpansion key) := by
  have keys : (setKey key iv .mode128).keyBytes = Aes2.keyOf (Aes2.keyExpansion key) := by
    funext round
    rw [← map_octets_setKey key iv]
    simp only [Ctx.keyBytes, Ctx.key, Aes2.keyOf, Quad.map_ofFn, column_map_octets,
      Nat.mul_comm 4 round]
  rw [octets_encrypt (setKey_keyed key iv .mode128).rounds, keys, Aes2.cipher_eq]
  rfl

/-- Both implementations are one cipher: they make the same round keys and encrypt to the same
bytes, and what the first encrypts, the second decrypts with its converted key. -/
theorem implementations_agree (key iv : Bytes) :
    (setKey key iv .mode128).ks.map octets = Aes2.keyExpansion key ∧
      (∀ data, ((setKey key iv .mode128).encrypt data).map octets =
        Aes2.cipher (data.map octets) (Aes2.keyExpansion key)) ∧
      ∀ state, (setKey key iv .mode128).convertKey.decrypt
        (ntohl (Aes2.cipher state (Aes2.keyExpansion key))) = ntohl state := by
  refine ⟨map_octets_setKey key iv, octets_encrypt_eq_cipher key iv, fun state => ?_⟩
  have encrypted : htonl ((setKey key iv .mode128).encrypt (ntohl state)) =
      Aes2.cipher state (Aes2.keyExpansion key) := by
    have agreed := octets_encrypt_eq_cipher key iv (ntohl state)
    have bytes : (ntohl state).map octets = state := htonl_ntohl state
    rw [bytes] at agreed
    exact agreed
  rw [← encrypted, ntohl_htonl]
  exact (setKey_keyed key iv .mode128).decrypt_encrypt (ntohl state)

end AirTizen.Crypto.Aes

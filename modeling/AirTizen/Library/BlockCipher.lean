import Mathlib.Logic.Function.Iterate

/-!
# Block ciphers

Rounds of a substitution, an additive mixing and a key, and the chaining of blocks.
Decryption takes the substitution and the mixing back in the same order, which it may
because mixing is additive: its keys are mixed back in advance.
-/

universe u

namespace BlockCipher

variable {Block : Type u} [XorOp Block]

/-! ## Rounds -/

structure Layers (Block : Type u) [XorOp Block] where
  substitute : Block → Block
  restore : Block → Block
  mix : Block → Block
  unmix : Block → Block
  cancel : ∀ block key : Block, block ^^^ key ^^^ key = block
  restore_substitute : ∀ block, restore (substitute block) = block
  unmix_mix : ∀ block, unmix (mix block) = block
  unmix_xor : ∀ block key, unmix (block ^^^ key) = unmix block ^^^ unmix key

namespace Layers

variable (layers : Layers Block)

def rounds (keys : Nat → Block) : Nat → Block → Block
  | 0, block => block ^^^ keys 0
  | count + 1, block =>
      layers.mix (layers.substitute (rounds keys count block)) ^^^ keys (count + 1)

/-- All rounds, where the last one does not mix. -/
def encrypt (keys : Nat → Block) (count : Nat) (block : Block) : Block :=
  layers.substitute (layers.rounds keys count block) ^^^ keys (count + 1)

def unrounds (keys : Nat → Block) : Nat → Block → Block
  | 0, block => layers.restore block ^^^ keys 0
  | count + 1, block =>
      unrounds keys count (layers.unmix (layers.restore block) ^^^ keys (count + 1))

def decrypt (keys : Nat → Block) (count : Nat) (block : Block) : Block :=
  layers.unrounds keys count (block ^^^ keys (count + 1))

structure Unmixed (keys unmixed : Nat → Block) (count : Nat) : Prop where
  first : unmixed 0 = keys 0
  between : ∀ round, round < count → unmixed (round + 1) = layers.unmix (keys (round + 1))
  last : unmixed (count + 1) = keys (count + 1)

theorem unrounds_rounds {keys unmixed : Nat → Block} {count : Nat}
    (first : unmixed 0 = keys 0)
    (between : ∀ round, round < count → unmixed (round + 1) = layers.unmix (keys (round + 1)))
    (block : Block) :
    layers.unrounds unmixed count (layers.substitute (layers.rounds keys count block)) =
      block := by
  induction count with
  | zero => rw [unrounds, rounds, layers.restore_substitute, first, layers.cancel]
  | succ count inductionHypothesis =>
      have earlier := inductionHypothesis fun round small =>
        between round (Nat.lt_succ_of_lt small)
      rw [unrounds, layers.restore_substitute, rounds, layers.unmix_xor, layers.unmix_mix,
        between count (Nat.lt_succ_self count), layers.cancel]
      exact earlier

theorem decrypt_encrypt {keys unmixed : Nat → Block} {count : Nat}
    (keyed : layers.Unmixed keys unmixed count) (block : Block) :
    layers.decrypt unmixed count (layers.encrypt keys count block) = block := by
  rw [decrypt, encrypt, keyed.last, layers.cancel]
  exact layers.unrounds_rounds keyed.first keyed.between block

end Layers

/-! ## Chaining -/

/-- Every block is combined with the encrypted block before it, and the last encrypted
block is kept for the next message. -/
def chain (encrypt : Block → Block) (vector : Block) : List Block → List Block × Block
  | [] => ([], vector)
  | block :: rest =>
      let encrypted := encrypt (block ^^^ vector)
      let (blocks, last) := chain encrypt encrypted rest
      (encrypted :: blocks, last)

def unchain (decrypt : Block → Block) (vector : Block) : List Block → List Block × Block
  | [] => ([], vector)
  | block :: rest =>
      let (blocks, last) := unchain decrypt block rest
      ((decrypt block ^^^ vector) :: blocks, last)

theorem length_chain (encrypt : Block → Block) (vector : Block) (blocks : List Block) :
    (chain encrypt vector blocks).1.length = blocks.length := by
  induction blocks generalizing vector with
  | nil => rfl
  | cons block rest inductionHypothesis =>
      dsimp only [chain, List.length_cons]
      rw [inductionHypothesis]

theorem unchain_chain {encrypt decrypt : Block → Block}
    (cancel : ∀ block key : Block, block ^^^ key ^^^ key = block)
    (inverse : ∀ block, decrypt (encrypt block) = block) (vector : Block) (blocks : List Block) :
    unchain decrypt vector (chain encrypt vector blocks).1 =
      (blocks, (chain encrypt vector blocks).2) := by
  induction blocks generalizing vector with
  | nil => rfl
  | cons block rest inductionHypothesis =>
      dsimp only [chain, unchain]
      rw [inductionHypothesis, inverse, cancel]

end BlockCipher

import ConfidentialToken.Json.Schema
import ConfidentialToken.Random.Source

/-!
ElGamal encryption of elements of the first group.
-/

namespace ConfidentialToken.ElGamal

open Json

variable {S : Suite}

/-- A key for encryption: a generator and its multiple by the secret. -/
structure PublicKey (S : Suite) where
  generator : S.G1
  multiple : S.G1

instance : JsonForm (PublicKey S) where
  toJson key := .object [("gen", toJson key.generator), ("h", toJson key.multiple)]
  fromJson value := do
    let [generator, multiple] ← value.fields ["gen", "h"] | none
    return { generator := ← required generator, multiple := ← required multiple }

structure SecretKey (S : Suite) where
  secret : S.Scalar
  publicKey : PublicKey S

structure Ciphertext (S : Suite) where
  c1 : S.G1
  c2 : S.G1

instance : JsonForm (Ciphertext S) where
  toJson ciphertext :=
    .object [("c1", toJson ciphertext.c1), ("c2", toJson ciphertext.c2)]
  fromJson value := do
    let [c1, c2] ← value.fields ["c1", "c2"] | none
    return { c1 := ← required c1, c2 := ← required c2 }

def SecretKey.ofSecret (secret : S.Scalar) (generator : S.G1) : SecretKey S :=
  ⟨secret, ⟨generator, secret • generator⟩⟩

def SecretKey.generate {R : Type} [RandomSource S R] : Sampling R (SecretKey S) := do
  let generator ← Sampling.g1
  let secret ← Sampling.scalar
  return .ofSecret secret generator

/-- The encryption of an element with given randomness. -/
def PublicKey.encryptWith (key : PublicKey S) (message : S.G1) (randomness : S.Scalar) :
    Ciphertext S :=
  ⟨randomness • key.generator, message + randomness • key.multiple⟩

/-- Encrypts an element and returns the randomness as well. -/
def PublicKey.encrypt {R : Type} [RandomSource S R] (key : PublicKey S) (message : S.G1) :
    Sampling R (Ciphertext S × S.Scalar) := do
  let randomness ← Sampling.scalar
  return (key.encryptWith message randomness, randomness)

def SecretKey.decrypt (key : SecretKey S) (ciphertext : Ciphertext S) : S.G1 :=
  ciphertext.c2 - key.secret • ciphertext.c1

end ConfidentialToken.ElGamal

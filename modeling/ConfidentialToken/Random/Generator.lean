import ConfidentialToken.Random.ChaCha

/-!
Deterministic generators of random words.

A generator starts from a 64-bit seed. A separate task gets a fork: a generator
of its own, keyed by bytes drawn from the first.
-/

namespace ConfidentialToken

inductive Generator where
  /-- A counter whose values are scrambled. -/
  | counter (state : UInt64)
  /-- The stream of a cipher. -/
  | cipher (stream : ChaCha.Stream)

namespace Generator

def scramble (state : UInt64) : UInt64 :=
  let z := (state ^^^ (state >>> 30)) * 0xbf58476d1ce4e5b9
  let z := (z ^^^ (z >>> 27)) * 0x94d049bb133111eb
  z ^^^ (z >>> 31)

/-- The next 64-bit word. A cipher gives its low half first. -/
def next64 : Generator → UInt64 × Generator
  | .counter state =>
      let state := state + 0x9e3779b97f4a7c15
      (scramble state, .counter state)
  | .cipher stream =>
      let (low, stream) := stream.next
      let (high, stream) := stream.next
      (low.toUInt64 ||| (high.toUInt64 <<< 32), .cipher stream)

/-- The next 32-bit word. A counter gives the low half of a 64-bit word. -/
def next32 : Generator → UInt32 × Generator
  | .counter state =>
      let (word, generator) := next64 (.counter state)
      (word.toUInt32, generator)
  | .cipher stream =>
      let (word, stream) := stream.next
      (word, .cipher stream)

def words : (count : Nat) → Generator → List UInt64 × Generator
  | 0, generator => ([], generator)
  | count + 1, generator =>
      let (word, generator) := generator.next64
      let (rest, generator) := words count generator
      (word :: rest, generator)

/-- A generator keyed by the next thirty-two bytes, and the generator after
them. -/
def fork (generator : Generator) : Generator × Generator :=
  let (key, generator) := generator.words 4
  let seed := key.flatMap fun word => Bytes.littleEndian 8 word.toNat
  (.cipher (.ofSeed seed), generator)

end Generator

end ConfidentialToken

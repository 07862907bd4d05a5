import ConfidentialToken.Bn254.Pairing
import ConfidentialToken.Bytes.Sha256
import ConfidentialToken.Random.Generator
import ConfidentialToken.Random.Source

/-!
The suite of the curve BN254 with the hash function SHA-256, and sampling of its
elements.
-/

namespace ConfidentialToken.Bn254

/-- The digest of a message, reduced modulo the order of the groups. -/
def hashToScalar (message : Bytes) : Fr :=
  .ofNat (Bytes.ofBigEndian (Sha256.digest message))

/-- The first point among those that the digests of the message with the
counters from `counter` on give as first coordinates. The last bit of a digest
selects the second coordinate. -/
def hashToG1From : (attempts : Nat) → (counter : UInt64) → Bytes → G1
  | 0, _, _ => .infinity
  | attempts + 1, counter, message =>
      let digest := Sha256.digest (message ++ Bytes.bigEndian 8 counter.toNat)
      let larger := (digest.getLast?.getD 0) &&& 1 == 1
      match G1.withX? (.ofNat (Bytes.ofBigEndian digest)) larger with
      | some point => point
      | none => hashToG1From attempts (counter + 1) message

/-- A point that depends on every byte of a message, by trying one counter after
the other. -/
def hashToG1 (message : Bytes) : G1 :=
  hashToG1From UInt64.size 0 message

abbrev suite : Suite where
  Scalar := Fr
  G1 := G1
  G2 := G2
  Gt := Gt
  scalarDecidableEq := inferInstance
  g1DecidableEq := inferInstance
  g2DecidableEq := inferInstance
  gtDecidableEq := inferInstance
  scalarOperations := inferInstance
  g1Operations := inferInstance
  g2Operations := inferInstance
  gtOperations := inferInstance
  scalarEncoding := inferInstance
  g1Encoding := inferInstance
  g2Encoding := inferInstance
  gtEncoding := inferInstance
  pairingSum := pairingSum
  hashToScalar := hashToScalar
  hashToG1 := hashToG1

/-- How often a rejected sample is drawn again. A sample is accepted with a
chance of more than one in three, so that this many rejections in a row do not
occur. -/
def maxAttempts : Nat := 65536

/-- A random residue: four words that form a number below the modulus, read as
the residue times `2 ^ 256`. -/
def sampleResidue {p : Nat} [Modulus p] (generator : Generator) : Residue p × Generator :=
  attempt maxAttempts generator
where
  /-- Draws until the number is below the modulus. -/
  attempt : Nat → Generator → Residue p × Generator
    | 0, generator => (0, generator)
    | attempts + 1, generator =>
        let (words, generator) := generator.words 4
        let number := Bytes.ofLittleEndian (words.flatMap fun word =>
          Bytes.littleEndian 8 word.toNat) % Nat.pow 2 254
        if number < p then (.ofNat number * (.ofNat (Nat.pow 2 256))⁻¹, generator)
        else attempt attempts generator

/-- A random point of the first curve: random first coordinates until one is on
the curve. -/
def sampleG1 (generator : Generator) : G1 × Generator :=
  attempt maxAttempts generator
where
  /-- Draws until the coordinate is on the curve. -/
  attempt : Nat → Generator → G1 × Generator
    | 0, generator => (.infinity, generator)
    | attempts + 1, generator =>
        let (x, generator) := sampleResidue generator
        let (word, generator) := generator.next32
        match G1.withX? x (word >>> 31 == 1) with
        | some point => (point, generator)
        | none => attempt attempts generator

/-- The number of points of the second curve divided by the order of the
groups. -/
def g2Cofactor : Nat :=
  21888242871839275222246405745257275088844257914179612981679871602714643921549

/-- A random point of the second group: a random point of the curve times the
cofactor. -/
def sampleG2 (generator : Generator) : G2 × Generator :=
  attempt maxAttempts generator
where
  /-- Draws until the coordinate is on the curve. -/
  attempt : Nat → Generator → G2 × Generator
    | 0, generator => (.infinity, generator)
    | attempts + 1, generator =>
        let (c0, generator) := sampleResidue generator
        let (c1, generator) := sampleResidue generator
        let (word, generator) := generator.next32
        match G2.withX? ⟨c0, c1⟩ (word >>> 31 == 1) with
        | some point => (point.multiple g2Cofactor, generator)
        | none => attempt attempts generator

instance : RandomSource suite Generator where
  scalar := sampleResidue
  g1 := sampleG1
  g2 := sampleG2
  fork := Generator.fork

end ConfidentialToken.Bn254

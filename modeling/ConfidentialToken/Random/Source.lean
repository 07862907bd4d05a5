import ConfidentialToken.Suite

/-!
Sampling from an explicit source of randomness.

Everything that needs random elements is a state transformer over its source, so
that a run is determined by the state of the source, and so that statements can
quantify over the samples.
-/

namespace ConfidentialToken

/-- A source of random elements of a suite. -/
class RandomSource (S : Suite) (R : Type) where
  /-- A random scalar. -/
  scalar : R → S.Scalar × R
  /-- A random element of the first group. -/
  g1 : R → S.G1 × R
  /-- A random element of the second group. -/
  g2 : R → S.G2 × R
  /-- An independent source for a separate task, and the source after it. -/
  fork : R → R × R

/-- A computation that draws from a source of type `R` and can fail. -/
abbrev Sampling (R : Type) := StateT R Result

namespace Sampling

variable {S : Suite} {R : Type} [RandomSource S R]

def scalar : Sampling R S.Scalar :=
  fun source => .ok (RandomSource.scalar source)

def g1 : Sampling R S.G1 :=
  fun source => .ok (RandomSource.g1 source)

def g2 : Sampling R S.G2 :=
  fun source => .ok (RandomSource.g2 source)

def times {R α : Type} (count : Nat) (draw : Sampling R α) : Sampling R (List α) :=
  match count with
  | 0 => return []
  | count + 1 => do
      let first ← draw
      let rest ← times count draw
      return first :: rest

def scalars (count : Nat) : Sampling R (List S.Scalar) :=
  times count scalar

variable (S) in
def forked {α : Type} (task : Sampling R α) : Sampling R α := fun source =>
  let (taskSource, source) := RandomSource.fork S source
  match task taskSource with
  | .ok (value, _) => .ok (value, source)
  | .error failure => .error failure

/-- Adds to a failure what was being done when it occurred. -/
def during {R α : Type} (activity : String) (task : Sampling R α) : Sampling R α :=
  fun source => ConfidentialToken.during activity (task source)

end Sampling

end ConfidentialToken

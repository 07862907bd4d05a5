import ConfidentialToken.Proofs.Bn254.Exponents
import ConfidentialToken.Proofs.Bulletproof.RangeProof

/-!
What the challenges of a range proof over bits depend on.

The first challenge and the one that opens the inner product argument depend on
all that comes before them. The challenge of the polynomial depends on nothing
but the commitments to the coefficients, and the challenge of a round on nothing
but the points of the round. So a prover can fix the challenge of the polynomial
before it chooses anything else, and then prove a value that is not in range.
-/

namespace ConfidentialToken.Bulletproof

variable {S : Suite}

/-- The bytes whose hashes are the challenges of the rounds. -/
def InnerProduct.Proof.roundTranscripts (proof : InnerProduct.Proof S) : List Bytes :=
  List.zipWith InnerProduct.roundTranscript proof.l proof.r

theorem InnerProduct.Proof.challenges_eq (proof : InnerProduct.Proof S) :
    proof.challenges = proof.roundTranscripts.map S.hashToScalar :=
  List.map_zipWith.symm

theorem Statement.rounds_argument {statement : Statement S} {proof : RangeProof S}
    {argument : InnerProduct.Statement S}
    (derived : statement.argument proof = .ok argument) :
    argument.rounds = statement.parameters.rounds := by
  obtain ⟨scaled, -, form⟩ := bind_eq_ok.mp derived
  cases pure_eq_ok.mp form
  rfl

section Binding

variable [FixedWidthEncoding S.Scalar] [FixedWidthEncoding S.G1]

omit [FixedWidthEncoding S.Scalar] in
theorem transcriptY_inj {c d commitment otherC otherD otherCommitment : S.G1} :
    transcriptY c d commitment = transcriptY otherC otherD otherCommitment ↔
      c = otherC ∧ d = otherD ∧ commitment = otherCommitment := by
  simp only [transcriptY, List.append_assoc, encode_append_inj, encode_inj]

omit [FixedWidthEncoding S.Scalar] in
theorem transcriptX_inj {t1 t2 otherT1 otherT2 : S.G1} :
    transcriptX t1 t2 = transcriptX otherT1 otherT2 ↔ t1 = otherT1 ∧ t2 = otherT2 := by
  simp only [transcriptX, encode_append_inj, encode_inj]

omit [FixedWidthEncoding S.Scalar] in
theorem InnerProduct.roundTranscript_inj {l r otherL otherR : S.G1} :
    roundTranscript l r = roundTranscript otherL otherR ↔ l = otherL ∧ r = otherR := by
  simp only [roundTranscript, encode_append_inj, encode_inj]

theorem InnerProduct.Statement.initialTranscript_inj
    {statement other : InnerProduct.Statement S}
    (rounds : statement.rounds = other.rounds) (matched : statement.Matched)
    (otherMatched : other.Matched) :
    statement.initialTranscript = other.initialTranscript ↔ statement = other := by
  have leftLengths : statement.leftGenerators.length = other.leftGenerators.length := by
    rw [matched.left, otherMatched.left, rounds]
  have rightLengths :
      statement.rightGenerators.length = other.rightGenerators.length := by
    rw [matched.right, otherMatched.right, rounds]
  simp only [initialTranscript, List.append_assoc, encodeAll_append_inj rightLengths,
    encodeAll_append_inj leftLengths, encode_append_inj, List.append_cancel_left_eq,
    encode_inj]
  constructor
  · rintro ⟨right, left, q, commitment, product⟩
    cases statement
    cases other
    simp_all
  · rintro rfl
    exact ⟨rfl, rfl, rfl, rfl, rfl⟩

omit [FixedWidthEncoding S.Scalar] in
theorem InnerProduct.Proof.roundTranscripts_inj {proof other : InnerProduct.Proof S}
    {rounds : Nat} (fits : proof.Fits rounds) (otherFits : other.Fits rounds)
    (round : Nat) :
    proof.roundTranscripts[round]? = other.roundTranscripts[round]? ↔
      proof.l[round]? = other.l[round]? ∧ proof.r[round]? = other.r[round]? := by
  by_cases within : round < rounds
  · have l := List.getElem?_eq_getElem (fits.l.symm ▸ within)
    have r := List.getElem?_eq_getElem (fits.r.symm ▸ within)
    have otherL := List.getElem?_eq_getElem (otherFits.l.symm ▸ within)
    have otherR := List.getElem?_eq_getElem (otherFits.r.symm ▸ within)
    simp only [roundTranscripts, List.getElem?_zipWith, l, r, otherL, otherR,
      Option.some.injEq, roundTranscript_inj]
  · have beyond {list : List S.G1} (length : list.length = rounds) :
        list[round]? = none :=
      List.getElem?_eq_none (by omega)
    simp [roundTranscripts, List.getElem?_zipWith, beyond fits.l, beyond fits.r,
      beyond otherFits.l, beyond otherFits.r]

/-- Between two accepted proofs under the same parameters, equal transcripts
mean equal messages, and exactly those that the transcript gathers: the
challenge of the polynomial says nothing about the commitment, `c` and `d`, and
the challenge of a round nothing about the rounds before it. -/
theorem transcripts_eq_iff {statement other : Statement S}
    {proof otherProof : RangeProof S}
    (sameParameters : statement.parameters = other.parameters)
    (accepted : statement.verify proof = .ok ())
    (otherAccepted : other.verify otherProof = .ok ()) :
    (transcriptY proof.c proof.d statement.commitment =
        transcriptY otherProof.c otherProof.d other.commitment ↔
      proof.c = otherProof.c ∧ proof.d = otherProof.d ∧
        statement.commitment = other.commitment) ∧
    (encode (challengeY proof.c proof.d statement.commitment) =
        encode (challengeY otherProof.c otherProof.d other.commitment) ↔
      challengeY proof.c proof.d statement.commitment =
        challengeY otherProof.c otherProof.d other.commitment) ∧
    (transcriptX proof.t1 proof.t2 = transcriptX otherProof.t1 otherProof.t2 ↔
      proof.t1 = otherProof.t1 ∧ proof.t2 = otherProof.t2) ∧
    ∃ argument otherArgument, statement.argument proof = .ok argument ∧
      other.argument otherProof = .ok otherArgument ∧
      (argument.initialTranscript = otherArgument.initialTranscript ↔
        argument = otherArgument) ∧
      ∀ round : Nat,
        (proof.argument.roundTranscripts[round]? =
          otherProof.argument.roundTranscripts[round]? ↔
          proof.argument.l[round]? = otherProof.argument.l[round]? ∧
            proof.argument.r[round]? = otherProof.argument.r[round]?) := by
  obtain ⟨-, -, argument, derived, proved⟩ := Statement.verify_eq_ok.mp accepted
  obtain ⟨-, -, otherArgument, otherDerived, otherProved⟩ :=
    Statement.verify_eq_ok.mp otherAccepted
  obtain ⟨fits, matched, -⟩ := InnerProduct.Statement.verify_eq_ok.mp proved
  obtain ⟨otherFits, otherMatched, -⟩ :=
    InnerProduct.Statement.verify_eq_ok.mp otherProved
  have rounds : argument.rounds = otherArgument.rounds := by
    rw [Statement.rounds_argument derived, Statement.rounds_argument otherDerived,
      sameParameters]
  rw [← rounds] at otherFits
  exact ⟨transcriptY_inj, encode_inj, transcriptX_inj, argument, otherArgument, derived,
    otherDerived, InnerProduct.Statement.initialTranscript_inj rounds matched
      otherMatched,
    InnerProduct.Proof.roundTranscripts_inj fits otherFits⟩

end Binding

/-- What a dishonest prover fixes first, so that it knows the challenge of the
polynomial, and what it chooses with this knowledge: a vector for the value
whose first entry need not be a bit. -/
structure Forgery (S : Suite) where
  t1 : S.Scalar
  t2 : S.Scalar
  tau1 : S.Scalar
  tau2 : S.Scalar
  first : S.Scalar
  others : List S.Scalar
  blindingFactor : S.Scalar
  delta : S.Scalar
  d : S.G1

namespace Forgery

/-- The statement for a forgery: the commitment is to what the vector spells. -/
def statement (forgery : Forgery S) (g h : S.G1) (parameters : Parameters S) :
    Statement S where
  commitment := dotProduct (forgery.first :: forgery.others)
    (powers (1 + 1) parameters.bitLength.toNat) • g + forgery.blindingFactor • h
  g := g
  h := h
  parameters := parameters

/-- The challenge of the polynomial, which is known before the vector is
chosen. -/
def x (forgery : Forgery S) (g h : S.G1) : S.Scalar :=
  challengeX (forgery.t1 • g + forgery.tau1 • h) (forgery.t2 • g + forgery.tau2 • h)

/-- What the collapsed polynomial lacks at the challenge has to be hidden in the
first entry. -/
def excess (forgery : Forgery S) (g h : S.G1) : S.Scalar :=
  forgery.x g h * forgery.t1 + forgery.x g h * forgery.x g h * forgery.t2

/-- The commitment to the vector and to the vector minus one, with what `d` will
add taken off. -/
def c (forgery : Forgery S) (g h : S.G1) (parameters : Parameters S) : S.G1 :=
  let entries := forgery.first :: forgery.others
  commitVectors parameters entries (entries.map (· - 1)) + forgery.delta • parameters.p -
    forgery.x g h • forgery.d

def prove (forgery : Forgery S) (g h : S.G1) (parameters : Parameters S) :
    Result (RangeProof S) := do
  let count := parameters.bitLength.toNat
  let entries := forgery.first :: forgery.others
  let x := forgery.x g h
  let c := forgery.c g h parameters
  let y := challengeY c forgery.d (forgery.statement g h parameters).commitment
  let z := challengeZ y
  let left := entries.map (· - z)
  let right := List.zipWith (· + ·)
    (List.zipWith (fun entry power => (entry - 1 + z) * power) entries (powers y count))
    ((powers (1 + 1) count).map (z * z * ·))
  let scaled ← scaleRight parameters.rightGenerators (powers y count)
  return {
    t1 := forgery.t1 • g + forgery.tau1 • h
    t2 := forgery.t2 • g + forgery.tau2 • h
    tau := x * forgery.tau1 + x * x * forgery.tau2 + z * z * forgery.blindingFactor
    c := c
    d := forgery.d
    delta := forgery.delta
    innerProduct := dotProduct left right
    argument := ←
      InnerProduct.prove (parameters.collapsed scaled (dotProduct left right) left right)
      left right }

theorem messages_eq {forgery : Forgery S} {g h : S.G1} {parameters : Parameters S}
    {proof : RangeProof S} (proved : forgery.prove g h parameters = .ok proof) :
    proof.t1 = forgery.t1 • g + forgery.tau1 • h ∧
      proof.t2 = forgery.t2 • g + forgery.tau2 • h ∧
      proof.c = forgery.c g h parameters ∧ proof.d = forgery.d := by
  obtain ⟨scaled, -, proved⟩ := bind_eq_ok.mp proved
  obtain ⟨argument, -, proved⟩ := bind_eq_ok.mp proved
  cases pure_eq_ok.mp proved
  exact ⟨rfl, rfl, rfl, rfl⟩

section Entries

variable [LawfulG1 S] {count : Nat} {entries : Fin count → S.Scalar}

omit [LawfulG1 S] in
theorem map_entries (z : S.Scalar) :
    (List.ofFn entries).map (· - z) = collapsedLeft z entries :=
  List.map_ofFn

theorem zipWith_entries (y z : S.Scalar) :
    List.zipWith (· + ·)
        (List.zipWith (fun entry power => (entry - 1 + z) * power) (List.ofFn entries)
          (powers y count))
        ((powers (1 + 1) count).map (z * z * ·)) =
      collapsedRight y z fun index => entries index - 1 := by
  simp only [powers_eq, collapsedRight, List.map_ofFn, zipWith_ofFn, Function.comp_def]

/-- Where all entries but the first are bits, only the first one is left of the
sum. -/
theorem sum_entries {first : S.Scalar} {others : List S.Scalar}
    (split : first :: others = List.ofFn entries)
    (areBits : ∀ entry ∈ others, entry * (entry - 1) = 0) (y : S.Scalar) :
    ∑ index, entries index * (entries index - 1) * y ^ index.val =
      first * (first - 1) := by
  cases count with
  | zero => cases split
  | succ count =>
      rw [List.ofFn_succ, List.cons.injEq] at split
      obtain ⟨rfl, rfl⟩ := split
      have isBit (index : Fin count) :
          entries index.succ * (entries index.succ - 1) = 0 :=
        areBits _ (List.mem_ofFn.mpr ⟨index, rfl⟩)
      simp [Fin.sum_univ_succ, isBit]

end Entries

/-- A forgery is accepted if its first entry hides the excess and all others are
bits. -/
theorem accepted [LawfulG1 S] {forgery : Forgery S} {g h : S.G1}
    {parameters : Parameters S} {proof : RangeProof S} (sized : parameters.Sized)
    (count : parameters.bitLength.toNat = forgery.others.length + 1)
    (hidden : forgery.first * (forgery.first - 1) = forgery.excess g h)
    (areBits : ∀ entry ∈ forgery.others, entry * (entry - 1) = 0)
    (proved : forgery.prove g h parameters = .ok proof) :
    (forgery.statement g h parameters).verify proof = .ok () := by
  have length : (forgery.first :: forgery.others).length = parameters.bitLength.toNat :=
    count.symm
  obtain ⟨entries, entriesEq⟩ := exists_ofFn length
  have opened : forgery.c g h parameters + forgery.x g h • forgery.d =
      commitVectors parameters (List.ofFn entries)
        (List.ofFn fun index => entries index - 1) +
        forgery.delta • parameters.p := by
    simp only [c, entriesEq, List.map_ofFn, Function.comp_def, sub_add_cancel]
  simp only [prove, entriesEq, map_entries, zipWith_entries, bind_eq_ok, pure_eq_ok]
    at proved
  obtain ⟨scaled, scaling, argument, argumentProved, rfl⟩ := proved
  refine (Statement.evaluates_collapsed entries (fun index => entries index - 1) rfl
    sized opened rfl ?_ scaling argumentProved).verify sized
  rw [dotProduct_collapsed_sub_one, sum_entries entriesEq areBits, hidden]
  simp only [statement, entriesEq, powers_eq, dotProduct_ofFn, excess, x]
  module

end Forgery

/-- Generators for values of one bit, and a forgery over the bases `17` and `19`
whose only entry is no bit, but hides the excess. -/
def sampleParameters : Parameters Bn254.exponentSuite where
  leftGenerators := [2]
  rightGenerators := [5]
  p := 11
  q := 13
  bitLength := 1
  rounds := 0

def sampleForgery (blindingFactor delta d : Bn254.Fr) : Forgery Bn254.exponentSuite where
  t1 := 0
  t2 := 5
  tau1 := 7
  tau2 := 9
  first := .ofNat
    17837899620644377237510559715423608994467818960238233117404510285432192539512
  others := []
  blindingFactor := blindingFactor
  delta := delta
  d := d

def sampleStatement (forgery : Forgery Bn254.exponentSuite) :
    Statement Bn254.exponentSuite :=
  forgery.statement (17 : Bn254.Fr) (19 : Bn254.Fr) sampleParameters

theorem sampleForgery_accepted {blindingFactor delta d : Bn254.Fr}
    {proof : RangeProof Bn254.exponentSuite}
    (proved : (sampleForgery blindingFactor delta d).prove (17 : Bn254.Fr) (19 : Bn254.Fr)
      sampleParameters = .ok proof) :
    (sampleStatement (sampleForgery blindingFactor delta d)).verify proof = .ok () := by
  have hidden : (sampleForgery 0 0 0).first * ((sampleForgery 0 0 0).first - 1) =
      (sampleForgery 0 0 0).excess (17 : Bn254.Fr) (19 : Bn254.Fr) := by
    decide +kernel
  exact Forgery.accepted ⟨rfl, rfl⟩ rfl hidden (List.forall_mem_nil _) proved

theorem sampleForgery_proved (blindingFactor delta d : Bn254.Fr) :
    ∃ proof, (sampleForgery blindingFactor delta d).prove (17 : Bn254.Fr) (19 : Bn254.Fr)
      sampleParameters = .ok proof := by
  have success :
    ((sampleForgery blindingFactor delta d).prove (17 : Bn254.Fr) (19 : Bn254.Fr)
      sampleParameters).toOption.isSome = true := rfl
  obtain ⟨proof, proved⟩ := Option.isSome_iff_exists.mp success
  exact ⟨proof, toOption_eq_some.mp proved⟩

/-- Two accepted proofs for different commitments, with different `c` and `d`
but the same challenge of the polynomial. -/
theorem transcriptX_sample :
    ∃ (statement other : Statement Bn254.exponentSuite)
      (proof otherProof : RangeProof Bn254.exponentSuite),
      statement.parameters = other.parameters ∧ statement.verify proof = .ok () ∧
      other.verify otherProof = .ok () ∧ statement.commitment ≠ other.commitment ∧
      proof.c ≠ otherProof.c ∧ proof.d ≠ otherProof.d ∧
      transcriptX proof.t1 proof.t2 = transcriptX otherProof.t1 otherProof.t2 := by
  obtain ⟨proof, proved⟩ := sampleForgery_proved 4 6 8
  obtain ⟨other, otherProved⟩ := sampleForgery_proved 5 7 9
  obtain ⟨t1, t2, c, d⟩ := Forgery.messages_eq proved
  obtain ⟨otherT1, otherT2, otherC, otherD⟩ := Forgery.messages_eq otherProved
  have accepted := sampleForgery_accepted proved
  have otherAccepted := sampleForgery_accepted otherProved
  have sameParameters : (sampleStatement (sampleForgery 4 6 8)).parameters =
      (sampleStatement (sampleForgery 5 7 9)).parameters := rfl
  obtain ⟨-, -, transcripts, -⟩ :=
    transcripts_eq_iff sameParameters accepted otherAccepted
  refine ⟨sampleStatement (sampleForgery 4 6 8), sampleStatement (sampleForgery 5 7 9),
    proof, other, sameParameters, accepted, otherAccepted, ?_, ?_, ?_,
    transcripts.mpr ⟨t1.trans otherT1.symm, t2.trans otherT2.symm⟩⟩
  · decide +kernel
  · rw [c, otherC]
    decide +kernel
  · rw [d, otherD]
    decide +kernel

end ConfidentialToken.Bulletproof

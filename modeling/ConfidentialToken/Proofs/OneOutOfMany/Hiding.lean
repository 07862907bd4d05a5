import ConfidentialToken.Proofs.OneOutOfMany.Completeness

/-!
One-out-of-many proofs do not tell the index.

Where every element of the group is a multiple of the second base, the random
scalars with which a prover makes a given proof can be read off the proof, for
whatever index the prover knows. All commitments are hidden by multiples of the
second base, so that scalars that make up for the bits of the index exist, and
there are no others.
-/

namespace ConfidentialToken.OneOutOfMany

variable {S : Suite} [LawfulG1 S]

/-- The randomness with which a prover who knows an index with given bits makes
a proof. -/
def Proof.randomness (log : S.G1 → S.Scalar) (statement : Statement S) (g0 : S.G1)
    (bits : List Bool) (proof : Proof S) : Randomness S :=
  let challenge := statement.challenge proof.commitments
  let a :=
    List.zipWith (fun bit l => if bit then l - challenge else l) bits proof.values.l
  let r :=
    List.zipWith (fun bit l => log (if bit then l - g0 else l)) bits proof.commitments.l
  let factors := linearFactors bits a
  { a := a
    r := r
    s := List.zipWith (fun r a => a - r * challenge) r proof.values.a
    t := List.zipWith (fun l (r, b) => b - (challenge - l) * r) proof.values.l
      (r.zip proof.values.b)
    rho := (masks statement.commitments
      (fun index => polynomialForIndex index factors.1 factors.2)
      proof.commitments.d).map log }

variable {log : S.G1 → S.Scalar} {statement : Statement S} {witness : Witness S}
  {g0 g1 : S.G1}

omit [LawfulG1 S] in
theorem proveWith_eq_ok (fits : Fits statement witness g0 g1) {randomness : Randomness S}
    {proof : Proof S} :
    proveWith statement witness randomness = .ok proof ↔
      commit statement g0 g1 (indexBits witness.index statement.bitLength.toNat)
          randomness = proof.commitments ∧
        respond (statement.challenge proof.commitments)
          (indexBits witness.index statement.bitLength.toNat) witness randomness =
            proof.values := by
  have checked := checkWitness_eq_ok.mpr fits
  simp only [proveWith, checked, bind_eq_ok, Except.ok.injEq, pure_eq_ok]
  constructor
  · rintro ⟨_, rfl, rfl⟩
    exact ⟨rfl, rfl⟩
  · rintro ⟨commitments, values⟩
    refine ⟨_, rfl, ?_⟩
    rw [commitments, values]

omit [LawfulG1 S] in
theorem Proof.sized_randomness {proof : Proof S} {bits : List Bool} {count : Nat}
    (bitsLength : bits.length = count) (commitments : proof.commitments.Sized count)
    (values : proof.values.Sized count) :
    (proof.randomness log statement g0 bits).Sized count := by
  constructor <;>
    simp [randomness, masks, bitsLength, commitments.l, commitments.d, values.l,
      values.a, values.b]

/-- A bit is committed to with scalars that are read off the commitments to it
and the responses. -/
theorem commitBit_of_equations (logarithm : IsLogarithm log g1) (bit : Bool)
    {l a b : S.G1} {challenge vl va vb : S.Scalar}
    (linear : challenge • l + a = vl • g0 + va • g1)
    (product : (challenge - vl) • l + b = vb • g1) :
    let first := if bit then vl - challenge else vl
    let r := log (if bit then l - g0 else l)
    let t := vb - (challenge - vl) * r
    (if bit then r • g1 + g0 else r • g1) = l ∧
      first • g0 + (va - r * challenge) • g1 = a ∧
      (if bit then t • g1 + first • g0 else t • g1) = b := by
  intro first r t
  have opened : r • g1 = if bit then l - g0 else l := logarithm.smul _
  rw [← eq_sub_iff_add_eq'] at linear product
  rw [linear, product]
  cases bit <;>
    simp only [Bool.false_eq_true, if_true, if_false] at opened
  · simp only [first, t, ← opened, Bool.false_eq_true, if_false]
    refine ⟨trivial, ?_, ?_⟩ <;> module
  · rw [eq_sub_iff_add_eq] at opened
    simp only [first, t, ← opened, if_true]
    refine ⟨trivial, ?_, ?_⟩ <;> module

theorem Proof.commit_randomness (logarithm : IsLogarithm log g1) {proof : Proof S}
    {bits : List Bool} (bitsLength : bits.length = statement.bitLength.toNat)
    (sized : proof.commitments.Sized statement.bitLength.toNat)
    (accepted : Answer.Accepted ⟨statement.challenge proof.commitments, proof.values⟩
      statement g0 g1 proof.commitments) :
    commit statement g0 g1 bits (proof.randomness log statement g0 bits) =
      proof.commitments := by
  obtain ⟨⟨vlLength, vaLength, vbLength⟩, equations, -⟩ := accepted
  obtain ⟨⟨l, a, b, d⟩, ⟨vl, va, vb, vd⟩⟩ := proof
  obtain ⟨lLength, aLength, bLength, dLength⟩ := sized
  dsimp only at *
  obtain ⟨bits, rfl⟩ := exists_ofFn bitsLength
  obtain ⟨l, rfl⟩ := exists_ofFn lLength
  obtain ⟨a, rfl⟩ := exists_ofFn aLength
  obtain ⟨b, rfl⟩ := exists_ofFn bLength
  obtain ⟨vl, rfl⟩ := exists_ofFn vlLength
  obtain ⟨va, rfl⟩ := exists_ofFn vaLength
  obtain ⟨vb, rfl⟩ := exists_ofFn vbLength
  simp only [zip_ofFn, forM_eq_ok, List.forall_mem_ofFn_iff, checkBit_eq_ok] at equations
  have made index :=
    commitBit_of_equations logarithm (bits index) (equations index).1 (equations index).2
  simp only [commit, randomness, zip_ofFn, zipWith_ofFn, Commitments.mk.injEq]
  refine ⟨congrArg List.ofFn (funext fun index => (made index).1),
    congrArg List.ofFn (funext fun index => (made index).2.1),
    congrArg List.ofFn (funext fun index => (made index).2.2), ?_⟩
  refine List.ext_getElem (by simp [masks]) fun place bound _ => ?_
  simp [masks, logarithm.smul, Function.comp_def]

theorem Proof.respond_bits {proof : Proof S} (witness : Witness S) {bits : List Bool}
    {count : Nat} (bitsLength : bits.length = count)
    (commitments : proof.commitments.Sized count) (values : proof.values.Sized count) :
    let response := respond (statement.challenge proof.commitments) bits witness
      (proof.randomness log statement g0 bits)
    response.l = proof.values.l ∧ response.a = proof.values.a ∧
      response.b = proof.values.b := by
  obtain ⟨⟨l, a, b, d⟩, ⟨vl, va, vb, vd⟩⟩ := proof
  obtain ⟨lLength, aLength, bLength, dLength⟩ := commitments
  obtain ⟨vlLength, vaLength, vbLength⟩ := values
  dsimp only at *
  obtain ⟨bits, rfl⟩ := exists_ofFn bitsLength
  obtain ⟨l, rfl⟩ := exists_ofFn lLength
  obtain ⟨vl, rfl⟩ := exists_ofFn vlLength
  obtain ⟨va, rfl⟩ := exists_ofFn vaLength
  obtain ⟨vb, rfl⟩ := exists_ofFn vbLength
  simp only [respond, randomness, zip_ofFn, zipWith_ofFn]
  refine ⟨congrArg List.ofFn (funext fun index => ?_),
    congrArg List.ofFn (funext fun index => ?_),
    congrArg List.ofFn (funext fun index => ?_)⟩
  · cases bits index <;> simp
  · exact add_sub_cancel _ _
  · cases bits index <;> simp

theorem Proof.respond_randomness (logarithm : IsLogarithm log g1)
    (fits : Fits statement witness g0 g1) {proof : Proof S}
    (sized : proof.commitments.Sized statement.bitLength.toNat)
    (accepted : Answer.Accepted ⟨statement.challenge proof.commitments, proof.values⟩
      statement g0 g1 proof.commitments) :
    let bits := indexBits witness.index statement.bitLength.toNat
    respond (statement.challenge proof.commitments) bits witness
      (proof.randomness log statement g0 bits) = proof.values := by
  intro bits
  have bitsLength : bits.length = statement.bitLength.toNat := by simp [bits, indexBits]
  have drawn : (proof.randomness log statement g0 bits).Sized statement.bitLength.toNat :=
    sized_randomness bitsLength sized accepted.sized
  have collapsed := collapsed_respond fits drawn (statement.challenge proof.commitments)
  have made := proof.commit_randomness logarithm bitsLength sized accepted
  obtain ⟨l, a, b⟩ :
      (respond _ bits witness (proof.randomness log statement g0 bits)).l = _ ∧ _ :=
    proof.respond_bits witness bitsLength sized accepted.sized
  have d : (respond (statement.challenge proof.commitments) bits witness
      (proof.randomness log statement g0 bits)).d = proof.values.d := by
    refine smul_left_injective S.Scalar logarithm.nonzero ?_
    refine collapsed.symm.trans (Eq.trans ?_ accepted.collapsed)
    rw [made, Statement.collapsed, Statement.collapsed, l]
  calc respond (statement.challenge proof.commitments) bits witness
        (proof.randomness log statement g0 bits)
      = ⟨proof.values.l, proof.values.a, proof.values.b, proof.values.d⟩ := by
        rw [← l, ← a, ← b, ← d]
    _ = proof.values := rfl

/-- A proof determines the randomness with which it is made for an index. -/
theorem randomness_unique (logarithm : IsLogarithm log g1) {bits : List Bool}
    (bitsLength : bits.length = statement.bitLength.toNat) {randomness : Randomness S}
    (drawn : randomness.Sized statement.bitLength.toNat) {proof : Proof S}
    (committed : commit statement g0 g1 bits randomness = proof.commitments)
    (responded : respond (statement.challenge proof.commitments) bits witness randomness =
      proof.values) :
    randomness = proof.randomness log statement g0 bits := by
  have logSmul (factor : S.Scalar) : log (factor • g1) = factor :=
    (logarithm.eq_iff.mp rfl).symm
  have masked := masks_commit statement g0 g1 bits randomness
  rw [committed] at masked
  obtain ⟨a, r, s, t, rho⟩ := randomness
  obtain ⟨aLength, rLength, sLength, tLength, -⟩ := drawn
  dsimp only at *
  obtain ⟨bits, rfl⟩ := exists_ofFn bitsLength
  obtain ⟨a, rfl⟩ := exists_ofFn aLength
  obtain ⟨r, rfl⟩ := exists_ofFn rLength
  obtain ⟨s, rfl⟩ := exists_ofFn sLength
  obtain ⟨t, rfl⟩ := exists_ofFn tLength
  simp only [Proof.randomness, ← responded]
  generalize statement.challenge proof.commitments = challenge
  have first : List.ofFn a = List.zipWith (fun bit l => if bit then l - challenge else l)
      (List.ofFn bits) (respond challenge (List.ofFn bits) witness
        ⟨List.ofFn a, List.ofFn r, List.ofFn s, List.ofFn t, rho⟩).l := by
    simp only [respond, zipWith_ofFn]
    refine congrArg List.ofFn (funext fun index => ?_)
    cases bits index <;> simp
  have second : List.ofFn r = List.zipWith (fun bit l => log (if bit then l - g0 else l))
      (List.ofFn bits) proof.commitments.l := by
    rw [← committed]
    simp only [commit, zipWith_ofFn]
    refine congrArg List.ofFn (funext fun index => ?_)
    cases bits index <;> simp [logSmul]
  rw [← first, ← second, masked, List.map_map]
  simp only [respond, zip_ofFn, zipWith_ofFn, Randomness.mk.injEq, true_and,
    List.ofFn_inj]
  refine ⟨?_, ?_, ?_⟩
  · simp
  · simp
  · simp [Function.comp_def, logSmul]

/-- A proof that is accepted is made with exactly one randomness, whatever index
the prover knows. -/
theorem proveWith_eq_ok_iff_of_verify (logarithm : IsLogarithm log g1)
    (fits : Fits statement witness g0 g1) {proof : Proof S}
    (accepted : statement.verify proof = .ok ()) {randomness : Randomness S}
    (drawn : randomness.Sized statement.bitLength.toNat) :
    proveWith statement witness randomness = .ok proof ↔
      randomness = proof.randomness log statement g0
        (indexBits witness.index statement.bitLength.toNat) := by
  have bitsLength : (indexBits witness.index statement.bitLength.toNat).length =
      statement.bitLength.toNat := by simp [indexBits]
  obtain ⟨_, _, pedersen, -, sized, answered⟩ := Statement.verify_eq_ok.mp accepted
  cases pedersen.symm.trans fits.pedersen
  rw [proveWith_eq_ok fits]
  constructor
  · rintro ⟨committed, responded⟩
    exact randomness_unique logarithm bitsLength drawn committed responded
  · rintro rfl
    exact ⟨proof.commit_randomness logarithm bitsLength sized answered,
      proof.respond_randomness logarithm fits sized answered⟩

section Tape

open Sampling

omit [LawfulG1 S]

/-- The random scalars in the order in which they are drawn. -/
def Randomness.scalars (randomness : Randomness S) : List S.Scalar :=
  randomness.a ++ (randomness.r ++ (randomness.s ++ (randomness.t ++ randomness.rho)))

theorem Randomness.Sized.length_scalars {randomness : Randomness S} {count : Nat}
    (sized : randomness.Sized count) : randomness.scalars.length = 5 * count := by
  simp only [scalars, List.length_append, sized.a, sized.r, sized.s, sized.t, sized.rho]
  omega

theorem run_sample_eq_ok {count : Nat} {tape rest : List S.Scalar}
    {randomness : Randomness S} (enough : 5 * count ≤ tape.length) :
    (sample count : Sampling (Tape S) (Randomness S)) ⟨tape⟩ = .ok (randomness, ⟨rest⟩) ↔
      randomness.Sized count ∧ tape = randomness.scalars ++ rest := by
  constructor
  · intro run
    obtain ⟨a, _, aLength, rfl, afterA⟩ := (run_scalars_bind_eq_ok (by omega)).mp run
    rw [List.length_append] at enough
    obtain ⟨r, _, rLength, rfl, afterR⟩ := (run_scalars_bind_eq_ok (by omega)).mp afterA
    rw [List.length_append] at enough
    obtain ⟨s, _, sLength, rfl, afterS⟩ := (run_scalars_bind_eq_ok (by omega)).mp afterR
    rw [List.length_append] at enough
    obtain ⟨t, _, tLength, rfl, afterT⟩ := (run_scalars_bind_eq_ok (by omega)).mp afterS
    rw [List.length_append] at enough
    obtain ⟨rho, _, rhoLength, rfl, afterRho⟩ :=
      (run_scalars_bind_eq_ok (by omega)).mp afterT
    cases afterRho
    refine ⟨⟨aLength, rLength, sLength, tLength, rhoLength⟩, ?_⟩
    simp only [Randomness.scalars, List.append_assoc]
  · obtain ⟨a, r, s, t, rho⟩ := randomness
    rintro ⟨⟨aLength, rLength, sLength, tLength, rhoLength⟩, rfl⟩
    simp only [Randomness.scalars, List.append_assoc]
    exact run_scalars_bind_append aLength (run_scalars_bind_append rLength
      (run_scalars_bind_append sLength (run_scalars_bind_append tLength
        (run_scalars_bind_append rhoLength rfl))))

theorem run_prove_eq_ok {statement : Statement S} {witness : Witness S}
    {tape rest : List S.Scalar} {proof : Proof S}
    (enough : 5 * statement.bitLength.toNat ≤ tape.length) :
    (prove statement witness : Sampling (Tape S) (Proof S)) ⟨tape⟩ = .ok (proof, ⟨rest⟩) ↔
      ∃ randomness : Randomness S, randomness.Sized statement.bitLength.toNat ∧
        tape = randomness.scalars ++ rest ∧
        proveWith statement witness randomness = .ok proof := by
  constructor
  · intro run
    obtain ⟨_, _, checked, run⟩ := run_bind_eq_ok.mp run
    obtain ⟨-, rfl⟩ := run_lift_eq_ok.mp checked
    obtain ⟨randomness, ⟨others⟩, drawn, run⟩ := run_bind_eq_ok.mp run
    obtain ⟨made, same⟩ := run_lift_eq_ok.mp run
    obtain ⟨sized, rfl⟩ := (run_sample_eq_ok enough).mp drawn
    cases same
    exact ⟨randomness, sized, rfl, made⟩
  · rintro ⟨randomness, sized, rfl, made⟩
    obtain ⟨bases, checked, -⟩ := bind_eq_ok.mp made
    have drawn := (run_sample_eq_ok enough).mpr ⟨sized, rfl⟩
    exact (run_checked_make_eq_ok drawn fun _ => ⟨bases, checked⟩).mpr made

end Tape

end ConfidentialToken.OneOutOfMany

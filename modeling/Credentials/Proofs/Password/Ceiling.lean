import Credentials.Proofs.Password.Verification

/-!
# The ceiling on stored costs

Anyone who can plant a stored hash chooses its costs. A check asks for a derivation only with costs
up to a ceiling, which the configured costs can raise but never lower: with any other bytes it comes
to its finding without one. To see this, checks are taken here with every function in place of
Argon2id, also with those that refuse costs of their own accord.
-/

namespace Credentials.Password

open Credentials.Argon2

/-- A derivation that may refuse costs. -/
abbrev GuardedDerivation := List UInt8 → Salt → Params → Except ParamError Output

/-- The derivation that refuses the costs that are unusable. -/
def guarded (derive : KeyDerivation) : GuardedDerivation := fun password salt params =>
  params.check.map fun () => derive password salt params

namespace Hasher

variable {derive f g : GuardedDerivation} {h : Hasher} {password : String} {stored : List UInt8}

/-- None of the costs is above both the hasher's own one and the highest that is always accepted. -/
def Admits (h : Hasher) (params : Params) : Prop :=
  params.memoryKib ≤ max h.params.memoryKib maxStoredParams.memoryKib ∧
    params.iterations ≤ max h.params.iterations maxStoredParams.iterations ∧
    params.parallelism ≤ max h.params.parallelism maxStoredParams.parallelism

/-- Checks a password as a hasher does, with a derivation that may refuse costs. -/
def inspectBy (derive : GuardedDerivation) (h : Hasher) (password : String) (stored : List UInt8) :
    Finding :=
  match StoredHash.decode stored with
  | .error cause => .malformed cause
  | .ok hash =>
    let params := hash.costs.params
    if params.exceeds h.ceiling then .tooCostly params
    else match derive (passwordBytes password) hash.salt params with
      | .error cause => .unusable cause
      | .ok output =>
        if output = hash.output then .accepted (hash.costs = h.costs) else .wrongPassword

/-- The check with a derivation for usable costs refuses all others. -/
theorem inspectWith_eq_inspectBy (derive : KeyDerivation) (h : Hasher) (password : String)
    (stored : List UInt8) :
    h.inspectWith derive password stored = h.inspectBy (guarded derive) password stored := by
  rw [inspectWith, inspectBy]
  cases StoredHash.decode stored with
  | error cause => rfl
  | ok hash =>
    dsimp only
    rw [guarded]
    cases hash.costs.params.check <;> rfl

/-- The costs up to the ceiling are admitted. -/
theorem admits_iff {params : Params} : h.Admits params ↔ params.exceeds h.ceiling = false := by
  rw [Params.exceeds_eq_false_iff]
  rfl

/-- Higher costs of new hashes admit no fewer costs of stored ones. -/
theorem Admits.of_le {d : Hasher} {params : Params} (hadmits : h.Admits params)
    (hle : h.params.exceeds d.params = false) : d.Admits params := by
  obtain ⟨hmemory, hiterations, hparallelism⟩ := Params.exceeds_eq_false_iff.mp hle
  exact ⟨UInt32.le_trans hadmits.1 (Params.max_le_max hmemory _),
    UInt32.le_trans hadmits.2.1 (Params.max_le_max hiterations _),
    UInt32.le_trans hadmits.2.2 (Params.max_le_max hparallelism _)⟩

/-- Two derivations have the same finding where the check does not come to deriving. -/
theorem inspectBy_of_not_admits
    (hcosts : ∀ hash, StoredHash.decode stored = .ok hash → ¬ h.Admits hash.costs.params) :
    h.inspectBy f password stored = h.inspectBy g password stored := by
  rw [inspectBy, inspectBy]
  cases hdecode : StoredHash.decode stored with
  | error cause => rfl
  | ok hash =>
    have habove : hash.costs.params.exceeds h.ceiling = true := by
      simpa [admits_iff] using hcosts hash hdecode
    simp only [habove, if_true]

/-- Two derivations that agree on all costs that are admitted have the same finding. -/
theorem inspectBy_congr
    (hagree : ∀ bytes salt params, h.Admits params → f bytes salt params = g bytes salt params) :
    h.inspectBy f password stored = h.inspectBy g password stored := by
  cases hdecode : StoredHash.decode stored with
  | error cause => exact inspectBy_of_not_admits (by simp [hdecode])
  | ok hash =>
    by_cases hadmits : h.Admits hash.costs.params
    · have hsame := hagree (passwordBytes password) hash.salt hash.costs.params hadmits
      simp only [inspectBy, hdecode, hsame]
    · refine inspectBy_of_not_admits fun hash' hdecode' => ?_
      obtain rfl := Except.ok.inj (hdecode.symm.trans hdecode')
      exact hadmits

/-- A password is accepted if it gives the output of a hash whose costs are admitted. -/
theorem isSuccess_inspectBy_iff : (h.inspectBy derive password stored).outcome.isSuccess = true ↔
    ∃ hash, StoredHash.decode stored = .ok hash ∧ h.Admits hash.costs.params ∧
      derive (passwordBytes password) hash.salt hash.costs.params = .ok hash.output := by
  rw [inspectBy]
  cases StoredHash.decode stored with
  | error cause => cases cause <;> simp [Finding.outcome, Outcome.isSuccess]
  | ok hash =>
    simp only [Except.ok.injEq, exists_eq_left', admits_iff]
    cases hash.costs.params.exceeds h.ceiling with
    | true => simp [Finding.outcome, Outcome.isSuccess]
    | false =>
      cases derive (passwordBytes password) hash.salt hash.costs.params with
      | error cause => simp [Finding.outcome, Outcome.isSuccess]
      | ok output =>
        by_cases houtput : output = hash.output
        · by_cases hcosts : hash.costs = h.costs <;>
            simp [houtput, hcosts, Finding.outcome, Outcome.isSuccess]
        · simp [houtput, Finding.outcome, Outcome.isSuccess]

/-- A hash that one hasher accepts is accepted by every hasher with costs that are no lower. -/
theorem isSuccess_inspectBy_of_le {d : Hasher} (hle : h.params.exceeds d.params = false)
    (hsuccess : (h.inspectBy derive password stored).outcome.isSuccess = true) :
    (d.inspectBy derive password stored).outcome.isSuccess = true := by
  obtain ⟨hash, hdecode, hadmits, houtput⟩ := isSuccess_inspectBy_iff.mp hsuccess
  exact isSuccess_inspectBy_iff.mpr ⟨hash, hdecode, hadmits.of_le hle, houtput⟩

/-- Bytes without a tag, with the wrong length for their tag, or with costs that are not admitted. -/
def IsAnsweredAtOnce (h : Hasher) (stored : List UInt8) : Prop :=
  stored.head? ≠ some 0 ∧ stored.head? ≠ some 1 ∨
    stored.head? = some 0 ∧ stored.length ≠ 49 ∨ stored.head? = some 1 ∧ stored.length ≠ 61 ∨
    ∃ hash : StoredHash, stored = hash.encode ∧ ¬ h.Admits hash.costs.params

/-- Such bytes hold no hash with costs that are admitted. -/
theorem IsAnsweredAtOnce.not_admits (hstored : h.IsAnsweredAtOnce stored) {hash : StoredHash}
    (hdecode : StoredHash.decode stored = .ok hash) : ¬ h.Admits hash.costs.params := by
  obtain rfl := StoredHash.decode_eq_ok_iff.mp hdecode
  rcases hstored with ⟨hlegacy, hcurrent⟩ | hsized | hsized | ⟨other, hencode, hother⟩
  · rcases hash.head?_length_encode with htag | htag
    · exact absurd htag.1 hlegacy
    · exact absurd htag.1 hcurrent
  · have hright := hash.head?_length_encode
    grind
  · have hright := hash.head?_length_encode
    grind
  · rw [hencode, StoredHash.decode_encode] at hdecode
    obtain rfl := Except.ok.inj hdecode
    exact hother

/--
The bytes of a stored hash cannot make a check derive anything with costs above the ceiling. The
finding, and so the answer and the events, is the same for all derivations that agree up to the
ceiling, and for all derivations at all if the bytes are empty, or have an unknown tag, the wrong
length or costs above the ceiling. Whatever the derivation, raising the costs of new hashes leaves
every hash usable that was so before.
-/
theorem inspect_bounded (h : Hasher) (password : String) (stored : List UInt8) :
    h.inspect password stored = h.inspectBy (guarded argon2id) password stored ∧
    (∀ f g : GuardedDerivation,
      (∀ bytes salt params, h.Admits params → f bytes salt params = g bytes salt params) →
      h.inspectBy f password stored = h.inspectBy g password stored) ∧
    (h.IsAnsweredAtOnce stored → ∀ f g : GuardedDerivation,
      h.inspectBy f password stored = h.inspectBy g password stored) ∧
    (∀ (d : Hasher) (f : GuardedDerivation), h.params.memoryKib ≤ d.params.memoryKib →
      h.params.iterations ≤ d.params.iterations → h.params.parallelism ≤ d.params.parallelism →
      (h.inspectBy f password stored).outcome.isSuccess = true →
      (d.inspectBy f password stored).outcome.isSuccess = true) := by
  refine ⟨inspectWith_eq_inspectBy argon2id h password stored, fun f g => inspectBy_congr, ?_, ?_⟩
  · intro hstored f g
    exact inspectBy_of_not_admits fun hash hdecode => hstored.not_admits hdecode
  · intro d f hmemory hiterations hparallelism
    exact isSuccess_inspectBy_of_le
      (Params.exceeds_eq_false_iff.mpr ⟨hmemory, hiterations, hparallelism⟩)

end Hasher

end Credentials.Password

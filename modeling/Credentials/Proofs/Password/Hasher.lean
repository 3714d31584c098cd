import Credentials.Password.Hasher
import Credentials.Proofs.Password.StoredHash

/-!
# Hashes of a password

What comes of checking a password against a hash of it, whatever the costs of the hash are.
-/

namespace Credentials

open Credentials.Argon2

/-! ## Costs -/

namespace Argon2.Params

/-- The larger of two costs is not below either. -/
theorem le_max (a b : UInt32) : a ≤ max a b ∧ b ≤ max a b := by
  have hmax : max a b = if a ≤ b then b else a := rfl
  rw [hmax]
  simp only [UInt32.le_iff_toNat_le]
  split
  · omega
  · omega

/-- The larger of a cost and a fixed one grows with the cost. -/
theorem max_le_max {a b : UInt32} (h : a ≤ b) (c : UInt32) : max a c ≤ max b c := by
  have hmax (x : UInt32) : max x c = if x ≤ c then c else x := rfl
  rw [hmax a, hmax b]
  simp only [UInt32.le_iff_toNat_le] at h ⊢
  split <;> split <;> omega

/-- Costs do not exceed others if each of them is at most the matching one. -/
theorem exceeds_eq_false_iff {p q : Params} : p.exceeds q = false ↔
    p.memoryKib ≤ q.memoryKib ∧ p.iterations ≤ q.iterations ∧ p.parallelism ≤ q.parallelism := by
  simp [exceeds, and_assoc]

/-- Costs do not exceed the larger of them and others. -/
theorem exceeds_maxEach_left (p q : Params) : p.exceeds (p.maxEach q) = false :=
  exceeds_eq_false_iff.mpr ⟨(le_max _ _).1, (le_max _ _).1, (le_max _ _).1⟩

/-- Costs that do not exceed others do not exceed the larger of these and any. -/
theorem exceeds_maxEach_right {p r : Params} (q : Params) (h : p.exceeds r = false) :
    p.exceeds (q.maxEach r) = false := by
  obtain ⟨hmemory, hiterations, hparallelism⟩ := exceeds_eq_false_iff.mp h
  exact exceeds_eq_false_iff.mpr ⟨UInt32.le_trans hmemory (le_max _ _).2,
    UInt32.le_trans hiterations (le_max _ _).2, UInt32.le_trans hparallelism (le_max _ _).2⟩

end Argon2.Params

namespace Password

/-- The costs of the legacy layout never exceed a ceiling. -/
theorem legacyParams_exceeds_ceiling (h : Hasher) : legacyParams.exceeds h.ceiling = false :=
  Params.exceeds_maxEach_right h.params (by decide)

namespace Hasher

variable {derive : KeyDerivation} {h : Hasher} {password : String}

/-- The costs of new hashes never exceed the ceiling. -/
theorem costs_exceeds_ceiling (h : Hasher) : h.costs.params.exceeds h.ceiling = false := by
  obtain ⟨version, params⟩ := h
  cases version with
  | legacy => exact legacyParams_exceeds_ceiling ⟨.legacy, params⟩
  | current => exact Params.exceeds_maxEach_left params maxStoredParams

/-- The costs of new hashes can be used if the ones asked for can. -/
theorem usable_costs (hparams : h.params.Usable) : h.costs.params.Usable := by
  obtain ⟨version, params⟩ := h
  cases version with
  | legacy =>
    have hlegacy : legacyParams.Usable := by decide
    exact hlegacy
  | current => exact hparams

/-- Bytes that hold a hash of a password with some costs. -/
def IsHashOf (derive : KeyDerivation) (password : String) (costs : Costs) (stored : List UInt8) :
    Prop :=
  costs.params.Usable ∧ ∃ salt, stored =
    (StoredHash.mk costs salt (derive (passwordBytes password) salt costs.params)).encode

/-- A password is hashed with usable costs. -/
theorem exists_hashWith (derive : KeyDerivation) {h : Hasher} (hparams : h.params.Usable)
    (password : String) (salt : Salt) : ∃ hash, h.hashWith derive password salt = .ok hash ∧
      IsHashOf derive password h.costs hash.encode := by
  have husable := usable_costs hparams
  have hcheck : h.costs.params.check = .ok () := husable
  rw [hashWith, hcheck]
  exact ⟨_, rfl, husable, salt, rfl⟩

/-- A password is right for each hash of it with costs up to the ceiling. -/
theorem inspectWith_of_isHashOf {costs : Costs} {stored : List UInt8}
    (hstored : IsHashOf derive password costs stored) :
    h.inspectWith derive password stored =
      if costs.params.exceeds h.ceiling then .tooCostly costs.params
      else .accepted (costs = h.costs) := by
  obtain ⟨husable, salt, rfl⟩ := hstored
  have hcheck : costs.params.check = .ok () := husable
  simp [inspectWith, StoredHash.decode_encode, hcheck]

/-- A password verifies against each hash of it that is as new hashes are. -/
theorem verify_of_isHashOf {stored : List UInt8}
    (hstored : IsHashOf argon2id password h.costs stored) :
    h.verify password stored = .success := by
  rw [verify, inspect, inspectWith_of_isHashOf hstored, costs_exceeds_ceiling, if_neg (by decide)]
  simp [Finding.outcome]

end Hasher

end Password

end Credentials

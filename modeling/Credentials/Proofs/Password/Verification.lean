import Credentials.Proofs.Password.Hasher

/-!
# What verification decides

A check gives each byte string one of five answers. Two of them depend on the first byte and the
length alone. The password is accepted exactly if the bytes are those that the layout holds for it,
with costs up to the ceiling, and it is then the hasher's own costs that decide whether the hash is
to be replaced.
-/

namespace Credentials.Password

open Credentials.Argon2 Credentials.Bytes

/-- A password is accepted by two of the answers. -/
theorem Outcome.isSuccess_iff {o : Outcome} :
    o.isSuccess = true ↔ o = .success ∨ o = .successRehashNeeded := by
  cases o <;> simp [Outcome.isSuccess]

/-! ## Bytes that hold a hash -/

namespace StoredHash

/-- The bytes of a hash begin with a tag and have the length that goes with it. -/
theorem head?_length_encode (hash : StoredHash) :
    hash.encode.head? = some 0 ∧ hash.encode.length = 49 ∨
      hash.encode.head? = some 1 ∧ hash.encode.length = 61 := by
  obtain ⟨costs, salt, output⟩ := hash
  cases costs with
  | legacy => exact Or.inl ⟨rfl, by simp [encode, Costs.header, saltLength, outputLength]⟩
  | written params =>
    exact Or.inr ⟨rfl, by simp [encode, Costs.header, paramsBytes, saltLength, outputLength]⟩

/-- Bytes have a first byte that is no tag, or the wrong length for their tag, or hold a hash. -/
theorem decode_cases (stored : List UInt8) :
    (stored.head? ≠ some 0 ∧ stored.head? ≠ some 1 ∧
      ∃ cause, decode stored = .error cause ∧ (Finding.malformed cause).outcome = .versionNotFound) ∨
    ((stored.head? = some 0 ∧ stored.length ≠ 49 ∨ stored.head? = some 1 ∧ stored.length ≠ 61) ∧
      ∃ cause, decode stored = .error cause ∧ (Finding.malformed cause).outcome = .lengthMismatch) ∨
    ∃ hash : StoredHash, stored = hash.encode := by
  cases stored with
  | nil => exact Or.inl ⟨by simp, by simp, .empty, rfl, rfl⟩
  | cons tag payload =>
    by_cases hlegacy : tag = 0
    · subst hlegacy
      have hversion : Version.ofTag? 0 = some .legacy := rfl
      by_cases hlength : payload.length = Version.legacy.payloadLength
      · refine Or.inr (Or.inr ⟨ofPayload .legacy payload, decode_eq_ok_iff.mp ?_⟩)
        simp [decode, hversion, hlength]
      · have hread : decode (0 :: payload) = .error (.lengthMismatch 0 48 payload.length) := by
          rw [decode, hversion]
          exact if_neg hlength
        refine Or.inr (Or.inl ⟨Or.inl ⟨rfl, ?_⟩, _, hread, rfl⟩)
        intro htotal
        exact hlength (Nat.succ.inj htotal)
    · by_cases hcurrent : tag = 1
      · subst hcurrent
        have hversion : Version.ofTag? 1 = some .current := rfl
        by_cases hlength : payload.length = Version.current.payloadLength
        · refine Or.inr (Or.inr ⟨ofPayload .current payload, decode_eq_ok_iff.mp ?_⟩)
          simp [decode, hversion, hlength]
        · have hread : decode (1 :: payload) = .error (.lengthMismatch 1 60 payload.length) := by
            rw [decode, hversion]
            exact if_neg hlength
          refine Or.inr (Or.inl ⟨Or.inr ⟨rfl, ?_⟩, _, hread, rfl⟩)
          intro htotal
          exact hlength (Nat.succ.inj htotal)
      · refine Or.inl ⟨by simpa using hlegacy, by simpa using hcurrent, .unknownVersion tag, ?_, rfl⟩
        have hversion : Version.ofTag? tag = none := by
          rw [Version.ofTag?, if_neg hlegacy, if_neg hcurrent]
        rw [decode, hversion]

end StoredHash

namespace Hasher

variable {derive : KeyDerivation}

/-! ## Hashes of another hasher -/

/-- A password is hashed if the costs are usable, and the hash holds them beside the output. -/
theorem hashWith_eq_ok_iff {h : Hasher} {password : String} {salt : Salt} {hash : StoredHash} :
    h.hashWith derive password salt = .ok hash ↔ h.costs.params.Usable ∧
      hash = ⟨h.costs, salt, derive (passwordBytes password) salt h.costs.params⟩ := by
  rw [hashWith, Params.Usable]
  cases h.costs.params.check with
  | error cause => simp
  | ok _ => simp [eq_comm]

/-- What a password is hashed to are the bytes of a hash of it. -/
theorem isHashOf_of_hashWith {h : Hasher} {password : String} {salt : Salt} {hash : StoredHash}
    (hhash : h.hashWith derive password salt = .ok hash) :
    IsHashOf derive password h.costs hash.encode := by
  obtain ⟨husable, rfl⟩ := hashWith_eq_ok_iff.mp hhash
  exact ⟨husable, salt, rfl⟩

/--
The answer for the bytes of a hash: the password is right if the costs are up to the ceiling and
usable and the same output is derived.
-/
theorem outcome_encode (h : Hasher) (password : String) (hash : StoredHash) :
    (h.inspectWith derive password hash.encode).outcome =
      if hash.costs.params.exceeds h.ceiling = false ∧ hash.costs.params.Usable ∧
          derive (passwordBytes password) hash.salt hash.costs.params = hash.output then
        if hash.costs = h.costs then .success else .successRehashNeeded
      else .fail := by
  rw [inspectWith, StoredHash.decode_encode]
  dsimp only
  by_cases hceiling : hash.costs.params.exceeds h.ceiling = true
  · simp [hceiling, Finding.outcome]
  have hwithin : hash.costs.params.exceeds h.ceiling = false := by simpa using hceiling
  rw [if_neg hceiling]
  cases hcheck : hash.costs.params.check with
  | error cause =>
    have hunusable : ¬ hash.costs.params.Usable := by simp [Params.Usable, hcheck]
    simp [hunusable, Finding.outcome]
  | ok _ =>
    have husable : hash.costs.params.Usable := hcheck
    by_cases houtput : derive (passwordBytes password) hash.salt hash.costs.params = hash.output
    · rw [if_pos houtput, if_pos (And.intro hwithin (And.intro husable houtput))]
      by_cases hcosts : hash.costs = h.costs <;> simp [hcosts, Finding.outcome]
    · simp [houtput, Finding.outcome]

/-- Costs are above the ceiling only if they are written and one of them is. -/
theorem exceeds_ceiling_iff (h writer : Hasher) :
    writer.costs.params.exceeds h.ceiling = true ↔ writer.version = .current ∧
      (max h.params.memoryKib maxStoredParams.memoryKib < writer.params.memoryKib ∨
        max h.params.iterations maxStoredParams.iterations < writer.params.iterations ∨
        max h.params.parallelism maxStoredParams.parallelism < writer.params.parallelism) := by
  obtain ⟨version, params⟩ := writer
  cases version with
  | legacy =>
    have hlegacy := legacyParams_exceeds_ceiling h
    simp [costs, Costs.ofVersion, Costs.params, hlegacy]
  | current =>
    have habove : params.exceeds h.ceiling = true ↔ h.ceiling.memoryKib < params.memoryKib ∨
        h.ceiling.iterations < params.iterations ∨ h.ceiling.parallelism < params.parallelism := by
      simp [Params.exceeds, or_assoc]
    simp only [costs, Costs.ofVersion, Costs.params, true_and]
    exact habove

/-- New hashes of two hashers have the same costs if they have the same layout and, where it has
them written, the same parameters. -/
theorem costs_eq_costs_iff (h writer : Hasher) : writer.costs = h.costs ↔
    writer.version = h.version ∧ (writer.version = .legacy ∨ writer.params = h.params) := by
  obtain ⟨version, params⟩ := h
  obtain ⟨version', params'⟩ := writer
  cases version <;> cases version' <;> simp [costs, Costs.ofVersion]

/--
The answer to the right password, for a hash that another hasher has written. Costs that are written
must be up to the ceiling; the hash is current if it could be the hasher's own.
-/
def answerTo (h writer : Hasher) : Outcome :=
  if writer.version = .current ∧
      (max h.params.memoryKib maxStoredParams.memoryKib < writer.params.memoryKib ∨
        max h.params.iterations maxStoredParams.iterations < writer.params.iterations ∨
        max h.params.parallelism maxStoredParams.parallelism < writer.params.parallelism) then .fail
  else if writer.version = h.version ∧ (writer.version = .legacy ∨ writer.params = h.params) then
    .success
  else .successRehashNeeded

/-- Each hasher takes its own hashes as they are, whatever its costs. -/
theorem answerTo_self (h : Hasher) : h.answerTo h = .success := by
  have hceiling := costs_exceeds_ceiling h
  have hwithin : ¬ (h.costs.params.exceeds h.ceiling = true) := by simp [hceiling]
  rw [answerTo, if_neg (mt (exceeds_ceiling_iff h h).mpr hwithin),
    if_pos ((costs_eq_costs_iff h h).mp rfl)]

/--
The answer to any password: the one to the right password if the same output is derived, and a
failure otherwise.
-/
theorem outcome_of_hashWith {writer : Hasher} {password : String} {salt : Salt} {hash : StoredHash}
    (hhash : writer.hashWith derive password salt = .ok hash) (h : Hasher) (other : String) :
    (h.inspectWith derive other hash.encode).outcome =
      if derive (passwordBytes other) salt writer.costs.params =
          derive (passwordBytes password) salt writer.costs.params then h.answerTo writer
      else .fail := by
  obtain ⟨husable, rfl⟩ := hashWith_eq_ok_iff.mp hhash
  rw [outcome_encode, answerTo]
  simp only [← exceeds_ceiling_iff, ← costs_eq_costs_iff, husable, true_and]
  cases writer.costs.params.exceeds h.ceiling with
  | true => simp
  | false => simp

/--
A password verifies against its hash as the costs of the two hashers say, any other password does so
only if Argon2id gives the same output for it, and every hasher accepts its own hashes.
-/
theorem verify_hash {writer : Hasher} {password : String} {salt : Salt} {hash : StoredHash}
    (hhash : writer.hash password salt = .ok hash) (h : Hasher) (other : String) :
    h.verify password hash.encode = h.answerTo writer ∧
      (h.verify other hash.encode =
        if argon2id (passwordBytes other) salt writer.costs.params =
            argon2id (passwordBytes password) salt writer.costs.params then h.answerTo writer
        else .fail) ∧
      writer.verify password hash.encode = .success := by
  have hanswer (reader : Hasher) : reader.verify password hash.encode = reader.answerTo writer := by
    rw [verify, inspect, outcome_of_hashWith hhash, if_pos rfl]
  have hother := outcome_of_hashWith hhash h other
  have hself := (hanswer writer).trans (answerTo_self writer)
  exact ⟨hanswer h, hother, hself⟩

/-- A hash in the legacy layout is to be replaced by a hasher that writes the current one. -/
theorem verify_hash_legacy : ∃ hash,
    Hasher.hash ⟨.legacy, defaultParams⟩ "secret" (.replicate _ 0) = .ok hash ∧
      Hasher.verify ⟨.current, defaultParams⟩ "secret" hash.encode = .successRehashNeeded ∧
      Hasher.verify ⟨.legacy, defaultParams⟩ "secret" hash.encode = .success := by
  obtain ⟨hash, hhash, _⟩ := exists_hashWith argon2id (h := ⟨.legacy, defaultParams⟩)
    (by decide) "secret" (.replicate _ 0)
  obtain ⟨hanswer, _, hself⟩ := verify_hash hhash ⟨.current, defaultParams⟩ "Secret"
  have hreplace : answerTo ⟨.current, defaultParams⟩ ⟨.legacy, defaultParams⟩ =
      .successRehashNeeded := by decide
  exact ⟨hash, hhash, hanswer.trans hreplace, hself⟩

/-! ## All byte strings -/

/--
Bytes that a layout holds for a password: a tag, the costs where they are written, a salt, and the
output that is derived with them. Costs that are written are usable, and none of them is above both
the hasher's own one and the highest that is always accepted.
-/
def Holds (derive : KeyDerivation) (h : Hasher) (password : String) (stored : List UInt8) : Prop :=
  (∃ salt, stored =
    0 :: (salt.toList ++ (derive (passwordBytes password) salt legacyParams).toList)) ∨
  ∃ params salt, params.Usable ∧
    params.memoryKib ≤ max h.params.memoryKib maxStoredParams.memoryKib ∧
    params.iterations ≤ max h.params.iterations maxStoredParams.iterations ∧
    params.parallelism ≤ max h.params.parallelism maxStoredParams.parallelism ∧
    stored = 1 :: (be32 params.memoryKib ++ be32 params.iterations ++ be32 params.parallelism ++
      salt.toList ++ (derive (passwordBytes password) salt params).toList)

/-- A layout holds the bytes of the hashes with the derived output, if their costs are accepted. -/
theorem holds_iff {h : Hasher} {password : String} {stored : List UInt8} :
    h.Holds derive password stored ↔ ∃ hash : StoredHash, stored = hash.encode ∧
      hash.costs.params.exceeds h.ceiling = false ∧ hash.costs.params.Usable ∧
      derive (passwordBytes password) hash.salt hash.costs.params = hash.output := by
  constructor
  · rintro (⟨salt, rfl⟩ | ⟨params, salt, husable, hmemory, hiterations, hparallelism, rfl⟩)
    · have husable : legacyParams.Usable := by decide
      exact ⟨⟨.legacy, salt, _⟩, rfl, legacyParams_exceeds_ceiling h, husable, rfl⟩
    · have hceiling : params.exceeds h.ceiling = false :=
        Params.exceeds_eq_false_iff.mpr ⟨hmemory, hiterations, hparallelism⟩
      exact ⟨⟨.written params, salt, _⟩, rfl, hceiling, husable, rfl⟩
  · rintro ⟨⟨costs, salt, output⟩, rfl, hceiling, husable, houtput⟩
    dsimp only at houtput
    subst houtput
    cases costs with
    | legacy => exact Or.inl ⟨salt, rfl⟩
    | written params =>
      obtain ⟨hmemory, hiterations, hparallelism⟩ := Params.exceeds_eq_false_iff.mp hceiling
      exact Or.inr ⟨params, salt, husable, hmemory, hiterations, hparallelism, rfl⟩

/-- A password is right for the bytes that a layout holds for it. -/
theorem isSuccess_of_holds {h : Hasher} {password : String} {stored : List UInt8}
    (hholds : h.Holds derive password stored) :
    (h.inspectWith derive password stored).outcome.isSuccess = true := by
  obtain ⟨hash, rfl, haccepted⟩ := holds_iff.mp hholds
  rw [outcome_encode, if_pos haccepted]
  by_cases hcosts : hash.costs = h.costs <;> simp [hcosts, Outcome.isSuccess]

/-- A password is wrong for all other bytes that hold a hash. -/
theorem outcome_encode_of_not_holds {h : Hasher} {password : String} {hash : StoredHash}
    (hholds : ¬ h.Holds derive password hash.encode) :
    (h.inspectWith derive password hash.encode).outcome = .fail := by
  rw [outcome_encode]
  apply if_neg
  intro haccepted
  exact hholds (holds_iff.mpr ⟨hash, rfl, haccepted⟩)

/--
What a check answers about any bytes. That the tag is unknown or the length wrong is seen from the
bytes alone; the password is accepted exactly if a layout holds the bytes for it, and is wrong for
all other bytes. Bytes that are accepted are written again as they were read.
-/
theorem verify_eq_iff (h : Hasher) (password : String) (stored : List UInt8) :
    (h.verify password stored = .versionNotFound ↔
      stored.head? ≠ some 0 ∧ stored.head? ≠ some 1) ∧
    (h.verify password stored = .lengthMismatch ↔
      stored.head? = some 0 ∧ stored.length ≠ 49 ∨ stored.head? = some 1 ∧ stored.length ≠ 61) ∧
    ((h.verify password stored).isSuccess = true ↔ h.Holds argon2id password stored) ∧
    (h.verify password stored = .fail ↔
      (stored.head? = some 0 ∧ stored.length = 49 ∨ stored.head? = some 1 ∧ stored.length = 61) ∧
        ¬ h.Holds argon2id password stored) ∧
    ((h.verify password stored).isSuccess = true →
      ∃ hash, StoredHash.decode stored = .ok hash ∧ hash.encode = stored) := by
  have hsized (hholds : h.Holds argon2id password stored) :
      stored.head? = some 0 ∧ stored.length = 49 ∨ stored.head? = some 1 ∧ stored.length = 61 := by
    obtain ⟨hash, rfl, _⟩ := holds_iff.mp hholds
    exact hash.head?_length_encode
  -- Bytes that hold no hash hold none for the password either, and their answer is known.
  rcases StoredHash.decode_cases stored with
    ⟨hlegacy, hcurrent, cause, hdecode, houtcome⟩ | ⟨hlength, cause, hdecode, houtcome⟩ | ⟨hash, rfl⟩
  · have hanswer : h.verify password stored = .versionNotFound := by
      rw [verify, inspect, inspectWith, hdecode, houtcome]
    have hholds : ¬ h.Holds argon2id password stored := by
      intro hholds
      rcases hsized hholds with hsized | hsized
      · exact hlegacy hsized.1
      · exact hcurrent hsized.1
    simp [hanswer, hlegacy, hcurrent, hholds, Outcome.isSuccess]
  · have hanswer : h.verify password stored = .lengthMismatch := by
      rw [verify, inspect, inspectWith, hdecode, houtcome]
    have hholds : ¬ h.Holds argon2id password stored := by
      intro hholds
      have hright := hsized hholds
      grind
    rcases hlength with hlength | hlength <;> simp [hanswer, hlength, hholds, Outcome.isSuccess]
  · have hread : StoredHash.decode hash.encode = .ok hash := StoredHash.decode_encode hash
    rcases hash.head?_length_encode with ⟨htag, hlength⟩ | ⟨htag, hlength⟩
    all_goals
      by_cases hholds : h.Holds argon2id password hash.encode
      · have hsuccess : (h.verify password hash.encode).isSuccess = true := isSuccess_of_holds hholds
        rcases Outcome.isSuccess_iff.mp hsuccess with hanswer | hanswer <;>
          simp [hanswer, htag, hlength, hholds, hread, Outcome.isSuccess]
      · have hanswer : h.verify password hash.encode = .fail := outcome_encode_of_not_holds hholds
        simp [hanswer, htag, hlength, hholds, Outcome.isSuccess]

end Hasher

end Credentials.Password

import Credentials.Proofs.Config
import Credentials.Proofs.Password.Verification

/-!
# Checks within range

Cutting bytes, reading a word from them, comparing digests and multiplying words all have a range
outside which they stop a program. Here a check is made of such operations, each where it is needed.
For all bytes and every hasher the lengths are as these operations want them; the one product is so
only below a bound on the parallelism, which a configuration keeps since its own costs were checked.
-/

namespace Credentials

open Credentials.Argon2 Credentials.Bytes

/-! ## Operations with a range -/

/-- How an operation ends that is applied outside its range. -/
inductive Fault where
  /-- Something beyond the end of a list is asked for. -/
  | beyondEnd
  /-- A list does not have the one length that it should have. -/
  | wrongLength
  /-- A number does not fit into a word. -/
  | overflow
deriving DecidableEq, Repr

namespace Ranged

/-- Cuts a list in two behind its first `n` items. -/
def cut {α : Type} (n : Nat) (items : List α) : Except Fault (List α × List α) :=
  if n ≤ items.length then .ok (items.take n, items.drop n) else .error .beyondEnd

/-- The items of a list from one place up to another. -/
def slice {α : Type} (first last : Nat) (items : List α) : Except Fault (List α) :=
  if first ≤ last ∧ last ≤ items.length then .ok ((items.take last).drop first)
  else .error .beyondEnd

/-- Exactly `n` bytes. -/
def exactly (n : Nat) (bytes : List UInt8) : Except Fault (Vector UInt8 n) :=
  if h : bytes.length = n then .ok ⟨bytes.toArray, h⟩ else .error .wrongLength

/-- The word that exactly four bytes hold. -/
def word (bytes : List UInt8) : Except Fault UInt32 := do
  let bytes ← exactly 4 bytes
  return ofBE32 bytes[0] bytes[1] bytes[2] bytes[3]

/-- The product of two words, which has to be a word again. -/
def product (a b : UInt32) : Except Fault UInt32 :=
  if a.toNat * b.toNat < UInt32.size then .ok (a * b) else .error .overflow

/-- Enough items are cut where they have been put together. -/
theorem cut_append {α : Type} {n : Nat} {front : List α} (h : front.length = n) (rest : List α) :
    cut n (front ++ rest) = .ok (front, rest) := by
  subst h
  simp [cut]

/-- The bytes of a vector have its length. -/
@[simp] theorem exactly_toList {n : Nat} (v : Vector UInt8 n) : exactly n v.toList = .ok v := by
  rw [exactly, dif_pos v.length_toList]
  rfl

/-- A word is read from its bytes. -/
@[simp] theorem word_be32 (w : UInt32) : word (be32 w) = .ok w :=
  congrArg Except.ok (ofBE32_be32 w)

/-- A product that fits is that of the numbers. -/
theorem product_eq_ok {a b : UInt32} (h : a.toNat * b.toNat < UInt32.size) :
    ∃ c, product a b = .ok c ∧ c.toNat = a.toNat * b.toNat :=
  ⟨a * b, if_pos h, by rw [UInt32.toNat_mul, Nat.mod_eq_of_lt h]⟩

end Ranged

/-! ## The check of the costs -/

namespace Argon2.Params

/-- The memory that the lanes need does not fit into a word, and it is asked for. -/
def Overflows (p : Params) : Prop :=
  minMemoryPerLane ≤ p.memoryKib.toNat ∧ UInt32.size ≤ p.parallelism.toNat * minMemoryPerLane

/-- Checks costs with the arithmetic of words. -/
def checkRanged (p : Params) : Except Fault (Except ParamError Unit) :=
  if p.memoryKib < .ofNat minMemoryPerLane then .ok (.error .memoryTooLittle)
  else do
    let least ← Ranged.product p.parallelism (.ofNat minMemoryPerLane)
    if p.memoryKib < least then return .error .memoryTooLittle
    else if p.iterations < 1 then return .error .timeTooSmall
    else if p.parallelism < 1 then return .error .threadsTooFew
    else if .ofNat maxLanes < p.parallelism then return .error .threadsTooMany
    else return .ok ()

/-- Costs that do not overflow are checked within range, with the same result. -/
theorem checkRanged_of_not_overflows {p : Params} (h : ¬ p.Overflows) :
    p.checkRanged = .ok p.check := by
  have height : (UInt32.ofNat minMemoryPerLane).toNat = minMemoryPerLane := rfl
  have hone : (1 : UInt32).toNat = 1 := rfl
  have hlanes : (UInt32.ofNat maxLanes).toNat = maxLanes := rfl
  rw [checkRanged, check]
  simp only [UInt32.lt_iff_toNat_lt, height, hlanes]
  by_cases hmemory : p.memoryKib.toNat < minMemoryPerLane
  · simp [hmemory]
  · have hfits : p.parallelism.toNat * (UInt32.ofNat minMemoryPerLane).toNat < UInt32.size := by
      rw [Overflows, height] at *
      omega
    obtain ⟨least, hproduct, hleast⟩ := Ranged.product_eq_ok hfits
    rw [height] at hleast
    simp only [hmemory, if_false, false_or, hproduct, bind, Except.bind, hleast, pure, Except.pure]
    simp only [hone, apply_ite Except.ok]

/-- Costs that overflow are not checked within range. -/
theorem checkRanged_of_overflows {p : Params} (h : p.Overflows) :
    p.checkRanged = .error .overflow := by
  obtain ⟨hmemory, hlarge⟩ := h
  have hproduct : Ranged.product p.parallelism (.ofNat minMemoryPerLane) = .error .overflow :=
    if_neg (Nat.not_lt.mpr hlarge)
  have hnot : ¬ p.memoryKib < .ofNat minMemoryPerLane :=
    UInt32.not_lt.mpr (UInt32.le_iff_toNat_le.mpr hmemory)
  rw [checkRanged, if_neg hnot, hproduct]
  rfl

/-- Costs do not overflow if there are no more lanes than there may be. -/
theorem not_overflows_of_le {p : Params} (h : p.parallelism.toNat ≤ maxLanes) : ¬ p.Overflows := by
  rintro ⟨_, hlarge⟩
  rw [minMemoryPerLane, UInt32.size] at hlarge
  rw [maxLanes] at h
  omega

/-- Costs that can be used have no more lanes than there may be. -/
theorem Usable.parallelism_le {p : Params} (h : p.Usable) : p.parallelism.toNat ≤ maxLanes := by
  rw [Usable, check] at h
  split_ifs at h with _ _ _ hlanes
  omega

end Argon2.Params

/-! ## The check of a password -/

namespace Password

/-- Reads the costs from what follows the tag; the rest follows them. -/
def readCosts (version : Version) (payload : List UInt8) : Except Fault (Costs × List UInt8) :=
  match version with
  | .legacy => .ok (.legacy, payload)
  | .current => do
    let (header, rest) ← Ranged.cut Version.costsLength payload
    let memoryKib ← Ranged.word (← Ranged.slice 0 4 header)
    let iterations ← Ranged.word (← Ranged.slice 4 8 header)
    let parallelism ← Ranged.word (← Ranged.slice 8 12 header)
    return (.written ⟨memoryKib, iterations, parallelism⟩, rest)

/-- Costs are read where they have been written. -/
theorem readCosts_append (costs : Costs) (rest : List UInt8) :
    readCosts costs.version (costs.header.tail ++ rest) = .ok (costs, rest) := by
  cases costs with
  | legacy => rfl
  | written p =>
    have hlength : (paramsBytes p).length = Version.costsLength := rfl
    have hcut := Ranged.cut_append hlength rest
    have hmemory : Ranged.slice 0 4 (paramsBytes p) = .ok (be32 p.memoryKib) := rfl
    have hiterations : Ranged.slice 4 8 (paramsBytes p) = .ok (be32 p.iterations) := rfl
    have hparallelism : Ranged.slice 8 12 (paramsBytes p) = .ok (be32 p.parallelism) := rfl
    simp [readCosts, Costs.version, Costs.header, hcut, hmemory, hiterations, hparallelism, bind,
      Except.bind, pure, Except.pure]

namespace Hasher

variable {derive : KeyDerivation} {h : Hasher} {password : String} {stored : List UInt8}

/-- Checks a password as a hasher does, with operations that have a range. -/
def inspectRanged (derive : KeyDerivation) (h : Hasher) (password : String) (stored : List UInt8) :
    Except Fault Finding :=
  match stored with
  | [] => .ok (.malformed .empty)
  | tag :: payload =>
    match Version.ofTag? tag with
    | none => .ok (.malformed (.unknownVersion tag))
    | some version =>
      if payload.length ≠ version.payloadLength then
        .ok (.malformed (.lengthMismatch tag version.payloadLength payload.length))
      else do
        let (costs, rest) ← readCosts version payload
        let (salt, expected) ← Ranged.cut saltLength rest
        if costs.params.exceeds h.ceiling then return .tooCostly costs.params
        else
          match ← costs.params.checkRanged with
          | .error cause => return .unusable cause
          | .ok () =>
            let output := derive (passwordBytes password) (← Ranged.exactly saltLength salt)
              costs.params
            if output = (← Ranged.exactly outputLength expected) then
              return .accepted (costs = h.costs)
            else return .wrongPassword

/-- What comes of checking the bytes of a hash depends on the arithmetic of its costs alone. -/
theorem inspectRanged_encode (hash : StoredHash) :
    h.inspectRanged derive password hash.encode =
      if hash.costs.params.exceeds h.ceiling then .ok (.tooCostly hash.costs.params)
      else hash.costs.params.checkRanged.map fun checked =>
        match checked with
        | .error cause => .unusable cause
        | .ok () =>
          if derive (passwordBytes password) hash.salt hash.costs.params = hash.output then
            .accepted (hash.costs = h.costs)
          else .wrongPassword := by
  obtain ⟨costs, salt, output⟩ := hash
  have hencode : (StoredHash.mk costs salt output).encode =
      costs.version.tag :: (costs.header.tail ++ (salt.toList ++ output.toList)) := by
    simp [StoredHash.encode, Costs.header]
  have hversion : Version.ofTag? costs.version.tag = some costs.version := by
    cases costs <;> rfl
  have hlength : (costs.header.tail ++ (salt.toList ++ output.toList)).length =
      costs.version.payloadLength := by
    cases costs with
    | legacy => simp [Costs.header, Costs.version, Version.payloadLength]
    | written p =>
      have hwritten : (paramsBytes p).length = Version.costsLength := rfl
      simp [Costs.header, Costs.version, Version.payloadLength, hwritten, Nat.add_assoc]
  have hcut := Ranged.cut_append salt.length_toList output.toList
  rw [hencode, inspectRanged]
  simp only [hversion, hlength, ne_eq, not_true_eq_false, if_false, readCosts_append, bind,
    Except.bind, hcut, pure, Except.pure]
  by_cases hceiling : costs.params.exceeds h.ceiling = true
  · rw [if_pos hceiling, if_pos hceiling]
  · rw [if_neg hceiling, if_neg hceiling]
    cases costs.params.checkRanged with
    | error fault => rfl
    | ok checked =>
      cases checked with
      | error cause => rfl
      | ok _ =>
        simp only [Ranged.exactly_toList, Except.map, apply_ite Except.ok]

/-- Bytes that hold no hash are found out before any operation with a range. -/
theorem inspectRanged_of_malformed {cause : Malformed}
    (hdecode : StoredHash.decode stored = .error cause) :
    h.inspectRanged derive password stored = .ok (.malformed cause) := by
  cases stored with
  | nil =>
    obtain rfl := Except.error.inj hdecode
    rfl
  | cons tag payload =>
    rw [StoredHash.decode] at hdecode
    rw [inspectRanged]
    cases hversion : Version.ofTag? tag with
    | none =>
      simp only [hversion, Except.error.injEq] at hdecode
      rw [← hdecode]
    | some version =>
      simp only [hversion] at hdecode
      split_ifs at hdecode with hlength
      obtain rfl := Except.error.inj hdecode
      exact if_pos hlength

/-- A hash with costs that overflow although they are up to the ceiling. -/
def Overflows (h : Hasher) (stored : List UInt8) : Prop :=
  ∃ hash, StoredHash.decode stored = .ok hash ∧ hash.costs.params.exceeds h.ceiling = false ∧
    hash.costs.params.Overflows

/-- Bytes without such costs are checked within range, with the finding of the hasher. -/
theorem inspectRanged_of_not_overflows (hstored : ¬ h.Overflows stored) :
    h.inspectRanged derive password stored = .ok (h.inspectWith derive password stored) := by
  cases hdecode : StoredHash.decode stored with
  | error cause => rw [inspectRanged_of_malformed hdecode, inspectWith, hdecode]
  | ok hash =>
    have hencode := StoredHash.decode_eq_ok_iff.mp hdecode
    rw [hencode, inspectRanged_encode, ← hencode, inspectWith, hdecode]
    dsimp only
    by_cases hceiling : hash.costs.params.exceeds h.ceiling = true
    · rw [if_pos hceiling, if_pos hceiling]
    · have hsmall : ¬ hash.costs.params.Overflows := fun hlarge =>
        hstored ⟨hash, hdecode, by simpa using hceiling, hlarge⟩
      rw [if_neg hceiling, if_neg hceiling, Params.checkRanged_of_not_overflows hsmall]
      rfl

/-- Bytes with such costs take the check out of range. -/
theorem inspectRanged_of_overflows (hstored : h.Overflows stored) :
    h.inspectRanged derive password stored = .error .overflow := by
  obtain ⟨hash, hdecode, hceiling, hlarge⟩ := hstored
  rw [StoredHash.decode_eq_ok_iff.mp hdecode, inspectRanged_encode, hceiling,
    if_neg Bool.false_ne_true, Params.checkRanged_of_overflows hlarge]
  rfl

end Hasher

end Password

/-! ## Under a configuration -/

namespace Config

open Password

/-- Under a configuration, no more lanes pass the ceiling than there may be. -/
theorem lanes_le_of_build {s : Settings} {c : Config} (hbuild : s.build = .ok c) {lanes : UInt32}
    (hceiling : lanes ≤ c.passwords.ceiling.parallelism) : lanes.toNat ≤ maxLanes := by
  have hown := (Settings.usable_of_build hbuild).2.parallelism_le
  have hfixed : maxStoredParams.parallelism.toNat ≤ maxLanes := by decide
  have hmax : c.passwords.ceiling.parallelism =
      if c.hashParams.parallelism ≤ maxStoredParams.parallelism then maxStoredParams.parallelism
      else c.hashParams.parallelism := rfl
  rw [hmax] at hceiling
  split_ifs at hceiling
  · exact Nat.le_trans (UInt32.le_iff_toNat_le.mp hceiling) hfixed
  · exact Nat.le_trans (UInt32.le_iff_toNat_le.mp hceiling) hown

/--
A check under a configuration never leaves the range of an operation, whatever the password and the
stored bytes are: it comes to the finding of the hasher, and so to its answer. Every number of lanes
up to the ceiling gives a word when it is multiplied by eight.
-/
theorem inspectRanged_of_build {s : Settings} {c : Config} (hbuild : s.build = .ok c)
    (password : String) (stored : List UInt8) :
    (∀ derive, c.passwords.inspectRanged derive password stored =
      .ok (c.passwords.inspectWith derive password stored)) ∧
    (c.passwords.inspectRanged argon2id password stored).map Finding.outcome =
      .ok (c.passwords.verify password stored) ∧
    ∀ lanes ≤ c.passwords.ceiling.parallelism, lanes.toNat * minMemoryPerLane < UInt32.size := by
  have hsmall : ¬ c.passwords.Overflows stored := by
    rintro ⟨hash, _, hceiling, hlarge⟩
    have hlanes := (Params.exceeds_eq_false_iff.mp hceiling).2.2
    exact Params.not_overflows_of_le (lanes_le_of_build hbuild hlanes) hlarge
  have hfinding (derive : KeyDerivation) : c.passwords.inspectRanged derive password stored =
      .ok (c.passwords.inspectWith derive password stored) :=
    Hasher.inspectRanged_of_not_overflows hsmall
  refine ⟨hfinding, ?_, fun lanes hceiling => ?_⟩
  · rw [hfinding]
    rfl
  · have hlanes := lanes_le_of_build hbuild hceiling
    rw [maxLanes] at hlanes
    rw [minMemoryPerLane, UInt32.size]
    omega

/-- The largest number of lanes in the costs of new hashes, and in those of a stored one. -/
theorem inspectRanged_of_build_most_lanes : ∃ c,
    Settings.build { key := .replicate 32 0, hashParams := ⟨0x7fffff8, 1, 0xffffff⟩ } = .ok c ∧
    c.passwords.inspectRanged (fun _ _ _ => .replicate _ 0) "secret"
      (StoredHash.mk (.written ⟨0x7fffff8, 1, 0xffffff⟩) (.replicate _ 0) (.replicate _ 0)).encode =
      .ok (.accepted true) := by
  obtain ⟨c, hc⟩ := Settings.exists_build_of_key (.replicate 32 0) ⟨0x7fffff8, 1, 0xffffff⟩
    (by decide) (by decide)
  obtain ⟨_, _, _, _, _, _, _, hconfig⟩ := Settings.build_eq_ok_iff.mp hc
  have hpasswords : c.passwords = ⟨.current, ⟨0x7fffff8, 1, 0xffffff⟩⟩ := by rw [hconfig]; rfl
  obtain ⟨hfinding, _⟩ := inspectRanged_of_build hc "secret"
    (StoredHash.mk (.written ⟨0x7fffff8, 1, 0xffffff⟩) (.replicate _ 0) (.replicate _ 0)).encode
  refine ⟨c, hc, (hfinding _).trans ?_⟩
  rw [hpasswords, Hasher.inspectWith, StoredHash.decode_encode]
  rfl

/-- Without the checks at startup, a planted hash can take the product out of range. -/
example (password : String) (salt : Salt) (output : Output) :
    Hasher.inspectRanged argon2id ⟨.current, ⟨8, 1, 0x20000000⟩⟩ password
      (StoredHash.mk (.written ⟨8, 1, 0x20000000⟩) salt output).encode = .error .overflow :=
  have hlarge : (Params.mk 8 1 0x20000000).Overflows := by unfold Params.Overflows; decide
  Hasher.inspectRanged_of_overflows ⟨_, StoredHash.decode_encode _, rfl, hlarge⟩

end Config

end Credentials

import Credentials.Login
import Credentials.Proofs.Password.Hasher

/-!
# What the log discloses

A check of a password leaves at most one event behind, and a login at most one more. What these say
is determined by a few facts about the stored bytes, the costs of new hashes and the answer. No
password, salt, output, key or claim can be told from them.
-/

namespace Credentials

open Credentials.Argon2 Credentials.Password

/-! ## Checks -/

namespace Password

namespace StoredHash

variable {stored other : List UInt8} {hash : StoredHash}

/-- The costs that are written in a hash in the current layout. -/
def writtenCosts? (stored : List UInt8) : Option Params :=
  match decode stored with
  | .ok ⟨.written params, _, _⟩ => some params
  | _ => none

/-- Which costs are written does not depend on the salt and the output. -/
theorem writtenCosts?_encode (costs : Costs) (salt : Salt) (output : Output) :
    writtenCosts? (StoredHash.mk costs salt output).encode =
      match costs with
      | .legacy => none
      | .written params => some params := by
  rw [writtenCosts?, decode_encode]
  cases costs <;> rfl

/-- What is wrong with bytes is seen from their tag and their length. -/
theorem decode_eq_error_of_same {cause : Malformed} (htag : stored.head? = other.head?)
    (hlength : stored.length = other.length) (herror : decode stored = .error cause) :
    decode other = .error cause := by
  cases stored with
  | nil =>
    obtain rfl : other = [] := List.head?_eq_none_iff.mp htag.symm
    exact herror
  | cons tag payload =>
    cases other with
    | nil => cases htag
    | cons tag' payload' =>
      obtain rfl := Option.some.inj htag
      have hpayload : payload.length = payload'.length := Nat.succ.inj hlength
      rw [decode] at herror ⊢
      cases hversion : Version.ofTag? tag with
      | none => rwa [hversion] at herror
      | some v =>
        simp only [hversion, hpayload] at herror ⊢
        split at herror
        · cases herror
        · rename_i hwrong
          rw [if_neg hwrong]
          exact herror

end StoredHash

/-- Facts that the log may tell of stored bytes. -/
structure Disclosure where
  tag : Option UInt8
  /-- The number of bytes after the tag. -/
  payloadLength : Nat
  /-- The costs that are written in a hash, beside those that the hasher writes. -/
  costs : Option (Params × Params)

namespace Hasher

variable {derive : KeyDerivation} {g h : Hasher} {password other : String}
  {stored stored' : List UInt8}

/-- The facts that a hasher may tell of stored bytes. -/
def disclosure (h : Hasher) (stored : List UInt8) : Disclosure where
  tag := stored.head?
  payloadLength := stored.tail.length
  costs := (StoredHash.writtenCosts? stored).map fun params => (params, h.params)

/-- The events about the costs of a hash, where `own` are the costs that the hasher writes. -/
def costEvents (own params : Params) : List LogEvent :=
  if params.exceeds (own.maxEach maxStoredParams) then (Finding.tooCostly params).events
  else match params.check with
    | .error cause => (Finding.unusable cause).events
    | .ok () => []

/-- There is nothing to tell about the costs of the legacy layout. -/
theorem costEvents_legacyParams (own : Params) : costEvents own legacyParams = [] := by
  have hceiling : legacyParams.exceeds (own.maxEach maxStoredParams) = false :=
    legacyParams_exceeds_ceiling ⟨.legacy, own⟩
  have hcheck : legacyParams.check = .ok () := rfl
  simp [costEvents, hceiling, hcheck]

/-- The events of a check of a hash are about its costs. -/
theorem events_inspectWith_of_decode {hash : StoredHash}
    (hdecode : StoredHash.decode stored = .ok hash) :
    (h.inspectWith derive password stored).events = costEvents h.params hash.costs.params := by
  have hceiling : h.ceiling = h.params.maxEach maxStoredParams := rfl
  simp only [inspectWith, hdecode, costEvents, hceiling]
  by_cases hexceeds : hash.costs.params.exceeds (h.params.maxEach maxStoredParams) = true
  · rw [if_pos hexceeds, if_pos hexceeds]
  · rw [if_neg hexceeds, if_neg hexceeds]
    cases hash.costs.params.check with
    | error cause => rfl
    | ok _ =>
      dsimp only
      split <;> rfl

/-- The events of a check of a hash are about the costs that are disclosed, if there are any. -/
theorem events_inspectWith_of_disclosure_costs {hash : StoredHash}
    (hdecode : StoredHash.decode stored = .ok hash) :
    (h.inspectWith derive password stored).events =
      (h.disclosure stored).costs.elim [] fun (params, own) => costEvents own params := by
  rw [events_inspectWith_of_decode hdecode, disclosure, StoredHash.writtenCosts?, hdecode]
  obtain ⟨costs, salt, output⟩ := hash
  cases costs with
  | legacy => exact costEvents_legacyParams h.params
  | written params => rfl

/--
Checks have the same events where the same is disclosed, whatever the passwords are. The facts about
the stored bytes are enough to tell that they hold no hash, and why not.
-/
theorem events_inspectWith_of_disclosure
    (hsame : g.disclosure stored = h.disclosure stored') :
    (g.inspectWith derive password stored).events =
      (h.inspectWith derive other stored').events := by
  have htag : stored.head? = stored'.head? := congrArg Disclosure.tag hsame
  have hlength : stored.length = stored'.length := by
    have hpayload : stored.tail.length = stored'.tail.length :=
      congrArg Disclosure.payloadLength hsame
    cases stored <;> cases stored' <;> simp_all
  cases hdecode : StoredHash.decode stored with
  | error cause =>
    have hdecode' := StoredHash.decode_eq_error_of_same htag hlength hdecode
    simp only [inspectWith, hdecode, hdecode']
  | ok hash =>
    cases hdecode' : StoredHash.decode stored' with
    | error cause =>
      have hsource := StoredHash.decode_eq_error_of_same htag.symm hlength.symm hdecode'
      rw [hsource] at hdecode
      cases hdecode
    | ok hash' =>
      rw [events_inspectWith_of_disclosure_costs hdecode,
        events_inspectWith_of_disclosure_costs hdecode', hsame]

/-- The same is disclosed of all hashes with the same costs. -/
theorem disclosure_encode (h : Hasher) (costs : Costs) (salt salt' : Salt)
    (output output' : Output) : h.disclosure (StoredHash.mk costs salt output).encode =
      h.disclosure (StoredHash.mk costs salt' output').encode := by
  rw [disclosure, disclosure, StoredHash.writtenCosts?_encode, StoredHash.writtenCosts?_encode]
  simp [StoredHash.encode, Costs.header]

end Hasher

/-- A finding has at most one event. -/
theorem Finding.length_events_le (f : Finding) : f.events.length ≤ 1 := by
  rw [events]
  cases f.event? <;> simp

end Password

/-! ## Logins -/

namespace Config

variable {derive : KeyDerivation} {c : Config}

/-- What a login adds to the events of the check. -/
def answerEvents (outcome : Outcome) : List LogEvent :=
  if !outcome.isSuccess then [rejectionEvent outcome]
  else if outcome.needsRehash then [rehashEvent] else []

/-- The events of a login are those of the check and what goes with its answer. -/
theorem events_loginWith (password : String) (stored : List UInt8) (claims : List Claim)
    (clock : Clock) (random : LoginRandom) :
    (c.loginWith derive password stored claims clock random).2 =
      (c.passwords.inspectWith derive password stored).events ++
        answerEvents (c.passwords.inspectWith derive password stored).outcome := by
  rw [loginWith, answerEvents]
  generalize c.passwords.inspectWith derive password stored = finding
  cases finding.outcome.isSuccess with
  | false => rfl
  | true =>
    simp only [Bool.not_true, Bool.false_eq_true, if_false]
    cases c.rehashWith derive password random.salt finding.outcome with
    | error cause => rfl
    | ok rehashed => cases c.tokens.issue claims clock random.refresh <;> rfl

/--
What the log discloses. A check has at most one event. It is determined by the tag of the stored
bytes, the length of the rest and, if they are a hash in the current layout, its three costs beside
those of the hasher: neither the password nor the salt and the output of a hash have a part in it.
The events of a login are determined by the stored bytes and the answer, so that logins with other
passwords, claims, clocks, random bytes and another signing key have the same ones.
-/
theorem events_of_disclosure :
    (∀ (h : Hasher) (password : String) (stored : List UInt8),
      (h.inspect password stored).events.length ≤ 1) ∧
    (∀ (g h : Hasher) (password other : String) (stored stored' : List UInt8),
      g.disclosure stored = h.disclosure stored' →
      (g.inspect password stored).events = (h.inspect other stored').events) ∧
    (∀ (h : Hasher) (costs : Costs) (salt salt' : Salt) (output output' : Output),
      h.disclosure (StoredHash.mk costs salt output).encode =
        h.disclosure (StoredHash.mk costs salt' output').encode) ∧
    (∀ c d : Config, d = { c with key := d.key } → ∀ (password other : String)
      (stored : List UInt8) (claims claims' : List Claim) (clock clock' : Clock)
      (random random' : LoginRandom),
      c.passwords.verify password stored = d.passwords.verify other stored →
      (c.login password stored claims clock random).2 =
        (d.login other stored claims' clock' random').2) := by
  refine ⟨fun h password stored => Finding.length_events_le _,
    fun g h password other stored stored' => Hasher.events_inspectWith_of_disclosure,
    Hasher.disclosure_encode, ?_⟩
  intro c d hkey password other stored claims claims' clock clock' random random' hanswer
  have hhasher : d.passwords = c.passwords := by
    rw [hkey]
    rfl
  have hchecks : (c.passwords.inspectWith argon2id password stored).events =
      (c.passwords.inspectWith argon2id other stored).events :=
    Hasher.events_inspectWith_of_disclosure rfl
  rw [hhasher] at hanswer
  rw [login, login, events_loginWith, events_loginWith, hhasher, hchecks]
  exact congrArg (_ ++ answerEvents ·) hanswer

end Config

end Credentials

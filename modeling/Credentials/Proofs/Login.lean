import Credentials.Login
import Credentials.Proofs.Config
import Credentials.Proofs.Password.Hasher
import Credentials.Proofs.Token.RoundTrip

/-!
# Logging in again and again

A user logs in with one password under one configuration after another, and the stored hash is
replaced whenever a login asks for it. Costs that are read from a stored hash have a ceiling. As
long as no configuration leaves behind a hash above the ceiling of the next one, every login is
answered with a session and leaves behind a hash that is as new hashes are.
-/

namespace Credentials

open Credentials.Argon2 Credentials.Password Credentials.Token

namespace Config

/--
Whether a configuration works with the hashes that another one writes: none of the costs of these is
above both its own cost and the highest one that is always accepted. The costs of the legacy layout
are low enough for every configuration.
-/
def Tolerates (d c : Config) : Prop := c.hashVersion = .current →
  c.hashParams.memoryKib ≤ max d.hashParams.memoryKib maxStoredParams.memoryKib ∧
    c.hashParams.iterations ≤ max d.hashParams.iterations maxStoredParams.iterations ∧
    c.hashParams.parallelism ≤ max d.hashParams.parallelism maxStoredParams.parallelism

/-- Hashes are tolerated if their costs do not exceed the ceiling. -/
theorem tolerates_iff {d c : Config} :
    d.Tolerates c ↔ c.passwords.costs.params.exceeds d.passwords.ceiling = false := by
  rw [Tolerates, passwords, Hasher.costs]
  cases c.hashVersion with
  | legacy =>
    have hlegacy := legacyParams_exceeds_ceiling d.passwords
    simpa [Costs.ofVersion, Costs.params] using hlegacy
  | current =>
    rw [Params.exceeds_eq_false_iff]
    simp [passwords, Costs.ofVersion, Costs.params, Hasher.ceiling, Params.maxEach]

/-! ## One login -/

section

variable {derive : KeyDerivation} {c : Config} {password : String} {costs : Costs}
  {stored : List UInt8} {claims : List Claim} {clock : Clock}

/-- A hash that is too costly is rejected, even if the password is right. -/
theorem loginWith_of_exceeds (hstored : Hasher.IsHashOf derive password costs stored)
    (hexceeds : costs.params.exceeds c.passwords.ceiling = true) (random : LoginRandom) :
    (c.loginWith derive password stored claims clock random).1 = .ok (.rejected .fail) := by
  rw [loginWith, Hasher.inspectWith_of_isHashOf hstored, if_pos hexceeds]
  rfl

/--
A login with the right password is answered with a session. The hash that is stored afterwards has
the costs of new hashes.
-/
theorem loginWith_of_not_exceeds (hstored : Hasher.IsHashOf derive password costs stored)
    (hexceeds : costs.params.exceeds c.passwords.ceiling = false)
    (hparams : c.hashParams.Usable) (hreserved : ∀ d ∈ claims, d.name ∉ reservedNames)
    (hclock : 0 ≤ clock.seconds) (random : LoginRandom) : ∃ token rehashed,
      (c.loginWith derive password stored claims clock random).1 =
        .ok (.issued token rehashed) ∧
      Hasher.IsHashOf derive password c.passwords.costs (rehashed.getD stored) := by
  obtain ⟨token, hissue, _⟩ := c.tokens.issue_eq_ok hreserved hclock random.refresh
  have hfinding : c.passwords.inspectWith derive password stored =
      .accepted (costs = c.passwords.costs) := by
    rw [Hasher.inspectWith_of_isHashOf hstored, hexceeds, if_neg (by decide)]
  by_cases hcosts : costs = c.passwords.costs
  · subst hcosts
    refine ⟨token, none, ?_, hstored⟩
    simp [loginWith, hfinding, Finding.outcome, Outcome.isSuccess, rehashWith,
      Outcome.needsRehash, hissue]
  · obtain ⟨hash, hhash, hnew⟩ :=
      Hasher.exists_hashWith derive (h := c.passwords) hparams password random.salt
    refine ⟨token, some hash.encode, ?_, hnew⟩
    simp [loginWith, hfinding, hcosts, Finding.outcome, Outcome.isSuccess, rehashWith,
      Outcome.needsRehash, hhash, hissue, Except.map]

end

end Config

/-! ## Logins one after another -/

/-- A login of a user, under a configuration of its own. -/
structure LoginAttempt where
  config : Config
  claims : List Claim
  clock : Clock
  random : LoginRandom

namespace LoginAttempt

/-- What an attempt with a stored hash is answered. -/
def answer (s : LoginAttempt) (password : String) (stored : List UInt8) :
    Except LoginError LoginOutcome :=
  (s.config.login password stored s.claims s.clock s.random).1

/-- What is stored after an attempt: the new hash, if there is one. -/
def storedAfter (s : LoginAttempt) (password : String) (stored : List UInt8) : List UInt8 :=
  match s.answer password stored with
  | .ok (.issued _ rehashed) => rehashed.getD stored
  | _ => stored

/--
An attempt that is answered with a session and leaves behind a hash for which the password is right
and which need not be replaced.
-/
def Succeeds (s : LoginAttempt) (password : String) (stored : List UInt8) : Prop :=
  (∃ token rehashed, s.answer password stored = .ok (.issued token rehashed)) ∧
    s.config.passwords.verify password (s.storedAfter password stored) = .success

/--
An attempt under a configuration that has been checked, with claims that leave the names of the
issuer alone, and not before 1970.
-/
structure Regular (s : LoginAttempt) : Prop where
  checked : ∃ settings : Settings, settings.build = .ok s.config
  claims : ∀ c ∈ s.claims, c.name ∉ reservedNames
  clock : 0 ≤ s.clock.seconds

/-- Attempts that all succeed, each with the hash that the one before has left behind. -/
def AllSucceed (password : String) : List UInt8 → List LoginAttempt → Prop
  | _, [] => True
  | stored, s :: attempts =>
    s.Succeeds password stored ∧ AllSucceed password (s.storedAfter password stored) attempts

variable {s : LoginAttempt} {password : String} {c : Config} {stored : List UInt8}

/-- An attempt with a hash that is not tolerated is rejected, so that it does not succeed. -/
theorem not_succeeds_of_not_tolerates
    (hstored : Hasher.IsHashOf argon2id password c.passwords.costs stored)
    (htolerates : ¬ s.config.Tolerates c) : ¬ s.Succeeds password stored := by
  rintro ⟨⟨token, rehashed, hissued⟩, _⟩
  have hexceeds : c.passwords.costs.params.exceeds s.config.passwords.ceiling = true := by
    simpa [Config.tolerates_iff] using htolerates
  have hrejected : s.answer password stored = .ok (.rejected .fail) :=
    Config.loginWith_of_exceeds hstored hexceeds s.random
  rw [hrejected] at hissued
  cases hissued

/-- An attempt with a hash that is tolerated succeeds and leaves behind a hash of its own. -/
theorem Regular.succeeds (hs : s.Regular)
    (hstored : Hasher.IsHashOf argon2id password c.passwords.costs stored)
    (htolerates : s.config.Tolerates c) :
    s.Succeeds password stored ∧ Hasher.IsHashOf argon2id password s.config.passwords.costs
      (s.storedAfter password stored) := by
  obtain ⟨settings, hbuild⟩ := hs.checked
  obtain ⟨token, rehashed, hissued, hnew⟩ :=
    Config.loginWith_of_not_exceeds hstored (Config.tolerates_iff.mp htolerates)
      (Settings.usable_of_build hbuild).2 hs.claims hs.clock s.random
  have hanswer : s.answer password stored = .ok (.issued token rehashed) := hissued
  have hafter : s.storedAfter password stored = rehashed.getD stored := by
    rw [storedAfter, hanswer]
  rw [← hafter] at hnew
  exact ⟨⟨⟨token, rehashed, hanswer⟩, Hasher.verify_of_isHashOf hnew⟩, hnew⟩

/--
Attempts all succeed exactly if each configuration tolerates the hashes of the one before it. The
stored hash always is one of the password, with the costs of the configuration used last.
-/
theorem allSucceed_iff_isChain {attempts : List LoginAttempt}
    (hattempts : ∀ s ∈ attempts, s.Regular)
    (hstored : Hasher.IsHashOf argon2id password c.passwords.costs stored) :
    AllSucceed password stored attempts ↔
      (c :: attempts.map (·.config)).IsChain fun c d => d.Tolerates c := by
  induction attempts generalizing c stored with
  | nil => simp [AllSucceed]
  | cons s attempts ih =>
    rw [AllSucceed, List.map_cons, List.isChain_cons_cons]
    by_cases htolerates : s.config.Tolerates c
    · obtain ⟨hsucceeds, hnew⟩ := (hattempts s (by simp)).succeeds hstored htolerates
      rw [ih (fun t ht => hattempts t (by simp [ht])) hnew]
      simp [hsucceeds, htolerates]
    · have hnot : ¬ s.Succeeds password stored := not_succeeds_of_not_tolerates hstored htolerates
      simp [hnot, htolerates]

/--
Starting from the hash of a password that a configuration writes, logins with the password all
succeed exactly if each configuration tolerates the hashes of the one before it.
-/
theorem allSucceed_hash_iff {settings : Settings} (hbuild : settings.build = .ok c)
    (password : String) (salt : Salt) {attempts : List LoginAttempt}
    (hattempts : ∀ s ∈ attempts, s.Regular) :
    ∃ hash, c.passwords.hash password salt = .ok hash ∧
      (AllSucceed password hash.encode attempts ↔
        (c :: attempts.map (·.config)).IsChain fun c d => d.Tolerates c) := by
  have husable := (Settings.usable_of_build hbuild).2
  obtain ⟨hash, hhash, hstored⟩ :=
    Hasher.exists_hashWith argon2id (h := c.passwords) husable password salt
  exact ⟨hash, hhash, allSucceed_iff_isChain hattempts hstored⟩

/-- An attempt without claims at the beginning of 1970 is regular. -/
theorem regular_of_build {settings : Settings} (h : settings.build = .ok c)
    (random : LoginRandom) : Regular ⟨c, [], ⟨0, 0⟩, random⟩ where
  checked := ⟨settings, h⟩
  claims := by simp
  clock := Int.le_refl 0

/-- A hash with the default costs is replaced by one with lower costs. -/
theorem allSucceed_lowered : ∃ c d hash,
    Settings.build { key := .replicate 32 0 } = .ok c ∧
    Settings.build { key := .replicate 32 0, hashParams := ⟨8, 1, 1⟩ } = .ok d ∧
    c.passwords.hash "secret" (.replicate _ 0) = .ok hash ∧
    AllSucceed "secret" hash.encode [⟨d, [], ⟨0, 0⟩, ⟨.replicate _ 1, .replicate _ 2⟩⟩] := by
  obtain ⟨c, hc, _⟩ := Settings.exists_build_zeroKey
  obtain ⟨d, hd⟩ :=
    Settings.exists_build_of_key (.replicate 32 0) ⟨8, 1, 1⟩ (by decide) (by decide)
  obtain ⟨hash, hhash, hiff⟩ := allSucceed_hash_iff hc "secret" (.replicate _ 0)
    (List.forall_mem_singleton.mpr (regular_of_build hd ⟨.replicate _ 1, .replicate _ 2⟩))
  refine ⟨c, d, hash, hc, hd, hhash, hiff.mpr ?_⟩
  have htolerates : d.Tolerates c := by
    intro _
    rw [(Settings.usable_of_build hc).1, (Settings.usable_of_build hd).1]
    decide
  simpa using htolerates

/--
Not every sequence of configurations keeps a password usable: a hash with seventeen iterations is
rejected under a configuration that asks for one.
-/
theorem not_forall_allSucceed : ¬ ∀ (settings : Settings) (c : Config) (password : String)
    (salt : Salt) (attempts : List LoginAttempt), settings.build = .ok c →
    (∀ s ∈ attempts, s.Regular) →
    ∃ hash, c.passwords.hash password salt = .ok hash ∧
      AllSucceed password hash.encode attempts := by
  intro hall
  obtain ⟨c, hc⟩ :=
    Settings.exists_build_of_key (.replicate 32 0) ⟨8, 17, 1⟩ (by decide) (by decide)
  obtain ⟨d, hd⟩ :=
    Settings.exists_build_of_key (.replicate 32 0) ⟨8, 1, 1⟩ (by decide) (by decide)
  have hregular := List.forall_mem_singleton.mpr
    (regular_of_build hd ⟨.replicate _ 1, .replicate _ 2⟩)
  obtain ⟨hash, hhash, hsucceed⟩ := hall _ c "secret" (.replicate _ 0) _ hc hregular
  obtain ⟨_, hsame, hstored⟩ := Hasher.exists_hashWith argon2id (h := c.passwords)
    (Settings.usable_of_build hc).2 "secret" (.replicate _ 0)
  obtain rfl := Except.ok.inj (hhash.symm.trans hsame)
  have hchain := (allSucceed_iff_isChain hregular hstored).mp hsucceed
  have htolerates : d.Tolerates c := by simpa using hchain
  obtain ⟨_, _, _, _, _, _, _, rfl⟩ := Settings.build_eq_ok_iff.mp hc
  obtain ⟨_, _, _, _, _, _, _, rfl⟩ := Settings.build_eq_ok_iff.mp hd
  have hiterations : (17 : UInt32) ≤ max 1 maxStoredParams.iterations := (htolerates rfl).2.1
  exact absurd hiterations (by decide)

end LoginAttempt

end Credentials

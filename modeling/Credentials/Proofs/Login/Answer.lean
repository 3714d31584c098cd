import Credentials.Proofs.Login
import Credentials.Proofs.Password.Verification

/-!
# The answer to a login

A session is issued exactly if the password is accepted and the issuer takes the claims. The claims
and the clock do not matter where the password is not accepted, and a hash that is handed back takes
the place of the old one for good.
-/

namespace Credentials

open Credentials.Argon2 Credentials.Password Credentials.Token

/-! ## Sessions up to their random bytes -/

/-- Sessions that differ at most in the random bytes of their refresh tokens. -/
def IssuedToken.IsLike (t u : IssuedToken) : Prop :=
  t.accessToken = u.accessToken ∧ t.expiresAt = u.expiresAt ∧
    t.refresh.map (·.expiresAt) = u.refresh.map (·.expiresAt)

/-- Whether tokens are issued does not depend on the random bytes, nor does anything in them but the
text of the refresh token. -/
theorem TokenIssuer.issue_cases (i : TokenIssuer) (claims : List Claim) (clock : Clock) :
    (∃ cause, ∀ bytes, i.issue claims clock bytes = .error cause) ∨
      ∃ token : RefreshBytes → IssuedToken,
        (∀ bytes, i.issue claims clock bytes = .ok (token bytes)) ∧
        ∀ bytes others, (token bytes).IsLike (token others) := by
  cases hreserved : TokenIssuer.reserved? claims with
  | some c => exact Or.inl ⟨_, issueWith_of_reserved _ hreserved clock⟩
  | none =>
    cases hclock : clock.unixSeconds? with
    | none => exact Or.inl ⟨_, issueWith_of_before_1970 _ hreserved hclock⟩
    | some now =>
      refine Or.inr ⟨_, issue_of_unixSeconds hreserved hclock, ?_⟩
      intro bytes others
      exact ⟨rfl, rfl, by simp [RefreshToken.ofBytes, Function.comp_def]⟩

namespace Config

variable {derive : KeyDerivation} {c : Config} {password : String} {stored : List UInt8}

/-! ## The steps of a login -/

/-- A password that is not accepted is answered before anything else is looked at. -/
theorem loginWith_of_not_isSuccess
    (hanswer : (c.passwords.inspectWith derive password stored).outcome.isSuccess = false)
    (claims : List Claim) (clock : Clock) (random : LoginRandom) :
    (c.loginWith derive password stored claims clock random).1 =
      .ok (.rejected (c.passwords.inspectWith derive password stored).outcome) := by
  simp [loginWith, hanswer]

/-- A hash is replaced if it is asked for, by one of the same password with the costs of new hashes. -/
theorem exists_rehashWith (derive : KeyDerivation) (hparams : c.hashParams.Usable)
    (password : String) (salt : Salt) (outcome : Outcome) : ∃ rehashed,
      c.rehashWith derive password salt outcome = .ok rehashed ∧
      (rehashed.isSome = true ↔ outcome = .successRehashNeeded) ∧
      ∀ h ∈ rehashed, Hasher.IsHashOf derive password c.passwords.costs h := by
  cases outcome with
  | successRehashNeeded =>
    obtain ⟨hash, hhash, hnew⟩ :=
      Hasher.exists_hashWith derive (h := c.passwords) hparams password salt
    refine ⟨some hash.encode, ?_, by simp, by simpa using hnew⟩
    simp [rehashWith, Outcome.needsRehash, hhash, Except.map]
  | _ => exact ⟨none, rfl, by simp, by simp⟩

/-- A password that is accepted is answered by the issuer. -/
theorem loginWith_of_isSuccess {random : LoginRandom} {rehashed : Option (List UInt8)}
    (hanswer : (c.passwords.inspectWith derive password stored).outcome.isSuccess = true)
    (hrehash : c.rehashWith derive password random.salt
      (c.passwords.inspectWith derive password stored).outcome = .ok rehashed)
    (claims : List Claim) (clock : Clock) :
    (c.loginWith derive password stored claims clock random).1 =
      match c.tokens.issue claims clock random.refresh with
      | .error cause => .error (.token cause)
      | .ok token => .ok (.issued token rehashed) := by
  simp only [loginWith, hanswer, hrehash, Bool.not_true, Bool.false_eq_true, if_false]
  cases c.tokens.issue claims clock random.refresh with
  | error cause => rfl
  | ok token => rfl

/-! ## The answer as a whole -/

/--
The answer to a login under a configuration that has been checked. A password that is not accepted
is rejected whatever the claims and the clock are. For one that is accepted, a login fails exactly
as issuing tokens does, and otherwise gives the tokens that would be issued, with a new hash exactly
if one is needed. With that hash the same login gives a session and no other hash.
-/
theorem login_of_verify {settings : Settings} (hbuild : settings.build = .ok c) (password : String)
    (stored : List UInt8) (claims : List Claim) (clock : Clock) (bytes : RefreshBytes)
    (random : LoginRandom) :
    ((c.passwords.verify password stored).isSuccess = false →
      (c.login password stored claims clock random).1 =
        .ok (.rejected (c.passwords.verify password stored))) ∧
    ((c.passwords.verify password stored).isSuccess = true →
      (∀ cause, (c.login password stored claims clock random).1 = .error (.token cause) ↔
        c.tokens.issue claims clock bytes = .error cause) ∧
      ∀ issued, c.tokens.issue claims clock bytes = .ok issued → ∃ token rehashed,
        (c.login password stored claims clock random).1 = .ok (.issued token rehashed) ∧
        token.IsLike issued ∧
        (rehashed.isSome = true ↔ c.passwords.verify password stored = .successRehashNeeded) ∧
        ∀ h ∈ rehashed, c.passwords.verify password h = .success ∧
          ∀ again : LoginRandom, ∃ next,
            (c.login password h claims clock again).1 = .ok (.issued next none) ∧
            next.IsLike issued) := by
  have hparams := (Settings.usable_of_build hbuild).2
  refine ⟨fun hanswer => loginWith_of_not_isSuccess hanswer claims clock random, ?_⟩
  intro hanswer
  obtain ⟨rehashed, hrehash, hneeded, hnew⟩ :=
    exists_rehashWith argon2id hparams password random.salt (c.passwords.verify password stored)
  have hlogin := loginWith_of_isSuccess hanswer hrehash claims clock
  rcases c.tokens.issue_cases claims clock with ⟨cause, hissue⟩ | ⟨token, hissue, hlike⟩
  · rw [hissue] at hlogin
    refine ⟨fun cause' => ?_, fun issued hissued => ?_⟩
    · rw [login, hlogin, hissue]
      simp
    · rw [hissue] at hissued
      cases hissued
  · rw [hissue] at hlogin
    refine ⟨fun cause' => ?_, fun issued hissued => ?_⟩
    · rw [login, hlogin, hissue]
      simp
    · rw [hissue] at hissued
      obtain rfl := Except.ok.inj hissued
      refine ⟨token random.refresh, rehashed, hlogin, hlike _ _, hneeded, ?_⟩
      intro h hmem
      -- The new hash is as new hashes are, so that the next login leaves it alone.
      have hverify := Hasher.verify_of_isHashOf (hnew h hmem)
      refine ⟨hverify, fun again => ⟨token again.refresh, ?_, hlike _ _⟩⟩
      have hkept : c.rehashWith argon2id password again.salt (c.passwords.verify password h) =
          .ok none := by
        rw [hverify]
        rfl
      have hsuccess : (c.passwords.verify password h).isSuccess = true := by
        rw [hverify]
        rfl
      have hnext := loginWith_of_isSuccess hsuccess hkept claims clock
      rw [hissue] at hnext
      exact hnext

/-- A login with a hash in the legacy layout gives a session and a hash to replace it for good. -/
theorem login_of_verify_legacy : ∃ c hash token rehashed,
    Settings.build { key := .replicate 32 0 } = .ok c ∧
    Hasher.hash ⟨.legacy, defaultParams⟩ "secret" (.replicate _ 0) = .ok hash ∧
    (c.login "secret" hash.encode [⟨"role", "a"⟩] ⟨0, 0⟩ ⟨.replicate _ 1, .replicate _ 2⟩).1 =
      .ok (.issued token (some rehashed)) ∧
    c.passwords.verify "secret" rehashed = .success := by
  obtain ⟨c, hc, _⟩ := Settings.exists_build_zeroKey
  obtain ⟨hash, hhash, _⟩ := Hasher.exists_hashWith argon2id (h := ⟨.legacy, defaultParams⟩)
    (by decide) "secret" (.replicate _ 0)
  have hverify : c.passwords.verify "secret" hash.encode = .successRehashNeeded := by
    obtain ⟨_, _, _, _, _, _, _, rfl⟩ := Settings.build_eq_ok_iff.mp hc
    have houtcome := Hasher.outcome_of_hashWith hhash ⟨.current, defaultParams⟩ "secret"
    rw [if_pos rfl] at houtcome
    exact houtcome
  have hreserved : ∀ d ∈ [Claim.mk "role" "a"], d.name ∉ reservedNames := by decide
  have hclock : 0 ≤ (Clock.mk 0 0).seconds := by decide
  obtain ⟨issued, hissue, _⟩ := c.tokens.issue_eq_ok hreserved hclock (.replicate _ 2)
  have haccepted : (c.passwords.verify "secret" hash.encode).isSuccess = true := by
    rw [hverify]
    rfl
  obtain ⟨_, hgiven⟩ := (login_of_verify hc "secret" hash.encode [⟨"role", "a"⟩] ⟨0, 0⟩
    (.replicate _ 2) ⟨.replicate _ 1, .replicate _ 2⟩).2 haccepted
  obtain ⟨token, rehashed, hlogin, _, hneeded, hnew⟩ := hgiven issued hissue
  obtain ⟨new, rfl⟩ := Option.isSome_iff_exists.mp (hneeded.mpr hverify)
  exact ⟨c, hash, token, new, hc, hhash, hlogin, (hnew new rfl).1⟩

end Config

end Credentials

import Credentials.Proofs.Password.Verification
import Credentials.Proofs.Token.Issuing

/-!
# What can fail after startup

Settings are checked before anything else is done. Under a configuration that comes of it, an
operation fails only for what it is given itself, never for a setting.
-/

namespace Credentials

open Credentials.Password Credentials.Token

/-- A configuration under which operations fail for nothing but what they are given. -/
structure Config.FailsOnlyForInput (c : Config) : Prop where
  /-- Issuing fails for the first reserved claim or, if there is none, for a clock before 1970. -/
  issue_error : ∀ claims clock bytes e, c.tokens.issue claims clock bytes = .error e ↔
    (∃ d : Claim, d.IsFirstReserved claims ∧ e = .reservedClaim d.name) ∨
      (∀ d ∈ claims, d.name ∉ reservedNames) ∧ clock.seconds < 0 ∧ e = .time
  /-- Otherwise there is a token with a header, a payload and a signature that its issuer takes. -/
  issue_ok : ∀ claims clock bytes, (∀ d ∈ claims, d.name ∉ reservedNames) → 0 ≤ clock.seconds →
    clock.seconds.toNat + c.accessLifetime.seconds.toNat < 2 ^ 64 →
    ∃ token members, c.tokens.issue claims clock bytes = .ok token ∧
      token.expiresAt.toNat = clock.seconds.toNat + c.accessLifetime.seconds.toNat ∧
      token.refresh.isSome = c.issueRefresh ∧ c.tokens.Carries token.accessToken members
  /-- Hashing never fails, be it with the layout that is asked for or with the other one. -/
  hash : ∀ version password salt, ∃ hash,
    Hasher.hash ⟨version, c.hashParams⟩ password salt = .ok hash ∧ hash.costs.version = version
  /-- Writing a message fails only for a time that is over. -/
  email_error : ∀ kind token hours e, c.renderEmail kind token hours = .error e ↔
    hours ≤ 0 ∧ e = .invalidExpiration hours
  /-- Otherwise there is a message. -/
  email_ok : ∀ kind token hours, 0 < hours →
    ∃ template, c.renderEmail kind token hours = .ok template

namespace Config

/-- A token that is issued is one that its issuer takes. -/
theorem exists_carries_of_issue {c : Config} {claims : List Claim} {clock : Clock}
    {bytes : RefreshBytes} {token : IssuedToken}
    (hissue : c.tokens.issue claims clock bytes = .ok token) :
    token.refresh.isSome = c.issueRefresh ∧
      ∃ members, c.tokens.Carries token.accessToken members := by
  obtain ⟨hreserved, now, _, _, haccess, hrefresh⟩ := TokenIssuer.issue_eq_ok_iff.mp hissue
  constructor
  · rw [hrefresh, Option.isSome_map, tokens]
    cases c.issueRefresh <;> rfl
  · rw [haccess]
    exact ⟨_, TokenIssuer.carries_accessToken hreserved now token.expiresAt⟩

/-- Hashes in either layout can be written with costs that can be used. -/
theorem exists_hash_of_usable {params : Argon2.Params} (hparams : params.Usable)
    (version : Version) (password : String) (salt : Argon2.Salt) : ∃ hash,
      Hasher.hash ⟨version, params⟩ password salt = .ok hash ∧ hash.costs.version = version := by
  have husable : (Hasher.mk version params).costs.params.Usable := Hasher.usable_costs hparams
  refine ⟨_, Hasher.hashWith_eq_ok_iff.mpr ⟨husable, rfl⟩, ?_⟩
  cases version <;> rfl

/-- Whatever passes the checks at startup, operations fail only for what they are given. -/
theorem failsOnlyForInput_of_build {s : Settings} {c : Config} (h : s.build = .ok c) :
    c.FailsOnlyForInput where
  issue_error _ _ _ _ := TokenIssuer.issue_eq_error_iff
  issue_ok claims clock bytes hreserved hclock hfits := by
    obtain ⟨token, hissue, hexpires, _⟩ := c.tokens.issue_eq_ok hreserved hclock bytes
    obtain ⟨hrefresh, members, hcarries⟩ := exists_carries_of_issue hissue
    refine ⟨token, members, hissue, ?_, hrefresh, hcarries⟩
    rw [hexpires]
    exact TokenIssuer.toNat_ofNat_add hfits
  hash version password salt := exists_hash_of_usable (Settings.usable_of_build h).2 version _ salt
  email_error kind token hours e := by
    rw [renderEmail, Email.render]
    split_ifs with hover <;> simp [hover, eq_comm]
  email_ok kind token hours hpositive := ⟨_, if_neg (Int.not_le.mpr hpositive)⟩

/-- Settings that ask for the legacy layout: before 1970 a reserved claim is still what is reported,
the layout that is not asked for can be written, and so can a message with a markup token. -/
theorem failsOnlyForInput_legacy : ∃ c hash template,
    Settings.build { key := .replicate 32 0, hashVersion := .legacy } = .ok c ∧
    c.tokens.issue [⟨"role", "a"⟩, ⟨"exp", "1"⟩, ⟨"iss", "b"⟩] ⟨-1, 0⟩ (.replicate _ 0) =
      .error (.reservedClaim "exp") ∧
    Hasher.hash ⟨.current, c.hashParams⟩ "secret" (.replicate _ 0) = .ok hash ∧
    c.renderEmail .reset "\"><b>" 1 = .ok template := by
  obtain ⟨c, hc⟩ := Settings.exists_build_of_checks
    { key := .replicate 32 0, hashVersion := .legacy } ⟨rfl, rfl⟩ (by decide) rfl (by decide)
  have hserves := failsOnlyForInput_of_build hc
  have hfirst : (Claim.mk "exp" "1").IsFirstReserved
      [⟨"role", "a"⟩, ⟨"exp", "1"⟩, ⟨"iss", "b"⟩] :=
    ⟨[⟨"role", "a"⟩], [⟨"iss", "b"⟩], rfl, by decide, by decide⟩
  obtain ⟨hash, hhash, _⟩ := hserves.hash .current "secret" (.replicate _ 0)
  obtain ⟨template, hemail⟩ := hserves.email_ok .reset "\"><b>" 1 (by decide)
  exact ⟨c, hash, template, hc, (hserves.issue_error _ _ _ _).mpr (.inl ⟨_, hfirst, rfl⟩), hhash,
    hemail⟩

end Config

end Credentials

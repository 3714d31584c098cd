import Credentials.Proofs.Token.RoundTrip

/-!
# What comes of issuing tokens

Issuing fails for a claim with a name of the issuer or for a clock before 1970, and for nothing
else. Otherwise the access token is one that its issuer would have signed. Its expiry is later than
the second at which it is issued, unless its lifetime is a mere fraction of a second: fractions are
cut off when a lifetime is added, but count when settings are checked.
-/

namespace Credentials

open Credentials.Json Credentials.Token

/-- The first claim of a list with a name that only the issuer may use. -/
def Claim.IsFirstReserved (c : Claim) (claims : List Claim) : Prop :=
  ∃ before after, claims = before ++ c :: after ∧
    (∀ d ∈ before, d.name ∉ reservedNames) ∧ c.name ∈ reservedNames

namespace TokenIssuer

variable {i : TokenIssuer} {claims : List Claim} {clock : Clock} {bytes : RefreshBytes}

/-! ## The outcomes -/

/-- The first reserved claim is found. -/
theorem reserved?_eq_some_iff {c : Claim} :
    reserved? claims = some c ↔ c.IsFirstReserved claims := by
  simp only [reserved?, List.find?_eq_some_iff_append, List.contains_iff_mem, Bool.not_eq_true',
    ← Bool.not_eq_true, Claim.IsFirstReserved]
  constructor
  · rintro ⟨hc, before, after, hclaims, hbefore⟩
    exact ⟨before, after, hclaims, hbefore, hc⟩
  · rintro ⟨before, after, hclaims, hbefore, hc⟩
    exact ⟨hc, before, after, hclaims, hbefore⟩

/-- Issuing fails for the first reserved claim or, if there is none, for a clock before 1970. It
never fails because a payload or a token cannot be written. -/
theorem issue_eq_error_iff {e : TokenError} : i.issue claims clock bytes = .error e ↔
    (∃ c : Claim, c.IsFirstReserved claims ∧ e = .reservedClaim c.name) ∨
      (∀ c ∈ claims, c.name ∉ reservedNames) ∧ clock.seconds < 0 ∧ e = .time := by
  simp only [← reserved?_eq_some_iff, ← reserved?_eq_none_iff, ← Clock.unixSeconds?_eq_none_iff]
  cases hreserved : reserved? claims with
  | some c => simp [issue, issueWith_of_reserved _ hreserved, eq_comm]
  | none =>
    cases hnow : clock.unixSeconds? with
    | none => simp [issue, issueWith_of_before_1970 _ hreserved hnow, eq_comm]
    | some now => simp [issue_of_unixSeconds hreserved hnow]

/-- Issuing succeeds for claims that leave the names of the issuer alone, from 1970 on. -/
theorem issue_eq_ok_iff {token : IssuedToken} : i.issue claims clock bytes = .ok token ↔
    (∀ c ∈ claims, c.name ∉ reservedNames) ∧ ∃ now, clock.unixSeconds? = some now ∧
      token.expiresAt = now + i.accessLifetime.seconds ∧
      token.accessToken = i.accessToken claims now token.expiresAt ∧
      token.refresh = i.refreshLifetime.map fun l => .ofBytes bytes (now + l.seconds) := by
  rw [← reserved?_eq_none_iff]
  cases hreserved : reserved? claims with
  | some c => simp [issue, issueWith_of_reserved _ hreserved]
  | none =>
    cases hnow : clock.unixSeconds? with
    | none => simp [issue, issueWith_of_before_1970 _ hreserved hnow]
    | some now =>
      obtain ⟨accessToken, expiresAt, refresh⟩ := token
      rw [issue_of_unixSeconds hreserved hnow]
      simp only [Except.ok.injEq, IssuedToken.mk.injEq, true_and, Option.some_inj,
        exists_eq_left']
      constructor
      · rintro ⟨rfl, rfl, rfl⟩
        exact ⟨rfl, rfl, rfl⟩
      · rintro ⟨rfl, rfl, rfl⟩
        exact ⟨rfl, rfl, rfl⟩

/-! ## What is issued -/

/--
A text that an issuer takes for one of its tokens, as far as the header and the signature go, with
given members in its payload.
-/
def Carries (i : TokenIssuer) (token : String) (members : List (String × Value)) : Prop :=
  ∃ parts, Compact.parse? token.toList = some parts ∧ i.checkHeader parts.header = .ok () ∧
    i.checkSignature parts = .ok () ∧ readPayload parts.payload = .ok members

/-- An access token carries the claims of the issuer and those of the caller. -/
theorem carries_accessToken (hreserved : ∀ c ∈ claims, c.name ∉ reservedNames)
    (issuedAt expiresAt : UInt64) : i.Carries (i.accessToken claims issuedAt expiresAt)
      (Fixed.payload ⟨i.name, issuedAt, expiresAt⟩ claims).members := by
  refine ⟨_, parse?_accessToken, ?_, ?_, Fixed.readPayload_payload hreserved⟩
  · rw [checkHeader_issuedParts, if_neg (by simp)]
  · rw [checkSignature_issuedParts]
    exact if_neg (by simp)

/-- The times of an access token are found in its payload. -/
theorem lookup_payload_times (hreserved : ∀ c ∈ claims, c.name ∉ reservedNames) (f : Fixed) :
    (f.payload claims).members.lookup "iat" = some (.ofWord f.issuedAt) ∧
      (f.payload claims).members.lookup "exp" = some (.ofWord f.expiresAt) := by
  have hget (name : String) (hname : name ∈ reservedNames) :
      (f.payload claims).members.lookup name = f.object.get? name :=
    Fixed.get?_payload_of_reserved hreserved hname
  rw [hget "iat" (by decide), hget "exp" (by decide)]
  simp [Fixed.object]

end TokenIssuer

/-! ## Expiry -/

namespace Lifetime

/-- A lifetime that is not zero, but shorter than a second. -/
def IsFraction (l : Lifetime) : Prop := l.seconds = 0 ∧ l.nanos ≠ 0

/-- A time that is not zero has whole seconds if it is not a fraction of one. -/
theorem isFraction_iff {l : Lifetime} (h : l.isZero = false) : l.IsFraction ↔ l.seconds = 0 := by
  simp only [isZero, Bool.and_eq_false_iff, beq_eq_false_iff_ne] at h
  exact ⟨And.left, fun hseconds => ⟨hseconds, h.resolve_left (not_not.mpr hseconds)⟩⟩

/-- A lifetime leads to a later second if it is not zero nor a fraction of a second. -/
theorem lt_add_seconds_iff {l : Lifetime} (h : l.isZero = false) (now : UInt64)
    (hfits : now.toNat + l.seconds.toNat < 2 ^ 64) :
    (now < now + l.seconds ↔ ¬ l.IsFraction) ∧ (l.IsFraction → now + l.seconds = now) := by
  rw [isFraction_iff h]
  constructor
  · -- The sum does not wrap around, so it is later as soon as there is one whole second.
    rw [UInt64.lt_iff_toNat_lt, UInt64.toNat_add, ← UInt64.toNat_inj]
    have hzero : (0 : UInt64).toNat = 0 := rfl
    omega
  · intro hseconds
    rw [hseconds, UInt64.add_zero]

end Lifetime

/-- The lifetimes of a configuration are not zero, that of refresh tokens if they are issued. -/
theorem Settings.lifetimes_of_build {s : Settings} {c : Config} (h : s.build = .ok c) :
    c.accessLifetime.isZero = false ∧
      ∀ l ∈ c.tokens.refreshLifetime, l = c.refreshLifetime ∧ l.isZero = false := by
  obtain ⟨_, hlifetimes, _, _, _, _, _, rfl⟩ := build_eq_ok_iff.mp h
  rw [checkLifetimes] at hlifetimes
  split_ifs at hlifetimes with haccess hrefresh
  refine ⟨by simpa using haccess, fun l hl => ?_⟩
  by_cases hissued : s.issueRefresh
  · simp only [Config.tokens, hissued, if_true, Option.mem_some_iff] at hl
    exact ⟨hl.symm, by simpa [hissued, hl] using hrefresh⟩
  · simp [Config.tokens, hissued] at hl

namespace Config

/--
A session that is issued expires after the second at which it is issued, unless its lifetime is a
fraction of a second; then it expires at that very second.
-/
theorem issue_expires_later_iff {s : Settings} {c : Config} (hbuild : s.build = .ok c)
    {claims : List Claim} {clock : Clock} {bytes : RefreshBytes} {token : IssuedToken}
    (hissue : c.tokens.issue claims clock bytes = .ok token)
    (hfits : clock.seconds.toNat + c.accessLifetime.seconds.toNat < 2 ^ 64)
    (hrefresh : token.refresh.isSome →
      clock.seconds.toNat + c.refreshLifetime.seconds.toNat < 2 ^ 64) :
    ∃ now : UInt64, (now.toNat : Int) = clock.seconds ∧
      (∃ members, c.tokens.Carries token.accessToken members ∧
        members.lookup "iat" = some (.ofWord now) ∧
        members.lookup "exp" = some (.ofWord token.expiresAt) ∧
        (now < token.expiresAt ↔ ¬ c.accessLifetime.IsFraction) ∧
        (c.accessLifetime.IsFraction → token.expiresAt = now)) ∧
      ∀ r ∈ token.refresh, (now < r.expiresAt ↔ ¬ c.refreshLifetime.IsFraction) ∧
        (c.refreshLifetime.IsFraction → r.expiresAt = now) := by
  obtain ⟨hreserved, now, hclock, hexpires, haccess, htokens⟩ :=
    TokenIssuer.issue_eq_ok_iff.mp hissue
  obtain ⟨hfrom, hnow⟩ := Clock.unixSeconds?_eq_some_iff.mp hclock
  obtain ⟨hpositive, hrefreshPositive⟩ := Settings.lifetimes_of_build hbuild
  have hnat : now.toNat = clock.seconds.toNat := by
    rw [hnow, UInt64.toNat_ofNat']
    omega
  have htimes := TokenIssuer.lookup_payload_times hreserved ⟨c.issuer, now, token.expiresAt⟩
  have hlater := Lifetime.lt_add_seconds_iff hpositive now (by omega)
  refine ⟨now, by omega, ⟨_, ?_, htimes.1, htimes.2, ?_, ?_⟩, fun r hr => ?_⟩
  · rw [haccess]
    exact TokenIssuer.carries_accessToken hreserved now token.expiresAt
  · rw [hexpires]
    exact hlater.1
  · rw [hexpires]
    exact hlater.2
  · rw [htokens, Option.mem_map] at hr
    obtain ⟨l, hl, rfl⟩ := hr
    obtain ⟨rfl, hlpositive⟩ := hrefreshPositive l hl
    have hsome : token.refresh.isSome := by
      rw [htokens, Option.isSome_map, Option.isSome_of_mem hl]
    have hrefreshFits := hrefresh hsome
    exact Lifetime.lt_add_seconds_iff hlpositive now (by omega)

/-- Settings with given lifetimes and a key of zeros make up a configuration that has them. -/
theorem exists_build_of_lifetimes (accessLifetime refreshLifetime : Lifetime)
    (haccess : accessLifetime.isZero = false) (hrefresh : refreshLifetime.isZero = false) :
    ∃ c, Settings.build { key := .replicate 32 0, accessLifetime, refreshLifetime } = .ok c ∧
      c.accessLifetime = accessLifetime ∧ c.refreshLifetime = refreshLifetime ∧
      c.issueRefresh = true := by
  obtain ⟨c, hc⟩ := Settings.exists_build_of_checks
    { key := .replicate 32 0, accessLifetime, refreshLifetime } ⟨rfl, rfl⟩
    (show minKeyLength ≤ (List.replicate 32 (0 : UInt8)).length by decide)
    (by simp [Settings.checkLifetimes, haccess, hrefresh])
    (show Password.defaultParams.Usable by decide)
  obtain ⟨_, _, _, _, _, _, _, rfl⟩ := Settings.build_eq_ok_iff.mp hc
  exact ⟨_, hc, rfl, rfl, rfl⟩

/-- The last seconds at which the expiries still fit: both tokens expire later. -/
theorem issue_expires_later_last_second : ∃ c token r,
    Settings.build
      { key := .replicate 32 0, accessLifetime := ⟨1, 0⟩, refreshLifetime := ⟨2, 5⟩ } = .ok c ∧
    c.tokens.issue [⟨"sub", "42"⟩] ⟨2 ^ 64 - 3, 999999999⟩ (.replicate _ 0) = .ok token ∧
    token.refresh = some r ∧ ∃ now : UInt64, (now.toNat : Int) = 2 ^ 64 - 3 ∧
      now < token.expiresAt ∧ now < r.expiresAt := by
  obtain ⟨c, hc, haccess, hrefresh, hissued⟩ :=
    exists_build_of_lifetimes ⟨1, 0⟩ ⟨2, 5⟩ (by decide) (by decide)
  have hreserved : ∀ d ∈ [Claim.mk "sub" "42"], d.name ∉ reservedNames := by decide
  have hclock : 0 ≤ (Clock.mk (2 ^ 64 - 3) 999999999).seconds := by decide
  obtain ⟨token, hissue, _⟩ := c.tokens.issue_eq_ok hreserved hclock (.replicate _ 0)
  obtain ⟨_, _, _, _, _, htokens⟩ := TokenIssuer.issue_eq_ok_iff.mp hissue
  simp only [tokens, hissued, if_true, Option.map_some] at htokens
  obtain ⟨now, hnow, ⟨_, _, _, _, hlater, _⟩, hrefreshLater⟩ :=
    issue_expires_later_iff hc hissue (by rw [haccess]; decide)
      (fun _ => by rw [hrefresh]; decide)
  refine ⟨c, token, _, hc, hissue, htokens, now, hnow, hlater.mpr ?_,
    (hrefreshLater _ htokens).1.mpr ?_⟩
  · rw [haccess]
    simp [Lifetime.IsFraction]
  · rw [hrefresh]
    simp [Lifetime.IsFraction]

/-- Not every session that is issued expires later: half a second is no whole second. -/
theorem not_forall_issue_expires_later : ¬ ∀ (s : Settings) (c : Config) (claims : List Claim)
    (clock : Clock) (bytes : RefreshBytes) (token : IssuedToken), s.build = .ok c →
    c.tokens.issue claims clock bytes = .ok token →
    clock.seconds.toNat + c.accessLifetime.seconds.toNat < 2 ^ 64 →
    clock.seconds.toNat + c.refreshLifetime.seconds.toNat < 2 ^ 64 →
    UInt64.ofNat clock.seconds.toNat < token.expiresAt ∧
      ∀ r ∈ token.refresh, UInt64.ofNat clock.seconds.toNat < r.expiresAt := by
  intro hall
  obtain ⟨c, hc, haccess, hrefresh, _⟩ :=
    exists_build_of_lifetimes ⟨0, 500000000⟩ (.ofSeconds 1209600) (by decide) (by decide)
  have hreserved : ∀ d ∈ ([] : List Claim), d.name ∉ reservedNames := by decide
  have hclock : 0 ≤ (Clock.mk 1700000000 0).seconds := by decide
  obtain ⟨token, hissue, hexpires, _⟩ := c.tokens.issue_eq_ok hreserved hclock (.replicate _ 0)
  obtain ⟨hlater, _⟩ := hall _ c [] ⟨1700000000, 0⟩ (.replicate _ 0) token hc hissue
    (by rw [haccess]; decide) (by rw [hrefresh]; decide)
  have hsame : token.expiresAt = .ofNat 1700000000 := by
    rw [hexpires]
    simp [tokens, haccess]
  rw [hsame] at hlater
  exact absurd hlater (by decide)

end Config

end Credentials

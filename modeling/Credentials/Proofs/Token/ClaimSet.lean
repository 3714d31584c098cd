import Credentials.Proofs.Token.Issuing

/-!
# Which claims a token is made of

At one second, two lists of claims lead to the same access token exactly if they agree for each
name. The order among claims with different names is all about them that a token does not show.
-/

namespace Credentials

open Credentials.Json Credentials.Token

/-! ## Claims in another order -/

namespace Claim

/-- A list of claims in another order, in which claims with one name keep theirs. -/
inductive Reordering : List Claim → List Claim → Prop where
  | nil : Reordering [] []
  /-- Behind a claim the others may be reordered. -/
  | cons (c : Claim) {claims others : List Claim} (h : Reordering claims others) :
    Reordering (c :: claims) (c :: others)
  /-- Neighbours with different names change places. -/
  | swap {c d : Claim} (h : c.name ≠ d.name) (claims : List Claim) :
    Reordering (c :: d :: claims) (d :: c :: claims)
  | trans {claims middle others : List Claim} (h : Reordering claims middle)
    (h' : Reordering middle others) : Reordering claims others

namespace Reordering

/-- The order may be left as it is. -/
theorem refl (claims : List Claim) : Reordering claims claims := by
  induction claims with
  | nil => exact .nil
  | cons c claims ih => exact .cons c ih

/-- A claim may be moved to the front from behind claims with other names. -/
theorem middle {c : Claim} {before : List Claim} (h : ∀ d ∈ before, d.name ≠ c.name)
    (after : List Claim) : Reordering (c :: (before ++ after)) (before ++ c :: after) := by
  induction before with
  | nil => exact refl _
  | cons d before ih =>
    obtain ⟨hfirst, hrest⟩ := List.forall_mem_cons.mp h
    exact .trans (.swap (Ne.symm hfirst) _) (.cons d (ih hrest))

/-- Each name keeps its values. -/
theorem valuesOf_eq {claims others : List Claim} (h : Reordering claims others) (name : String) :
    valuesOf name claims = valuesOf name others := by
  induction h with
  | nil => rfl
  | cons c _ ih => rw [valuesOf_cons, valuesOf_cons, ih]
  | @swap c d hne _ =>
    simp only [valuesOf_cons]
    by_cases hc : c.name = name
    · have hd : d.name ≠ name := fun hd => hne (hc.trans hd.symm)
      simp [hc, hd]
    · simp [hc]
  | trans _ _ ih ih' => exact ih.trans ih'

end Reordering

/-- The first value of a name belongs to the first claim with it. -/
theorem exists_eq_append_of_valuesOf {name value : String} {values : List String}
    {claims : List Claim} (h : valuesOf name claims = value :: values) :
    ∃ before after, claims = before ++ ⟨name, value⟩ :: after ∧ ∀ d ∈ before, d.name ≠ name := by
  induction claims with
  | nil => cases h
  | cons c claims ih =>
    rw [valuesOf_cons] at h
    split_ifs at h with hname
    · obtain ⟨rfl, _⟩ := List.cons.inj h
      subst hname
      exact ⟨[], claims, rfl, by simp⟩
    · obtain ⟨before, after, rfl, hbefore⟩ := ih h
      exact ⟨c :: before, after, rfl, List.forall_mem_cons.mpr ⟨hname, hbefore⟩⟩

/-- Lists of claims agree for each name if one is a reordering of the other. -/
theorem reordering_iff {claims others : List Claim} :
    Reordering claims others ↔ ∀ name, valuesOf name claims = valuesOf name others := by
  refine ⟨Reordering.valuesOf_eq, fun h => ?_⟩
  induction claims generalizing others with
  | nil =>
    cases others with
    | nil => exact .nil
    | cons d others => simpa [valuesOf] using h d.name
  | cons c claims ih =>
    have hfirst : valuesOf c.name others = c.value :: valuesOf c.name claims := by
      rw [← h, valuesOf_cons, if_pos rfl]
    obtain ⟨before, after, rfl, hbefore⟩ := exists_eq_append_of_valuesOf hfirst
    have hmiddle := Reordering.middle hbefore after
    -- Without that claim, which is first for its name on both sides, the lists still agree.
    have hrest (name : String) : valuesOf name claims = valuesOf name (before ++ after) := by
      have hname := (h name).trans (hmiddle.valuesOf_eq name).symm
      rw [valuesOf_cons, valuesOf_cons] at hname
      split_ifs at hname with heq
      · exact (List.cons.inj hname).2
      · exact hname
    exact .trans (.cons c (ih hrest)) hmiddle

end Claim

/-! ## Claims and tokens -/

variable {claims others : List Claim}

namespace Token.Fixed

/-- Claims that agree for each name make up the same payload. -/
theorem payload_congr (f : Fixed)
    (h : ∀ name, Claim.valuesOf name claims = Claim.valuesOf name others) :
    f.payload claims = f.payload others := by
  apply Object.ext_get?
  intro name
  rw [payload, payload, Object.get?_addClaims, Object.get?_addClaims, h]

/-- The payload tells which values each name has. -/
theorem valuesOf_eq_of_payload {f : Fixed} (hclaims : ∀ c ∈ claims, c.name ∉ reservedNames)
    (hothers : ∀ c ∈ others, c.name ∉ reservedNames) (h : f.payload claims = f.payload others)
    (name : String) : Claim.valuesOf name claims = Claim.valuesOf name others := by
  have hobjects : Object.empty.addClaims claims = Object.empty.addClaims others := by
    rw [← eraseAll_payload hclaims, ← eraseAll_payload hothers, h]
  have hsorted : claims.mergeSort Claim.precedes = others.mergeSort Claim.precedes := by
    rw [← Claim.ofObject_addClaims_empty, ← Claim.ofObject_addClaims_empty, hobjects]
  rw [Claim.valuesOf, ← Claim.filter_mergeSort, hsorted, Claim.filter_mergeSort, Claim.valuesOf]

end Token.Fixed

namespace TokenIssuer

variable {i : TokenIssuer} {issuedAt expiresAt : UInt64}

/-- An access token is written for one payload only. -/
theorem payload_eq_of_accessToken (hclaims : ∀ c ∈ claims, c.name ∉ reservedNames)
    (hothers : ∀ c ∈ others, c.name ∉ reservedNames)
    (h : i.accessToken claims issuedAt expiresAt = i.accessToken others issuedAt expiresAt) :
    Fixed.payload ⟨i.name, issuedAt, expiresAt⟩ claims =
      Fixed.payload ⟨i.name, issuedAt, expiresAt⟩ others := by
  have hparts : i.issuedParts claims issuedAt expiresAt =
      i.issuedParts others issuedAt expiresAt := by
    rw [← Option.some_inj, ← parse?_accessToken, ← parse?_accessToken, h]
  have hread : readPayload (i.issuedParts claims issuedAt expiresAt).payload =
      .ok (Fixed.payload ⟨i.name, issuedAt, expiresAt⟩ claims).members :=
    Fixed.readPayload_payload hclaims
  have hread' : readPayload (i.issuedParts others issuedAt expiresAt).payload =
      .ok (Fixed.payload ⟨i.name, issuedAt, expiresAt⟩ others).members :=
    Fixed.readPayload_payload hothers
  rw [hparts, hread', Except.ok.injEq] at hread
  exact Object.ext_get? fun name => congrArg (List.lookup name) hread.symm

/-- Access tokens are the same if and only if their claims agree for each name. -/
theorem accessToken_inj_iff (hclaims : ∀ c ∈ claims, c.name ∉ reservedNames)
    (hothers : ∀ c ∈ others, c.name ∉ reservedNames) :
    i.accessToken claims issuedAt expiresAt = i.accessToken others issuedAt expiresAt ↔
      ∀ name, Claim.valuesOf name claims = Claim.valuesOf name others := by
  constructor
  · intro h
    exact Fixed.valuesOf_eq_of_payload hclaims hothers (payload_eq_of_accessToken hclaims hothers h)
  · intro h
    have hpayload : (Fixed.mk i.name issuedAt expiresAt).object.addClaims claims =
        (Fixed.mk i.name issuedAt expiresAt).object.addClaims others := Fixed.payload_congr _ h
    rw [accessToken, accessToken, hpayload]

end TokenIssuer

namespace Config

/--
At one second, a configuration issues the same access token for two lists of claims if and only if
each name has the same values in both, in the same order. It is thus the same for one list and its
reorderings, and another one for all other lists.
-/
theorem accessToken_eq_iff {c : Config} {clock clock' : Clock} {bytes bytes' : RefreshBytes}
    {token token' : IssuedToken} (hsecond : clock.seconds = clock'.seconds)
    (hclaims : c.tokens.issue claims clock bytes = .ok token)
    (hothers : c.tokens.issue others clock' bytes' = .ok token') :
    (token.accessToken = token'.accessToken ↔
      ∀ name, Claim.valuesOf name claims = Claim.valuesOf name others) ∧
    (token.accessToken = token'.accessToken ↔ Claim.Reordering claims others) := by
  obtain ⟨hreserved, now, hnow, hexpires, haccess, _⟩ := TokenIssuer.issue_eq_ok_iff.mp hclaims
  obtain ⟨hreserved', now', hnow', hexpires', haccess', _⟩ :=
    TokenIssuer.issue_eq_ok_iff.mp hothers
  have hsame : now = now' := by
    rw [(Clock.unixSeconds?_eq_some_iff.mp hnow).2, (Clock.unixSeconds?_eq_some_iff.mp hnow').2,
      hsecond]
  rw [Claim.reordering_iff, haccess, haccess', hexpires, hexpires', hsame, and_self_iff]
  exact TokenIssuer.accessToken_inj_iff hreserved hreserved'

/-- A subject may stand between two roles or before them, but the roles may not change places. -/
theorem accessToken_eq_iff_roles : ∃ c token token' other,
    Settings.build { key := .replicate 32 0 } = .ok c ∧
    c.tokens.issue [⟨"role", "b"⟩, ⟨"sub", "42"⟩, ⟨"role", "a"⟩] ⟨7, 0⟩ (.replicate _ 0) =
      .ok token ∧
    c.tokens.issue [⟨"sub", "42"⟩, ⟨"role", "b"⟩, ⟨"role", "a"⟩] ⟨7, 5⟩ (.replicate _ 1) =
      .ok token' ∧
    c.tokens.issue [⟨"sub", "42"⟩, ⟨"role", "a"⟩, ⟨"role", "b"⟩] ⟨7, 0⟩ (.replicate _ 0) =
      .ok other ∧
    token.accessToken = token'.accessToken ∧ token.accessToken ≠ other.accessToken := by
  obtain ⟨c, hc, _⟩ := Settings.exists_build_zeroKey
  have hbetween : ∀ d ∈ [Claim.mk "role" "b", ⟨"sub", "42"⟩, ⟨"role", "a"⟩],
      d.name ∉ reservedNames := by decide
  have hbefore : ∀ d ∈ [Claim.mk "sub" "42", ⟨"role", "b"⟩, ⟨"role", "a"⟩],
      d.name ∉ reservedNames := by decide
  have hexchanged : ∀ d ∈ [Claim.mk "sub" "42", ⟨"role", "a"⟩, ⟨"role", "b"⟩],
      d.name ∉ reservedNames := by decide
  have hclock : 0 ≤ (Clock.mk 7 0).seconds := by decide
  have hclock' : 0 ≤ (Clock.mk 7 5).seconds := by decide
  obtain ⟨token, htoken, _⟩ := c.tokens.issue_eq_ok hbetween hclock (.replicate _ 0)
  obtain ⟨token', htoken', _⟩ := c.tokens.issue_eq_ok hbefore hclock' (.replicate _ 1)
  obtain ⟨other, hother, _⟩ := c.tokens.issue_eq_ok hexchanged hclock (.replicate _ 0)
  refine ⟨c, token, token', other, hc, htoken, htoken', hother, ?_, ?_⟩
  · exact (accessToken_eq_iff rfl htoken htoken').2.mpr (.swap (by decide) _)
  · intro hsame
    have hroles := (accessToken_eq_iff rfl htoken hother).1.mp hsame "role"
    exact absurd hroles (by decide)

end Config

end Credentials

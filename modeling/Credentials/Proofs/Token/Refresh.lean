import Credentials.Proofs.Token.Issuing

/-!
# Refresh tokens are opaque

The refresh token of a session is its random bytes in base64 for use in URLs, so that it can be
told from every other one. It is no access token for any issuer at any time: a text of this kind
has no dots, and a text without dots is not split into the three parts of a token.
-/

namespace Credentials

open Credentials.Bytes.Base64.Alphabet Credentials.Token

/-! ## Texts of random bytes -/

namespace RefreshToken

variable {text other : String} {bytes otherBytes : RefreshBytes}

/-- The form of a refresh token with given random bytes. -/
structure IsTextOf (text : String) (bytes : RefreshBytes) : Prop where
  length : text.length = 43
  urlSafe : ∀ c ∈ text.toList, IsUrlSafe c
  decoded : decodePart? text.toList = some bytes.toList

/-- A refresh token that is made of random bytes has their text. -/
theorem isTextOf_ofBytes (bytes : RefreshBytes) (expiresAt : UInt64) :
    IsTextOf (ofBytes bytes expiresAt).text bytes where
  length := by
    rw [ofBytes, String.length_ofList, encodePart, length_encode, Vector.length_toList]
    rfl
  urlSafe := by
    rw [ofBytes, String.toList_ofList]
    exact fun c hc => isUrlSafe_of_mem_encode hc
  decoded := by
    rw [ofBytes, String.toList_ofList, decodePart?_encodePart]

/-- Two texts are the same if they are made of the same bytes, and only then. -/
theorem IsTextOf.eq_iff (h : IsTextOf text bytes) (hother : IsTextOf other otherBytes) :
    text = other ↔ bytes = otherBytes := by
  constructor
  · rintro rfl
    have hbytes : bytes.toList = otherBytes.toList :=
      Option.some.inj (h.decoded.symm.trans hother.decoded)
    exact Vector.toList_inj.mp hbytes
  · rintro rfl
    rw [← String.toList_inj, decodePart?_eq_some_iff.mp h.decoded,
      decodePart?_eq_some_iff.mp hother.decoded]

/-- A text of random bytes has no dot in it. -/
theorem IsTextOf.count_dot (h : IsTextOf text bytes) : text.toList.count '.' = 0 := by
  rw [List.count_eq_zero]
  intro hmem
  exact absurd (h.urlSafe '.' hmem) (by decide)

end RefreshToken

/-- A text with fewer than two dots is no token, whoever is asked and whenever. -/
theorem TokenIssuer.validate_of_count_dot_lt (i : TokenIssuer) (now : UInt64) {text : String}
    (h : text.toList.count '.' < 2) : i.validate now text = .error (.decoding .invalidToken) := by
  rw [validate, decode, Compact.parse?_eq_none_iff.mpr h]

namespace Config

variable {c : Config} {claims : List Claim} {clock : Clock} {bytes : RefreshBytes}
  {token : IssuedToken}

/-- Beside an access token there is the refresh token that the configuration asks for. -/
theorem mem_refresh_iff (h : c.tokens.issue claims clock bytes = .ok token) :
    ∃ now, clock.unixSeconds? = some now ∧ ∀ r, r ∈ token.refresh ↔
      c.issueRefresh ∧ r = .ofBytes bytes (now + c.refreshLifetime.seconds) := by
  obtain ⟨_, now, hnow, _, _, hrefresh⟩ := TokenIssuer.issue_eq_ok_iff.mp h
  refine ⟨now, hnow, fun r => ?_⟩
  rw [hrefresh, tokens]
  cases c.issueRefresh <;> simp [eq_comm]

/-- A refresh token that is issued has the text of the bytes that were drawn for it. -/
theorem isTextOf_of_issue (h : c.tokens.issue claims clock bytes = .ok token) {r : RefreshToken}
    (hr : r ∈ token.refresh) : RefreshToken.IsTextOf r.text bytes := by
  obtain ⟨_, _, hmem⟩ := mem_refresh_iff h
  obtain ⟨_, rfl⟩ := (hmem r).mp hr
  exact RefreshToken.isTextOf_ofBytes bytes _

/--
A session has a refresh token exactly if the configuration says so. The token expires the whole
seconds of its lifetime after the session is issued. Its text stands for the bytes that were drawn,
so that it is the text of another refresh token exactly if the same bytes were drawn for both,
whatever they were issued for and under which configuration. No configuration accepts it as an
access token at any second.
-/
theorem refresh_opaque (h : c.tokens.issue claims clock bytes = .ok token) :
    (token.refresh.isSome ↔ c.issueRefresh) ∧
      ∃ now, clock.unixSeconds? = some now ∧ ∀ r ∈ token.refresh,
        r.expiresAt = now + c.refreshLifetime.seconds ∧
        (now.toNat + c.refreshLifetime.seconds.toNat < 2 ^ 64 →
          r.expiresAt.toNat = now.toNat + c.refreshLifetime.seconds.toNat) ∧
        RefreshToken.IsTextOf r.text bytes ∧
        (∀ (d : Config) (others : List Claim) (otherClock : Clock) (otherBytes : RefreshBytes)
          (other : IssuedToken), d.tokens.issue others otherClock otherBytes = .ok other →
          ∀ s ∈ other.refresh, r.text = s.text ↔ bytes = otherBytes) ∧
        ∀ (d : Config) (second : UInt64),
          d.tokens.validate second r.text = .error (.decoding .invalidToken) := by
  obtain ⟨now, hnow, hmem⟩ := mem_refresh_iff h
  constructor
  · rw [Option.isSome_iff_exists]
    exact ⟨fun ⟨r, hr⟩ => ((hmem r).mp hr).1, fun hissued => ⟨_, (hmem _).mpr ⟨hissued, rfl⟩⟩⟩
  refine ⟨now, hnow, fun r hr => ?_⟩
  have htext := isTextOf_of_issue h hr
  have hexpires : r.expiresAt = now + c.refreshLifetime.seconds := by rw [((hmem r).mp hr).2]; rfl
  refine ⟨hexpires, fun hfits => ?_, htext, fun d others otherClock otherBytes other hother s hs =>
    ?_, fun d second => ?_⟩
  · rw [hexpires, UInt64.toNat_add]
    omega
  · exact htext.eq_iff (isTextOf_of_issue hother hs)
  · exact d.tokens.validate_of_count_dot_lt second (by rw [htext.count_dot]; decide)

/-- The bytes from zero on, drawn with a lifetime of two seconds and a little more. -/
theorem refresh_opaque_counting : ∃ c token r,
    Settings.build
      { key := .replicate 32 0, accessLifetime := ⟨1, 0⟩, refreshLifetime := ⟨2, 5⟩ } = .ok c ∧
    c.tokens.issue [⟨"sub", "42"⟩] ⟨7, 999999999⟩ (.ofFn fun i => .ofNat i) = .ok token ∧
    token.refresh = some r ∧ r.expiresAt.toNat = 9 ∧
    r.text = "AAECAwQFBgcICQoLDA0ODxAREhMUFRYXGBkaGxwdHh8" ∧
    c.tokens.validate 7 r.text = .error (.decoding .invalidToken) := by
  obtain ⟨c, hc, _, hlifetime, hissued⟩ :=
    exists_build_of_lifetimes ⟨1, 0⟩ ⟨2, 5⟩ (by decide) (by decide)
  have hreserved : ∀ d ∈ [Claim.mk "sub" "42"], d.name ∉ reservedNames := by decide
  have hclock : 0 ≤ (Clock.mk 7 999999999).seconds := by decide
  obtain ⟨token, hissue, _⟩ := c.tokens.issue_eq_ok hreserved hclock (.ofFn fun i => .ofNat i)
  obtain ⟨hpresent, now, hnow, hrefresh⟩ := refresh_opaque hissue
  obtain ⟨r, hr⟩ := Option.isSome_iff_exists.mp (hpresent.mpr hissued)
  obtain ⟨_, hexpires, htext, _, hrefused⟩ := hrefresh r hr
  obtain ⟨_, rfl⟩ := Clock.unixSeconds?_eq_some_iff.mp hnow
  rw [hlifetime] at hexpires
  refine ⟨c, token, r, hc, hissue, hr, hexpires (by decide), ?_, hrefused c 7⟩
  rw [← String.toList_inj, decodePart?_eq_some_iff.mp htext.decoded]
  decide

end Config

end Credentials

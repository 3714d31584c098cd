import Credentials.Proofs.Token.Validity

/-!
# Renewing a session

The claims of an accepted token can be issued again, whatever the payload was that they come from,
and they come back as they are. What is taken out of an object is in order already, leaves the names
of the issuer alone, and has no more than one subject and one beginning.
-/

namespace Credentials

open Credentials.Json Credentials.Token

namespace Token

variable {issuer : String} {now : UInt64} {members : List (String × Value)} {a : AccessToken}

/-- The claims of an access token are sorted by name. -/
theorem IsPayload.mergeSort_claims (h : IsPayload issuer now members a) :
    a.claims.mergeSort Claim.precedes = a.claims := by
  rw [h.claims, Claim.mergeSort_ofObject]

/-- A name occurs at most once among the claims if each of its members has at most one value. -/
theorem IsPayload.count_le_one (h : IsPayload issuer now members a) {name : String}
    (hone : ∀ v, (name, v) ∈ members → (Claim.ofMember name v).length ≤ 1) :
    Claim.count name a.claims ≤ 1 := by
  rw [h.claims, Claim.count_ofObject, Object.get?_eraseAll, Object.get?_ofMembers]
  split
  · exact Nat.zero_le 1
  · cases hlookup : members.reverse.lookup name with
    | none => exact Nat.zero_le 1
    | some v => exact hone v (mem_of_lookup_reverse hlookup)

/-- There is at most one subject, since it is no array. -/
theorem IsPayload.count_sub (h : IsPayload issuer now members a) :
    Claim.count "sub" a.claims ≤ 1 :=
  h.count_le_one fun v hv => Claim.length_ofMember_le (h.sub v hv).1

/-- There is at most one beginning: where it is an array, it has no values at all. -/
theorem IsPayload.count_nbf (h : IsPayload issuer now members a) :
    Claim.count "nbf" a.claims ≤ 1 := by
  refine h.count_le_one fun v hv => ?_
  by_cases harray : ∃ items, v = .array items
  · obtain ⟨items, rfl⟩ := harray
    obtain rfl := (h.nbf _ hv).1 items rfl
    exact Nat.zero_le 1
  · exact Claim.length_ofMember_le fun items hitems => harray ⟨items, hitems⟩

end Token

namespace Config

/--
The claims of a token that is accepted at some second can be issued at that second, and the token
for them is accepted with the same issuer and the same claims in the same order.
-/
theorem validate_renewed (c : Config) {clock : Clock} {token : String} {a : AccessToken}
    (hclock : 0 ≤ clock.seconds)
    (hfits : clock.seconds.toNat + c.accessLifetime.seconds.toNat < 2 ^ 64)
    (h : c.tokens.validate (.ofNat clock.seconds.toNat) token = .ok a) (bytes : RefreshBytes) :
    ∃ renewed, c.tokens.issue a.claims clock bytes = .ok renewed ∧
      c.tokens.validate (.ofNat clock.seconds.toNat) renewed.accessToken = .ok {
        issuer := a.issuer
        issuedAt := .ofNat clock.seconds.toNat
        expiresAt := renewed.expiresAt
        claims := a.claims } := by
  obtain ⟨members, _, hpayload⟩ := TokenIssuer.exists_carries_of_validate h
  have hreserved : ∀ d ∈ a.claims, d.name ∉ reservedNames :=
    fun d hd => (hpayload.mem_claims_iff.mp hd).1
  obtain ⟨renewed, hissue, hexpires, htoken⟩ := c.tokens.issue_eq_ok hreserved hclock bytes
  have hunexpired : .ofNat clock.seconds.toNat ≤ renewed.expiresAt := by
    have hnat : renewed.expiresAt.toNat =
        clock.seconds.toNat + c.accessLifetime.seconds.toNat := by
      rw [hexpires]
      exact TokenIssuer.toNat_ofNat_add hfits
    rw [UInt64.le_iff_toNat_le, hnat, UInt64.toNat_ofNat']
    omega
  refine ⟨renewed, hissue, ?_⟩
  rw [htoken, c.tokens.validate_accessToken_self hreserved hpayload.count_sub hpayload.count_nbf _
    hunexpired, hpayload.mergeSort_claims, hpayload.issuer]

/-- A session is renewed from a payload with numbers, truth values and nulls, which the new token
has as texts. -/
theorem validate_renewed_varied : ∃ c renewed, Settings.build { key := .replicate 32 0 } = .ok c ∧
    c.tokens.issue [⟨"EmailVerification", "true"⟩, ⟨"role", "18446744073709551615"⟩,
      ⟨"role", "-0.0"⟩, ⟨"role", "a"⟩, ⟨"sub", "false"⟩] ⟨7, 0⟩ (.replicate _ 0) = .ok renewed ∧
    c.tokens.validate 7 renewed.accessToken = .ok ⟨"warden", 7, renewed.expiresAt,
      [⟨"EmailVerification", "true"⟩, ⟨"role", "18446744073709551615"⟩, ⟨"role", "-0.0"⟩,
        ⟨"role", "a"⟩, ⟨"sub", "false"⟩]⟩ := by
  obtain ⟨c, hc, haccepted⟩ := exists_validate_variedPayload
  obtain ⟨_, hbuilt, _, hlifetime⟩ := Settings.exists_build_zeroKey
  obtain rfl := Except.ok.inj (hc.symm.trans hbuilt)
  have hclock : 0 ≤ (Clock.mk 7 0).seconds := by decide
  obtain ⟨renewed, hissue, hvalidate⟩ := validate_renewed c hclock (by rw [hlifetime]; decide)
    haccepted (.replicate _ 0)
  exact ⟨c, renewed, hc, hissue, hvalidate⟩

end Config

end Credentials

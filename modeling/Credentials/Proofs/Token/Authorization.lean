import Credentials.Proofs.Json.Written
import Credentials.Proofs.Token.Validity

/-!
# What an accepted token grants

A token carries exactly the claims that are written in its signed payload: those of the last member
with a name, each with the text of a scalar. The policy on email addresses is met by a string only,
never by a truth value or by what lies deeper.
-/

namespace Credentials

open Credentials.Json Credentials.Token

/--
A text that an issuer takes for one of its tokens, as far as the header and the signature go, with
a payload that is written with given members.
-/
def TokenIssuer.CarriesWritten (i : TokenIssuer) (token : String)
    (members : List (StringLiteral × Syntax)) : Prop :=
  ∃ parts text, Compact.parse? token.toList = some parts ∧ i.checkHeader parts.header = .ok () ∧
    i.checkSignature parts = .ok () ∧ parts.payload = encodePart (Bytes.utf8 text) ∧
    Spells text (.object members)

/-- The members that a token carries are read from members that are written in its payload. -/
theorem TokenIssuer.Carries.exists_written {i : TokenIssuer} {token : String}
    {members : List (String × Value)} (h : i.Carries token members) : ∃ trees,
      i.CarriesWritten token trees ∧ AreRead trees members ∧
        Syntax.HasSpelledNumbers (.object trees) := by
  obtain ⟨parts, hparts, hheader, hsignature, hpayload⟩ := h
  obtain ⟨bytes, hbytes, text, tree, rfl, hspells, _, hread⟩ := readPayload_eq_ok_iff.mp hpayload
  obtain ⟨trees, rfl, hmembers⟩ := exists_trees_of_object hread
  exact ⟨trees, ⟨parts, text, hparts, hheader, hsignature, hbytes, hspells⟩, hmembers,
    hspells.hasSpelledNumbers⟩

/-- A token has a claim if the last member with its name, or one of its items, stands for it. -/
theorem Token.IsPayload.hasClaim_iff {issuer : String} {now : UInt64} {a : AccessToken}
    {trees : List (StringLiteral × Syntax)} {members : List (String × Value)}
    (h : IsPayload issuer now members a) (hread : AreRead trees members)
    (hspelled : Syntax.HasSpelledNumbers (.object trees)) (name value : String) :
    a.hasClaim ⟨name, value⟩ ↔ name ∉ reservedNames ∧ ∃ tree, IsLast name tree trees ∧
      (tree.StandsFor value ∨
        ∃ items, tree = .array items ∧ ∃ item ∈ items, Syntax.StandsFor item value) := by
  rw [AccessToken.hasClaim, List.contains_iff_mem, h.mem_claims_iff]
  refine and_congr_right fun _ => ?_
  simp only [hread.lookup_reverse_eq_some_iff]
  constructor
  · rintro ⟨v, ⟨tree, hlast, htree⟩, hclaim⟩
    obtain ⟨key, hmem⟩ := hlast.exists_mem
    exact ⟨tree, hlast, (mem_ofMember_iff (hspelled.of_member hmem) htree).mp hclaim⟩
  · rintro ⟨tree, hlast, hstands⟩
    obtain ⟨key, hmem⟩ := hlast.exists_mem
    obtain ⟨v, htree⟩ := hread.exists_value _ hmem
    exact ⟨v, ⟨tree, hlast, htree⟩,
      (mem_ofMember_iff (hspelled.of_member hmem) htree).mpr hstands⟩

namespace Config

/--
An accepted token has a claim exactly if the issuer does not reserve its name and the last member of
the signed payload with this name is a scalar that stands for its value, or an array with such an
item. The policy on email addresses accepts it exactly if the last member for it is the string
`True` or an array with this string as an item.
-/
theorem hasClaim_iff_written (c : Config) {now : UInt64} {token : String} {a : AccessToken}
    (h : c.tokens.validate now token = .ok a) : ∃ members, c.tokens.CarriesWritten token members ∧
      (∀ name value, a.hasClaim ⟨name, value⟩ ↔ name ∉ ["iss", "iat", "exp", "typ"] ∧
        ∃ tree, IsLast name tree members ∧ (tree.StandsFor value ∨
          ∃ items, tree = .array items ∧ ∃ item ∈ items, Syntax.StandsFor item value)) ∧
      (a.isEmailVerified ↔ ∃ tree, IsLast "EmailVerification" tree members ∧
        (tree.string? = some "True" ∨
          ∃ items, tree = .array items ∧ ∃ item ∈ items, Syntax.string? item = some "True")) := by
  obtain ⟨members, hcarries, hpayload⟩ := TokenIssuer.exists_carries_of_validate h
  obtain ⟨trees, hwritten, hread, hspelled⟩ := hcarries.exists_written
  refine ⟨trees, hwritten, hpayload.hasClaim_iff hread hspelled, ?_⟩
  have hhead : ∀ c ∈ "True".toList.head?, c ≠ '-' ∧ c.isDigit = false := by
    intro c hc
    obtain rfl : 'T' = c := Option.some.inj hc
    decide
  have hstring (tree : Syntax) : tree.StandsFor "True" ↔ tree.string? = some "True" :=
    standsFor_iff_string? (by decide) (by decide) hhead
  have hname : "EmailVerification" ∉ reservedNames := by decide
  rw [AccessToken.isEmailVerified, Claim.emailVerified, hpayload.hasClaim_iff hread hspelled,
    and_iff_right hname]
  simp only [hstring]

/-- The largest word is not rounded. A truth value beside an array with the string `True` in it does
not stand for a verified email address. -/
theorem hasClaim_iff_written_varied : ∃ c a members,
    Settings.build { key := .replicate 32 0 } = .ok c ∧
    c.tokens.validate 7 (c.tokens.signText variedPayload) = .ok a ∧
    c.tokens.CarriesWritten (c.tokens.signText variedPayload) members ∧
    (∃ tree, IsLast "role" tree members ∧ (tree.StandsFor "18446744073709551615" ∨
      ∃ items, tree = .array items ∧
        ∃ item ∈ items, Syntax.StandsFor item "18446744073709551615")) ∧
    ¬ ∃ tree, IsLast "EmailVerification" tree members ∧ (tree.string? = some "True" ∨
      ∃ items, tree = .array items ∧ ∃ item ∈ items, Syntax.string? item = some "True") := by
  obtain ⟨c, hc, haccepted⟩ := exists_validate_variedPayload
  obtain ⟨members, hwritten, hclaims, hverified⟩ := hasClaim_iff_written c haccepted
  refine ⟨c, _, members, hc, haccepted, hwritten, ?_, mt hverified.mpr ?_⟩
  · exact ((hclaims "role" "18446744073709551615").mp (by decide)).2
  · decide

end Config

end Credentials

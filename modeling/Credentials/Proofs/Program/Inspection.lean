import Credentials.Proofs.Claim.Text
import Credentials.Proofs.Interchange
import Credentials.Proofs.Program
import Credentials.Proofs.Token.RoundTrip

/-!
# Inspecting what has been issued

The program issues tokens for the claims that it is given, and when it is run once more to inspect
the token that it has printed, before that expires, it tells the same claims in the order of their
names.
-/

namespace Credentials

open Credentials.CommandLine Credentials.Json Credentials.Token

/-- An issued token begins like every text of an object with a name in it, not with a hyphen. -/
theorem TokenIssuer.head?_accessToken (i : TokenIssuer) (claims : List Claim)
    (issuedAt expiresAt : UInt64) :
    (i.accessToken claims issuedAt expiresAt).toList.head? = some 'e' := by
  have hheader (a : Algorithm) :
      (encodePart (Bytes.utf8 (Header.value a).compact)).head? = some 'e' := by
    cases a <;> decide +kernel
  rw [toList_accessToken, Compact.text, Compact.message, List.append_assoc, List.head?_append]
  rw [issuedParts, signed, hheader]
  rfl

namespace Program

/-- A clock does not show a later second than one that it has not passed. -/
theorem second_le {clock : Clock} {second : UInt64} (h : clock.seconds ≤ second.toNat) :
    .ofNat clock.seconds.toNat ≤ second := by
  rw [UInt64.le_iff_toNat_le, UInt64.toNat_ofNat']
  omega

/-- A run has succeeded and has printed tokens. -/
structure PrintsTokens (r : Report) (issued : IssuedToken) : Prop where
  succeeds : r.exitCode = exitSuccess
  tokens : (parse? r.output.toList).bind IssuedToken.ofJson? = some issued

/--
A run has succeeded and has printed an object that tells what a token says: claims that are written
as some texts in the order of their names, whether the text of a verified email address is among
these, an issuer and an expiry.
-/
structure Tells (r : Report) (texts : List String) (issuer : String) (expiresAt : UInt64) :
    Prop where
  succeeds : r.exitCode = exitSuccess
  members : ∃ members, parse? r.output.toList = some (.object members) ∧
    (∃ claims : List Claim, members.lookup "claims" = some (.array (claims.map Claim.toJson)) ∧
      claims.map Claim.written = texts.mergeSort Claim.textPrecedes) ∧
    members.lookup "email_verified" =
      some (.bool (decide ("EmailVerification=True" ∈ texts))) ∧
    members.lookup "issuer" = some (.string issuer) ∧
    members.lookup "expires_at" = some (Value.ofWord expiresAt)

/-- The policy on email addresses looks for a text among those of the claims. -/
theorem isEmailVerified_iff {texts : List String} {claims : List Claim}
    (hparse : List.Forall₂ (fun text d => Claim.parse text = .ok d) texts claims)
    {a : AccessToken} (hclaims : a.claims = claims.mergeSort Claim.precedes) :
    a.isEmailVerified = decide ("EmailVerification=True" ∈ texts) := by
  have htext : Claim.parse Claim.emailVerified.written = .ok Claim.emailVerified := by
    apply Claim.parse_eq_ok_iff.mpr
    exact ⟨rfl, by decide, by decide⟩
  have hwritten : Claim.emailVerified.written = "EmailVerification=True" := by decide +kernel
  rw [AccessToken.isEmailVerified, AccessToken.hasClaim, hclaims, Bool.eq_iff_iff,
    List.contains_iff_mem, List.mem_mergeSort, decide_eq_true_iff, ← hwritten]
  exact Claim.mem_iff_written_mem hparse htext

/-- The report on a token with claims that come from texts tells of these texts. -/
theorem tells_of_output {texts : List String} {claims : List Claim} {a : AccessToken} {r : Report}
    (hparse : List.Forall₂ (fun text d => Claim.parse text = .ok d) texts claims)
    (hclaims : a.claims = claims.mergeSort Claim.precedes) (hexit : r.exitCode = exitSuccess)
    (houtput : r.output = prettyLines (inspection a)) : Tells r texts a.issuer a.expiresAt := by
  have hread : parse? r.output.toList = some (inspection a) := by rw [houtput, parse?_inspection]
  have hwritten : a.claims.map Claim.written = texts.mergeSort Claim.textPrecedes := by
    rw [hclaims, Claim.map_written_mergeSort hparse]
  refine ⟨hexit, _, hread, ⟨a.claims, rfl, hwritten⟩, ?_, rfl, rfl⟩
  rw [← isEmailVerified_iff hparse hclaims]
  rfl

/--
Texts that are read as claims, with no name of the issuer and with the subject and the beginning at
most once, can be issued and inspected. Every run from 1970 on in which the clock does not show a
later second than the printed expiry of the access token tells what has been given to the first run.
-/
theorem inspect_issued {options words texts : List String} {claims : List Claim} {c : Config}
    {s : Surroundings} (hconfig : Configures options s c) (hwords : GiveClaims words texts)
    (hparse : List.Forall₂ (fun text d => Claim.parse text = .ok d) texts claims)
    (hreserved : ∀ d ∈ claims, d.name ∉ reservedNames) (hsub : Claim.count "sub" claims ≤ 1)
    (hnbf : Claim.count "nbf" claims ≤ 1) (hclock : 0 ≤ s.clock.seconds) :
    ∃ first issued, Leaves (options ++ "issue" :: words) s first ∧ PrintsTokens first issued ∧
      issued.expiresAt = .ofNat s.clock.seconds.toNat + c.accessLifetime.seconds ∧
      ∀ t : Surroundings, Configures options t c → 0 ≤ t.clock.seconds →
        t.clock.seconds ≤ issued.expiresAt.toNat → ∃ second,
          Leaves (options ++ ["inspect", issued.accessToken]) t second ∧
          Tells second texts c.issuer issued.expiresAt := by
  obtain ⟨issued, hissue, hexpires, htoken⟩ :=
    c.tokens.issue_eq_ok hreserved hclock (s.draw 0).refreshBytes
  have hfirst : runCommand c s (.issue claims) =
      .ok ⟨exitSuccess, prettyLines issued.toJson, [issuedEvent claims]⟩ := by
    rw [runCommand, issue, hissue]
  obtain ⟨first, hleaves, hexit, houtput⟩ := hconfig.exists_leaves_ok (by decide) (by decide)
    (parseCommand_issue hwords hparse) hfirst
  have hprinted : (parse? first.output.toList).bind IssuedToken.ofJson? = some issued := by
    rw [houtput, parse?_issued, Option.bind_some, IssuedToken.ofJson?_toJson]
  refine ⟨first, issued, hleaves, ⟨hexit, hprinted⟩, hexpires,
    fun t hconfigured hsince hunexpired => ?_⟩
  have hvalidate := c.tokens.validate_accessToken_self hreserved hsub hnbf
    (.ofNat s.clock.seconds.toNat) (second_le hunexpired)
  rw [← htoken] at hvalidate
  have hsecond : runCommand c t (.inspect issued.accessToken) = .ok ⟨exitSuccess,
      prettyLines (inspection ⟨c.issuer, .ofNat s.clock.seconds.toNat, issued.expiresAt,
        claims.mergeSort Claim.precedes⟩), []⟩ := by
    rw [runCommand, inspect, Clock.unixSeconds?_eq_some_iff.mpr ⟨hsince, rfl⟩]
    dsimp only
    rw [hvalidate]
    rfl
  -- A text of base64 may begin with a hyphen, and would then be taken for an option.
  have hhyphen : issued.accessToken.toList.head? ≠ some '-' := by
    rw [htoken, TokenIssuer.head?_accessToken]
    decide
  obtain ⟨second, hleft, hcode, hreport⟩ := hconfigured.exists_leaves_ok (by decide) (by decide)
    (parseCommand_inspect hhyphen) hsecond
  exact ⟨second, hleft, tells_of_output hparse rfl hcode hreport⟩

/-- Claims whose values have an equals sign or come again are told once the token is about to
expire. -/
theorem inspect_issued_roles : ∃ c first issued second,
    (∀ clock, Configures ["--signing-key-file", "key"] (surroundingsAt clock) c) ∧
    Leaves ["--signing-key-file", "key", "issue", "--claim", "role=b",
      "--claim=EmailVerification=True", "--claim", "role=a=b"]
      (surroundingsAt ⟨1700000000, 5⟩) first ∧
    PrintsTokens first issued ∧ issued.expiresAt = 1700000300 ∧
    Leaves ["--signing-key-file", "key", "inspect", issued.accessToken]
      (surroundingsAt ⟨1700000300, 0⟩) second ∧
    Tells second ["role=b", "EmailVerification=True", "role=a=b"] "warden" 1700000300 := by
  obtain ⟨c, hissuer, hlifetime, hconfig⟩ := exists_configures_surroundingsAt
  have hwords : GiveClaims
      ["--claim", "role=b", "--claim=EmailVerification=True", "--claim", "role=a=b"]
      ["role=b", "EmailVerification=True", "role=a=b"] := by
    have hattached : "--claim=EmailVerification=True" = "--claim=" ++ "EmailVerification=True" := by
      decide +kernel
    rw [hattached]
    exact .separate (by decide) (.attached (.separate (by decide) .nil))
  have hparse : List.Forall₂ (fun text d => Claim.parse text = .ok d)
      ["role=b", "EmailVerification=True", "role=a=b"]
      [⟨"role", "b"⟩, ⟨"EmailVerification", "True"⟩, ⟨"role", "a=b"⟩] :=
    .cons rfl (.cons rfl (.cons rfl .nil))
  obtain ⟨first, issued, hfirst, hprints, hexpires, hinspect⟩ :=
    inspect_issued (hconfig ⟨1700000000, 5⟩) hwords hparse (by decide) (by decide) (by decide)
      (by decide)
  have hexpiry : issued.expiresAt = 1700000300 := by
    rw [hexpires, hlifetime]
    rfl
  obtain ⟨second, hsecond, htells⟩ := hinspect (surroundingsAt ⟨1700000300, 0⟩) (hconfig _)
    (by decide) (by rw [hexpiry]; decide)
  rw [hissuer, hexpiry] at htells
  exact ⟨c, first, issued, second, hconfig, hfirst, hprints, hexpiry, hsecond, htells⟩

end Program

end Credentials

import Credentials.CommandLine.Arguments
import Credentials.Proofs.Text.Blank
import Credentials.Proofs.Token.Issuing
import Credentials.SigningKey

/-!
# One key from two sources

A text is the same key in the variable and in a file exactly if no white space outside ASCII stands
at its ends. A program that is given the key in either way then works with the same configuration.
-/

namespace Credentials

open Credentials.Token

namespace SigningKey

/--
Whether a text neither begins nor ends with white space once that of ASCII, the vertical tab apart,
is taken away from its ends.
-/
def HasPlainEnds (text : List Char) : Prop :=
  Text.EndsWithout Text.isBlank (Text.trimBy Text.isAsciiBlank text)

instance (text : List Char) : Decidable (HasPlainEnds text) :=
  inferInstanceAs (Decidable (Text.EndsWithout _ _))

/-- A text is the same key in a file as in the variable if its ends are plain. -/
theorem ofFile_utf8_eq_iff {text : List Char} :
    ofText text = ofFile (Bytes.utf8 text) ↔ HasPlainEnds text := by
  rw [ofText, ofFile, Text.trimBytes_utf8, Text.trim, Bytes.utf8_inj, HasPlainEnds]
  exact Text.trimBy_eq_trimBy_iff Text.isBlank_of_isAsciiBlank

section

variable {s : Source} {text : List Char}

/-- A variable that holds a text is where the key comes from. -/
theorem key_load_of_variable (h : s.variableValue = some (Bytes.utf8 text)) :
    (load s).key = .ok (ofText text) := by
  simp [load, h, Bytes.ofUtf8?_utf8]

/-- Without the variable the key comes from the file. -/
theorem key_load_of_file {path : String} {bytes : List UInt8} (hunset : s.variableValue = none)
    (hpath : s.path = some path) (hfile : s.fileAt path = .ok bytes) :
    (load s).key = .ok (ofFile bytes) := by
  simp [load, loadFile, hunset, hpath, hfile]

end

end SigningKey

/-! ## Tokens under one key -/

namespace Config

/--
Whether a configuration accepts what another one issues at the second at which it is issued. Tokens
with several subjects or beginnings are left out: no configuration accepts them.
-/
def AcceptsFrom (d c : Config) : Prop :=
  ∀ (claims : List Claim) (clock : Clock) (bytes : RefreshBytes) (token : IssuedToken),
    c.tokens.issue claims clock bytes = .ok token →
    clock.seconds.toNat + c.accessLifetime.seconds.toNat < 2 ^ 64 →
    Claim.count "sub" claims ≤ 1 → Claim.count "nbf" claims ≤ 1 →
    ∃ a, d.tokens.validate (.ofNat clock.seconds.toNat) token.accessToken = .ok a

/-- A configuration accepts what it issues. -/
theorem acceptsFrom_self (c : Config) : c.AcceptsFrom c := by
  intro claims clock bytes token hissue hfits hsub hnbf
  obtain ⟨hreserved, now, hclock, hexpires, htoken, _⟩ := TokenIssuer.issue_eq_ok_iff.mp hissue
  obtain ⟨_, rfl⟩ := Clock.unixSeconds?_eq_some_iff.mp hclock
  have hnat : (UInt64.ofNat clock.seconds.toNat + c.tokens.accessLifetime.seconds).toNat =
      clock.seconds.toNat + c.accessLifetime.seconds.toNat := TokenIssuer.toNat_ofNat_add hfits
  have hunexpired : ¬ token.expiresAt < .ofNat clock.seconds.toNat := by
    rw [hexpires, UInt64.lt_iff_toNat_lt, UInt64.toNat_ofNat', hnat]
    omega
  have honce : ¬ (1 < Claim.count "sub" claims ∨ 1 < Claim.count "nbf" claims) := by omega
  rw [htoken, TokenIssuer.validate_accessToken _ _ hreserved]
  simp only [ne_eq, not_true_eq_false, if_false, if_neg honce, if_neg hunexpired]
  exact ⟨_, rfl⟩

end Config

/-! ## The key from either source -/

namespace SigningKey

/--
A text is the same key in the variable as in the file exactly if its ends are plain. In this case
the settings with either key come to the same, and what is issued with one is accepted with the
other.
-/
theorem key_load_eq_iff {s t : Source} {text : List Char} {path : String}
    (hvariable : s.variableValue = some (Bytes.utf8 text)) (hunset : t.variableValue = none)
    (hpath : t.path = some path) (hfile : t.fileAt path = .ok (Bytes.utf8 text)) :
    ∃ key other, (load s).key = .ok key ∧ (load t).key = .ok other ∧
      (key = other ↔ HasPlainEnds text) ∧
      (HasPlainEnds text → ∀ args : CommandLine.Arguments,
        (args.settings key).build = (args.settings other).build ∧
        ∀ c d, (args.settings key).build = .ok c → (args.settings other).build = .ok d →
          d.AcceptsFrom c ∧ c.AcceptsFrom d) := by
  refine ⟨_, _, key_load_of_variable hvariable, key_load_of_file hunset hpath hfile,
    ofFile_utf8_eq_iff, fun hplain args => ?_⟩
  rw [ofFile_utf8_eq_iff.mpr hplain]
  refine ⟨rfl, fun c d hc hd => ?_⟩
  obtain rfl := Except.ok.inj (hc.symm.trans hd)
  exact ⟨c.acceptsFrom_self, c.acceptsFrom_self⟩

/-- A line with a space that is not one of ASCII in its middle is one key from either source. -/
theorem key_load_line : ∃ key,
    (load ⟨some (Bytes.utf8 "\t0123456789abcdef\u00a00123456789abcdef \r\n".toList), none,
      fun _ => .error .notFound⟩).key = .ok key ∧
    (load ⟨none, some "key",
      fun _ => .ok (Bytes.utf8 "\t0123456789abcdef\u00a00123456789abcdef \r\n".toList)⟩).key =
        .ok key ∧
    HasPlainEnds "\t0123456789abcdef\u00a00123456789abcdef \r\n".toList := by
  have hplain : HasPlainEnds "\t0123456789abcdef\u00a00123456789abcdef \r\n".toList := by decide
  obtain ⟨key, other, hkey, hother, hsame, _⟩ := key_load_eq_iff
    (s := ⟨some _, none, fun _ => .error .notFound⟩) (t := ⟨none, some "key", fun _ => .ok _⟩)
    rfl rfl rfl rfl
  obtain rfl := hsame.mpr hplain
  exact ⟨key, hkey, hother, hplain⟩

/-- Not every text is one key from either source: a file keeps a space that is not one of ASCII. -/
theorem not_forall_key_load_eq : ¬ ∀ (s t : Source) (text : List Char) (path : String),
    s.variableValue = some (Bytes.utf8 text) → t.variableValue = none → t.path = some path →
    t.fileAt path = .ok (Bytes.utf8 text) → (load s).key = (load t).key := by
  intro hall
  have hsame := hall
    ⟨some (Bytes.utf8 "\u00a00123456789abcdef0123456789abcdef".toList), none,
      fun _ => .error .notFound⟩
    ⟨none, some "key", fun _ => .ok (Bytes.utf8 "\u00a00123456789abcdef0123456789abcdef".toList)⟩
    _ "key" rfl rfl rfl rfl
  rw [key_load_of_variable rfl, key_load_of_file rfl rfl rfl, Except.ok.injEq,
    ofFile_utf8_eq_iff] at hsame
  exact absurd hsame (by decide)

end SigningKey

end Credentials

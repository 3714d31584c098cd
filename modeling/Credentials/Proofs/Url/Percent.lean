import Credentials.Bytes.Utf8
import Credentials.Proofs.Text.Mark
import Credentials.Url.Percent
import Mathlib.Tactic.SplitIfs

/-!
# Percent-encoding twice, and back

Escaping leaves no character behind that would be escaped, so that an escaped part of a URL is read
as it is written. Percent-decoding undoes the escapes, and in a query parameter, where nothing else
looks like one, everything.
-/

namespace Credentials.Url

open Credentials.Text

/-! ## The escape of a byte -/

/-- A hexadecimal digit in upper case. -/
def upperDigit (n : Nat) : Char := (hexChar n).toUpper

/-- A byte is escaped as a percent sign and two digits. -/
theorem escapeByte_eq (b : UInt8) :
    escapeByte b = ['%', upperDigit (b.toNat / 16), upperDigit b.toNat] := rfl

/-- What holds of the digits of the sixteen smallest numbers holds of all. -/
theorem upperDigit_mod (n : Nat) : upperDigit n = upperDigit (n % 16) := by
  simp only [upperDigit, hexChar, Nat.mod_mod]

/-- A digit stands for the last four bits of its number. -/
theorem hexValue?_upperDigit (n : Nat) : hexValue? (upperDigit n) = some (n % 16) := by
  have hsmall : ∀ d < 16, hexValue? (upperDigit d) = some d := by decide
  rw [upperDigit_mod]
  exact hsmall _ (Nat.mod_lt n (by decide))

/-- The characters of an escape are a percent sign and upper-case digits. -/
theorem eq_percent_or_upperDigit {c : Char} {b : UInt8} (h : c ∈ escapeByte b) :
    c = '%' ∨ ∃ n < 16, c = upperDigit n := by
  rw [escapeByte_eq] at h
  simp only [List.mem_cons, List.not_mem_nil, or_false] at h
  rcases h with rfl | rfl | rfl
  · exact Or.inl rfl
  · exact Or.inr ⟨_, Nat.mod_lt _ (by decide), upperDigit_mod _⟩
  · exact Or.inr ⟨_, Nat.mod_lt _ (by decide), upperDigit_mod _⟩

/-- What holds of the percent sign and of the digits holds of the escape of a character. -/
theorem forall_mem_escapeChar {P : Char → Prop} (hpercent : P '%')
    (hdigit : ∀ n < 16, P (upperDigit n)) {c d : Char} (h : d ∈ escapeChar c) : P d := by
  obtain ⟨b, _, hmem⟩ := List.mem_flatMap.mp h
  rcases eq_percent_or_upperDigit hmem with rfl | ⟨n, hn, rfl⟩
  · exact hpercent
  · exact hdigit n hn

/-! ## Parts of a URL -/

namespace Part

/-- A part in which neither percent signs nor hexadecimal digits are escaped. -/
structure Lawful (p : Part) : Prop where
  percent : p.escapes '%' = false
  digit : ∀ n < 16, p.escapes (upperDigit n) = false

/-- The fragment keeps its escapes. -/
theorem lawful_fragment : fragment.Lawful := ⟨by decide, by decide⟩

/-- The query keeps its escapes. -/
theorem lawful_query : query.Lawful := ⟨by decide, by decide⟩

/-- The path keeps its escapes. -/
theorem lawful_path : path.Lawful := ⟨by decide, by decide⟩

/-- The user part keeps its escapes. -/
theorem lawful_userinfo : userinfo.Lawful := ⟨by decide, by decide⟩

/-- What is written is left from the text or belongs to an escape. -/
theorem mem_encode {p : Part} {text : List Char} {c : Char} (h : c ∈ p.encode text) :
    c ∈ text ∧ p.escapes c = false ∨ c = '%' ∨ ∃ n < 16, c = upperDigit n := by
  obtain ⟨d, hd, hmem⟩ := List.mem_flatMap.mp h
  by_cases hescaped : p.escapes d = true
  · rw [if_pos hescaped] at hmem
    obtain ⟨b, _, hbyte⟩ := List.mem_flatMap.mp hmem
    exact Or.inr (eq_percent_or_upperDigit hbyte)
  · rw [if_neg hescaped, List.mem_singleton] at hmem
    subst hmem
    exact Or.inl ⟨hd, by simpa using hescaped⟩

/-- No character that is left has to be escaped. -/
theorem Lawful.escapes_of_mem_encode {p : Part} (hp : p.Lawful) {text : List Char} {c : Char}
    (h : c ∈ p.encode text) : p.escapes c = false := by
  rcases mem_encode h with ⟨_, hleft⟩ | rfl | ⟨n, hn, rfl⟩
  · exact hleft
  · exact hp.percent
  · exact hp.digit n hn

/-- A text in which nothing has to be escaped is left as it is. -/
theorem encode_of_forall {p : Part} {text : List Char} (h : ∀ c ∈ text, p.escapes c = false) :
    p.encode text = text := by
  induction text with
  | nil => rfl
  | cons c text ih =>
    have hc : p.escapes c = false := h c (by simp)
    have htext := ih fun d hd => h d (by simp [hd])
    rw [encode] at htext ⊢
    rw [List.flatMap_cons, hc, htext]
    rfl

end Part

/-! ## Reading escapes -/

/-- The escape of a byte is read as it. -/
theorem percentDecode_escapeByte_append (b : UInt8) (rest : List Char) :
    percentDecode (escapeByte b ++ rest) = b :: percentDecode rest := by
  have hb := b.toNat_lt
  have hbyte : UInt8.ofNat (b.toNat / 16 % 16 * 16 + b.toNat % 16) = b := by
    have hvalue : b.toNat / 16 % 16 * 16 + b.toNat % 16 = b.toNat := by omega
    rw [hvalue, UInt8.ofNat_toNat]
  simp only [escapeByte_eq, List.cons_append, List.nil_append, percentDecode,
    hexValue?_upperDigit, hbyte]

/-- Escapes of bytes are read as these. -/
theorem percentDecode_flatMap_escapeByte_append (bytes : List UInt8) (rest : List Char) :
    percentDecode (bytes.flatMap escapeByte ++ rest) = bytes ++ percentDecode rest := by
  induction bytes with
  | nil => rfl
  | cons b bytes ih =>
    rw [List.flatMap_cons, List.append_assoc, percentDecode_escapeByte_append, ih,
      List.cons_append]

/-- A character that is no percent sign stands for its own bytes. -/
theorem percentDecode_cons {c : Char} (h : c ≠ '%') (rest : List Char) :
    percentDecode (c :: rest) = String.utf8EncodeChar c ++ percentDecode rest := by
  rw [percentDecode]
  rintro a b rest' hc _
  exact h hc

/-- A text without percent signs stands for its own bytes. -/
theorem percentDecode_of_notMem {text : List Char} (h : '%' ∉ text) :
    percentDecode text = Bytes.utf8 text := by
  induction text with
  | nil => rfl
  | cons c text ih =>
    simp only [List.mem_cons, not_or] at h
    rw [percentDecode_cons (Ne.symm h.1), ih h.2]
    rfl

end Credentials.Url

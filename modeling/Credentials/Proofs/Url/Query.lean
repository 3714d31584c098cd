import Credentials.Proofs.Bytes.Lenient
import Credentials.Proofs.Url.Percent
import Credentials.Url.Query
import Mathlib.Data.List.Basic

/-!
# Query parameters are read back

A name and a value that have been written in form encoding are read as they were, and a parameter
that is appended to a query comes after all that were there, whatever the query is.
-/

namespace Credentials.Url.Form

open Credentials.Text

/-! ## Characters of form encoding -/

/-- Characters that stand for themselves are letters, figures and four marks. -/
theorem isPlain_bounds {c : Char} (h : isPlain c = true) :
    (0x30 ≤ c.toNat ∧ c.toNat ≤ 0x39 ∨ 0x41 ≤ c.toNat ∧ c.toNat ≤ 0x5a ∨
      0x61 ≤ c.toNat ∧ c.toNat ≤ 0x7a) ∨ c = '*' ∨ c = '-' ∨ c = '.' ∨ c = '_' := by
  have hupper : c.isUpper = true ↔ 0x41 ≤ c.toNat ∧ c.toNat ≤ 0x5a := decide_eq_true_iff
  have hlower : c.isLower = true ↔ 0x61 ≤ c.toNat ∧ c.toNat ≤ 0x7a :=
    Bool.and_eq_true_iff.trans (and_congr decide_eq_true_iff decide_eq_true_iff)
  have hdigit : c.isDigit = true ↔ 0x30 ≤ c.toNat ∧ c.toNat ≤ 0x39 :=
    Bool.and_eq_true_iff.trans (and_congr decide_eq_true_iff decide_eq_true_iff)
  have halphanum : c.isAlphanum = (c.isUpper || c.isLower || c.isDigit) := rfl
  simp only [isPlain, halphanum, Bool.or_eq_true, beq_iff_eq, hupper, hlower, hdigit] at h
  grind

/-- What holds of the characters that may be written holds of an encoded text. -/
theorem forall_mem_encode {P : Char → Prop} (hplain : ∀ c, isPlain c = true → P c)
    (hplus : P '+') (hpercent : P '%') {text : List Char} {c : Char} (h : c ∈ encode text) :
    P c := by
  have hdigit : ∀ n < 16, isPlain (upperDigit n) = true := by decide
  obtain ⟨d, _, hmem⟩ := List.mem_flatMap.mp h
  by_cases hd : isPlain d = true
  · rw [if_pos hd, List.mem_singleton] at hmem
    exact hmem ▸ hplain d hd
  rw [if_neg hd] at hmem
  by_cases hblank : d = ' '
  · rw [if_pos hblank, List.mem_singleton] at hmem
    exact hmem ▸ hplus
  · rw [if_neg hblank] at hmem
    exact forall_mem_escapeChar hpercent (fun n hn => hplain _ (hdigit n hn)) hmem

/-- Neither separator occurs in an encoded text. -/
theorem separators_notMem_encode (text : List Char) : '&' ∉ encode text ∧ '=' ∉ encode text := by
  have hplain (sep : Char) (hsep : isPlain sep = false) (c : Char) (hc : isPlain c = true) :
      c ≠ sep := by
    rintro rfl
    rw [hsep] at hc
    cases hc
  constructor
  · intro h
    exact forall_mem_encode (P := (· ≠ '&')) (hplain '&' (by decide)) (by decide) (by decide) h rfl
  · intro h
    exact forall_mem_encode (P := (· ≠ '=')) (hplain '=' (by decide)) (by decide) (by decide) h rfl

/-- No character of an encoded text has to be escaped in a query. -/
theorem escapes_query_of_mem_encode {text : List Char} {c : Char} (h : c ∈ encode text) :
    Part.query.escapes c = false := by
  refine forall_mem_encode (P := fun c => Part.query.escapes c = false) ?_ (by decide) (by decide) h
  intro c hc
  rcases isPlain_bounds hc with hbounds | rfl | rfl | rfl | rfl
  · have hne (d : Char) (hd : d.toNat < 0x30 ∨ 0x3a ≤ d.toNat ∧ d.toNat < 0x41) : c ≠ d := by
      rintro rfl
      omega
    have hlow : ¬ c.toNat < 0x20 := by omega
    have hhigh : ¬ 0x7f ≤ c.toNat := by omega
    simp [Part.escapes, Part.query, hlow, hhigh, hne]
  all_goals decide

/-! ## One parameter -/

/-- A text without plus signs has none to be taken for blanks. -/
theorem map_blank_of_notMem {text : List Char} (h : '+' ∉ text) :
    text.map (fun c => if c = '+' then ' ' else c) = text := by
  refine (List.map_congr_left fun c hc => ?_).trans (List.map_id text)
  have hne : c ≠ '+' := by
    rintro rfl
    exact h hc
  exact if_neg hne

/-- An encoded character is read as its bytes, once plus signs are taken for blanks. -/
theorem percentDecode_encodeChar_append (c : Char) (rest : List Char) :
    percentDecode ((if isPlain c then [c] else if c = ' ' then ['+'] else escapeChar c).map
        (fun c => if c = '+' then ' ' else c) ++ rest) =
      String.utf8EncodeChar c ++ percentDecode rest := by
  by_cases hplain : isPlain c = true
  · have hplus : c ≠ '+' := by
      rintro rfl
      exact absurd hplain (by decide)
    have hpercent : c ≠ '%' := by
      rintro rfl
      exact absurd hplain (by decide)
    rw [if_pos hplain, map_blank_of_notMem (by simpa using hplus.symm)]
    exact percentDecode_cons hpercent rest
  rw [if_neg hplain]
  by_cases hblank : c = ' '
  · subst hblank
    exact percentDecode_cons (by decide) rest
  · have hplus : '+' ∉ escapeChar c := by
      intro hmem
      exact forall_mem_escapeChar (P := (· ≠ '+')) (by decide) (by decide) hmem rfl
    rw [if_neg hblank, map_blank_of_notMem hplus]
    exact percentDecode_flatMap_escapeByte_append _ rest

/-- A text is read from its encoded form. -/
theorem decode_encode (text : List Char) : decode (encode text) = text := by
  have hbytes : percentDecode ((encode text).map fun c => if c = '+' then ' ' else c) =
      Bytes.utf8 text := by
    induction text with
    | nil => rfl
    | cons c text ih =>
      rw [encode, List.flatMap_cons, List.map_append, percentDecode_encodeChar_append]
      exact congrArg (String.utf8EncodeChar c ++ ·) ih
  rw [decode, hbytes, Bytes.ofUtf8Lenient_utf8]

/-- A name and a value are read from the parameter that is written for them. -/
theorem parameter_encode (name value : List Char) :
    parameter (encode name ++ '=' :: encode value) = (name, value) := by
  have hname := (separators_notMem_encode name).2
  rw [parameter, takeWhile_bne_append hname, dropWhile_bne_append hname]
  simp [decode_encode]

/-! ## Queries -/

/-- A parameter that is appended to a query is read after all that the query had. -/
theorem pairs_append (query name value : List Char) :
    pairs (append query name value) = pairs query ++ [(name, value)] := by
  have hsingle : pairs (encode name ++ '=' :: encode value) = [(name, value)] := by
    have hnone : '&' ∉ encode name ++ '=' :: encode value := by
      have hname := (separators_notMem_encode name).1
      have hvalue := (separators_notMem_encode value).1
      simp [hname, hvalue]
    rw [pairs, List.splitOn_eq_singleton hnone]
    simp [parameter_encode]
  by_cases hempty : query.isEmpty = true
  · rw [List.isEmpty_iff] at hempty
    subst hempty
    exact hsingle
  · have hsplit : append query name value =
        query ++ '&' :: (encode name ++ '=' :: encode value) := by
      simp [append, hempty]
    rw [hsplit]
    rw [pairs] at hsingle
    rw [pairs, List.splitOn_append_cons_self, List.filter_append, List.map_append, hsingle]
    rfl

end Credentials.Url.Form

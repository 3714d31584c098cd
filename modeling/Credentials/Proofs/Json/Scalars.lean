import Credentials.Claim
import Credentials.Json.Record
import Credentials.Proofs.Json.Shape

/-!
# Scalars as they are written

The text that a scalar stands for, told from the way in which it is written: a string stands for its
characters, and a number that fits a word stands for exactly the digits that it is written with.
Only strings stand for texts that are no truth values and do not begin as numbers do.
-/

namespace Credentials.Json

open Credentials.Number

/--
Whether a number is written as an integer that fits 64 bits, signed or not. Zero has no negative
among these integers.
-/
structure NumberLiteral.FitsWord (n : NumberLiteral) : Prop where
  fraction : n.fraction = []
  exponent : n.exponent = none
  positive : n.negative = false → digitsValue n.whole < 2 ^ 64
  negative : n.negative = true → 0 < digitsValue n.whole ∧ digitsValue n.whole ≤ 2 ^ 63

/--
The text that a scalar stands for. Integers that fit a word stand for the digits that they are
written with, and other numbers for their text as doubles. Null, arrays and objects stand for none.
-/
inductive Syntax.StandsFor : Syntax → String → Prop
  | string {literal : StringLiteral} {s : String} (h : literal.text? = some s) :
    StandsFor (.string literal) s
  | boolTrue : StandsFor (.bool true) "true"
  | boolFalse : StandsFor (.bool false) "false"
  | integer {n : NumberLiteral} {w : List Char} (hfits : n.FitsWord) (hw : n.Spelled w) :
    StandsFor (.number n) (.ofList w)
  | real {n : NumberLiteral} {x : Binary64} (hfits : ¬ n.FitsWord)
    (hx : n.real? = some (.real x)) : StandsFor (.number n) (.ofList (Number.real x).text)

/-! ## Digits -/

/-- The value of digits with one more at the end. -/
theorem digitsValue_append_singleton (digits : List Nat) (d : Nat) :
    digitsValue (digits ++ [d]) = 10 * digitsValue digits + d := by
  rw [digitsValue, List.foldl_append, List.foldl_cons, List.foldl_nil, ← digitsValue, Nat.mul_comm]

/-- Digits of which the first one is not zero have a positive value. -/
theorem digitsValue_pos {d : Nat} (hd : 0 < d) (digits : List Nat) :
    0 < digitsValue (d :: digits) := by
  induction digits using List.reverseRecOn with
  | nil => simpa [digitsValue] using hd
  | append_singleton digits e ih =>
    rw [← List.cons_append, digitsValue_append_singleton]
    omega

/-- A number is written with the digits that it is read from. -/
theorem digitChars_digitsValue {digits : List Nat} (hwhole : isWhole digits = true)
    (hdigits : AreDigits digits) : digitChars (digitsValue digits) = digitText digits := by
  cases digits with
  | nil => cases hwhole
  | cons first digits =>
    by_cases hzero : first = 0
    · subst hzero
      obtain rfl : digits = [] := by simpa [isWhole] using hwhole
      rfl
    · -- No prefix has the value zero, so each further digit is written behind what comes before.
      clear hwhole
      induction digits using List.reverseRecOn with
      | nil =>
        have hfirst : first < 10 := hdigits first (by simp)
        simp [digitChars, digitsValue, digitText, Nat.toDigits_of_lt_base hfirst,
          ofNat_eq_digitChar hfirst]
      | append_singleton digits d ih =>
        have hd : d < 10 := hdigits d (by simp)
        have hpos := digitsValue_pos (Nat.pos_of_ne_zero hzero) digits
        have hprefix := ih fun e he => hdigits e (by simp at he ⊢; tauto)
        rw [← List.cons_append, digitsValue_append_singleton, digitChars,
          ← Nat.toDigits_append_toDigits (by decide) hpos hd, ← digitChars, hprefix,
          Nat.toDigits_of_lt_base hd, ← ofNat_eq_digitChar hd, digitText, digitText,
          List.map_append, List.map_singleton]

/-! ## Numbers -/

namespace NumberLiteral

/-- The integer that is written before any fraction or exponent. -/
def wholeValue (n : NumberLiteral) : Int :=
  if n.negative then -digitsValue n.whole else digitsValue n.whole

/-- A number that fits a word is read as it is. -/
theorem integer?_of_fitsWord {n : NumberLiteral} (h : n.FitsWord) :
    n.integer? = some (.integer n.wholeValue) := by
  have hplain : ¬ (n.fraction ≠ [] ∨ n.exponent.isSome = true) := by
    simp [h.fraction, h.exponent]
  simp only [integer?, wholeValue]
  rw [if_neg hplain]
  cases hsign : n.negative with
  | true =>
    have hbounds : 0 < digitsValue n.whole ∧ digitsValue n.whole ≤ 1 <<< 63 := h.negative hsign
    rw [if_pos rfl, if_pos hbounds, if_pos rfl]
  | false =>
    have hbound : digitsValue n.whole ≤ maxWord := Nat.le_of_lt_succ (h.positive hsign)
    rw [if_neg Bool.false_ne_true, if_pos hbound, if_neg Bool.false_ne_true]

/-- Only a number that fits a word is read as an integer. -/
theorem integer?_of_not_fitsWord {n : NumberLiteral} (h : ¬ n.FitsWord) : n.integer? = none := by
  simp only [integer?]
  split_ifs with hplain hsign hbounds hbound
  · rfl
  · obtain ⟨hfraction, hexponent⟩ : n.fraction = [] ∧ n.exponent = none := by
      simpa [not_or] using hplain
    exact absurd ⟨hfraction, hexponent, fun hpos => absurd hsign (by simp [hpos]),
      fun _ => hbounds⟩ h
  · rfl
  · obtain ⟨hfraction, hexponent⟩ : n.fraction = [] ∧ n.exponent = none := by
      simpa [not_or] using hplain
    exact absurd ⟨hfraction, hexponent, fun _ => Nat.lt_succ_of_le hbound,
      fun hneg => absurd hneg hsign⟩ h
  · rfl

/-- A number that fits a word is written as the integer that it is read as. -/
theorem text_of_fitsWord {n : NumberLiteral} {w : List Char} (h : n.FitsWord) (hw : n.Spelled w) :
    (Number.integer n.wholeValue).text = w := by
  cases hw with
  | mk hwhole hdigits hfraction hexponent =>
    have hplain : signText n.negative ++ (digitText n.whole ++ ([] ++ [])) =
        signText n.negative ++ digitText n.whole := by simp
    rw [h.fraction] at hfraction
    rw [h.exponent] at hexponent
    cases hexponent
    cases hfraction with
    | present hne => exact absurd rfl hne
    | absent =>
      rw [hplain, ← digitChars_digitsValue hwhole hdigits, Number.text, wholeValue]
      cases hsign : n.negative with
      | true =>
        have hneg : -(digitsValue n.whole : Int) < 0 := by
          have hpos := (h.negative hsign).1
          omega
        rw [if_pos rfl, if_pos hneg, Int.natAbs_neg, Int.natAbs_natCast]
        rfl
      | false =>
        have hpos : ¬ (digitsValue n.whole : Int) < 0 := by omega
        rw [if_neg Bool.false_ne_true, if_neg hpos, Int.natAbs_natCast]
        rfl

/-- A number stands for the text of its value. -/
theorem standsFor_iff {n : NumberLiteral} {w : List Char} (hw : n.Spelled w) {s : String} :
    Syntax.StandsFor (.number n) s ↔ ∃ m, n.value? = some m ∧ s = .ofList m.text := by
  by_cases hfits : n.FitsWord
  · have hvalue : n.value? = some (.integer n.wholeValue) := by
      rw [value?, integer?_of_fitsWord hfits]
      rfl
    simp only [hvalue, Option.some_inj, exists_eq_left', text_of_fitsWord hfits hw]
    constructor
    · intro h
      cases h with
      | integer _ hw' => rw [← text_of_fitsWord hfits hw, text_of_fitsWord hfits hw']
      | real hnot => exact absurd hfits hnot
    · rintro rfl
      exact .integer hfits hw
  · have hvalue : n.value? = n.real? := by
      rw [value?, integer?_of_not_fitsWord hfits]
      rfl
    rw [hvalue]
    constructor
    · intro h
      cases h with
      | integer hfits' => exact absurd hfits' hfits
      | real _ hx => exact ⟨_, hx, rfl⟩
    · rintro ⟨m, hm, rfl⟩
      obtain ⟨x, rfl⟩ := exists_real_of_real? hm
      exact .real hfits hm

end NumberLiteral

/-! ## Scalars -/

/-- A value that is read has the text that the scalar stands for, as far as it is a scalar. -/
theorem scalarText?_eq_some_iff {tree : Syntax} {v : Value} (hread : Value.ofSyntax? tree = some v)
    (hspelled : ∀ n, tree = .number n → ∃ w, n.Spelled w) {s : String} :
    v.scalarText? = some s ↔ tree.StandsFor s := by
  cases tree with
  | null =>
    obtain rfl := Option.some.inj hread
    constructor <;> intro h <;> cases h
  | bool b =>
    obtain rfl := Option.some.inj hread
    rw [Value.scalarText?, Option.some_inj]
    cases b with
    | true =>
      constructor
      · rintro rfl
        exact .boolTrue
      · intro h
        cases h
        rfl
    | false =>
      constructor
      · rintro rfl
        exact .boolFalse
      · intro h
        cases h
        rfl
  | number n =>
    obtain ⟨w, hw⟩ := hspelled n rfl
    rw [Value.ofSyntax?, Option.map_eq_some_iff] at hread
    obtain ⟨m, hm, rfl⟩ := hread
    rw [NumberLiteral.standsFor_iff hw, Value.scalarText?, Option.some_inj]
    simp only [hm, Option.some_inj, exists_eq_left', eq_comm]
  | string literal =>
    rw [Value.ofSyntax?, Option.map_eq_some_iff] at hread
    obtain ⟨text, htext, rfl⟩ := hread
    rw [Value.scalarText?, Option.some_inj]
    constructor
    · rintro rfl
      exact .string htext
    · intro h
      cases h with
      | string h => exact Option.some.inj (htext.symm.trans h)
  | array items =>
    rw [Value.ofSyntax?, Option.map_eq_some_iff] at hread
    obtain ⟨_, _, rfl⟩ := hread
    constructor <;> intro h <;> cases h
  | object members =>
    rw [Value.ofSyntax?, Option.map_eq_some_iff] at hread
    obtain ⟨_, _, rfl⟩ := hread
    constructor <;> intro h <;> cases h

/-! ## Which scalars stand for a word -/

/-- The digits of a number begin with a digit. -/
theorem exists_cons_digitChars (n : Nat) : ∃ c s, digitChars n = c :: s ∧ c.isDigit = true := by
  obtain ⟨digits, htext, hdigits, hwhole, _⟩ := exists_digits n
  have hne : digits ≠ [] := by
    rintro rfl
    cases hwhole
  obtain ⟨c, s, hcons, hc⟩ := exists_cons_of_ne_nil hne hdigits
  exact ⟨c, s, htext.symm.trans hcons, hc⟩

/-- A decimal begins with a digit, whichever way it is laid out. -/
theorem Layout.exists_cons_write (l : Layout) (d : Decimal) :
    ∃ c s, l.write d = c :: s ∧ c.isDigit = true := by
  obtain ⟨c, s, hcons, hc⟩ := exists_cons_digitChars d.digits
  simp only [Layout.write, hcons]
  split
  · split
    · exact ⟨'0', _, rfl, rfl⟩
    · exact ⟨c, _, rfl, hc⟩
  · exact ⟨c, _, rfl, hc⟩

/-- A number is written with a minus sign or a digit in front. -/
theorem Number.exists_cons_text (m : Number) :
    ∃ c s, m.text = c :: s ∧ (c = '-' ∨ c.isDigit = true) := by
  have hsigned (negative : Bool) {w : List Char} (hw : ∃ c s, w = c :: s ∧ c.isDigit = true) :
      ∃ c s, (if negative then ['-'] else []) ++ w = c :: s ∧ (c = '-' ∨ c.isDigit = true) := by
    obtain ⟨c, s, rfl, hc⟩ := hw
    cases negative with
    | true => exact ⟨'-', _, rfl, .inl rfl⟩
    | false => exact ⟨c, s, rfl, .inr hc⟩
  cases m with
  | integer k =>
    have hdigits := hsigned (decide (k < 0)) (exists_cons_digitChars k.natAbs)
    simpa [Number.text] using hdigits
  | real x =>
    rw [Number.text]
    refine hsigned x.negative ?_
    split
    · exact ⟨'0', _, rfl, rfl⟩
    · exact Layout.exists_cons_write _ _

/-- Only a string stands for a text that is no truth value and does not begin as a number does. -/
theorem standsFor_iff_string? {tree : Syntax} {s : String} (htrue : s ≠ "true")
    (hfalse : s ≠ "false") (hhead : ∀ c ∈ s.toList.head?, c ≠ '-' ∧ c.isDigit = false) :
    tree.StandsFor s ↔ tree.string? = some s := by
  have hnumber (m : Number) (hm : s = .ofList m.text) : False := by
    obtain ⟨c, w, htext, hc⟩ := m.exists_cons_text
    obtain ⟨hminus, hdigit⟩ := hhead c (by rw [hm, String.toList_ofList, htext]; rfl)
    rcases hc with hc | hc
    · exact hminus hc
    · rw [hdigit] at hc
      cases hc
  constructor
  · intro h
    cases h with
    | string h => exact h
    | boolTrue => exact absurd rfl htrue
    | boolFalse => exact absurd rfl hfalse
    | integer hfits hw => exact (hnumber _ (by rw [NumberLiteral.text_of_fitsWord hfits hw])).elim
    | real _ _ => exact (hnumber _ rfl).elim
  · intro h
    cases tree with
    | string literal => exact .string h
    | _ => cases h

end Credentials.Json

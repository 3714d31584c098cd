import Credentials.Json.Token
import Mathlib.Data.Char
import Mathlib.Data.List.Chain
import Mathlib.Tactic.IntervalCases

/-!
# The lexical grammar of JSON

How each token may be written, as a relation between tokens and texts. Reading a text as tokens is
sound for the relation, and complete for lists of tokens that keep their numbers apart.
-/

namespace Credentials.Json

/-- How an item of a string may be written. -/
inductive StringPart.Spelled : StringPart → List Char → Prop
  | plain {c : Char} (hquote : c ≠ '"') (hbackslash : c ≠ '\\') (hcontrol : 0x20 ≤ c.toNat) :
    Spelled (.char c) [c]
  | escaped {letter c : Char} (h : escaped? letter = some c) : Spelled (.char c) ['\\', letter]
  | unit {a b c d : Char} {code : Nat} (h : hexUnit? a b c d = some code) :
    Spelled (.unit code) ['\\', 'u', a, b, c, d]

/-- How the items of a string may be written one after another. -/
inductive StringLiteral.Spelled : StringLiteral → List Char → Prop
  | nil : Spelled [] []
  | cons {part : StringPart} {parts : StringLiteral} {w s : List Char} (hpart : part.Spelled w)
    (hparts : StringLiteral.Spelled parts s) : Spelled (part :: parts) (w ++ s)

/-- Decimal digits as text. -/
def digitText (digits : List Nat) : List Char := digits.map fun d => .ofNat (48 + d)

/-- Decimal digits. -/
def AreDigits (digits : List Nat) : Prop := ∀ d ∈ digits, d < 10

/-- How a fraction, which may be absent, may be written. -/
inductive FractionSpelled : List Nat → List Char → Prop
  | absent : FractionSpelled [] []
  | present {digits : List Nat} (hne : digits ≠ []) (hdigits : AreDigits digits) :
    FractionSpelled digits ('.' :: digitText digits)

/-- How the sign of an exponent may be written. -/
inductive ExponentSign : Bool → List Char → Prop
  | absent : ExponentSign false []
  | plus : ExponentSign false ['+']
  | minus : ExponentSign true ['-']

/-- How an exponent, which may be absent, may be written. -/
inductive ExponentSpelled : Option (Bool × List Nat) → List Char → Prop
  | absent : ExponentSpelled none []
  | present {letter : Char} {negative : Bool} {sign : List Char} {digits : List Nat}
    (hletter : letter = 'e' ∨ letter = 'E') (hsign : ExponentSign negative sign)
    (hne : digits ≠ []) (hdigits : AreDigits digits) :
    ExponentSpelled (some (negative, digits)) (letter :: sign ++ digitText digits)

/-- How the sign of a number is written. -/
def signText (negative : Bool) : List Char := if negative then ['-'] else []

/-- How a number may be written. -/
inductive NumberLiteral.Spelled : NumberLiteral → List Char → Prop
  | mk {n : NumberLiteral} {fraction exponent : List Char} (hwhole : isWhole n.whole = true)
    (hdigits : AreDigits n.whole) (hfraction : FractionSpelled n.fraction fraction)
    (hexponent : ExponentSpelled n.exponent exponent) :
    Spelled n (signText n.negative ++ (digitText n.whole ++ (fraction ++ exponent)))

/-- How a token may be written. -/
inductive Token.Spelled : Token → List Char → Prop
  | beginArray : Spelled .beginArray ['[']
  | endArray : Spelled .endArray [']']
  | beginObject : Spelled .beginObject ['\x7b']
  | endObject : Spelled .endObject ['\x7d']
  | colon : Spelled .colon [':']
  | comma : Spelled .comma [',']
  | null : Spelled .null ['n', 'u', 'l', 'l']
  | boolTrue : Spelled (.bool true) ['t', 'r', 'u', 'e']
  | boolFalse : Spelled (.bool false) ['f', 'a', 'l', 's', 'e']
  | number {n : NumberLiteral} {w : List Char} (h : n.Spelled w) : Spelled (.number n) w
  | string {parts : StringLiteral} {w : List Char} (h : StringLiteral.Spelled parts w) :
    Spelled (.string parts) ('"' :: w ++ ['"'])

/-- How tokens may be written one after another, with blanks before, between and after them. -/
inductive Laid : List Token → List Char → Prop
  | nil : Laid [] []
  | blank {c : Char} {ts : List Token} {s : List Char} (hc : isBlank c = true) (hs : Laid ts s) :
    Laid ts (c :: s)
  | token {t : Token} {w : List Char} {ts : List Token} {s : List Char} (ht : t.Spelled w)
    (hs : Laid ts s) : Laid (t :: ts) (w ++ s)

/-! ## Strings -/

/-- What is read as the rest of a string is written as its items and a quote. -/
theorem scanString_sound {s rest : List Char} {parts : StringLiteral}
    (h : scanString s = some (parts, rest)) :
    ∃ w, StringLiteral.Spelled parts w ∧ s = w ++ '"' :: rest := by
  fun_induction scanString s generalizing parts rest with
  | case1 => simp at h
  | case2 =>
    simp only [Option.some.injEq, Prod.mk.injEq] at h
    obtain ⟨rfl, rfl⟩ := h
    exact ⟨[], .nil, rfl⟩
  | case3 a b c d s ih =>
    simp only [bind, pure, Option.bind_eq_some_iff, Option.some.injEq, Prod.mk.injEq] at h
    obtain ⟨code, hcode, ⟨parts', rest'⟩, hs, rfl, rfl⟩ := h
    obtain ⟨w, hw, rfl⟩ := ih hs
    exact ⟨_, .cons (.unit hcode) hw, rfl⟩
  | case4 letter s _ ih =>
    simp only [bind, pure, Option.bind_eq_some_iff, Option.some.injEq, Prod.mk.injEq] at h
    obtain ⟨c, hc, ⟨parts', rest'⟩, hs, rfl, rfl⟩ := h
    obtain ⟨w, hw, rfl⟩ := ih hs
    exact ⟨_, .cons (.escaped hc) hw, rfl⟩
  | case5 => simp at h
  | case6 c s hquote _ _ hplain ih =>
    simp only [bind, pure, Option.bind_eq_some_iff, Option.some.injEq, Prod.mk.injEq] at h
    obtain ⟨⟨parts', rest'⟩, hs, rfl, rfl⟩ := h
    obtain ⟨w, hw, rfl⟩ := ih hs
    refine ⟨_, .cons (.plain ?_ ?_ ?_) hw, rfl⟩
    · exact hquote
    · exact fun hc => hplain (Or.inl hc)
    · exact Nat.le_of_not_lt fun hc => hplain (Or.inr hc)

/-- Items and a quote are read as the rest of a string. -/
theorem scanString_complete {parts : StringLiteral} {w : List Char}
    (h : StringLiteral.Spelled parts w) (rest : List Char) :
    scanString (w ++ '"' :: rest) = some (parts, rest) := by
  induction h with
  | nil => rfl
  | @cons part parts w s hpart _ ih =>
    cases hpart with
    | @plain c hquote hbackslash hcontrol =>
      simp [scanString, hbackslash, hcontrol, ih]
    | @escaped letter c hletter =>
      have hu : letter ≠ 'u' := by
        rintro rfl
        simp [escaped?] at hletter
      simp [scanString, hu, hletter, ih]
    | unit hcode => simp [scanString, hcode, ih]

/-! ## Numbers -/

/-- Texts that do not go on with a number. -/
def EndsNumber (rest : List Char) : Prop :=
  ∀ c ∈ rest.head?, c.isDigit = false ∧ c ≠ '.' ∧ c ≠ 'e' ∧ c ≠ 'E'

/-- Texts that do not begin with a digit. -/
def EndsDigits (rest : List Char) : Prop := ∀ c ∈ rest.head?, c.isDigit = false

/-- The digit characters are those of the digits. -/
theorem isDigit_digit {d : Nat} (hd : d < 10) :
    (Char.ofNat (48 + d)).isDigit = true ∧ (Char.ofNat (48 + d)).toNat - '0'.toNat = d := by
  interval_cases d <;> decide

/-- The leading digits of a text are digits, and it begins with them. -/
theorem leadingDigits_sound (s : List Char) :
    AreDigits (leadingDigits s) ∧ s = digitText (leadingDigits s) ++ afterDigits s := by
  induction s with
  | nil => exact ⟨by simp [AreDigits, leadingDigits], rfl⟩
  | cons c s ih =>
    by_cases hc : c.isDigit = true
    · have hcode : 48 ≤ c.toNat ∧ c.toNat ≤ 57 := Char.isDigit_iff_toNat.mp hc
      have hchar : Char.ofNat (48 + (c.toNat - '0'.toNat)) = c := by
        rw [show 48 + (c.toNat - '0'.toNat) = c.toNat by
          change 48 + (c.toNat - 48) = c.toNat
          omega, Char.ofNat_toNat]
      have hlead : leadingDigits (c :: s) = (c.toNat - '0'.toNat) :: leadingDigits s := by
        simp [leadingDigits, hc]
      have hafter : afterDigits (c :: s) = afterDigits s := by simp [afterDigits, hc]
      rw [hlead, hafter]
      constructor
      · intro d hd
        rcases List.mem_cons.mp hd with rfl | hd
        · change c.toNat - 48 < 10
          omega
        · exact ih.1 d hd
      · rw [digitText, List.map_cons, hchar, List.cons_append]
        exact congrArg (c :: ·) ih.2
    · have hlead : leadingDigits (c :: s) = [] := by simp [leadingDigits, hc]
      have hafter : afterDigits (c :: s) = c :: s := by simp [afterDigits, hc]
      rw [hlead, hafter]
      exact ⟨by simp [AreDigits], rfl⟩

/-- Digits that no digit follows are the leading ones. -/
theorem leadingDigits_complete {digits : List Nat} {rest : List Char} (hdigits : AreDigits digits)
    (hrest : EndsDigits rest) : leadingDigits (digitText digits ++ rest) = digits ∧
      afterDigits (digitText digits ++ rest) = rest := by
  induction digits with
  | nil =>
    cases rest with
    | nil => exact ⟨rfl, rfl⟩
    | cons c rest =>
      have hc : c.isDigit = false := hrest c rfl
      simp [digitText, leadingDigits, afterDigits, hc]
  | cons d digits ih =>
    obtain ⟨hisDigit, hvalue⟩ := isDigit_digit (hdigits d (by simp))
    obtain ⟨hlead, hafter⟩ := ih fun e he => hdigits e (by simp [he])
    simp only [digitText, List.map_cons, List.cons_append, leadingDigits, afterDigits,
      List.takeWhile_cons, List.dropWhile_cons, hisDigit, if_true, List.map_cons, hvalue] at *
    exact ⟨by rw [hlead], hafter⟩

/-- Digits as text begin with a digit. -/
theorem exists_cons_of_ne_nil {digits : List Nat} (hne : digits ≠ []) (hdigits : AreDigits digits) :
    ∃ c w, digitText digits = c :: w ∧ c.isDigit = true := by
  cases digits with
  | nil => exact absurd rfl hne
  | cons d digits => exact ⟨_, _, rfl, (isDigit_digit (hdigits d (by simp))).1⟩

/-- What is read as a fraction is written as one. -/
theorem scanFraction_sound {s rest : List Char} {digits : List Nat}
    (h : scanFraction s = some (digits, rest)) :
    ∃ w, FractionSpelled digits w ∧ s = w ++ rest := by
  unfold scanFraction at h
  split at h
  · rename_i s
    obtain ⟨hdigits, htext⟩ := leadingDigits_sound s
    split at h
    case isTrue => simp at h
    case isFalse hne =>
      simp only [Option.some.injEq, Prod.mk.injEq] at h
      obtain ⟨rfl, rfl⟩ := h
      exact ⟨_, .present hne hdigits, congrArg ('.' :: ·) htext⟩
  · simp only [Option.some.injEq, Prod.mk.injEq] at h
    obtain ⟨rfl, rfl⟩ := h
    exact ⟨[], .absent, rfl⟩

/-- A fraction is read if neither digits nor a dot follow it. -/
theorem scanFraction_complete {digits : List Nat} {w rest : List Char}
    (h : FractionSpelled digits w) (hrest : ∀ c ∈ rest.head?, c.isDigit = false ∧ c ≠ '.') :
    scanFraction (w ++ rest) = some (digits, rest) := by
  cases h with
  | absent =>
    cases rest with
    | nil => rfl
    | cons c rest =>
      have hc : c ≠ '.' := (hrest c rfl).2
      simp [scanFraction, hc]
  | present hne hdigits =>
    obtain ⟨hlead, hafter⟩ := leadingDigits_complete hdigits fun c hc => (hrest c hc).1
    simp [scanFraction, hlead, hafter, hne]

/-- What is read as the digits of an exponent is written as them. -/
theorem scanExponentDigits_sound {negative : Bool} {s rest : List Char}
    {e : Option (Bool × List Nat)} (h : scanExponentDigits negative s = some (e, rest)) :
    ∃ digits, e = some (negative, digits) ∧ digits ≠ [] ∧ AreDigits digits ∧
      s = digitText digits ++ rest := by
  obtain ⟨hdigits, htext⟩ := leadingDigits_sound s
  unfold scanExponentDigits at h
  split at h
  case isTrue => simp at h
  case isFalse hne =>
    simp only [Option.some.injEq, Prod.mk.injEq] at h
    obtain ⟨rfl, rfl⟩ := h
    exact ⟨_, rfl, hne, hdigits, htext⟩

/-- What is read after the letter of an exponent is written as a sign and digits. -/
theorem scanSignedExponent_sound {s rest : List Char} {e : Option (Bool × List Nat)}
    (h : scanSignedExponent s = some (e, rest)) : ∃ negative sign digits,
      e = some (negative, digits) ∧ ExponentSign negative sign ∧ digits ≠ [] ∧ AreDigits digits ∧
      s = sign ++ digitText digits ++ rest := by
  unfold scanSignedExponent at h
  split at h
  · obtain ⟨digits, rfl, hne, hdigits, rfl⟩ := scanExponentDigits_sound h
    exact ⟨_, _, digits, rfl, .minus, hne, hdigits, rfl⟩
  · obtain ⟨digits, rfl, hne, hdigits, rfl⟩ := scanExponentDigits_sound h
    exact ⟨_, _, digits, rfl, .plus, hne, hdigits, rfl⟩
  · obtain ⟨digits, rfl, hne, hdigits, rfl⟩ := scanExponentDigits_sound h
    exact ⟨_, _, digits, rfl, .absent, hne, hdigits, rfl⟩

/-- What is read as an exponent is written as one. -/
theorem scanExponent_sound {s rest : List Char} {e : Option (Bool × List Nat)}
    (h : scanExponent s = some (e, rest)) : ∃ w, ExponentSpelled e w ∧ s = w ++ rest := by
  unfold scanExponent at h
  split at h
  · obtain ⟨negative, sign, digits, rfl, hsign, hne, hdigits, rfl⟩ := scanSignedExponent_sound h
    exact ⟨_, .present (Or.inl rfl) hsign hne hdigits, rfl⟩
  · obtain ⟨negative, sign, digits, rfl, hsign, hne, hdigits, rfl⟩ := scanSignedExponent_sound h
    exact ⟨_, .present (Or.inr rfl) hsign hne hdigits, rfl⟩
  · simp only [Option.some.injEq, Prod.mk.injEq] at h
    obtain ⟨rfl, rfl⟩ := h
    exact ⟨[], .absent, rfl⟩

/-- A sign and digits are read after the letter of an exponent if no digit follows them. -/
theorem scanSignedExponent_complete {negative : Bool} {sign rest : List Char} {digits : List Nat}
    (hsign : ExponentSign negative sign) (hne : digits ≠ []) (hdigits : AreDigits digits)
    (hrest : EndsDigits rest) :
    scanSignedExponent (sign ++ (digitText digits ++ rest)) =
      some (some (negative, digits), rest) := by
  obtain ⟨hlead, hafter⟩ := leadingDigits_complete hdigits hrest
  have hscan (negative : Bool) : scanExponentDigits negative (digitText digits ++ rest) =
      some (some (negative, digits), rest) := by
    simp [scanExponentDigits, hlead, hafter, hne]
  cases hsign with
  | absent =>
    obtain ⟨c, w, htext, hc⟩ := exists_cons_of_ne_nil hne hdigits
    have hminus : c ≠ '-' := by
      rintro rfl
      simp at hc
    have hplus : c ≠ '+' := by
      rintro rfl
      simp at hc
    rw [htext] at hscan ⊢
    simpa [scanSignedExponent, hminus, hplus] using hscan false
  | plus => exact hscan false
  | minus => exact hscan true

/-- An exponent is read if no number goes on after it. -/
theorem scanExponent_complete {e : Option (Bool × List Nat)} {w rest : List Char}
    (h : ExponentSpelled e w) (hrest : EndsNumber rest) :
    scanExponent (w ++ rest) = some (e, rest) := by
  cases h with
  | absent =>
    cases rest with
    | nil => rfl
    | cons c rest =>
      obtain ⟨_, _, he, hE⟩ := hrest c rfl
      simp [scanExponent, he, hE]
  | present hletter hsign hne hdigits =>
    have hscan := scanSignedExponent_complete hsign hne hdigits fun c hc => (hrest c hc).1
    rcases hletter with rfl | rfl
    · simpa [scanExponent] using hscan
    · simpa [scanExponent] using hscan

/-- No fraction goes on at an exponent. -/
theorem ExponentSpelled.endsFraction {e : Option (Bool × List Nat)} {w rest : List Char}
    (h : ExponentSpelled e w) (hrest : EndsNumber rest) :
    ∀ c ∈ (w ++ rest).head?, c.isDigit = false ∧ c ≠ '.' := by
  intro c hc
  cases h with
  | absent => exact ⟨(hrest c hc).1, (hrest c hc).2.1⟩
  | present hletter =>
    obtain rfl : _ = c := by simpa using hc
    rcases hletter with rfl | rfl <;> decide

/-- No digits go on at a fraction. -/
theorem FractionSpelled.endsDigits {digits : List Nat} {w rest : List Char}
    (h : FractionSpelled digits w) (hrest : ∀ c ∈ rest.head?, c.isDigit = false ∧ c ≠ '.') :
    EndsDigits (w ++ rest) := by
  intro c hc
  cases h with
  | absent => exact (hrest c hc).1
  | present =>
    obtain rfl : _ = c := by simpa using hc
    decide

/-- What is read as a number without its sign is written as one. -/
theorem scanUnsigned_sound {negative : Bool} {s rest : List Char} {n : NumberLiteral}
    (h : scanUnsigned negative s = some (n, rest)) :
    ∃ w, n.Spelled w ∧ signText negative ++ s = w ++ rest := by
  obtain ⟨hdigits, htext⟩ := leadingDigits_sound s
  unfold scanUnsigned at h
  split at h
  case isFalse => simp at h
  case isTrue hwhole =>
    simp only [bind, pure, Option.bind_eq_some_iff, Option.some.injEq, Prod.mk.injEq] at h
    obtain ⟨⟨fraction, rest'⟩, hf, ⟨exponent, rest''⟩, he, rfl, rfl⟩ := h
    obtain ⟨f, hfraction, hafter⟩ := scanFraction_sound hf
    obtain ⟨e, hexponent, rfl⟩ := scanExponent_sound he
    refine ⟨_, .mk hwhole hdigits hfraction hexponent, ?_⟩
    rw [hafter] at htext
    simpa using htext

/-- A number without its sign is read if no number goes on after it. -/
theorem scanUnsigned_complete {n : NumberLiteral} {fraction exponent rest : List Char}
    (hwhole : isWhole n.whole = true) (hdigits : AreDigits n.whole)
    (hfraction : FractionSpelled n.fraction fraction)
    (hexponent : ExponentSpelled n.exponent exponent) (hrest : EndsNumber rest) :
    scanUnsigned n.negative (digitText n.whole ++ (fraction ++ (exponent ++ rest))) =
      some (n, rest) := by
  have hends := hexponent.endsFraction hrest
  obtain ⟨hlead, hafter⟩ := leadingDigits_complete hdigits (hfraction.endsDigits hends)
  simp [scanUnsigned, hlead, hafter, hwhole, scanFraction_complete hfraction hends,
    scanExponent_complete hexponent hrest]

/-! ## Tokens -/

/-- What is read as a token is written as it. -/
theorem scanToken_sound {s rest : List Char} {t : Token} (h : scanToken s = some (t, rest)) :
    ∃ w, t.Spelled w ∧ s = w ++ rest := by
  unfold scanToken at h
  split at h
  case h_10 =>
    simp only [Option.map_eq_some_iff, Prod.mk.injEq] at h
    obtain ⟨⟨parts, rest'⟩, hs, rfl, rfl⟩ := h
    obtain ⟨w, hw, rfl⟩ := scanString_sound hs
    exact ⟨_, .string hw, by simp⟩
  case h_11 =>
    simp only [Option.map_eq_some_iff, Prod.mk.injEq] at h
    obtain ⟨⟨n, rest'⟩, hs, rfl, rfl⟩ := h
    obtain ⟨w, hw, htext⟩ := scanUnsigned_sound hs
    exact ⟨w, .number hw, htext⟩
  case h_12 =>
    simp only [Option.map_eq_some_iff, Prod.mk.injEq] at h
    obtain ⟨⟨n, rest'⟩, hs, rfl, rfl⟩ := h
    obtain ⟨w, hw, htext⟩ := scanUnsigned_sound hs
    exact ⟨w, .number hw, htext⟩
  all_goals
    simp only [Option.some.injEq, Prod.mk.injEq] at h
    obtain ⟨rfl, rfl⟩ := h
  · exact ⟨_, .beginArray, rfl⟩
  · exact ⟨_, .endArray, rfl⟩
  · exact ⟨_, .beginObject, rfl⟩
  · exact ⟨_, .endObject, rfl⟩
  · exact ⟨_, .colon, rfl⟩
  · exact ⟨_, .comma, rfl⟩
  · exact ⟨_, .null, rfl⟩
  · exact ⟨_, .boolTrue, rfl⟩
  · exact ⟨_, .boolFalse, rfl⟩

/-- Whether a token is a number. -/
def Token.isNumber : Token → Bool
  | .number _ => true
  | _ => false

/-- A text that begins with a digit is read as a number. -/
theorem scanToken_of_isDigit {c : Char} (hc : c.isDigit = true) (s : List Char) :
    scanToken (c :: s) =
      (scanUnsigned false (c :: s)).map fun (literal, s) => (.number literal, s) := by
  have hcode : 48 ≤ c.toNat ∧ c.toNat ≤ 57 := Char.isDigit_iff_toNat.mp hc
  obtain ⟨d, hd, rfl⟩ : ∃ d < 10, c = Char.ofNat (48 + d) := by
    refine ⟨c.toNat - 48, by omega, ?_⟩
    rw [show 48 + (c.toNat - 48) = c.toNat by omega, Char.ofNat_toNat]
  interval_cases d <;> rfl

/-- A token is read, a number only if no number goes on after it. -/
theorem scanToken_complete {t : Token} {w rest : List Char} (h : t.Spelled w)
    (hrest : t.isNumber = true → EndsNumber rest) : scanToken (w ++ rest) = some (t, rest) := by
  cases h with
  | @number n _ hn =>
    cases hn with
    | mk hwhole hdigits hfraction hexponent =>
      have hscan := scanUnsigned_complete hwhole hdigits hfraction hexponent (hrest rfl)
      cases hsign : n.negative with
      | false =>
        have hne : n.whole ≠ [] := by
          intro hnil
          simp [hnil, isWhole] at hwhole
        obtain ⟨c, s, htext, hc⟩ := exists_cons_of_ne_nil hne hdigits
        rw [hsign, htext] at hscan
        simp only [signText, Bool.false_eq_true, if_false, List.nil_append, htext,
          List.cons_append, List.append_assoc] at hscan ⊢
        rw [scanToken_of_isDigit hc, hscan]
        rfl
      | true =>
        rw [hsign] at hscan
        simp [signText, scanToken, hscan]
  | string hparts =>
    have hscan := scanString_complete hparts rest
    simp [scanToken, hscan]
  | _ => rfl

/-- The blanks. -/
theorem isBlank_iff {c : Char} :
    isBlank c = true ↔ c = ' ' ∨ c = '\n' ∨ c = '\t' ∨ c = '\r' := by
  simp [isBlank, or_assoc]

/-- A token begins with a character that is no blank. -/
theorem Token.Spelled.exists_cons {t : Token} {w : List Char} (h : t.Spelled w) :
    ∃ c s, w = c :: s ∧ isBlank c = false := by
  cases h with
  | @number n _ hn =>
    cases hn with
    | mk hwhole hdigits _ _ =>
      have hne : n.whole ≠ [] := by
        intro hnil
        simp [hnil, isWhole] at hwhole
      obtain ⟨c, s, htext, hc⟩ := exists_cons_of_ne_nil hne hdigits
      cases n.negative with
      | true => exact ⟨'-', _, rfl, rfl⟩
      | false =>
        refine ⟨c, _, by rw [htext]; rfl, ?_⟩
        by_contra hblank
        rw [Bool.not_eq_false] at hblank
        rcases isBlank_iff.mp hblank with rfl | rfl | rfl | rfl <;> simp at hc
  | _ => exact ⟨_, _, rfl, rfl⟩

/-- Whether a token marks the end of a number before it. -/
def Token.closesNumber : Token → Bool
  | .comma => true
  | .endArray => true
  | .endObject => true
  | _ => false

/-- Tokens of which only those that mark the end of a number come after one. -/
def Separated (ts : List Token) : Prop :=
  ts.IsChain fun t u => t.isNumber = true → u.closesNumber = true

/-- No number goes on at what may come after one. -/
theorem Laid.endsNumber {ts : List Token} {s : List Char} (h : Laid ts s)
    (hts : ∀ t ∈ ts.head?, t.closesNumber = true) : EndsNumber s := by
  intro c hc
  cases h with
  | nil => simp at hc
  | blank hblank =>
    obtain rfl : _ = c := by simpa using hc
    rcases isBlank_iff.mp hblank with rfl | rfl | rfl | rfl <;> decide
  | @token t w ts s ht =>
    have hcloses : t.closesNumber = true := hts t rfl
    cases ht with
    | endArray | endObject | comma =>
      obtain rfl : _ = c := by simpa using hc
      decide
    | _ => simp [Token.closesNumber] at hcloses

/-- What is read as tokens is written as them. -/
theorem tokens_sound {s : List Char} {ts : List Token} (h : tokens s = some ts) : Laid ts s := by
  fun_induction tokens s generalizing ts with
  | case1 =>
    obtain rfl := Option.some.inj h
    exact .nil
  | case2 c s hblank ih => exact .blank hblank (ih h)
  | case3 => simp at h
  | case4 c s _ t rest hscan ih =>
    obtain ⟨ts', hts', rfl⟩ := Option.map_eq_some_iff.mp h
    obtain ⟨w, hw, htext⟩ := scanToken_sound hscan
    rw [htext]
    exact .token hw (ih hts')

/-- Tokens that keep their numbers apart are read. -/
theorem tokens_complete {s : List Char} {ts : List Token} (h : Laid ts s) (hts : Separated ts) :
    tokens s = some ts := by
  induction h with
  | nil => rw [tokens]
  | blank hblank _ ih =>
    rw [tokens, if_pos hblank]
    exact ih hts
  | @token t w ts s ht hs ih =>
    have hrest : t.isNumber = true → EndsNumber s := by
      intro hnumber
      refine hs.endsNumber fun u hu => ?_
      obtain ⟨us, rfl⟩ := List.head?_eq_some_iff.mp hu
      exact (List.isChain_cons_cons.mp hts).1 hnumber
    have hscan := scanToken_complete ht hrest
    obtain ⟨c, w', rfl, hblank⟩ := ht.exists_cons
    rw [List.cons_append] at hscan ⊢
    rw [tokens, if_neg (by simp [hblank])]
    split
    case h_1 hnone => simp [hscan] at hnone
    case h_2 t' rest hsome =>
      rw [hscan] at hsome
      simp only [Option.some.injEq, Prod.mk.injEq] at hsome
      obtain ⟨rfl, rfl⟩ := hsome
      rw [ih hts.tail]
      rfl

end Credentials.Json

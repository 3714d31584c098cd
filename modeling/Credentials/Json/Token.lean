import Credentials.Text.Hex

/-!
# JSON tokens

Text as a list of tokens. Literals are kept as they are written: what a string or a number stands
for, and whether it stands for anything, is decided only where its value is asked for.
-/

namespace Credentials.Json

/-- An item of a string literal: a character, or a code unit given by its number. -/
inductive StringPart where
  | char (c : Char)
  | unit (code : Nat)
deriving DecidableEq, Repr

/-- The items between the quotes of a string. -/
abbrev StringLiteral := List StringPart

/-- The digits of a number, with an absent fraction as no digits. -/
structure NumberLiteral where
  negative : Bool
  whole : List Nat
  fraction : List Nat
  /-- Whether the exponent is negative, and its digits. -/
  exponent : Option (Bool × List Nat)
deriving DecidableEq, Repr

/-- A token. -/
inductive Token where
  | beginArray
  | endArray
  | beginObject
  | endObject
  | colon
  | comma
  | null
  | bool (value : Bool)
  | number (literal : NumberLiteral)
  | string (literal : StringLiteral)
deriving DecidableEq, Repr

/-- The characters that may stand between tokens. -/
def isBlank (c : Char) : Bool := c == ' ' || c == '\n' || c == '\t' || c == '\r'

/-- The code unit that four hexadecimal digits give. -/
def hexUnit? (a b c d : Char) : Option Nat := Text.numberIn? 16 [a, b, c, d]

/-- The character that a letter after a backslash stands for. -/
def escaped? : Char → Option Char
  | '"' => some '"'
  | '\\' => some '\\'
  | '/' => some '/'
  | 'b' => some '\x08'
  | 'f' => some '\x0c'
  | 'n' => some '\n'
  | 'r' => some '\r'
  | 't' => some '\t'
  | _ => none

/-- Reads the rest of a string, up to its closing quote. -/
def scanString : List Char → Option (StringLiteral × List Char)
  | [] => none
  | '"' :: rest => some ([], rest)
  | '\\' :: 'u' :: a :: b :: c :: d :: rest => do
    let code ← hexUnit? a b c d
    let (parts, rest) ← scanString rest
    return (.unit code :: parts, rest)
  | '\\' :: c :: rest => do
    let c ← escaped? c
    let (parts, rest) ← scanString rest
    return (.char c :: parts, rest)
  | c :: rest =>
    if c = '\\' ∨ c.toNat < 0x20 then none
    else do
      let (parts, rest) ← scanString rest
      return (.char c :: parts, rest)

/-- The leading digits of a text. -/
def leadingDigits (s : List Char) : List Nat :=
  (s.takeWhile Char.isDigit).map fun c => c.toNat - '0'.toNat

/-- What follows the leading digits of a text. -/
def afterDigits (s : List Char) : List Char := s.dropWhile Char.isDigit

/-- Reads the fraction of a number, if there is one. -/
def scanFraction : List Char → Option (List Nat × List Char)
  | '.' :: s => if leadingDigits s = [] then none else some (leadingDigits s, afterDigits s)
  | s => some ([], s)

/-- Reads the digits of an exponent. -/
def scanExponentDigits (negative : Bool) (s : List Char) :
    Option (Option (Bool × List Nat) × List Char) :=
  if leadingDigits s = [] then none else some (some (negative, leadingDigits s), afterDigits s)

/-- Reads the exponent of a number after its letter. -/
def scanSignedExponent : List Char → Option (Option (Bool × List Nat) × List Char)
  | '-' :: s => scanExponentDigits true s
  | '+' :: s => scanExponentDigits false s
  | s => scanExponentDigits false s

/-- Reads the exponent of a number, if there is one. -/
def scanExponent : List Char → Option (Option (Bool × List Nat) × List Char)
  | 'e' :: s => scanSignedExponent s
  | 'E' :: s => scanSignedExponent s
  | s => some (none, s)

/-- Whether digits may stand before the point: there are some, and zero only begins itself. -/
def isWhole (digits : List Nat) : Bool :=
  match digits with
  | [] => false
  | 0 :: digits => digits.isEmpty
  | _ => true

/-- Reads a number without its sign. -/
def scanUnsigned (negative : Bool) (s : List Char) : Option (NumberLiteral × List Char) :=
  if isWhole (leadingDigits s) then do
    let (fraction, rest) ← scanFraction (afterDigits s)
    let (exponent, rest) ← scanExponent rest
    return (⟨negative, leadingDigits s, fraction, exponent⟩, rest)
  else none

/-- Reads one token at the start of a text. -/
def scanToken : List Char → Option (Token × List Char)
  | '[' :: s => some (.beginArray, s)
  | ']' :: s => some (.endArray, s)
  | '\x7b' :: s => some (.beginObject, s)
  | '\x7d' :: s => some (.endObject, s)
  | ':' :: s => some (.colon, s)
  | ',' :: s => some (.comma, s)
  | 'n' :: 'u' :: 'l' :: 'l' :: s => some (.null, s)
  | 't' :: 'r' :: 'u' :: 'e' :: s => some (.bool true, s)
  | 'f' :: 'a' :: 'l' :: 's' :: 'e' :: s => some (.bool false, s)
  | '"' :: s => (scanString s).map fun (literal, s) => (.string literal, s)
  | '-' :: s => (scanUnsigned true s).map fun (literal, s) => (.number literal, s)
  | s => (scanUnsigned false s).map fun (literal, s) => (.number literal, s)

/-- A string literal takes up at least its closing quote. -/
theorem scanString_length {s rest : List Char} {parts : StringLiteral}
    (h : scanString s = some (parts, rest)) : rest.length < s.length := by
  fun_induction scanString s generalizing parts rest with
  | case1 => simp at h
  | case2 => simp_all
  | case3 a b c d s ih =>
    simp only [bind, pure, Option.bind_eq_some_iff, Option.some.injEq] at h
    obtain ⟨_, _, ⟨_, _⟩, hr, h⟩ := h
    have := ih hr
    simp_all
    omega
  | case4 c s _ ih =>
    simp only [bind, pure, Option.bind_eq_some_iff, Option.some.injEq] at h
    obtain ⟨_, _, ⟨_, _⟩, hr, h⟩ := h
    have := ih hr
    simp_all
    omega
  | case5 => simp at h
  | case6 c s _ _ _ _ ih =>
    simp only [bind, pure, Option.bind_eq_some_iff, Option.some.injEq] at h
    obtain ⟨⟨_, _⟩, hr, h⟩ := h
    have := ih hr
    simp_all
    omega

/-- The rest after the digits is no longer than the text. -/
theorem afterDigits_length_le (s : List Char) : (afterDigits s).length ≤ s.length :=
  (List.dropWhile_sublist _).length_le

/-- Where there are leading digits, the rest after them is shorter than the text. -/
theorem afterDigits_length_lt {s : List Char} (h : leadingDigits s ≠ []) :
    (afterDigits s).length < s.length := by
  cases s with
  | nil => simp [leadingDigits] at h
  | cons c s =>
    have hc : c.isDigit = true := by
      by_cases hc : c.isDigit <;> simp_all [leadingDigits]
    have := afterDigits_length_le s
    simp only [afterDigits, List.dropWhile_cons_of_pos hc, List.length_cons] at *
    omega

/-- Reading a fraction goes on in the text. -/
theorem scanFraction_length {s rest : List Char} {digits : List Nat}
    (h : scanFraction s = some (digits, rest)) : rest.length ≤ s.length := by
  unfold scanFraction at h
  split at h
  · rename_i s
    have := afterDigits_length_le s
    split at h <;> simp_all
    obtain ⟨_, rfl⟩ := h
    omega
  · simp_all

/-- Reading the digits of an exponent goes on in the text. -/
theorem scanExponentDigits_length {s rest : List Char} {negative : Bool}
    {e : Option (Bool × List Nat)} (h : scanExponentDigits negative s = some (e, rest)) :
    rest.length ≤ s.length := by
  have := afterDigits_length_le s
  unfold scanExponentDigits at h
  split at h <;> simp_all

/-- Reading a signed exponent goes on in the text. -/
theorem scanSignedExponent_length {s rest : List Char} {e : Option (Bool × List Nat)}
    (h : scanSignedExponent s = some (e, rest)) : rest.length ≤ s.length := by
  unfold scanSignedExponent at h
  split at h <;> have := scanExponentDigits_length h <;> simp_all <;> omega

/-- Reading an exponent goes on in the text. -/
theorem scanExponent_length {s rest : List Char} {e : Option (Bool × List Nat)}
    (h : scanExponent s = some (e, rest)) : rest.length ≤ s.length := by
  unfold scanExponent at h
  split at h
  · have := scanSignedExponent_length h
    simp_all
    omega
  · have := scanSignedExponent_length h
    simp_all
    omega
  · simp_all

/-- A number takes up at least one digit. -/
theorem scanUnsigned_length {negative : Bool} {s rest : List Char} {n : NumberLiteral}
    (h : scanUnsigned negative s = some (n, rest)) : rest.length < s.length := by
  unfold scanUnsigned at h
  split at h
  case isFalse => simp at h
  rename_i hw
  simp only [bind, pure, Option.bind_eq_some_iff] at h
  obtain ⟨⟨_, _⟩, hf, ⟨_, _⟩, he, h⟩ := h
  have hd : leadingDigits s ≠ [] := by
    intro hd
    simp [hd, isWhole] at hw
  have h1 := afterDigits_length_lt hd
  have h2 := scanFraction_length hf
  have h3 := scanExponent_length he
  simp only [Option.some.injEq, Prod.mk.injEq] at h
  obtain ⟨_, rfl⟩ := h
  exact Nat.lt_of_le_of_lt h3 (Nat.lt_of_le_of_lt h2 h1)

/-- Every token takes up at least one character. -/
theorem scanToken_length {s rest : List Char} {t : Token}
    (h : scanToken s = some (t, rest)) : rest.length < s.length := by
  unfold scanToken at h
  split at h
  case h_10 =>
    simp only [Option.map_eq_some_iff] at h
    obtain ⟨⟨_, _⟩, hs, h⟩ := h
    have := scanString_length hs
    simp_all
    omega
  case h_11 =>
    simp only [Option.map_eq_some_iff] at h
    obtain ⟨⟨_, _⟩, hs, h⟩ := h
    have := scanUnsigned_length hs
    simp_all
    omega
  case h_12 =>
    simp only [Option.map_eq_some_iff] at h
    obtain ⟨⟨_, _⟩, hs, h⟩ := h
    have := scanUnsigned_length hs
    simp_all
  all_goals
    simp only [Option.some.injEq, Prod.mk.injEq] at h
    obtain ⟨_, rfl⟩ := h
    simp only [List.length_cons]
    omega

/-- The tokens of a text, which blanks may separate. -/
def tokens (s : List Char) : Option (List Token) :=
  match s with
  | [] => some []
  | c :: s =>
    if isBlank c then tokens s
    else match _scanned : scanToken (c :: s) with
      | none => none
      | some (t, rest) => (tokens rest).map (t :: ·)
termination_by s.length
decreasing_by
  · simp
  · exact scanToken_length _scanned

end Credentials.Json

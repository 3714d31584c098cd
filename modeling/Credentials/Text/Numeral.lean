/-!
# Numerals

Whole numbers as they are given on a command line: decimal digits after a sign that may be missing.
Leading zeros do not matter.
-/

namespace Credentials.Text

/-- The number that decimal digits spell; there has to be one. -/
def digits? (text : List Char) : Option Nat :=
  if text.isEmpty || !text.all Char.isDigit then none
  else some (text.foldl (fun n c => n * 10 + (c.toNat - '0'.toNat)) 0)

/-- A number from zero to a limit, which may have a plus sign. -/
def natural? (limit : Nat) (text : List Char) : Option Nat := do
  let n ← match text with
    | '+' :: rest => digits? rest
    | _ => digits? text
  guard (n ≤ limit)
  return n

/-- A number of 64 bits with either sign. -/
def integer? (text : List Char) : Option Int := do
  let n ← match text with
    | '-' :: rest => (digits? rest).map fun n => -(n : Int)
    | '+' :: rest => (digits? rest).map Int.ofNat
    | _ => (digits? text).map Int.ofNat
  guard (-0x8000000000000000 ≤ n ∧ n < 0x8000000000000000)
  return n

/--
Whether a text after a minus sign makes it a negative number rather than an option: digits with at
most one dot, not in front, and at most one exponent sign, neither in front nor at the end.
-/
def isMagnitude (text : List Char) : Bool := go true false false text
where
  /-- Goes on after the first character (`first`), a dot (`dot`), an exponent sign (`exponent`). -/
  go (first dot exponent : Bool) : List Char → Bool
    | [] => true
    | c :: rest =>
      if c.isDigit then go false dot exponent rest
      else if c == '.' then !dot && !exponent && !first && go false true exponent rest
      else if c == 'e' || c == 'E' then
        !exponent && !first && !rest.isEmpty && go false dot true rest
      else false

end Credentials.Text

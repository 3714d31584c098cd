/-!
# Hexadecimal digits

Digits are written in lower case and read in either case.
-/

namespace Credentials.Text

/-- The digit for the lowest four bits of a number. -/
def hexChar (n : Nat) : Char := Nat.digitChar (n % 16)

/-- The value of a digit. -/
def hexValue? (c : Char) : Option Nat :=
  if '0' ≤ c ∧ c ≤ '9' then some (c.toNat - '0'.toNat)
  else if 'a' ≤ c ∧ c ≤ 'f' then some (c.toNat - 'a'.toNat + 10)
  else if 'A' ≤ c ∧ c ≤ 'F' then some (c.toNat - 'A'.toNat + 10)
  else none

/-- The value of a character as a digit of a number system with up to sixteen digits. -/
def digitIn? (base : Nat) (c : Char) : Option Nat := (hexValue? c).filter (· < base)

/-- The number that some digits spell; no digits spell zero. -/
def numberIn? (base : Nat) (digits : List Char) : Option Nat :=
  digits.foldlM (fun n c => (digitIn? base c).map (n * base + ·)) 0

/-- The lowest `n` hexadecimal digits of a number. -/
def hexDigits : (n : Nat) → Nat → List Char
  | 0, _ => []
  | n + 1, value => hexDigits n (value / 16) ++ [hexChar value]

/-- Bytes as pairs of digits. -/
def hexText (bytes : List UInt8) : List Char := bytes.flatMap fun b => hexDigits 2 b.toNat

/-- The bytes that pairs of digits spell. -/
def ofHexText? : List Char → Option (List UInt8)
  | [] => some []
  | [_] => none
  | a :: b :: rest => do
    return .ofNat ((← hexValue? a) * 16 + (← hexValue? b)) :: (← ofHexText? rest)

end Credentials.Text

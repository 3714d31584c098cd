import Credentials.Json.Token
import Credentials.Number.Shortest

/-!
# JSON numbers

A number without fraction and exponent that fits a 64-bit word, signed or not, is that integer.
Every other number is a double. It is read quickly rather than exactly: as many digits as fit an
unsigned word are taken, and the word is scaled once by a power of ten, with a rounding at each
step.
-/

namespace Credentials.Json

open Credentials.Number

/-- The value of a number. -/
inductive Number where
  | integer (value : Int)
  | real (value : Binary64)
deriving DecidableEq, Repr, Inhabited

/-- The largest unsigned 64-bit word. -/
def maxWord : Nat := UInt64.size - 1

/-- The exponent of the largest power of ten that is a double. -/
def maxPower : Nat := 308

/--
Appends digits to a word for as long as it fits 64 bits. Gives the word and the number of digits
that have been left out.
-/
def appendDigits : Nat → List Nat → Nat × Nat
  | word, [] => (word, 0)
  | word, d :: digits =>
    if word * 10 + d ≤ maxWord then appendDigits (word * 10 + d) digits
    else (word, digits.length + 1)

/-- The value of a list of digits. -/
def digitsValue (digits : List Nat) : Nat := digits.foldl (fun n d => n * 10 + d) 0

/-- The double nearest to a power of ten that does not overflow. -/
def powerOfTen (k : Nat) : Magnitude := (Magnitude.ofNat? (Nat.pow 10 k)).getD .zero

/-- Divides by a power of ten, in steps of the largest one. -/
def scaleDown (x : Magnitude) (k : Nat) : Magnitude :=
  let divide (k : Nat) := (x.div? (powerOfTen k)).getD .zero
  if k ≤ maxPower then divide k
  else if x.isZero then x
  else scaleDown (divide maxPower) (k - maxPower)
termination_by k
decreasing_by simp only [maxPower] at *; omega

/-- Multiplies by a power of ten; none if the product is too large. -/
def scaleUp? (x : Magnitude) (k : Nat) : Option Magnitude :=
  if k ≤ maxPower then x.mul? (powerOfTen k) else if x.isZero then some x else none

/-- A word times a power of ten, as a double. -/
def scale? (word : Nat) (exponent : Int) : Option Magnitude := do
  let x ← Magnitude.ofNat? word
  if exponent < 0 then return scaleDown x exponent.natAbs else scaleUp? x exponent.natAbs

namespace NumberLiteral

/-- The exponent that is written, or zero. -/
def writtenExponent (n : NumberLiteral) : Int :=
  match n.exponent with
  | none => 0
  | some (negative, digits) => if negative then -digitsValue digits else digitsValue digits

/-- The number as a double; none if it is beyond the largest one. -/
def real? (n : NumberLiteral) : Option Number := do
  let (word, leftOut) := appendDigits 0 n.whole
  let (word, unread) := appendDigits word n.fraction
  let x ← scale? word (n.writtenExponent + leftOut - (n.fraction.length - unread : Nat))
  return .real ⟨n.negative, x⟩

/-- The number as an integer, if it is written as one and fits a word. Zero has no negative. -/
def integer? (n : NumberLiteral) : Option Number :=
  let word := digitsValue n.whole
  if n.fraction ≠ [] ∨ n.exponent.isSome then none
  else if n.negative then
    if 0 < word ∧ word ≤ 1 <<< 63 then some (.integer (-word)) else none
  else if word ≤ maxWord then some (.integer word)
  else none

/-- The value of a literal; none if it is beyond the largest double. -/
def value? (n : NumberLiteral) : Option Number := n.integer? <|> n.real?

end NumberLiteral

namespace Number

/-- Doubles are written without an exponent from a hundred-thousandth up to below 10^16. -/
def layout : Layout := ⟨-5, 15⟩

/-- The text of a number. -/
def text : Number → List Char
  | .integer value => (if value < 0 then ['-'] else []) ++ digitChars value.natAbs
  | .real value =>
    (if value.negative then ['-'] else []) ++
      if value.magnitude.isZero then ['0', '.', '0'] else layout.write value.magnitude.shortest

/-- The number if it is an integer that fits an unsigned 64-bit word. -/
def word? : Number → Option UInt64
  | .integer value => if 0 ≤ value then some (.ofNat value.toNat) else none
  | .real _ => none

end Number

end Credentials.Json

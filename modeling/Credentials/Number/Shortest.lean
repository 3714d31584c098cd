import Credentials.Number.Binary64

/-!
# The shortest decimal that reads back

Of all decimals that round to a double, the one with the fewest digits, and of those the nearest. It
is found on ever finer decimal grids, on each of which only the two neighbours of the number matter.
-/

namespace Credentials.Number

/-- A positive decimal number: `digits * 10 ^ exponent`. -/
structure Decimal where
  digits : Nat
  exponent : Int
deriving DecidableEq, Repr, Inhabited

namespace Magnitude

/-- Whether this is the smallest number with its exponent, whose lower neighbour is nearer. -/
def lowerGapIsHalf (x : Magnitude) : Bool :=
  x.significand == 1 <<< (precision - 1) && minExponent < x.exponent

/--
Whether a decimal rounds to the number. In quarters of the last place the number is four times its
significand, and the decimals that round to it reach up to two quarters above and below. The ends
belong to it when the significand is even.
-/
def readsBack (x : Magnitude) (d : Decimal) : Bool :=
  let e := x.exponent - 2
  let quarters (n : Nat) := n <<< e.toNat * Nat.pow 10 (-d.exponent).toNat
  let value := (d.digits * Nat.pow 10 d.exponent.toNat) <<< (-e).toNat
  let low := quarters (4 * x.significand - if x.lowerGapIsHalf then 1 else 2)
  let high := quarters (4 * x.significand + 2)
  if x.significand % 2 == 0 then low ≤ value && value ≤ high else low < value && value < high

/-- The neighbours of the number among the multiples of a power of ten, the nearer one first. -/
def neighbours (x : Magnitude) (exponent : Int) : Decimal × Decimal :=
  let num := x.ratio.1 * Nat.pow 10 (-exponent).toNat
  let den := x.ratio.2 * Nat.pow 10 exponent.toNat
  let below := num / den
  if roundDiv num den = below then (⟨below, exponent⟩, ⟨below + 1, exponent⟩)
  else (⟨below + 1, exponent⟩, ⟨below, exponent⟩)

/-- Tries the given number of grids, each ten times as fine as the one before it. -/
def searchGrids (x : Magnitude) : Nat → Int → Decimal
  | 0, exponent => (x.neighbours exponent).1
  | n + 1, exponent =>
    let (near, far) := x.neighbours exponent
    if x.readsBack near then near
    else if x.readsBack far then far
    else searchGrids x n (exponent - 1)

/-- The shortest decimal that reads back as the number. -/
def shortest (x : Magnitude) : Decimal :=
  let bits : Int := x.significand.log2 + x.exponent
  x.searchGrids 20 (bits * 30103 / 100000 + 2)

end Magnitude

/-- How the digits of a number are laid out. -/
structure Layout where
  /-- Powers of ten of the leading digit from which a number is written without an exponent. -/
  minPositional : Int
  maxPositional : Int

/-- The decimal digits of a number, most significant first. -/
def digitChars (n : Nat) : List Char := Nat.toDigits 10 n

/-- Writes a decimal: with a decimal point, or with one digit before it and an exponent. -/
def Layout.write (l : Layout) (d : Decimal) : List Char :=
  let digits := digitChars d.digits
  let lead : Int := d.exponent + digits.length - 1
  if l.minPositional ≤ lead ∧ lead ≤ l.maxPositional then
    if lead < 0 then
      '0' :: '.' :: List.replicate (-lead - 1).toNat '0' ++ digits
    else
      let whole := digits.take (lead.toNat + 1)
      let rest := digits.drop (lead.toNat + 1)
      whole ++ List.replicate (lead.toNat + 1 - whole.length) '0' ++
        '.' :: if rest.isEmpty then ['0'] else rest
  else
    let rest := digits.drop 1
    digits.take 1 ++ (if rest.isEmpty then [] else '.' :: rest) ++
      'e' :: (if lead < 0 then '-' else '+') :: digitChars lead.natAbs

end Credentials.Number

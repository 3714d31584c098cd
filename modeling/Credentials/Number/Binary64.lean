/-!
# Double precision numbers

Finite binary floating point numbers with 53 significant bits, and the rounding of an exact fraction
to the nearest of them. Everything is exact arithmetic on natural numbers.
-/

namespace Credentials.Number

/-- A finite double without its sign: `significand * 2 ^ exponent`. -/
structure Magnitude where
  significand : Nat
  exponent : Int
deriving DecidableEq, Repr, Inhabited

/-- A finite double. -/
structure Binary64 where
  negative : Bool
  magnitude : Magnitude
deriving DecidableEq, Repr, Inhabited

/-- The quotient to the nearest whole number; a half goes to the even neighbour. -/
def roundDiv (num den : Nat) : Nat :=
  let q := num / den
  let r := num % den
  if 2 * r < den then q else if den < 2 * r then q + 1 else q + q % 2

/-- The quotient to the nearest whole number; a half is rounded up. -/
def roundHalfUp (num den : Nat) : Nat := (2 * num + den) / (2 * den)

namespace Magnitude

/-- Significant bits of a normal number. -/
def precision : Nat := 53

/-- Exponent of the numbers next to zero. -/
def minExponent : Int := -1074

/-- Exponent of the largest numbers. -/
def maxExponent : Int := 971

/-- Zero. -/
def zero : Magnitude := ⟨0, minExponent⟩

/-- Whether the number is zero. -/
def isZero (x : Magnitude) : Bool := x.significand == 0

/-- The number as a fraction. -/
def ratio (x : Magnitude) : Nat × Nat :=
  (x.significand <<< x.exponent.toNat, 1 <<< (-x.exponent).toNat)

/--
The double nearest to `num / den`, a half going to the even neighbour; none if that is beyond the
largest one.
-/
def ofRatio? (num den : Nat) : Option Magnitude :=
  if num = 0 then some zero
  else
    let scaled (e : Int) : Nat × Nat := (num <<< (-e).toNat, den <<< e.toNat)
    let low := max ((num.log2 : Int) - den.log2 - precision) minExponent
    let e := if (scaled low).2 <<< precision ≤ (scaled low).1 then low + 1 else low
    let m := roundDiv (scaled e).1 (scaled e).2
    let x : Magnitude := if m = 1 <<< precision then ⟨1 <<< (precision - 1), e + 1⟩ else ⟨m, e⟩
    if maxExponent < x.exponent then none else some x

/-- The double nearest to a natural number. -/
def ofNat? (n : Nat) : Option Magnitude := ofRatio? n 1

/-- The rounded product. -/
def mul? (x y : Magnitude) : Option Magnitude :=
  ofRatio? (x.ratio.1 * y.ratio.1) (x.ratio.2 * y.ratio.2)

/-- The rounded quotient. -/
def div? (x y : Magnitude) : Option Magnitude :=
  ofRatio? (x.ratio.1 * y.ratio.2) (x.ratio.2 * y.ratio.1)

end Magnitude

end Credentials.Number

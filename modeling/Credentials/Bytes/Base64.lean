/-!
# Base64

Bytes as text, in the alphabet of URLs without padding and in the standard alphabet with padding.
Only one text is read back for each byte string: a text whose last character carries bits that
belong to no byte is refused.
-/

namespace Credentials.Bytes.Base64

/-- The two characters by which alphabets differ. -/
structure Alphabet where
  char62 : Char
  char63 : Char

/-- The alphabet for use in URLs. -/
def urlSafe : Alphabet := ⟨'-', '_'⟩

/-- The standard alphabet. -/
def standard : Alphabet := ⟨'+', '/'⟩

namespace Alphabet

/-- The character for a six-bit digit. -/
def char (a : Alphabet) (digit : Nat) : Char :=
  if digit < 26 then .ofNat ('A'.toNat + digit)
  else if digit < 52 then .ofNat ('a'.toNat + (digit - 26))
  else if digit < 62 then .ofNat ('0'.toNat + (digit - 52))
  else if digit = 62 then a.char62
  else a.char63

/-- The six-bit digit that a character stands for. -/
def digit? (a : Alphabet) (c : Char) : Option Nat :=
  if 'A' ≤ c ∧ c ≤ 'Z' then some (c.toNat - 'A'.toNat)
  else if 'a' ≤ c ∧ c ≤ 'z' then some (c.toNat - 'a'.toNat + 26)
  else if '0' ≤ c ∧ c ≤ '9' then some (c.toNat - '0'.toNat + 52)
  else if c = a.char62 then some 62
  else if c = a.char63 then some 63
  else none

/-- Writes bytes without padding, three bytes to four characters. -/
def encode (a : Alphabet) : List UInt8 → List Char
  | [] => []
  | [x] => [a.char (x.toNat / 4), a.char (x.toNat % 4 * 16)]
  | [x, y] =>
    [a.char (x.toNat / 4), a.char (x.toNat % 4 * 16 + y.toNat / 16), a.char (y.toNat % 16 * 4)]
  | x :: y :: z :: rest =>
    a.char (x.toNat / 4) :: a.char (x.toNat % 4 * 16 + y.toNat / 16) ::
      a.char (y.toNat % 16 * 4 + z.toNat / 64) :: a.char (z.toNat % 64) :: encode a rest

/-- Reads the text of some bytes without padding. -/
def decode? (a : Alphabet) : List Char → Option (List UInt8)
  | [] => some []
  | [_] => none
  | [p, q] => do
    let p ← a.digit? p
    let q ← a.digit? q
    guard (q % 16 = 0)
    return [.ofNat (p * 4 + q / 16)]
  | [p, q, r] => do
    let p ← a.digit? p
    let q ← a.digit? q
    let r ← a.digit? r
    guard (r % 4 = 0)
    return [.ofNat (p * 4 + q / 16), .ofNat (q % 16 * 16 + r / 4)]
  | p :: q :: r :: s :: rest => do
    let p ← a.digit? p
    let q ← a.digit? q
    let r ← a.digit? r
    let s ← a.digit? s
    let bytes ← decode? a rest
    return .ofNat (p * 4 + q / 16) :: .ofNat (q % 16 * 16 + r / 4) ::
      .ofNat (r % 4 * 64 + s) :: bytes

/-- How many padding characters fill a text up to a whole number of fours. -/
def padding (length : Nat) : Nat := (4 - length % 4) % 4

/-- Writes bytes with padding. -/
def encodePadded (a : Alphabet) (bytes : List UInt8) : List Char :=
  let text := a.encode bytes
  text ++ List.replicate (padding text.length) '='

/-- Reads the text of some bytes; exactly the right amount of padding is required. -/
def decodePadded? (a : Alphabet) (text : List Char) : Option (List UInt8) :=
  let body := text.takeWhile (· != '=')
  if text = body ++ List.replicate (padding body.length) '=' then a.decode? body else none

end Alphabet

end Credentials.Bytes.Base64

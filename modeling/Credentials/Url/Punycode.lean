/-!
# Punycode

A label with characters beyond ASCII as ASCII: first its ASCII characters, then, in the order of
their code points, the others, each as a number that tells how far to go in code point and place
from the one before. A number is a run of base-36 digits whose weights adapt to the numbers so far.
-/

namespace Credentials.Url.Punycode

/-- The character for a digit: letters come before figures. -/
def digitChar (d : Nat) : Char :=
  if d < 26 then .ofNat ('a'.toNat + d) else .ofNat ('0'.toNat + (d - 26))

/-- The digit that a lower-case character stands for. -/
def digit? (c : Char) : Option Nat :=
  if 'a' ≤ c ∧ c ≤ 'z' then some (c.toNat - 'a'.toNat)
  else if '0' ≤ c ∧ c ≤ '9' then some (c.toNat - '0'.toNat + 26)
  else none

/-- The least digit that is not the last one of its number. -/
def threshold (position bias : Nat) : Nat := min 26 (max 1 (position - bias))

/-- Where the digits of the next number are expected to end, given the number just seen. -/
def adapt (delta points : Nat) (isFirst : Bool) : Nat :=
  let delta := if isFirst then delta / 700 else delta / 2
  shrink (delta + delta / points) 0
where
  /-- Counts how often 35 goes into a number before it is small. -/
  shrink (delta k : Nat) : Nat :=
    if 455 < delta then shrink (delta / 35) (k + 36) else k + 36 * delta / (delta + 38)
  termination_by delta
  decreasing_by omega

/-- Where a reader is in the digits of a number. -/
structure Cursor where
  /-- Characters so far. -/
  output : List Char
  /-- Code point of the next character. -/
  point : Nat
  /-- The number so far, and what it was when its first digit was read. -/
  index : Nat
  start : Nat
  weight : Nat
  position : Nat
  bias : Nat

/-- The reader before the first digit. -/
def Cursor.initial (basic : List Char) : Cursor := ⟨basic, 128, 0, 0, 1, 36, 72⟩

/-- Takes in one digit. The last digit of a number puts a character in its place. -/
def Cursor.read? (s : Cursor) (digit : Nat) : Option Cursor :=
  let t := threshold s.position s.bias
  let index := s.index + digit * s.weight
  if t ≤ digit then
    some { s with index, weight := s.weight * (36 - t), position := s.position + 36 }
  else
    let points := s.output.length + 1
    let point := s.point + index / points
    let place := index % points
    if point.isValidChar then
      some ⟨s.output.insertIdx place (.ofNat point), point, place + 1, place + 1, 1, 36,
        adapt (index - s.start) points (s.start == 0)⟩
    else none

/-- The label that some ASCII text stands for. -/
def decode? (text : List Char) : Option (List Char) := do
  let digits := (text.reverse.takeWhile (· != '-')).reverse
  let basic := text.take (text.length - digits.length - 1)
  let digits ← digits.mapM digit?
  let cursor ← digits.foldlM Cursor.read? (.initial basic)
  guard (cursor.position = 36)
  return cursor.output

/-- The digits of a number. -/
def encodeNumber (bias position number : Nat) : List Char :=
  let t := threshold position bias
  if number < t then [digitChar number]
  else
    digitChar (t + (number - t) % (36 - t)) ::
      encodeNumber bias (position + 36) ((number - t) / (36 - t))
termination_by number
decreasing_by
  have ht : 1 ≤ threshold position bias := by simp only [threshold]; omega
  have := Nat.div_le_self (number - threshold position bias) (36 - threshold position bias)
  omega

/-- Where a writer is in a label. -/
structure Writer where
  digits : List Char
  /-- Places passed since the last number. -/
  delta : Nat
  /-- Characters handled so far. -/
  handled : Nat
  bias : Nat

/-- Passes one character of the label while characters with code point `point` are written. -/
def Writer.pass (basic point : Nat) (s : Writer) (c : Char) : Writer :=
  if c.toNat < point then { s with delta := s.delta + 1 }
  else if c.toNat = point then
    ⟨s.digits ++ encodeNumber s.bias 36 s.delta, 0, s.handled + 1,
      adapt s.delta (s.handled + 1) (s.handled == basic)⟩
  else s

/-- Writes the characters with the given code points, from the code point `next` on. -/
def Writer.run (label : List Char) (basic : Nat) : List Nat → Nat → Writer → Writer
  | [], _, s => s
  | point :: points, next, s =>
    let s := { s with delta := s.delta + (point - next) * (s.handled + 1) }
    let s := label.foldl (pass basic point) s
    run label basic points (point + 1) { s with delta := s.delta + 1 }

/-- The ASCII text of a label; none unless the label can be read back. -/
def encode? (label : List Char) : Option (List Char) :=
  let basic := label.filter (·.toNat < 128)
  let points := ((label.filter (128 ≤ ·.toNat)).map Char.toNat).mergeSort.eraseReps
  let digits := (Writer.run label basic.length points 128 ⟨[], 0, basic.length, 72⟩).digits
  let text := basic ++ (if basic.isEmpty then [] else ['-']) ++ digits
  if decode? text = some label then some text else none

end Credentials.Url.Punycode

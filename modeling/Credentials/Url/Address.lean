import Credentials.Text.Hex

/-!
# Numeric hosts

IPv4 addresses in all the forms in which they may be written in a URL, and IPv6 addresses, with the
one form that each of them is written in again.
-/

namespace Credentials.Url

open Credentials.Text

namespace Ipv4

/-- One past the largest address. -/
def size : Nat := UInt32.size

/-- A number: hexadecimal after `0x`, octal after another zero, and otherwise decimal. -/
def number? : List Char → Option Nat
  | [] => none
  | '0' :: 'x' :: digits => numberIn? 16 digits
  | '0' :: 'X' :: digits => numberIn? 16 digits
  | '0' :: c :: digits => numberIn? 8 (c :: digits)
  | digits => numberIn? 10 digits

/-- The parts between the dots; one dot at the end does not count. -/
def parts (host : List Char) : List (List Char) :=
  let parts := host.splitOn '.'
  if parts.length > 1 ∧ parts.getLast? = some [] then parts.dropLast else parts

/-- A host is numeric if its last part is a number or has only decimal digits. -/
def isNumeric (host : List Char) : Bool :=
  match (parts host).getLast? with
  | none => false
  | some last => (!last.isEmpty && last.all Char.isDigit) || (number? last).isSome

/--
The address of up to four numbers. All but the last one are a byte each, and the last one fills the
bytes that are left.
-/
def ofNumbers? (numbers : List Nat) : Option Nat := do
  let last ← numbers.getLast?
  let bytes := numbers.dropLast
  guard (numbers.length ≤ 4 ∧ bytes.all (· < 256) ∧ last < Nat.pow 256 (4 - bytes.length))
  return bytes.foldl (fun n b => n * 256 + b) 0 * Nat.pow 256 (4 - bytes.length) + last

/-- The address that a numeric host stands for. -/
def parse? (host : List Char) : Option Nat := do
  ofNumbers? (← (parts host).mapM number?)

/-- The address as four decimal bytes. -/
def text (address : Nat) : List Char :=
  ['.'].intercalate <|
    [address >>> 24, address >>> 16 % 256, address >>> 8 % 256, address % 256].map
      (Nat.toDigits 10)

end Ipv4

namespace Ipv6

/-- Pieces of an address, each of sixteen bits. -/
def length : Nat := 8

/-- A piece: one to four hexadecimal digits. -/
def piece? (digits : List Char) : Option Nat :=
  if digits.isEmpty ∨ 4 < digits.length then none else numberIn? 16 digits

/-- A decimal byte without superfluous zeros. -/
def byte? (digits : List Char) : Option Nat := do
  guard (digits ≠ [] ∧ (digits.head? = some '0' → digits.length = 1))
  let n ← numberIn? 10 digits
  guard (n < 256)
  return n

/-- The two pieces that an IPv4 address at the end stands for. -/
def tail? (text : List Char) : Option (List Nat) :=
  match (text.splitOn '.').mapM byte? with
  | some [a, b, c, d] => some [a * 256 + b, c * 256 + d]
  | _ => none

/-- The pieces between colons. Only the last ones may be written as an IPv4 address. -/
def pieces? (allowTail : Bool) : List (List Char) → Option (List Nat)
  | [] => some []
  | [last] =>
    if allowTail ∧ last.contains '.' then tail? last else (piece? last).map ([·])
  | p :: rest => do return (← piece? p) :: (← pieces? allowTail rest)

/-- The pieces that a text without a double colon spells; no text spells no pieces. -/
def run? (allowTail : Bool) (text : List Char) : Option (List Nat) :=
  if text.isEmpty then some [] else pieces? allowTail (text.splitOn ':')

/-- Splits a text at its first double colon. -/
def splitDoubleColon : List Char → Option (List Char × List Char)
  | [] => none
  | ':' :: ':' :: rest => some ([], rest)
  | c :: rest => (splitDoubleColon rest).map fun (left, right) => (c :: left, right)

/-- The address that a text spells. A double colon stands for at least one piece that is zero. -/
def parse? (text : List Char) : Option (List Nat) :=
  match splitDoubleColon text with
  | none => do
    let pieces ← run? true text
    guard (pieces.length = length)
    return pieces
  | some (left, right) => do
    let left ← run? false left
    let right ← run? true right
    guard (left.length + right.length < length)
    return left ++ List.replicate (length - left.length - right.length) 0 ++ right

/-- How many zeros a list begins with. -/
def leadingZeros (pieces : List Nat) : Nat := (pieces.takeWhile (· == 0)).length

/-- The place and length of the first longest run of zeros. -/
def longestZeros (pieces : List Nat) : Nat × Nat :=
  (List.range pieces.length).foldl (fun best i =>
    let run := leadingZeros (pieces.drop i)
    if best.2 < run then (i, run) else best) (0, 0)

/-- Pieces in hexadecimal, separated by colons. -/
def runText (pieces : List Nat) : List Char :=
  [':'].intercalate (pieces.map (Nat.toDigits 16))

/-- The address with its first longest run of at least two zeros as a double colon. -/
def text (pieces : List Nat) : List Char :=
  let (start, run) := longestZeros pieces
  if run < 2 then runText pieces
  else runText (pieces.take start) ++ [':', ':'] ++ runText (pieces.drop (start + run))

end Ipv6

end Credentials.Url

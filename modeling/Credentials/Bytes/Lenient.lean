import Credentials.Bytes.Utf8

/-!
# Text from any bytes

A reader of UTF-8 that never fails. Where bytes are not the form of a character, the longest run of
them that could have begun one, or else a single byte, is read as the replacement character.
-/

namespace Credentials.Bytes

/-- What is read in place of bytes that are no text. -/
def replacement : Char := '\ufffd'

/--
The ranges in which the bytes lie that follow the first byte of a character. The first range is
narrower where the form would not be the shortest, would be a surrogate, or would be beyond the last
code point.
-/
def followers? (lead : UInt8) : Option (List (Nat × Nat)) :=
  let n := lead.toNat
  if n < 0x80 then some []
  else if n < 0xc2 then none
  else if n < 0xe0 then some [(0x80, 0xbf)]
  else if n < 0xf0 then
    some [(if n = 0xe0 then 0xa0 else 0x80, if n = 0xed then 0x9f else 0xbf), (0x80, 0xbf)]
  else if n < 0xf5 then
    some [(if n = 0xf0 then 0x90 else 0x80, if n = 0xf4 then 0x8f else 0xbf), (0x80, 0xbf),
      (0x80, 0xbf)]
  else none

/-- The first bytes of a list, as long as they lie in the ranges given for them. -/
def takeWithin : List (Nat × Nat) → List UInt8 → List UInt8
  | (low, high) :: ranges, b :: rest =>
    if low ≤ b.toNat ∧ b.toNat ≤ high then b :: takeWithin ranges rest else []
  | _, _ => []

/-- Reads bytes as text, whatever they are. -/
def ofUtf8Lenient : List UInt8 → List Char
  | [] => []
  | lead :: rest =>
    match followers? lead with
    | none => replacement :: ofUtf8Lenient rest
    | some ranges =>
      let tail := takeWithin ranges rest
      (ofUtf8? (lead :: tail)).getD [replacement] ++ ofUtf8Lenient (rest.drop tail.length)
termination_by bytes => bytes.length
decreasing_by all_goals simp only [List.length_cons, List.length_drop]; omega

end Credentials.Bytes

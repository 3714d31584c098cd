/-!
# Blanks at the ends

Text is freed of all characters that are white space, and bytes of those that are so in ASCII.
-/

namespace Credentials.Text

/-- Whether a character is white space. -/
def isBlank (c : Char) : Bool :=
  let n := c.toNat
  (0x09 ≤ n && n ≤ 0x0d) || n == 0x20 || n == 0x85 || n == 0xa0 || n == 0x1680 ||
    (0x2000 ≤ n && n ≤ 0x200a) || n == 0x2028 || n == 0x2029 || n == 0x202f || n == 0x205f ||
    n == 0x3000

/-- Whether a byte is white space: a tab, a line feed, a form feed, a carriage return or a blank. -/
def isBlankByte (b : UInt8) : Bool := b == 0x09 || b == 0x0a || b == 0x0c || b == 0x0d || b == 0x20

/-- Drops items that satisfy a condition at both ends. -/
def trimBy {α : Type} (p : α → Bool) (items : List α) : List α :=
  ((items.dropWhile p).reverse.dropWhile p).reverse

/-- Text without white space at its ends. -/
def trim (text : List Char) : List Char := trimBy isBlank text

/-- Bytes without white space at their ends. -/
def trimBytes (bytes : List UInt8) : List UInt8 := trimBy isBlankByte bytes

end Credentials.Text

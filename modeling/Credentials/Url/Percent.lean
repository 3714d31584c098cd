import Credentials.Text.Hex

/-!
# Percent-encoding

Bytes that may not stand in a part of a URL are written as a percent sign and two hexadecimal
digits. Which ones those are depends on the part. Query parameters have an encoding of their own.
-/

namespace Credentials.Url

/-- A percent sign and the two digits of a byte, in upper case. -/
def escapeByte (b : UInt8) : List Char :=
  '%' :: (Text.hexDigits 2 b.toNat).map Char.toUpper

/-- Escapes all bytes of a character. -/
def escapeChar (c : Char) : List Char := (String.utf8EncodeChar c).flatMap escapeByte

/-- A part of a URL, by what is escaped in it beside control and non-ASCII characters. -/
structure Part where
  reserved : List Char

namespace Part

/-- Part after the number sign. -/
def fragment : Part := ⟨[' ', '"', '<', '>', '\x60']⟩

/-- Part after the question mark. -/
def query : Part := ⟨[' ', '"', '#', '<', '>', '\x27']⟩

/-- Segments of the path. -/
def path : Part := ⟨fragment.reserved ++ ['#', '?', '\x7b', '\x7d']⟩

/-- Name and password of a user. -/
def userinfo : Part := ⟨path.reserved ++ ['/', ':', ';', '=', '@', '[', '\\', ']', '^', '|']⟩

/-- Whether a character has to be escaped. -/
def escapes (p : Part) (c : Char) : Bool :=
  c.toNat < 0x20 || 0x7f ≤ c.toNat || p.reserved.contains c

/-- Writes a text so that it can stand in the part. Percent signs are left alone. -/
def encode (p : Part) (text : List Char) : List Char :=
  text.flatMap fun c => if p.escapes c then escapeChar c else [c]

end Part

/-- The bytes of a text in which escaped bytes are read; any other percent sign is left alone. -/
def percentDecode : List Char → List UInt8
  | [] => []
  | '%' :: a :: b :: rest =>
    match Text.hexValue? a, Text.hexValue? b with
    | some high, some low => .ofNat (high * 16 + low) :: percentDecode rest
    | _, _ => String.utf8EncodeChar '%' ++ percentDecode (a :: b :: rest)
  | c :: rest => String.utf8EncodeChar c ++ percentDecode rest

namespace Form

/-- Whether a character stands for itself in a query parameter. -/
def isPlain (c : Char) : Bool :=
  c.isAlphanum || c == '*' || c == '-' || c == '.' || c == '_'

/-- Writes the name or the value of a query parameter. A blank is written as a plus sign. -/
def encode (text : List Char) : List Char :=
  text.flatMap fun c => if isPlain c then [c] else if c = ' ' then ['+'] else escapeChar c

/-- Appends a parameter to a query. -/
def append (query name value : List Char) : List Char :=
  query ++ (if query.isEmpty then [] else ['&']) ++ encode name ++ '=' :: encode value

end Form

end Credentials.Url

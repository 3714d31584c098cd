import Credentials.Bytes.Base64
import Credentials.Bytes.Utf8
import Credentials.Token.Algorithm

/-!
# The three parts of a token

A token is a header, a payload and a signature, each in base64, with dots between them. The
signature is one of the header and the payload as they are written.
-/

namespace Credentials.Token

open Credentials.Bytes

/-- The three parts of a token as they are written. -/
structure Compact where
  header : List Char
  payload : List Char
  signature : List Char
deriving DecidableEq, Repr

/-- Splits a text at the last place of a character. -/
def splitLast? (mark : Char) : List Char → Option (List Char × List Char)
  | [] => none
  | c :: rest =>
    match splitLast? mark rest with
    | some (before, after) => some (c :: before, after)
    | none => if c = mark then some ([], rest) else none

namespace Compact

/-- Splits a text at its last two dots. -/
def parse? (text : List Char) : Option Compact := do
  let (rest, signature) ← splitLast? '.' text
  let (header, payload) ← splitLast? '.' rest
  return ⟨header, payload, signature⟩

/-- The text that is signed. -/
def message (c : Compact) : List Char := c.header ++ '.' :: c.payload

/-- The whole token. -/
def text (c : Compact) : List Char := c.message ++ '.' :: c.signature

end Compact

/-- Bytes as a part of a token. -/
def encodePart (bytes : List UInt8) : List Char := Base64.urlSafe.encode bytes

/-- The bytes of a part. -/
def decodePart? (part : List Char) : Option (List UInt8) := Base64.urlSafe.decode? part

/-- The token with a header and a payload, given as text, signed under a key. -/
def signed (a : Algorithm) (key : List UInt8) (header payload : List Char) : Compact :=
  let header := encodePart (utf8 header)
  let payload := encodePart (utf8 payload)
  ⟨header, payload, encodePart (a.sign key (utf8 (header ++ '.' :: payload)))⟩

end Credentials.Token

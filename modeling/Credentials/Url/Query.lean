import Credentials.Bytes.Lenient
import Credentials.Url.Percent

/-!
# Reading query parameters

The names and values that the query of a URL spells. Parameters are separated by ampersands, and an
equals sign ends a name.
-/

namespace Credentials.Url.Form

/-- Reads the name or the value of a parameter. A plus sign stands for a blank. -/
def decode (text : List Char) : List Char :=
  Bytes.ofUtf8Lenient (percentDecode (text.map fun c => if c = '+' then ' ' else c))

/-- A parameter, whose value may be missing. -/
def parameter (text : List Char) : List Char × List Char :=
  (decode (text.takeWhile (· != '=')), decode ((text.dropWhile (· != '=')).drop 1))

/-- The parameters of a query. Nothing stands for no parameter. -/
def pairs (query : List Char) : List (List Char × List Char) :=
  ((query.splitOn '&').filter (!·.isEmpty)).map parameter

end Credentials.Url.Form

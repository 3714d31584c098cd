import Credentials.Json.Value
import Credentials.Text.Hex

/-!
# JSON text

Values as text: compactly, without any blanks, or with every item and member on a line of its own.
-/

namespace Credentials.Json

/--
How a character is written in a string. Only the quote, the backslash and the control characters
below U+0020 are escaped, by a letter where there is one.
-/
def quoteChar (c : Char) : List Char :=
  if c = '"' then ['\\', '"']
  else if c = '\\' then ['\\', '\\']
  else if 0x20 ≤ c.toNat then [c]
  else if c = '\x08' then ['\\', 'b']
  else if c = '\t' then ['\\', 't']
  else if c = '\n' then ['\\', 'n']
  else if c = '\x0c' then ['\\', 'f']
  else if c = '\r' then ['\\', 'r']
  else '\\' :: 'u' :: Text.hexDigits 4 c.toNat

/-- A string with its quotes. -/
def quote (s : String) : List Char := '"' :: s.toList.flatMap quoteChar ++ ['"']

/-- A truth value. -/
def boolText (b : Bool) : List Char := (if b then "true" else "false").toList

namespace Value

mutual

/-- Text without blanks. -/
def compact : Value → List Char
  | .null => ['n', 'u', 'l', 'l']
  | .bool b => boolText b
  | .number n => n.text
  | .string s => quote s
  | .array items => '[' :: compactItems items ++ [']']
  | .object members => '\x7b' :: compactMembers members ++ ['\x7d']

/-- Items, separated by commas. -/
def compactItems : List Value → List Char
  | [] => []
  | [v] => compact v
  | v :: items => compact v ++ ',' :: compactItems items

/-- Members, separated by commas. -/
def compactMembers : List (String × Value) → List Char
  | [] => []
  | [(name, v)] => quote name ++ ':' :: compact v
  | (name, v) :: members => quote name ++ ':' :: compact v ++ ',' :: compactMembers members

end

/-- A new line, with two blanks for every array or object that is open. -/
def newLine (level : Nat) : List Char := '\n' :: List.replicate (2 * level) ' '

mutual

/-- Text with every item and member on a line of its own. -/
def pretty (level : Nat) : Value → List Char
  | .null => ['n', 'u', 'l', 'l']
  | .bool b => boolText b
  | .number n => n.text
  | .string s => quote s
  | .array [] => ['[', ']']
  | .array items => '[' :: prettyItems (level + 1) items ++ newLine level ++ [']']
  | .object [] => ['\x7b', '\x7d']
  | .object members => '\x7b' :: prettyMembers (level + 1) members ++ newLine level ++ ['\x7d']

/-- Items, each on its line. -/
def prettyItems (level : Nat) : List Value → List Char
  | [] => []
  | [v] => newLine level ++ pretty level v
  | v :: items => newLine level ++ pretty level v ++ ',' :: prettyItems level items

/-- Members, each on its line. -/
def prettyMembers (level : Nat) : List (String × Value) → List Char
  | [] => []
  | [(name, v)] => newLine level ++ quote name ++ ':' :: ' ' :: pretty level v
  | (name, v) :: members =>
    newLine level ++ quote name ++ ':' :: ' ' :: pretty level v ++
      ',' :: prettyMembers level members

end

end Value

end Credentials.Json

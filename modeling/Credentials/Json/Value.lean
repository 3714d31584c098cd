import Credentials.Bytes.Utf8
import Credentials.Json.Number
import Credentials.Json.Tree

/-!
# JSON values

A value is a tree whose strings and numbers have been read. Reading fails where a string holds half
of a surrogate pair, where a number is beyond the largest double, and where values are nested too
deeply.
-/

namespace Credentials.Json

/-- A tree whose literals have been read. -/
abbrev Value := Tree String Number

/-- The first halves of surrogate pairs. -/
def isHighSurrogate (code : Nat) : Bool := 0xd800 ≤ code && code ≤ 0xdbff

/-- The second halves of surrogate pairs. -/
def isLowSurrogate (code : Nat) : Bool := 0xdc00 ≤ code && code ≤ 0xdfff

/-- The character that a surrogate pair stands for. -/
def joinSurrogates (high low : Nat) : Char :=
  .ofNat (0x10000 + (high - 0xd800) * 0x400 + (low - 0xdc00))

/-- The characters of a string literal; none if a surrogate stands alone. -/
def readString? : StringLiteral → Option (List Char)
  | [] => some []
  | .char c :: parts => (readString? parts).map (c :: ·)
  | .unit high :: .unit low :: parts =>
    if isHighSurrogate high then
      if isLowSurrogate low then (readString? parts).map (joinSurrogates high low :: ·) else none
    else if isLowSurrogate high then none
    else (readString? (.unit low :: parts)).map (.ofNat high :: ·)
  | .unit code :: parts =>
    if isHighSurrogate code || isLowSurrogate code then none
    else (readString? parts).map (.ofNat code :: ·)

/-- The text of a string literal. -/
def StringLiteral.text? (s : StringLiteral) : Option String := (readString? s).map .ofList

namespace Value

mutual

/-- Reads the literals of a tree. -/
def ofSyntax? : Syntax → Option Value
  | .null => some .null
  | .bool b => some (.bool b)
  | .number n => n.value?.map .number
  | .string s => (StringLiteral.text? s).map .string
  | .array items => (ofItems? items).map .array
  | .object members => (ofMembers? members).map .object

/-- Reads the literals of some items. -/
def ofItems? : List Syntax → Option (List Value)
  | [] => some []
  | v :: items => do return (← ofSyntax? v) :: (← ofItems? items)

/-- Reads the literals of some members. -/
def ofMembers? : List (StringLiteral × Syntax) → Option (List (String × Value))
  | [] => some []
  | (name, v) :: members => do
    return (← name.text?, ← ofSyntax? v) :: (← ofMembers? members)

end

end Value

/-- Arrays and objects may lie inside one another up to this many times. -/
def maxDepth : Nat := 127

/-- The value that a text spells. -/
def parse? (text : List Char) : Option Value := do
  let tree ← parseSyntax? text
  guard (tree.depth ≤ maxDepth)
  Value.ofSyntax? tree

/-- The value that some bytes spell, which have to be UTF-8. -/
def parseBytes? (bytes : List UInt8) : Option Value := do
  parse? (← Bytes.ofUtf8? bytes)

end Credentials.Json

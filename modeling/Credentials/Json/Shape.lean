import Credentials.Json.Value

/-!
# Shapes of values

What a value is, if it is of some kind, and conditions on the kind of a value, from which readers of
JSON put theirs together.
-/

namespace Credentials.Json

namespace Value

/-- A word as a value. -/
def ofWord (w : UInt64) : Value := .number (.integer w.toNat)

/-- The word that a value is. -/
def word? : Value → Option UInt64
  | .number n => n.word?
  | _ => none

/-- The text that a value is. -/
def string? : Value → Option String
  | .string s => some s
  | _ => none

end Value

/-- Whether a value is a string. -/
def isString : Value → Bool
  | .string _ => true
  | _ => false

/-- Whether a value is null or satisfies a condition. -/
def isNullOr (p : Value → Bool) : Value → Bool
  | .null => true
  | v => p v

/-- Whether a value is an array whose items satisfy a condition. -/
def isArrayOf (p : Value → Bool) : Value → Bool
  | .array items => items.all p
  | _ => false

/-- Whether a value is an array or an object. -/
def isComposite : Value → Bool
  | .array _ => true
  | .object _ => true
  | _ => false

/-- Whether a value is an array or an object with something in it. -/
def isFilled : Value → Bool
  | .array items => !items.isEmpty
  | .object members => !members.isEmpty
  | _ => false

/-- The name that stands for a choice: a string, or an object with null under its only name. -/
def choice? : Value → Option String
  | .string name => some name
  | .object [(name, .null)] => some name
  | _ => none

/-- How often a name occurs among members. -/
def countName {α : Type} (name : String) (members : List (String × α)) : Nat :=
  (members.filter (·.1 == name)).length

end Credentials.Json

import Credentials.Json.Value

/-!
# Records as JSON

A record is an object with a member for each of its fields, in any order. Members with other names
do not matter, not even if their values could not be read. Some records may also be written as an
array of their fields in order.
-/

namespace Credentials.Json

/-- The members of an object with their names read. -/
def namedMembers? (members : List (StringLiteral × Syntax)) : Option (List (String × Syntax)) :=
  members.mapM fun (name, v) => name.text?.map (·, v)

/-- The only value under a name. -/
def only? {α : Type} (name : String) (members : List (String × α)) : Option α :=
  match members.filter (·.1 == name) with
  | [(_, v)] => some v
  | _ => none

/-- The fields of a record that may be written as an array. -/
def fields? (names : List String) : Syntax → Option (List Syntax)
  | .array items => if items.length = names.length then some items else none
  | .object members => do
    let members ← namedMembers? members
    names.mapM (only? · members)
  | _ => none

/-- The string that a tree spells. -/
def Syntax.string? : Syntax → Option String
  | .string s => s.text?
  | _ => none

/-- The unsigned 64-bit word that a tree spells. -/
def Syntax.word? : Syntax → Option UInt64
  | .number n => n.value?.bind Number.word?
  | _ => none

end Credentials.Json

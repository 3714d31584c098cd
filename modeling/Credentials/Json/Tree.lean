import Credentials.Json.Token

/-!
# JSON trees

A tree keeps the members of an object as they are written, in order and with repeated names. It is
parametrised over what its strings and its numbers are: literals for a tree that has only been
parsed, and texts and numbers for a tree whose literals have been read.
-/

namespace Credentials.Json

/-- A tree with strings `σ` and numbers `ν`. -/
inductive Tree (σ ν : Type) where
  | null
  | bool (value : Bool)
  | number (value : ν)
  | string (value : σ)
  | array (items : List (Tree σ ν))
  | object (members : List (σ × Tree σ ν))
deriving Repr, Inhabited

/-- A tree whose literals are kept as they are written. -/
abbrev Syntax := Tree StringLiteral NumberLiteral

namespace Tree

variable {σ ν : Type}

section

variable [DecidableEq σ] [DecidableEq ν]

mutual

/-- Whether two trees are the same. -/
def decEq : (v w : Tree σ ν) → Decidable (v = w)
  | .null, .null => isTrue rfl
  | .bool a, .bool b => decidable_of_decidable_of_iff (p := a = b) (by simp)
  | .number m, .number n => decidable_of_decidable_of_iff (p := m = n) (by simp)
  | .string s, .string t => decidable_of_decidable_of_iff (p := s = t) (by simp)
  | .array items, .array others =>
    have := decEqItems items others
    decidable_of_decidable_of_iff (p := items = others) (by simp)
  | .object members, .object others =>
    have := decEqMembers members others
    decidable_of_decidable_of_iff (p := members = others) (by simp)
  | .null, .bool _ | .null, .number _ | .null, .string _ | .null, .array _ | .null, .object _
  | .bool _, .null | .bool _, .number _ | .bool _, .string _ | .bool _, .array _
  | .bool _, .object _ | .number _, .null | .number _, .bool _ | .number _, .string _
  | .number _, .array _ | .number _, .object _ | .string _, .null | .string _, .bool _
  | .string _, .number _ | .string _, .array _ | .string _, .object _ | .array _, .null
  | .array _, .bool _ | .array _, .number _ | .array _, .string _ | .array _, .object _
  | .object _, .null | .object _, .bool _ | .object _, .number _ | .object _, .string _
  | .object _, .array _ => isFalse nofun

/-- Whether two lists of items are the same. -/
def decEqItems : (items others : List (Tree σ ν)) → Decidable (items = others)
  | [], [] => isTrue rfl
  | [], _ :: _ | _ :: _, [] => isFalse nofun
  | v :: items, w :: others =>
    have := decEq v w
    have := decEqItems items others
    decidable_of_decidable_of_iff (p := v = w ∧ items = others) (by simp)

/-- Whether two lists of members are the same. -/
def decEqMembers : (members others : List (σ × Tree σ ν)) → Decidable (members = others)
  | [], [] => isTrue rfl
  | [], _ :: _ | _ :: _, [] => isFalse nofun
  | (name, v) :: members, (other, w) :: others =>
    have := decEq v w
    have := decEqMembers members others
    decidable_of_decidable_of_iff (p := (name = other ∧ v = w) ∧ members = others) (by simp)

end

instance : DecidableEq (Tree σ ν) := decEq

end

mutual

/-- How many arrays and objects lie inside one another, counting this one. -/
def depth : Tree σ ν → Nat
  | .array items => depthItems items + 1
  | .object members => depthMembers members + 1
  | _ => 0

/-- The greatest depth of some items. -/
def depthItems : List (Tree σ ν) → Nat
  | [] => 0
  | v :: items => max (depth v) (depthItems items)

/-- The greatest depth of the values of some members. -/
def depthMembers : List (σ × Tree σ ν) → Nat
  | [] => 0
  | (_, v) :: members => max (depth v) (depthMembers members)

end

end Tree

/-- An array or object whose end has not been reached. -/
inductive Frame where
  /-- An array with the items so far, the last one first. -/
  | items (done : List Syntax)
  /-- An object with the members so far, the last one first, and the name of the next one. -/
  | members (done : List (StringLiteral × Syntax)) (name : StringLiteral)

/-- What may come next, within the open arrays and objects, the innermost one first. -/
inductive State where
  /-- A value. -/
  | value (stack : List Frame)
  /-- The first item of an array, or its end. -/
  | firstItem (stack : List Frame)
  /-- The first name of an object, or its end. -/
  | firstName (stack : List Frame)
  /-- A further name of an object. -/
  | nextName (done : List (StringLiteral × Syntax)) (stack : List Frame)
  /-- The colon after a name. -/
  | colon (done : List (StringLiteral × Syntax)) (name : StringLiteral) (stack : List Frame)
  /-- What may follow a whole value. -/
  | after (value : Syntax) (stack : List Frame)

namespace State

/-- Takes in the first token of a value. -/
def beginValue (stack : List Frame) : Token → Option State
  | .null => some (.after .null stack)
  | .bool b => some (.after (.bool b) stack)
  | .number n => some (.after (.number n) stack)
  | .string s => some (.after (.string s) stack)
  | .beginArray => some (.firstItem stack)
  | .beginObject => some (.firstName stack)
  | _ => none

/-- Takes in one token. -/
def step : State → Token → Option State
  | .value stack, t => beginValue stack t
  | .firstItem stack, .endArray => some (.after (.array []) stack)
  | .firstItem stack, t => beginValue (.items [] :: stack) t
  | .firstName stack, .endObject => some (.after (.object []) stack)
  | .firstName stack, .string name => some (.colon [] name stack)
  | .nextName done stack, .string name => some (.colon done name stack)
  | .colon done name stack, .colon => some (.value (.members done name :: stack))
  | .after v (.items done :: stack), .comma => some (.value (.items (v :: done) :: stack))
  | .after v (.items done :: stack), .endArray =>
    some (.after (.array (v :: done).reverse) stack)
  | .after v (.members done name :: stack), .comma => some (.nextName ((name, v) :: done) stack)
  | .after v (.members done name :: stack), .endObject =>
    some (.after (.object ((name, v) :: done).reverse) stack)
  | _, _ => none

/-- The whole value, if nothing is open. -/
def result? : State → Option Syntax
  | .after v [] => some v
  | _ => none

end State

/-- The tree that a text of exactly one value spells. -/
def parseSyntax? (text : List Char) : Option Syntax := do
  let state ← (← tokens text).foldlM State.step (.value [])
  state.result?

end Credentials.Json

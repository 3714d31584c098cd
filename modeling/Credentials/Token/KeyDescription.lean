import Credentials.Json.Record
import Credentials.Json.Shape

/-!
# Descriptions of keys

The header of a token may describe a key. A description says what the key may be used for, and gives
the numbers that make up a key of its family.
-/

namespace Credentials.Token.KeyDescription

open Credentials.Json

/-- Members about the use of a key, with conditions on them. Each may be left out or be null. -/
def useMembers : List (String × (Value → Bool)) := [
  ("use", isString), ("key_ops", isArrayOf isString), ("alg", (choice? · |>.isSome)),
  ("kid", isString), ("x5u", isString), ("x5c", isArrayOf isString), ("x5t", isString),
  ("x5t#S256", isString)]

/-- Names of curves. -/
def curves : List String := ["P-256", "P-384", "P-521", "Ed25519"]

/-- A family of keys: its name, whether its keys lie on a curve, and the members of a key. -/
structure Family where
  name : String
  onCurve : Bool
  numbers : List String

/-- All families. -/
def families : List Family :=
  [⟨"EC", true, ["x", "y"]⟩, ⟨"RSA", false, ["n", "e"]⟩, ⟨"oct", false, ["k"]⟩,
    ⟨"OKP", true, ["x"]⟩]

/-- Whether members make up a key of a family. -/
def Family.has (f : Family) (members : List (String × Value)) : Bool :=
  (only? "kty" members).any (choice? · == some f.name) &&
    (!f.onCurve || (only? "crv" members).any fun v => (choice? v).any curves.contains) &&
    f.numbers.all fun name => (only? name members).any isString

/-- Whether a value describes a key. -/
def isWellFormed : Value → Bool
  | .object members =>
    useMembers.all (fun (name, p) =>
      countName name members ≤ 1 && (members.lookup name).all (isNullOr p)) &&
      families.any (·.has members)
  | _ => false

end Credentials.Token.KeyDescription

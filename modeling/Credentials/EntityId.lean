import Credentials.Text.Hex

/-!
# Entity ids

Identifiers of 128 bits whose upper 48 bits are the millisecond of their making. Their order is the
order of their numbers. Ids made one after another increase, also within one millisecond.
-/

namespace Credentials

/-- An identifier of an entity. -/
structure EntityId where
  toNat : Nat
  lt : toNat < 1 <<< 128
deriving DecidableEq

namespace EntityId

/-- The id with a number, of which only 128 bits count. -/
def ofNat (n : Nat) : EntityId := ⟨n % 1 <<< 128, Nat.mod_lt _ (by decide)⟩

instance : Inhabited EntityId := ⟨ofNat 0⟩

instance : LE EntityId := ⟨fun a b => a.toNat ≤ b.toNat⟩

instance : LT EntityId := ⟨fun a b => a.toNat < b.toNat⟩

instance (a b : EntityId) : Decidable (a ≤ b) := inferInstanceAs (Decidable (a.toNat ≤ b.toNat))

instance (a b : EntityId) : Decidable (a < b) := inferInstanceAs (Decidable (a.toNat < b.toNat))

/-- The millisecond in which the id was made. -/
def timestampMs (id : EntityId) : Nat := id.toNat >>> 80

/-- The version of the layout, which is 7 for ids that begin with a millisecond. -/
def version (id : EntityId) : Nat := id.toNat >>> 76 % 16

/-- The two bits that tell this family of layouts from others. -/
def variant (id : EntityId) : Nat := id.toNat >>> 62 % 4

/-- Puts an id together from a millisecond, a counter of 42 bits and random bits. -/
def ofParts (millis counter random : Nat) : EntityId :=
  ofNat <| (millis % 1 <<< 48) <<< 80 + 7 <<< 76 + (counter >>> 30 % 1 <<< 12) <<< 64 +
    2 <<< 62 + (counter % 1 <<< 30) <<< 32 + random % 1 <<< 32

/-- The ids of a list in their order, each one once. -/
def sortDistinct (ids : List EntityId) : List EntityId := (ids.mergeSort (· ≤ ·)).eraseReps

/-! ## Text -/

/-- Lengths of the groups of digits. -/
def groupLengths : List Nat := [8, 4, 4, 4, 12]

/-- Cuts digits into the groups. -/
def groups (digits : List Char) : List (List Char) :=
  (groupLengths.foldl (fun (done, rest) n => (done ++ [rest.take n], rest.drop n))
    (([], digits) : List (List Char) × List Char)).1

/-- The canonical text: lower-case digits in groups with hyphens between them. -/
def text (id : EntityId) : List Char := ['-'].intercalate (groups (Text.hexDigits 32 id.toNat))

/-- Reads 32 digits. -/
def ofDigits? (digits : List Char) : Option EntityId := do
  guard (digits.length = 32)
  return ofNat (← Text.numberIn? 16 digits)

/-- Reads digits in groups. -/
def ofGroups? (text : List Char) : Option EntityId := do
  let groups := text.splitOn '-'
  guard (groups.map List.length = groupLengths)
  ofDigits? groups.flatten

/-- What may precede the groups, in any case. -/
def urn : List Char := "urn:uuid:".toList

/-- Reads an id: only digits, or groups, which may stand in braces or follow the name of a URN. -/
def parse? (text : List Char) : Option EntityId :=
  match text with
  | '\x7b' :: rest => if rest.getLast? = some '\x7d' then ofGroups? rest.dropLast else none
  | _ =>
    if text.length = 32 then ofDigits? text
    else if (text.take urn.length).map Char.toLower = urn then ofGroups? (text.drop urn.length)
    else ofGroups? text

end EntityId

/-- A maker of ids: the last millisecond used, and the counter within it. -/
structure IdSource where
  millis : Nat
  counter : Nat
deriving Repr

namespace IdSource

/-- Counters start below this number, so that there are as many left above it. -/
def counterStart : Nat := 1 <<< 41

/-- One past the largest counter. -/
def counterEnd : Nat := 1 <<< 42

/-- A maker of ids that has not made any. -/
def initial : IdSource := ⟨0, 0⟩

/-- Moves on to the next millisecond or, if the clock has not moved, to the next counter. -/
def advance (s : IdSource) (now random : Nat) : IdSource :=
  if s.millis < now then ⟨now, random % counterStart⟩
  else if s.counter + 1 < counterEnd then ⟨s.millis, s.counter + 1⟩
  else ⟨s.millis + 1, random % counterStart⟩

/-- The id that a maker stands at. -/
def current (s : IdSource) (random : Nat) : EntityId := .ofParts s.millis s.counter random

/-- Makes as many ids as there are pairs of random numbers. -/
def take (s : IdSource) (now : Nat) : List (Nat × Nat) → List EntityId
  | [] => []
  | (a, b) :: rest =>
    let s := s.advance now a
    s.current b :: take s now rest

end IdSource

end Credentials

/-!
# Tables of characters

A table is written as a text of entries, separated by blanks, in the order of their code points. An
entry is a code point or a range of them, with every second one left out after `/2`, and after a
colon the numbers that go with it. All numbers are hexadecimal.
-/

namespace Credentials.Unicode

/-- A range of code points and the numbers that go with it. -/
structure Entry where
  first : Nat
  last : Nat
  step : Nat
  data : List Nat
deriving Inhabited, Repr

/-- Entries in the order of their code points. -/
structure Table where
  entries : Array Entry

namespace Entry

/-- Whether a code point belongs to the entry. -/
def covers (e : Entry) (n : Nat) : Bool := e.first ≤ n && n ≤ e.last && (n - e.first) % e.step == 0

/--
The characters that the entry stands for: a single number is the first one of a range that runs
along, and any other data is the same for all characters of the entry.
-/
def target (e : Entry) (c : Char) : List Char :=
  match e.data with
  | [first] => [.ofNat (first + (c.toNat - e.first))]
  | data => data.map .ofNat

/-- The value of some hexadecimal digits. -/
def number (digits : List Char) : Nat :=
  digits.foldl (fun n c => n * 16 + if c.isDigit then c.toNat - 48 else c.toNat - 87) 0

/-- Reads one entry. -/
def parse (text : List Char) : Entry :=
  let range := text.takeWhile (· != ':')
  let data := (text.dropWhile (· != ':')).drop 1
  let first := range.takeWhile (· != '-')
  let rest := (range.dropWhile (· != '-')).drop 1
  let last := rest.takeWhile (· != '/')
  let step := (rest.dropWhile (· != '/')).drop 1
  { first := number first
    last := if last.isEmpty then number first else number last
    step := if step.isEmpty then 1 else number step
    data := if data.isEmpty then [] else (data.splitOn '.').map number }

end Entry

namespace Table

/-- Reads a table. -/
def parse (text : String) : Table :=
  let words := (text.toList.map fun c => if c = '\n' then ' ' else c).splitOn ' '
  ⟨((words.filter (!·.isEmpty)).map Entry.parse).toArray⟩

/-- Halves the range of entries in which a code point may be. -/
def search (t : Table) (n low high : Nat) : Option Entry :=
  if low < high then
    let middle := (low + high) / 2
    let e := t.entries.getD middle default
    if n < e.first then search t n low middle
    else if e.last < n then search t n (middle + 1) high
    else if e.covers n then some e
    else none
  else none
termination_by high - low

/-- The entry of a character. -/
def find? (t : Table) (c : Char) : Option Entry := t.search c.toNat 0 t.entries.size

/-- Whether a character has an entry. -/
def contains (t : Table) (c : Char) : Bool := (t.find? c).isSome

end Table

end Credentials.Unicode

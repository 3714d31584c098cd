import Credentials.Log
import Credentials.Text.Numeral

/-!
# Log filters

Which events of the log are shown. A filter is asked for by directives with commas between them:
each names a verbosity for the events of some parts of the program, and of those that concern an
event the most specific one counts. A directive may also be about the spans of a run; the program
marks no spans, so such a directive concerns no event.
-/

namespace Credentials

/-- How much of the log is shown. -/
inductive Verbosity where
  | off
  | error
  | warn
  | info
  | debug
  | trace
deriving DecidableEq, Repr

namespace Verbosity

/-- Whether events of a level are shown. -/
def shows : Verbosity → LogLevel → Bool
  | .off, _ => false
  | .error, .error => true
  | .error, _ => false
  | .warn, .info => false
  | _, _ => true

/-- The names, in the order of the numbers that may stand for them. -/
def names : List (String × Verbosity) :=
  [("off", .off), ("error", .error), ("warn", .warn), ("info", .info), ("debug", .debug),
    ("trace", .trace)]

/-- The verbosity with a name, in capitals or not, or with a number. -/
def ofName? (name : List Char) : Option Verbosity :=
  match Text.natural? (UInt64.size - 1) name with
  | some n => names[n]?.map Prod.snd
  | none => names.lookup (.ofList (name.map Char.toLower))

/-- The verbosity after an equals sign. Without a name, or without the sign, it is the highest. -/
def ofSuffix? : List Char → Option Verbosity
  | [] => some .trace
  | '=' :: name => if name.isEmpty then some .trace else ofName? name
  | _ => none

end Verbosity

/-- How much is shown of some events. -/
structure Directive where
  /-- What the names of the parts of the program begin with; all parts, if it is missing. -/
  target : Option (List Char)
  /-- The name of a span. -/
  span : Option (List Char)
  /-- The name of a field that is asked for, with its value if that matters. -/
  field : Option String
  verbosity : Verbosity
deriving DecidableEq, Repr

namespace Directive

/-- The text before the first character of a kind, that character, and the text after it. -/
def splitFirst? (mark : Char → Bool) (text : List Char) :
    Option (List Char × Char × List Char) :=
  match text.dropWhile (!mark ·) with
  | [] => none
  | c :: rest => some (text.takeWhile (!mark ·), c, rest)

/-- Reads a span and a field in braces up to the bracket that closes, and the verbosity. -/
def ofScope? (target : Option (List Char)) (text : List Char) : Option Directive := do
  let (span, mark, rest) ← splitFirst? (fun c => c == ']' || c == '{') text
  if mark = ']' then return ⟨target, some span, none, ← Verbosity.ofSuffix? rest⟩
  let (field, _, rest) ← splitFirst? (· == '}') rest
  guard (!field.isEmpty && rest.head? == some ']')
  let span := if span.isEmpty then none else some span
  return ⟨target, span, some (.ofList field), ← Verbosity.ofSuffix? rest.tail⟩

/-- Whether a name may begin with a character; what is beyond ASCII is taken for a letter. -/
def beginsName (c : Char) : Bool :=
  c.isAlphanum || c == '-' || c == ':' || c == '_' || 0x80 ≤ c.toNat

/--
Reads a directive. A verbosity alone is for all parts of the program; anything else is what the
names of parts begin with, or a span and a field in brackets, or both, and an equals sign with a
verbosity may follow.
-/
def ofText? (text : List Char) : Option Directive :=
  let inName c := c != '=' && c != '['
  match text.takeWhile inName, text.dropWhile inName with
  | [], '[' :: rest => ofScope? none rest
  | [], _ => none
  | c :: name, rest =>
    if !beginsName c then none
    else match rest with
      | [] =>
        match Verbosity.ofName? (c :: name) with
        | some v => some ⟨none, none, none, v⟩
        | none => some ⟨some (c :: name), none, none, .trace⟩
      | '[' :: rest => ofScope? (some (c :: name)) rest
      | _ => (Verbosity.ofSuffix? rest).map (⟨some (c :: name), none, none, ·⟩)

/-- Whether the directive is about an event. -/
def concerns (d : Directive) (e : LogEvent) : Bool :=
  d.span.isNone && (d.target.all fun name => name.isPrefixOf e.target.text.toList) &&
    d.field.all e.fieldNames.contains

/-- Whether another directive is at least as specific: it has a longer target, or the same one and
a field as well. Of two fields the one that comes later in the order of texts counts. -/
def precedes (d other : Directive) : Bool :=
  let length (d : Directive) := d.target.elim 0 (·.length + 1)
  length d < length other || length d == length other &&
    d.field.all fun name => other.field.any fun otherName => !decide (otherName < name)

end Directive

/-- Which events are shown. -/
abbrev LogFilter := LogEvent → Bool

namespace LogFilter

/-- The filter that shows the same of all parts of the program. -/
def upTo (v : Verbosity) : LogFilter := fun e => v.shows e.level

/-- The directive that counts for an event: of those that concern it the most specific one, and of
equally specific ones the last. -/
def governing? (directives : List Directive) (e : LogEvent) : Option Directive :=
  (directives.filter (·.concerns e)).foldl
    (fun best d => if best.all (·.precedes d) then some d else best) none

/-- The filter that some directives ask for. -/
def ofDirectives (directives : List Directive) : LogFilter := fun e =>
  (governing? directives e).any (·.verbosity.shows e.level)

/-- The filter that a text asks for. Without a directive in it, it asks for errors only. -/
def ofText? (text : String) : Option LogFilter :=
  let pieces := (text.toList.splitOn ',').filter (!·.isEmpty)
  (pieces.mapM Directive.ofText?).map fun directives =>
    if directives.isEmpty then upTo .error else ofDirectives directives

/-- The name of a verbosity alone asks for the same of all parts of the program. -/
theorem ofText?_name {name : String} {v : Verbosity} (h : (name, v) ∈ Verbosity.names) :
    ofText? name = some (upTo v) := by
  simp only [Verbosity.names, List.mem_cons, List.not_mem_nil, or_false, Prod.mk.injEq] at h
  obtain ⟨rfl, rfl⟩ | ⟨rfl, rfl⟩ | ⟨rfl, rfl⟩ | ⟨rfl, rfl⟩ | ⟨rfl, rfl⟩ | ⟨rfl, rfl⟩ := h <;> rfl

end LogFilter

end Credentials

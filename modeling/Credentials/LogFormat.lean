import Credentials.Json.Printer
import Credentials.Log

/-!
# Written events

How an event of the log looks: as a line for people to read, shorter or longer, or as JSON.
-/

namespace Credentials

open Credentials.Json

/-- How events are written. -/
inductive LogFormat where
  | pretty
  | json
  | compact
deriving DecidableEq, Repr

/-- How a format is named. -/
def LogFormat.name : LogFormat → String
  | .pretty => "pretty"
  | .json => "json"
  | .compact => "compact"

/-- The format with a name. -/
def LogFormat.ofName? (name : String) : Option LogFormat :=
  [LogFormat.pretty, .json, .compact].find? (·.name == name)

/-- A field as JSON. -/
def LogField.toJson : LogField → Value
  | .number n => .number (.integer n)
  | .bool b => .bool b
  | .text s => .string s

/-- An event as JSON; the message is the first of its fields. -/
def LogEvent.toJson (e : LogEvent) : Value :=
  .object [("level", .string e.level.text),
    ("fields", .object (("message", .string e.message) ::
      e.fields.map fun (name, field) => (name, field.toJson))),
    ("target", .string e.target.text)]

/-- A field for people to read. -/
def LogField.shown : LogField → String
  | .number n => toString n
  | .bool b => .ofList (boolText b)
  | .text s => s

/-- An event for people to read, with a separator before every field. -/
def LogEvent.shown (e : LogEvent) (separator : String) : String :=
  e.fields.foldl (fun done (name, field) => done ++ separator ++ name ++ "=" ++ field.shown)
    (e.level.text ++ " " ++ e.target.text ++ ": " ++ e.message)

/-- An event in a format. -/
def LogEvent.written (e : LogEvent) : LogFormat → String
  | .pretty => e.shown "\n    "
  | .json => .ofList e.toJson.compact
  | .compact => e.shown " "

end Credentials

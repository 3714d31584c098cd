/-!
# Log events

What is told to the operator: an event comes from a part of the program and has a level, a message
and named fields.
-/

namespace Credentials

/-- How serious an event is. -/
inductive LogLevel where
  | error
  | warn
  | info
deriving DecidableEq, Repr

/-- How a level is written. -/
def LogLevel.text : LogLevel → String
  | .error => "ERROR"
  | .warn => "WARN"
  | .info => "INFO"

/-- The value of a field. -/
inductive LogField where
  | number (n : Nat)
  | bool (b : Bool)
  | text (s : String)
deriving DecidableEq, Repr

/-- The parts of the program that have something to tell. -/
inductive LogTarget where
  | program
  | commandLine
  | email
  | passwords
deriving DecidableEq, Repr

/-- How a part of the program is named. -/
def LogTarget.text : LogTarget → String
  | .program => "warden"
  | .commandLine => "warden::cli"
  | .email => "warden::email"
  | .passwords => "warden::password"

/-- An event. -/
structure LogEvent where
  level : LogLevel
  target : LogTarget
  message : String
  fields : List (String × LogField)
deriving DecidableEq, Repr

/-- The names of all fields; the message is one of them. -/
def LogEvent.fieldNames (e : LogEvent) : List String := "message" :: e.fields.map Prod.fst

end Credentials

import Credentials.CommandLine.Arguments

/-!
# Usage

What the operator is told about the arguments: how they are given, and what is wrong with them.
-/

namespace Credentials.CommandLine

/-- The wording of what is wrong with arguments. -/
def UsageError.message : UsageError → String
  | .helpRequested => "help was asked for"
  | .nothingGiven | .missingCommand => "a command is required"
  | .missingRequiredArgument => "a required argument is missing"
  | .unknownCommand => "there is no such command"
  | .unknownArgument => "there is no such argument"
  | .invalidValue => "a value is missing or is not one of the possible values"
  | .malformedValue => "a value cannot be read"
  | .conflict => "an option is given twice"
  | .superfluousValue => "a value is given for an option that takes none"

/-- An option as it is given. -/
def Parameter.usage {Item : Type} (p : Parameter Item) : String :=
  let long := "--" ++ p.name
  let both := match p.short with
    | none => long
    | some c => "-" ++ c.toString ++ ", " ++ long
  if p.takesValue then both ++ " <value>" else both

/-- A list with a title, an entry on each line. -/
def usageSection (title : String) (entries : List String) : String :=
  entries.foldl (fun done entry => done ++ "  " ++ entry ++ "\n") (title ++ ":\n")

/-- How the arguments of the first level are given. -/
def usage : String :=
  "Usage: warden [options] <command>\n\n" ++ usageSection "Commands" topLevel.commands ++ "\n" ++
    usageSection "Options" (topLevel.allOptions.map Parameter.usage)

end Credentials.CommandLine

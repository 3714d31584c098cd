import Credentials.Text.Numeral

/-!
# Options and operands

How a list of arguments is taken apart. A long option may have its value attached by an equals sign,
short ones may be joined, two hyphens end the options, and the first operand that names a command
ends the arguments of this level. Every option is read as soon as its value is complete, so the
first fault counts.
-/

namespace Credentials.CommandLine

/-- What is wrong with arguments. -/
inductive UsageError where
  | helpRequested
  /-- No command is given, nor anything else. -/
  | nothingGiven
  | missingRequiredArgument
  | missingCommand
  | unknownCommand
  | unknownArgument
  /-- A value is missing, or is none of the possible ones. -/
  | invalidValue
  /-- A value cannot be read. -/
  | malformedValue
  /-- An option is given twice. -/
  | conflict
  /-- A value is given for an option that takes none. -/
  | superfluousValue
deriving DecidableEq, Repr

/-- An option or an operand, which is read as an item. -/
structure Parameter (Item : Type) where
  name : String
  short : Option Char := none
  takesValue : Bool := true
  repeatable : Bool := false
  /-- Whether a negative number may be its value. -/
  allowsNegative : Bool := false
  read : String → Except UsageError Item

/-- The parameters of one level of a command line. -/
structure Grammar (Item : Type) where
  options : List (Parameter Item)
  operands : List (Parameter Item) := []
  commands : List String := []

/-- How far the arguments of a level have been taken apart. -/
structure Scan (Item : Type) where
  /-- A parameter that has not been read, with its value if that is there. -/
  pending : Option (Parameter Item × Option String) := none
  /-- Names and items read so far, the last one first. -/
  found : List (String × Item) := []
  operands : List (Parameter Item)
  /-- Whether the options have ended. -/
  ended : Bool := false

/-- A command and the arguments that follow it. -/
abbrev Rest := Option (String × List String)

variable {Item : Type}

/-- The option that asks for help. -/
def helpOption : Parameter Item where
  name := "help"
  short := some 'h'
  takesValue := false
  read _ := .error .helpRequested

namespace Grammar

/-- All options, including the one that asks for help. -/
def allOptions (g : Grammar Item) : List (Parameter Item) := g.options ++ [helpOption]

/-- The option with a long name. -/
def long? (g : Grammar Item) (name : String) : Option (Parameter Item) :=
  g.allOptions.find? (·.name == name)

/-- The option with a short name. -/
def short? (g : Grammar Item) (c : Char) : Option (Parameter Item) :=
  g.allOptions.find? (·.short == some c)

end Grammar

namespace Scan

/-- The option whose value has to come next. -/
def waiting (s : Scan Item) : Option (Parameter Item) :=
  match s.pending with
  | some (p, none) => some p
  | _ => none

/-- Reads a parameter. -/
def accept (s : Scan Item) (p : Parameter Item) (value : String) : Except UsageError (Scan Item) :=
  if !p.repeatable && s.found.any (·.1 == p.name) then .error .conflict
  else (p.read value).map fun item => { s with found := (p.name, item) :: s.found }

/-- Reads the pending parameter. -/
def resolve (s : Scan Item) : Except UsageError (Scan Item) :=
  match s.pending with
  | none => .ok s
  | some (_, none) => .error .invalidValue
  | some (p, some value) => { s with pending := none }.accept p value

/-- Reads an option with its attached value, or waits for the value. -/
def option (s : Scan Item) (p : Parameter Item) (value : Option String) :
    Except UsageError (Scan Item) := do
  let s ← s.resolve
  match value with
  | some v => s.accept p v
  | none => return { s with pending := some (p, none) }

/-- Reads an option that takes no value. -/
def flag (s : Scan Item) (p : Parameter Item) : Except UsageError (Scan Item) := do
  (← s.resolve).accept p ""

/-- Takes in a long option, given without its hyphens. -/
def longOption (g : Grammar Item) (s : Scan Item) (text : List Char) :
    Except UsageError (Scan Item) :=
  let name := text.takeWhile (· != '=')
  let value := match text.dropWhile (· != '=') with
    | [] => none
    | _ :: value => some (String.ofList value)
  match g.long? (.ofList name) with
  | none => .error .unknownArgument
  | some p =>
    if p.takesValue then s.option p value
    else if value.isSome then .error .superfluousValue
    else s.flag p

/-- Takes in joined short options. What follows one with a value is its value. -/
def shortOptions (g : Grammar Item) (s : Scan Item) : List Char → Except UsageError (Scan Item)
  | [] => .ok s
  | c :: rest =>
    match g.short? c with
    | none => .error .unknownArgument
    | some p =>
      if p.takesValue then
        match rest with
        | [] => s.option p none
        | '=' :: value => s.option p (some (.ofList value))
        | value => s.option p (some (.ofList value))
      else do shortOptions g (← s.flag p) rest

/-- Takes in an operand. -/
def operand (g : Grammar Item) (s : Scan Item) (arg : String) : Except UsageError (Scan Item) :=
  match s.operands with
  | p :: operands => do
    let s ← s.resolve
    return { s with pending := some (p, some arg), operands }
  | [] =>
    if g.commands.isEmpty || (s.ended && g.commands.contains arg) then .error .unknownArgument
    else .error .unknownCommand

/-- Takes in the value of the option that waits for it, or an operand. -/
def valueOrOperand (g : Grammar Item) (s : Scan Item) (arg : String) :
    Except UsageError (Scan Item) :=
  match s.waiting with
  | some p => .ok { s with pending := some (p, some arg) }
  | none => s.operand g arg

/-- Takes in one argument. -/
def step (g : Grammar Item) (s : Scan Item) (arg : String) : Except UsageError (Scan Item) :=
  if s.ended then s.operand g arg
  else match arg.toList with
    | ['-', '-'] => .ok { s with ended := true }
    | '-' :: '-' :: text => s.longOption g text
    | ['-'] => s.valueOrOperand g arg
    | '-' :: text =>
      if s.waiting.any (·.allowsNegative) && Text.isMagnitude text then s.valueOrOperand g arg
      else s.shortOptions g text
    | _ => s.valueOrOperand g arg

/-- Takes in arguments up to a command. -/
def run (g : Grammar Item) (s : Scan Item) : List String → Except UsageError (Scan Item × Rest)
  | [] => .ok (s, none)
  | arg :: rest =>
    if !s.ended && s.waiting.isNone && g.commands.contains arg then .ok (s, some (arg, rest))
    else do run g (← s.step g arg) rest

end Scan

/-- Takes in the arguments of a level, leaving the last parameter pending. -/
def Grammar.scan (g : Grammar Item) (args : List String) :
    Except UsageError (Scan Item × Rest) :=
  Scan.run g { operands := g.operands } args

end Credentials.CommandLine

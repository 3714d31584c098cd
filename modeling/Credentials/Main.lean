import Credentials.CommandLine.Usage
import Credentials.LogFormat
import Credentials.Program
import Std.Time.DateTime.Timestamp

/-!
# Running the program

Collects what a run can see, and prints what it leaves behind.
-/

namespace Credentials.Main

open Credentials.CommandLine

/-- The variables that the program looks at, as far as they are set. -/
def environment : IO (List (String × String)) := do
  let names := SigningKey.variableName :: Surroundings.filterVariable :: optionVariables
  let values ← names.mapM fun name => return (← IO.getEnv name).map (name, ·)
  return values.filterMap id

/-- Why a file cannot be read. -/
def fileProblem : IO.Error → FileProblem
  | .noFileOrDirectory .. => .notFound
  | .inappropriateType .. => .isDirectory
  | e => .other (toString e)

/-- The bytes of a file. -/
def readFile (path : String) : IO (Except FileProblem (List UInt8)) := do
  try return .ok (← IO.FS.readBinFile path).toList
  catch e => return .error (fileProblem e)

/-- All bytes up to the end of the input. -/
partial def readInput (input : IO.FS.Stream) (read : ByteArray) : IO (List UInt8) := do
  let chunk ← input.read 65536
  if chunk.isEmpty then return read.toList else readInput input (read ++ chunk)

/-- What the clock shows. -/
def now : IO Clock := do
  let time := (← Std.Time.Timestamp.now).toNanosecondsSinceUnixEpoch.val
  return ⟨time.fdiv 1000000000, (time.fmod 1000000000).toNat⟩

/-- All that a run with these arguments can see. -/
def surroundings (args : Arguments) (env : List (String × String)) : IO Surroundings := do
  let file ← (args.signingKeyFile.mapM readFile)
  let input ← if args.command.readsInput then readInput (← IO.getStdin) .empty else pure []
  let seed := (← IO.getRandomBytes 32).toList
  return {
    environmentBytes := env.map fun (name, value) => (name, value.toUTF8.toList)
    fileAt := fun _ => file.getD (.error .notFound)
    input
    clock := ← now
    draw := Draw.ofSeed seed }

/-- Prints what a run leaves behind. -/
def print (args : Arguments) (s : Surroundings) (report : Report) : IO UInt32 := do
  let log ← IO.getStderr
  for event in report.log (s.logFilter LogFilter.ofText?) do
    log.putStrLn (event.written args.logFormat)
  IO.print report.output
  return report.exitCode

end Credentials.Main

/-- Runs the program. -/
def main (args : List String) : IO UInt32 := do
  let env ← Credentials.Main.environment
  match Credentials.CommandLine.Arguments.parse env args with
  | .error .helpRequested =>
    IO.print Credentials.CommandLine.usage
    return Credentials.exitSuccess
  | .error e =>
    IO.eprintln ("error: " ++ e.message ++ "\n\n" ++ Credentials.CommandLine.usage)
    return Credentials.exitRefused
  | .ok arguments =>
    let s ← Credentials.Main.surroundings arguments env
    Credentials.Main.print arguments s (Credentials.Program.run arguments s)

import Credentials.Config
import Credentials.Text.Blank

/-!
# The signing key

The key comes from an environment variable, which is taken away from the environment, or else from a
file. White space around it does not belong to it.
-/

namespace Credentials.SigningKey

/-- The variable that may hold the key. -/
def variableName : String := "WARDEN_SIGNING_KEY"

/-- Where a key may come from. -/
structure Source where
  /-- The bytes of the variable, if it is set. -/
  variableValue : Option (List UInt8)
  /-- The path of the key file, if one is given. -/
  path : Option String
  /-- Reads a file. -/
  fileAt : String → Except FileProblem (List UInt8)

/-- What comes of looking for a key. -/
structure Loaded where
  key : Except ConfigError (List UInt8)
  /-- What the variable holds afterwards. -/
  variableLeft : Option (List UInt8)
  events : List LogEvent

/-- The key in the text of the variable. -/
def ofText (text : List Char) : List UInt8 := Bytes.utf8 (Text.trim text)

/-- The key in the bytes of a file. -/
def ofFile (bytes : List UInt8) : List UInt8 := Text.trimBytes bytes

/-- What the operator is told when the key comes from a file. -/
def fileEvent (path : String) : LogEvent :=
  ⟨.info, .commandLine, "Signing key loaded from file", [("path", .text path)]⟩

/-- Looks for the key in the file. -/
def loadFile (s : Source) : Except ConfigError (List UInt8) × List LogEvent :=
  match s.path with
  | none => (.error .missingSigningKey, [])
  | some path =>
    match s.fileAt path with
    | .error cause => (.error (.signingKeyFile path cause), [])
    | .ok bytes => (.ok (ofFile bytes), [fileEvent path])

/-- Looks for the key in the variable, if that holds text, and else in the file. -/
def load (s : Source) : Loaded :=
  match s.variableValue.bind Bytes.ofUtf8? with
  | some text => ⟨.ok (ofText text), none, []⟩
  | none =>
    let (key, events) := loadFile s
    ⟨key, s.variableValue, events⟩

end Credentials.SigningKey

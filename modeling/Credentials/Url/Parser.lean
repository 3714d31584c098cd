import Credentials.Url.Basic

/-!
# Reading absolute URLs

A text as a web address, or as an absolute URL of another scheme, of which only this is told:
whether it has a path of segments, after which a query can follow.
-/

namespace Credentials

/-- An absolute URL. -/
inductive AbsoluteUrl where
  | web (url : Url)
  /-- A URL of another scheme that has a path of segments. -/
  | other
  /-- A URL without segments, such as a mail address. -/
  | opaqueUrl
deriving DecidableEq, Repr

namespace Url

/-- Characters that are dropped at both ends. -/
def isEdge (c : Char) : Bool := c.toNat ≤ 0x20

/-- Characters that are dropped anywhere. -/
def isBreak (c : Char) : Bool := c == '\t' || c == '\n' || c == '\r'

/-- The text that counts. -/
def clean (text : List Char) : List Char :=
  (((text.dropWhile isEdge).reverse.dropWhile isEdge).reverse).filter (!isBreak ·)

/-- Splits off a scheme and its colon. The scheme is given in lower case. -/
def splitScheme? (text : List Char) : Option (List Char × List Char) :=
  let scheme := text.takeWhile fun c => c.isAlphanum || c == '+' || c == '-' || c == '.'
  match text.drop scheme.length with
  | ':' :: rest =>
    if scheme.head?.any Char.isAlpha then some (scheme.map Char.toLower, rest) else none
  | _ => none

/-- What stands before the last at-sign, if there is one, and what stands after it. -/
def splitUser (authority : List Char) : Option (List Char) × List Char :=
  let host := (authority.reverse.takeWhile (· != '@')).reverse
  if host.length = authority.length then (none, authority)
  else (some (authority.take (authority.length - host.length - 1)), host)

/-- Reads a user part; the first colon ends the name. -/
def User.parse (text : List Char) : User :=
  ⟨Part.userinfo.encode (text.takeWhile (· != ':')),
    Part.userinfo.encode ((text.dropWhile (· != ':')).drop 1)⟩

/-- Splits a host from the colon of its port. Colons in brackets belong to the host. -/
def splitPort (inBrackets : Bool) : List Char → List Char × List Char
  | [] => ([], [])
  | c :: rest =>
    if c == ':' && !inBrackets then ([], c :: rest)
    else
      let inBrackets := c == '[' || (inBrackets && c != ']')
      let (host, port) := splitPort inBrackets rest
      (c :: host, port)

/--
Reads what follows the host: nothing, or a colon and the digits of a port. A backslash ends a port
whatever the scheme.
-/
def parsePort? (text : List Char) : Option (Option Nat) :=
  match (text.drop 1).takeWhile (· != '\\') with
  | [] => some none
  | digits => do
    guard (digits.all Char.isDigit)
    let port ← Text.numberIn? 10 digits
    guard (port < UInt16.size)
    return some port

/-- Splits off what stands between a mark and the end, if the mark occurs. -/
def splitMark (mark : Char) (text : List Char) : List Char × Option (List Char) :=
  match text.dropWhile (· != mark) with
  | [] => (text, none)
  | _ :: after => (text.takeWhile (· != mark), some after)

/-- The parts of a URL with an authority. -/
structure Outline where
  user : Option (List Char)
  host : List Char
  port : Option Nat
  path : List Char
  query : Option (List Char)
  fragment : Option (List Char)

/-- Splits what follows the slashes before an authority; `isEnd` tells where the path begins. -/
def Outline.parse? (isEnd : Char → Bool) (text : List Char) : Option Outline := do
  let (text, fragment) := splitMark '#' text
  let (text, query) := splitMark '?' text
  let authority := text.takeWhile (!isEnd ·)
  let (user, host) := splitUser authority
  let (host, port) := splitPort false host
  guard (!host.isEmpty ∨ port.isEmpty)
  return ⟨user, host, ← parsePort? port, text.drop authority.length, query, fragment⟩

/-- Reads what follows the scheme of a web address. Any number of slashes may come first. -/
def parseWeb? (scheme : Scheme) (text : List Char) : Option Url := do
  let outline ← Outline.parse? Path.isSlash (text.dropWhile Path.isSlash)
  let host ← Host.parse? outline.host
  return {
    scheme
    user := (outline.user.map User.parse).getD ⟨[], []⟩
    host
    port := if outline.port = some scheme.defaultPort then none else outline.port
    path := Path.parse outline.path
    query := outline.query.map Part.query.encode
    fragment := outline.fragment.map Part.fragment.encode }

/-- Reads what follows a scheme that is otherwise like the ones of the web. -/
def parseNetwork? (text : List Char) : Option AbsoluteUrl :=
  (parseWeb? .https text).map fun _ => .other

/-- Reads what follows the scheme of files. -/
def parseFile? (text : List Char) : Option AbsoluteUrl :=
  match text with
  | a :: b :: rest =>
    let host := rest.takeWhile fun c => !(Path.isSlash c || c == '?' || c == '#')
    if Path.isSlash a && Path.isSlash b && !host.isEmpty && !Path.isDrive host then
      (Host.parse? host).map fun _ => .other
    else some .other
  | _ => some .other

/-- Whether the host may be missing: there is no user, or an at-sign is all that follows. -/
def Outline.allowsNoHost (o : Outline) : Bool :=
  match o.user with
  | none => true
  | some [] => o.path.isEmpty && o.query.isNone && o.fragment.isNone
  | some user => user == [':']

/-- Reads what follows any other scheme. -/
def parseGeneric? (text : List Char) : Option AbsoluteUrl :=
  match text with
  | '/' :: '/' :: rest => do
    let outline ← Outline.parse? (· == '/') rest
    guard (Host.isOpaqueHost outline.host)
    guard (!outline.host.isEmpty ∨ outline.allowsNoHost)
    return .other
  | '/' :: _ => some .other
  | _ => some .opaqueUrl

end Url

/-- Reads an absolute URL. -/
def AbsoluteUrl.parse? (text : String) : Option AbsoluteUrl := do
  let (scheme, rest) ← Url.splitScheme? (Url.clean text.toList)
  match String.ofList scheme with
  | "https" => return .web (← Url.parseWeb? .https rest)
  | "http" => return .web (← Url.parseWeb? .http rest)
  | "ws" | "wss" | "ftp" => Url.parseNetwork? rest
  | "file" => Url.parseFile? rest
  | _ => Url.parseGeneric? rest

end Credentials

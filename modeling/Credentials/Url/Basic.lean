import Credentials.Url.Host
import Credentials.Url.Path

/-!
# Web addresses

An `http` or `https` URL in its normal form: every part is kept as it is written.
-/

namespace Credentials.Url

/-- The schemes of web addresses. -/
inductive Scheme where
  | http
  | https
deriving DecidableEq, Repr

namespace Scheme

/-- How a scheme is written. -/
def text : Scheme → List Char
  | .http => ['h', 't', 't', 'p']
  | .https => ['h', 't', 't', 'p', 's']

/-- The port that is meant where none is given. -/
def defaultPort : Scheme → Nat
  | .http => 80
  | .https => 443

end Scheme

/-- The user at a host. -/
structure User where
  name : List Char
  password : List Char
deriving DecidableEq, Repr

/-- The user part, which is left out altogether if it is empty. -/
def User.text (u : User) : List Char :=
  let password := if u.password.isEmpty then [] else ':' :: u.password
  if u.name.isEmpty && password.isEmpty then [] else u.name ++ password ++ ['@']

end Url

/-- A web address. -/
structure Url where
  scheme : Url.Scheme
  user : Url.User
  host : Url.Host
  /-- The port, if it is not the one of the scheme. -/
  port : Option Nat
  path : List (List Char)
  query : Option (List Char)
  fragment : Option (List Char)
deriving DecidableEq, Repr

namespace Url

/-- A part after its mark, if there is one. -/
def marked (mark : Char) (part : Option (List Char)) : List Char :=
  match part with
  | none => []
  | some text => mark :: text

/-- How the address is written. -/
def text (u : Url) : List Char :=
  u.scheme.text ++ [':', '/', '/'] ++ u.user.text ++ u.host.text ++
    marked ':' (u.port.map (Nat.toDigits 10)) ++ Path.text u.path ++ marked '?' u.query ++
    marked '#' u.fragment

/-- The address with one more query parameter. -/
def addParameter (u : Url) (name value : List Char) : Url :=
  { u with query := some (Form.append (u.query.getD []) name value) }

end Url

end Credentials

import Credentials.Bytes.Utf8
import Credentials.Url.Address
import Credentials.Url.DomainName
import Credentials.Url.Percent

/-!
# Hosts

The host of a URL: a domain name in ASCII, or an address.
-/

namespace Credentials.Url

/-- A host. -/
inductive Host where
  | domain (name : List Char)
  | ipv4 (address : Nat)
  | ipv6 (pieces : List Nat)
deriving DecidableEq, Repr

namespace Host

/-- How a host is written. -/
def text : Host → List Char
  | .domain name => name
  | .ipv4 address => Ipv4.text address
  | .ipv6 pieces => '[' :: Ipv6.text pieces ++ [']']

/-- An IPv6 address in brackets, given after the opening one. -/
def bracketed? (text : List Char) : Option Host := do
  guard (text.getLast? = some ']')
  return .ipv6 (← Ipv6.parse? text.dropLast)

/-- Reads the host of a web address; a name may be percent-encoded. -/
def parse? : List Char → Option Host
  | '[' :: text => bracketed? text
  | text => do
    let name ← DomainName.toAscii? (← Bytes.ofUtf8? (percentDecode text))
    if name.isEmpty then none
    else if Ipv4.isNumeric name then return .ipv4 (← Ipv4.parse? name)
    else return .domain name

/-- Characters that no host may hold, whatever the scheme. -/
def isForbidden (c : Char) : Bool :=
  ['\x00', '\t', '\n', '\r', ' ', '#', '/', ':', '<', '>', '?', '@', '[', '\\', ']', '^',
    '|'].contains c

/-- Whether a text can be the host in a scheme that says nothing about its hosts. -/
def isOpaqueHost : List Char → Bool
  | '[' :: text => (bracketed? text).isSome
  | text => !text.any isForbidden

/-- Whether the host is the machine itself, by its name or its address. -/
def isLocal (h : Host) : Bool := h.text == "localhost".toList || h.text == "127.0.0.1".toList

end Host

end Credentials.Url

import WebForms.Domain.Name
import WebForms.Text.Percent
import WebForms.Uri.Fault
import WebForms.Uri.Ipv4
import WebForms.Uri.Ipv6

/-!
# Hosts

A host is a domain name or the number of a machine. Where the scheme is one of the web, names are
domain names in their written form and may be given percent-encoded; with other schemes a host is
a row of characters that is taken as it is.

## Main definitions

* `Host`, `Host.text` — a host and its written form
* `Host.read`, `Host.readPlain` — the host of a web scheme, of any other scheme
-/

namespace WebForms

/-- A host. -/
inductive Host where
  | name (text : String)
  | ipv4 (address : Ipv4)
  | ipv6 (address : Ipv6)
  deriving DecidableEq, Repr

namespace Host

/-- The written form. -/
def text : Host → String
  | name text => text
  | ipv4 a => a.text
  | ipv6 a => "[" ++ a.text ++ "]"

/-- The name by which a machine knows itself. -/
def self : Host := .name "localhost"

/-- Reads an address that begins with a bracket. -/
def readBracketed (cs : List Char) : Except UriFault Host :=
  match cs.getLast?, Ipv6.parse? cs.dropLast.tail with
  | some ']', some a => .ok (.ipv6 a)
  | _, _ => .error .badIpv6

/-- Reads the host of a web scheme. A name that ends in a number has to be an address. -/
def read (cs : List Char) : Except UriFault Host :=
  if cs.head? = some '[' then readBracketed cs
  else match Domain.toAscii? (Text.percentDecode cs) with
    | none => .error .badDomain
    | some [] => .error .noHost
    | some written =>
      if Ipv4.isMeant written then
        match Ipv4.parse? written with
        | some a => .ok (.ipv4 a)
        | none => .error .badIpv4
      else .ok (.name (String.ofList written))

/-- A character that stands in no host. -/
def isForbidden (c : Char) : Bool :=
  ['\x00', '\t', '\n', '\r', ' ', '#', '/', ':', '<', '>', '?', '@', '[', '\\', ']', '^',
    '|'].contains c

/-- Reads the host of a scheme that is none of the web. -/
def readPlain (cs : List Char) : Except UriFault Host :=
  if cs.head? = some '[' then readBracketed cs
  else if cs.any isForbidden then .error .badCharacter
  else .ok (.name (String.ofList (Text.percentEncodeChars Text.inControls cs)))

end Host

end WebForms

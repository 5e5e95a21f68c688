import WebSocket.Domain.Ascii
import WebSocket.Url.IPv4
import WebSocket.Url.IPv6
import WebSocket.Url.Percent

/-!
# Hosts

The host of a web address is a domain name in ASCII form or an address literal.
Escapes are resolved first. A name whose last label is a number has to be an
IPv4 address, and only brackets enclose an IPv6 address. Other addresses have
opaque hosts, of which it only matters whether they are well-formed.
-/

namespace WebSocket

inductive UrlFault
  | emptyHost | invalidPort | missingScheme | malformed
deriving DecidableEq, Repr

def UrlFault.reason : UrlFault → String
  | .emptyHost => "missing host"
  | .invalidPort => "invalid port"
  | .missingScheme => "missing scheme"
  | .malformed => "malformed URL"

inductive Host
  | domain (name : List Char)
  | ipv4 (address : Nat)
  | ipv6 (pieces : List Nat)
deriving DecidableEq, Repr

namespace Host

def text : Host → List Char
  | .domain name => name
  | .ipv4 address => IPv4.text address
  | .ipv6 pieces => '[' :: IPv6.text pieces ++ [']']

/-- The text inside brackets, where the first bracket is already read. -/
def ofBracketed (rest : List Char) : Except UrlFault Host :=
  if rest.getLast? = some ']' then
    match IPv6.parse? rest.dropLast with
    | some pieces => .ok (.ipv6 pieces)
    | none => .error .malformed
  else .error .malformed

def ofAscii (name : List Char) : Except UrlFault Host :=
  if name.isEmpty then .error .emptyHost
  else if IPv4.endsInNumber name then
    match IPv4.parse? name with
    | some address => .ok (.ipv4 address)
    | none => .error .malformed
  else .ok (.domain name)

def parse (text : List Char) : Except UrlFault Host :=
  match text with
  | '[' :: rest => ofBracketed rest
  | _ =>
    match Utf8.decode? (Percent.decode (Utf8.encode (String.ofList text))) with
    | none => .error .malformed
    | some name =>
      match DomainName.toAscii? name.toList with
      | none => .error .malformed
      | some ascii => ofAscii ascii

def isForbiddenOpaque (c : Char) : Bool :=
  c == '\x00' || c == '\t' || c == '\n' || c == '\r' ||
    [' ', '#', '/', ':', '<', '>', '?', '@', '[', '\\', ']', '^', '|'].contains c

def checkOpaque (text : List Char) : Except UrlFault Unit :=
  match text with
  | '[' :: rest => (ofBracketed rest).map fun _ => ()
  | _ => if text.any isForbiddenOpaque then .error .malformed else .ok ()

end Host

end WebSocket

import WebSocket.Text
import WebSocket.Url.Host
import WebSocket.Url.Path

/-!
# Addresses

An address is a scheme, then for a web address the authority (user, host and
port), path and query. Controls and spaces around the text do not count, user
and fragment are dropped. Of addresses with other schemes only the scheme is
kept, once the text is known to be well-formed.
-/

namespace WebSocket

inductive Url
  | web (scheme : List Char) (host : Host) (port : Option Nat) (path : List Char)
      (query : Option (List Char))
  | other (scheme : List Char)
deriving DecidableEq, Repr

namespace Url

def scheme : Url → List Char
  | .web scheme .. => scheme
  | .other scheme => scheme

-- ---------------------------------------------------------------------------
-- Parts of an address
-- ---------------------------------------------------------------------------

def isSchemeChar (c : Char) : Bool :=
  Ascii.isLetter c || Ascii.isDigit c || c == '+' || c == '-' || c == '.'

def splitScheme? (text : List Char) : Option (List Char × List Char) :=
  match text, text.dropWhile isSchemeChar with
  | first :: _, ':' :: rest =>
    if Ascii.isLetter first then some ((text.takeWhile isSchemeChar).map Ascii.lower, rest)
    else none
  | _, _ => none

def webSchemes : List (List Char) :=
  [['h', 't', 't', 'p'], ['h', 't', 't', 'p', 's'], ['w', 's'], ['w', 's', 's'], ['f', 't', 'p']]

def fileScheme : List Char := ['f', 'i', 'l', 'e']

def endsAuthority (c : Char) : Bool := c == '/' || c == '?' || c == '#'

def endsWebAuthority (c : Char) : Bool := endsAuthority c || c == '\\'

def splitUser (authority : List Char) : Option (List Char) × List Char :=
  if authority.contains '@' then
    let host := (authority.reverse.takeWhile (· != '@')).reverse
    (some (authority.take (authority.length - host.length - 1)), host)
  else (none, authority)

def splitHost (bracketed : Bool) : List Char → List Char × List Char
  | [] => ([], [])
  | c :: cs =>
    if c == ':' && !bracketed then ([], c :: cs)
    else
      let (host, rest) := splitHost (c == '[' || (bracketed && c != ']')) cs
      (c :: host, rest)

/-- The port of what follows the host: nothing, or a colon and a number that may
be missing. A backslash ends the number. -/
def parsePort (text : List Char) : Except UrlFault (Option Nat) :=
  match text with
  | ':' :: rest =>
    let digits := rest.takeWhile Ascii.isDigit
    match rest.dropWhile Ascii.isDigit, Ascii.number? 10 digits with
    | [], some port | '\\' :: _, some port =>
      if 65535 < port then .error .invalidPort
      else .ok (if digits.isEmpty then none else some port)
    | _, _ => .error .invalidPort
  | _ => .ok none

-- ---------------------------------------------------------------------------
-- Web addresses
-- ---------------------------------------------------------------------------

def ofTail (scheme : List Char) (host : Host) (port : Option Nat) (tail : List Char) : Url :=
  let path := tail.takeWhile fun c => c != '?' && c != '#'
  let query := match tail.dropWhile fun c => c != '?' && c != '#' with
    | '?' :: rest => some (Percent.encode Percent.inQuery (rest.takeWhile (· != '#')))
    | _ => none
  .web scheme host port (Path.normalize path) query

def parseWeb (scheme text : List Char) : Except UrlFault Url := do
  let text := text.dropWhile Path.isSlash
  let (_, authority) := splitUser (text.takeWhile (!endsWebAuthority ·))
  let (hostText, portText) := splitHost false authority
  if hostText.isEmpty then throw .emptyHost
  let host ← Host.parse hostText
  let port ← parsePort portText
  return ofTail scheme host port (text.dropWhile (!endsWebAuthority ·))

-- ---------------------------------------------------------------------------
-- Other addresses
-- ---------------------------------------------------------------------------

def parseFile (text : List Char) : Except UrlFault Url := do
  match text with
  | first :: second :: rest =>
    let host := rest.takeWhile (!endsWebAuthority ·)
    if Path.isSlash first && Path.isSlash second && !host.isEmpty && !Path.isDriveLetter host then
      let _ ← Host.parse host
  | _ => pure ()
  return .other fileScheme

/-- Whether the user part leaves something behind when it is written out. -/
def leavesUser (user : Option (List Char)) : Bool :=
  match user with
  | none | some [] | some [':'] => false
  | some _ => true

def checkAuthority (text : List Char) : Except UrlFault Unit := do
  let (user, authority) := splitUser (text.takeWhile (!endsAuthority ·))
  let (hostText, portText) := splitHost false authority
  if user = some [] && authority.isEmpty && text.any endsAuthority then throw .emptyHost
  Host.checkOpaque hostText
  if hostText.isEmpty && !portText.isEmpty then throw .emptyHost
  let _ ← parsePort portText
  if hostText.isEmpty && leavesUser user then throw .emptyHost

def parseOther (scheme text : List Char) : Except UrlFault Url := do
  match text with
  | '/' :: '/' :: rest => checkAuthority rest
  | _ => pure ()
  return .other scheme

def parse (text : List Char) : Except UrlFault Url :=
  match splitScheme? (trimmedBy (·.toNat ≤ 0x20) text) with
  | none => .error .missingScheme
  | some (scheme, rest) =>
    if webSchemes.contains scheme then parseWeb scheme rest
    else if scheme = fileScheme then parseFile rest
    else parseOther scheme rest

end Url

end WebSocket

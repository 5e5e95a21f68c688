import WebSocket.Domain.Data.Mapping
import WebSocket.Domain.Label
import WebSocket.Domain.Punycode

/-!
# ASCII form of domain names

Domain names are mapped, normalised and split into labels. Mapping keeps, drops,
replaces or refuses every character; of ASCII only the upper-case letters are
replaced, and all other characters go by the tables. A label that is not
ASCII is written in punycode behind the prefix `xn--`; a label that already has
the prefix has to be the ASCII form of a well-formed label. Labels that are not
ASCII have a length limit in either form. The result never holds a character
that an address gives a meaning of its own, and it is its own ASCII form.
-/

namespace WebSocket

-- ---------------------------------------------------------------------------
-- Mapping
-- ---------------------------------------------------------------------------

namespace DomainMapping

def disallowed : RangeTable := .ofLines DomainData.disallowed

def ignored : RangeTable := .ofLines DomainData.ignored

def replaced : RangeTable := .ofLines DomainData.replaced

def replacement (entry : RangeTable.Entry) (code : Nat) : List Char :=
  match (entry.value.splitOn '+').filterMap RangeTable.hex? with
  | [target] => [Char.ofNat (target + (code - entry.first))]
  | targets => targets.map Char.ofNat

def map? (c : Char) : Option (List Char) :=
  if c.toNat < 128 then some [Ascii.lower c]
  else if disallowed.contains c then none
  else if ignored.contains c then some []
  else match replaced.find? c.toNat with
    | some entry => some (replacement entry c.toNat)
    | none => some [c]

def isValid (c : Char) : Bool := map? c == some [c]

theorem map?_ascii {c : Char} (h : c.toNat < 128) : map? c = some [Ascii.lower c] := if_pos h

end DomainMapping

-- ---------------------------------------------------------------------------
-- Labels and names
-- ---------------------------------------------------------------------------

namespace DomainName

def punycodePrefix : List Char := ['x', 'n', '-', '-']

def maxUnicodeLabel : Nat := 1000

def maxPunycode : Nat := 2000

def isAscii (text : List Char) : Bool := text.all (·.toNat < 128)

/-- What the ASCII form may not hold: controls, the space, capitals, and the
characters with a meaning of their own. -/
def isForbidden (c : Char) : Bool :=
  c.toNat ≤ 0x20 || 0x7F ≤ c.toNat || Ascii.isUpper c ||
    ['%', '#', '/', ':', '<', '>', '?', '@', '[', '\\', ']', '^', '|'].contains c

structure Label where
  unicode : List Char
  ascii : List Char
deriving DecidableEq, Repr

def isLabel (text : List Char) : Bool :=
  !isAscii text && decide (text.length ≤ maxUnicodeLabel) && text.all DomainMapping.isValid &&
    NormalForm.normalize text == text && DomainLabel.isWellFormed text

def Label.ofPunycode? (encoded : List Char) : Option Label :=
  if maxPunycode < encoded.length then none
  else (Punycode.decode? encoded).bind fun unicode =>
    if isLabel unicode then some ⟨unicode, punycodePrefix ++ encoded⟩ else none

def Label.ofMapped? (label : List Char) : Option Label :=
  if punycodePrefix.isPrefixOf label then
    if isAscii label then ofPunycode? (label.drop 4) else none
  else if isAscii label then some ⟨label, label⟩
  else if isLabel label then some ⟨label, punycodePrefix ++ Punycode.encode label⟩
  else none

def toAscii? (name : List Char) : Option (List Char) := do
  let mapped ← name.mapM DomainMapping.map?
  let labels ← ((NormalForm.normalize mapped.flatten).splitOn '.').mapM Label.ofMapped?
  let ascii := ['.'].intercalate (labels.map (·.ascii))
  -- one character from right to left binds the labels of the whole name
  let runsLeft := labels.any (·.unicode.any DomainLabel.runsLeft)
  if runsLeft && !labels.all (DomainLabel.oneWay ·.unicode) then none
  else if ascii.any isForbidden then none
  else some ascii

end DomainName

end WebSocket

import WebSocket.Url.Percent

/-!
# Paths of web addresses

A path is a list of segments, each after a slash; a backslash counts as a
slash. Segments are escaped first. A segment `.` then stands for nothing and
`..` removes the segment before it, and at the end of the path either leaves an
empty segment. The dots may be escaped. A segment that looks like a drive
letter is never removed.
-/

namespace WebSocket.Path

def isSlash (c : Char) : Bool := c == '/' || c == '\\'

private def dots : List (List Char) := [['.'], ['%', '2', 'e']]

def isCurrent (segment : List Char) : Bool := dots.contains (segment.map Ascii.lower)

def isParent (segment : List Char) : Bool :=
  (dots.flatMap fun first => dots.map (first ++ ·)).contains (segment.map Ascii.lower)

def isDriveLetter : List Char → Bool
  | [letter, mark] => Ascii.isLetter letter && (mark == ':' || mark == '|')
  | _ => false

/-- Removes the last segment, which stands first here. -/
def dropLast : List (List Char) → List (List Char)
  | [] => []
  | segment :: kept => if isDriveLetter segment then segment :: kept else kept

/-- Resolves dot segments; `kept` holds what is left so far, the last segment first. -/
def resolve (kept : List (List Char)) : List (List Char) → List (List Char)
  | [] => kept.reverse
  | [last] =>
    if isParent last then ([] :: dropLast kept).reverse
    else if isCurrent last then ([] :: kept).reverse
    else (last :: kept).reverse
  | segment :: rest =>
    if isParent segment then resolve (dropLast kept) rest
    else if isCurrent segment then resolve kept rest
    else resolve (segment :: kept) rest

def join (segments : List (List Char)) : List Char := segments.flatMap ('/' :: ·)

/-- The normal form of the text between the authority and the query. Its first
slash may be missing. -/
def normalize (text : List Char) : List Char :=
  let relative := match text with
    | [] => []
    | c :: cs => if isSlash c then cs else c :: cs
  join (resolve [] ((relative.splitOnP isSlash).map (Percent.encode Percent.inPath)))

end WebSocket.Path

import Credentials.Url.Percent

/-!
# Paths

The path of a web address as its segments. Segments of dots are resolved when a path is read.
-/

namespace Credentials.Url.Path

/-- Separators of segments. -/
def isSlash (c : Char) : Bool := c == '/' || c == '\\'

/-- A dot, which may be percent-encoded, at the start of a segment. -/
def dropDot? : List Char → Option (List Char)
  | '.' :: rest => some rest
  | '%' :: '2' :: 'e' :: rest => some rest
  | '%' :: '2' :: 'E' :: rest => some rest
  | _ => none

/-- Whether a segment stands for the directory that it is in. -/
def isSingleDot (segment : List Char) : Bool := dropDot? segment == some []

/-- Whether a segment stands for the directory above. -/
def isDoubleDot (segment : List Char) : Bool := (dropDot? segment).bind dropDot? == some []

/-- A letter with a colon or a bar, which names a drive and is never left again. -/
def isDrive : List Char → Bool
  | [letter, mark] => letter.isAlpha && (mark == ':' || mark == '|')
  | _ => false

/-- Leaves the last segment, given with the segments before it in reverse. -/
def parent : List (List Char) → List (List Char)
  | [] => []
  | segment :: before => if isDrive segment then segment :: before else before

/-- Enters segments one by one; the last one may be empty. Segments so far are reversed. -/
def enter (before : List (List Char)) : List (List Char) → List (List Char)
  | [] => before
  | [segment] =>
    if isDoubleDot segment then [] :: parent before
    else if isSingleDot segment then [] :: before
    else segment :: before
  | segment :: rest =>
    if isDoubleDot segment then enter (parent before) rest
    else if isSingleDot segment then enter before rest
    else enter (segment :: before) rest

/-- The segments between slashes. -/
def split : List Char → List (List Char)
  | [] => [[]]
  | c :: rest =>
    if isSlash c then [] :: split rest
    else match split rest with
      | [] => [[c]]
      | segment :: segments => (c :: segment) :: segments

/-- The segments of a path whose first slash may be missing. -/
def parse (text : List Char) : List (List Char) :=
  let text := match text with
    | c :: rest => if isSlash c then rest else text
    | [] => []
  (enter [] ((split text).map Part.path.encode)).reverse

/-- A path, each segment after a slash. -/
def text (segments : List (List Char)) : List Char := segments.flatMap ('/' :: ·)

end Credentials.Url.Path

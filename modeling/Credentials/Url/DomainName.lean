import Credentials.Unicode.Composition
import Credentials.Unicode.Direction
import Credentials.Unicode.HostMapping
import Credentials.Url.Punycode

/-!
# Internationalized domain names

A domain name as ASCII. Every character is replaced by what it is equivalent to, the labels between
the dots are checked, and labels with characters beyond ASCII are written in Punycode after `xn--`.
Labels may be of any length, may be empty, and may hold hyphens anywhere.
-/

namespace Credentials.Url.DomainName

open Credentials.Unicode

/-- What a label in Punycode begins with. -/
def marker : List Char := ['x', 'n', '-', '-']

/-- Characters that no domain name may hold once every character has been replaced. -/
def isForbidden (c : Char) : Bool :=
  c.toNat ≤ 0x20 || c.toNat == 0x7f || c.isUpper ||
    ['#', '%', '/', ':', '<', '>', '?', '@', '[', '\\', ']', '^', '|'].contains c

/-- Whether a text is ASCII. -/
def isAscii (text : List Char) : Bool := text.all (·.toNat < 0x80)

/-- The class of the marks that suppress the vowel of a letter. -/
def viramaClass : Nat := 9

/-- A character that separates letters without a gap; another one joins them. -/
def nonJoiner : Char := '\u200c'

/-- The character that joins letters. -/
def joiner : Char := '\u200d'

/--
Whether all joiners and non-joiners of a label are where they make a difference: after a virama, or,
for a non-joiner, between letters that would join. `before` holds what precedes, reversed.
-/
def joinersFit (before : List Char) : List Char → Bool
  | [] => true
  | c :: rest =>
    let afterVirama := before.head?.any (combiningClass · == viramaClass)
    let left := (before.dropWhile isMark).head?
    let right := (rest.dropWhile isMark).head?
    let wouldJoin := left.any joiningBothTable.contains &&
      right.any fun d => joiningBothTable.contains d || joiningBeforeTable.contains d
    let fits :=
      if c == joiner then afterVirama
      else if c == nonJoiner then afterVirama || wouldJoin
      else true
    fits && joinersFit (c :: before) rest

/-- Whether a character is written from right to left, or is a number for such writing. -/
def isRightToLeft (c : Char) : Bool :=
  [.rightToLeft, .arabicLetter, .arabicNumber].contains (direction c)

/-- The classes that may stand in a label of either direction. -/
def eitherWay : List Direction :=
  [.europeanNumber, .europeanSeparator, .commonSeparator, .europeanTerminator, .neutral, .boundary,
    .mark]

/-- Whether a label reads unambiguously in a name with characters written from right to left. -/
def directionsFit (label : List Char) : Bool :=
  let classes := label.map direction
  let last := (classes.reverse.dropWhile (· == .mark)).head?
  match classes.head? with
  | none => true
  | some .leftToRight =>
    classes.all (fun d => d == .leftToRight || eitherWay.contains d) &&
      last.any [.leftToRight, .europeanNumber].contains
  | some first =>
    [.rightToLeft, .arabicLetter].contains first &&
      classes.all (fun d =>
        [.rightToLeft, .arabicLetter, .arabicNumber].contains d || eitherWay.contains d) &&
      last.any [.rightToLeft, .arabicLetter, .europeanNumber, .arabicNumber].contains &&
      !(classes.contains .europeanNumber && classes.contains .arabicNumber)

/-- Whether the characters of a label may stand beside each other. -/
def isValidLabel (label : List Char) : Bool :=
  !label.head?.any isMark && joinersFit [] label

/-- A text with every character replaced and all of them composed; none if one is refused. -/
def normalize? (text : List Char) : Option (List Char) :=
  (text.mapM mapHostChar?).map fun chars => composedForm chars.flatten

/-- A label with the characters that it stands for and its ASCII form. -/
structure Label where
  characters : List Char
  ascii : List Char

/-- Whether characters can be those of a label in Punycode: they are as they should be replaced. -/
def isAdmissible (label : List Char) : Bool :=
  !isAscii label && normalize? label = some label && isValidLabel label

/-- Reads a label of text whose characters have been replaced. -/
def Label.ofText? (text : List Char) : Option Label := do
  if marker.isPrefixOf text then
    let characters ← Punycode.decode? (text.drop marker.length)
    guard (isAdmissible characters ∧
      Punycode.encode? characters = some (text.drop marker.length))
    return ⟨characters, text⟩
  else if isAscii text then return ⟨text, text⟩
  else
    guard (isAdmissible text)
    return ⟨text, marker ++ (← Punycode.encode? text)⟩

/-- The ASCII form of a domain name. -/
def toAscii? (name : List Char) : Option (List Char) := do
  let text ← if isAscii name then some (name.map Char.toLower) else normalize? name
  let labels ← (text.splitOn '.').mapM Label.ofText?
  guard (!(labels.any (·.characters.any isRightToLeft)) ∨
    labels.all (directionsFit ·.characters))
  let ascii := ['.'].intercalate (labels.map Label.ascii)
  guard (!text.any isForbidden)
  return ascii

end Credentials.Url.DomainName

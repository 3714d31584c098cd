/-!
# Text in HTML

Characters with a meaning in HTML are written as entities, so that a text can stand between tags and
in the value of an attribute.
-/

namespace Credentials.Email.Html

/-- How a character is written. -/
def escapeChar : Char → List Char
  | '&' => "&amp;".toList
  | '<' => "&lt;".toList
  | '>' => "&gt;".toList
  | '"' => "&quot;".toList
  | '\x27' => "&#39;".toList
  | c => [c]

/-- Writes a text. -/
def escape (text : List Char) : List Char := text.flatMap escapeChar

/-- Texts one after another are written one after another. -/
theorem escape_append (s t : List Char) : escape (s ++ t) = escape s ++ escape t := by
  simp [escape]

end Credentials.Email.Html

import Credentials.Email.Html
import Credentials.Json.Printer
import Credentials.Log
import Credentials.Url.Basic

/-!
# Messages with a link

The messages that ask to confirm an email address or offer to choose a new password. Both lead to a
configured address, to which the token of the request is added as a query parameter.
-/

namespace Credentials.Email

open Credentials.Json

/-- What a message is about. -/
inductive Kind where
  | verification
  | reset
deriving DecidableEq, Repr

namespace Kind

/-- The subject of a message. -/
def subject : Kind → String
  | .verification => "Verify your email address"
  | .reset => "Reset your password"

/-- The paragraph before the link. -/
def intro : Kind → String
  | .verification => "Please confirm your email address by opening the link below."
  | .reset =>
    "A password reset was requested for your account. " ++
      "Open the link below to choose a new password. " ++
      "If you did not request this, you can ignore this email."

end Kind

/-- A message that can be sent. -/
structure Template where
  subject : String
  body : String
  isHtml : Bool
deriving DecidableEq, Repr

/-- Why there is no message. -/
inductive TemplateError where
  | invalidExpiration (hours : Int)
deriving DecidableEq, Repr

/-- The wording of the problem. -/
def TemplateError.message : TemplateError → String
  | .invalidExpiration hours => "expiration hours must be positive, got " ++ toString hours

/-- The query parameter that carries the token. -/
def tokenParameter : String := "token"

/-- The address to which a link with a token leads. -/
def tokenLink (base : Url) (token : String) : Url :=
  base.addParameter tokenParameter.toList token.toList

/-- A number of hours in words. -/
def hoursText (hours : Int) : String := if hours = 1 then "1 hour" else toString hours ++ " hours"

/-- The body of a message, up to the link, between its two occurrences, and after it. -/
def body (kind : Kind) (link : List Char) (hours : Int) : List Char :=
  let link := Html.escape link
  "<p>".toList ++ Html.escape kind.intro.toList ++ "</p>\n<p><a href=\"".toList ++ link ++
    "\">".toList ++ link ++ "</a></p>\n<p>This link expires in ".toList ++
    (hoursText hours).toList ++ ".</p>\n".toList

/-- Writes a message with a link that can be used for some hours. -/
def render (kind : Kind) (base : Url) (token : String) (hours : Int) :
    Except TemplateError Template :=
  if hours ≤ 0 then .error (.invalidExpiration hours)
  else .ok ⟨kind.subject, .ofList (body kind (tokenLink base token).text hours), true⟩

namespace Template

/-- A message as JSON. -/
def toJson (t : Template) : Value :=
  .object [("subject", .string t.subject), ("body", .string t.body), ("is_html", .bool t.isHtml)]

/-- The event that stands for sending a message where no mail is sent. -/
def sentEvent (t : Template) (recipient : String) : LogEvent :=
  ⟨.info, .email, "email send stub",
    [("to_email", .text recipient), ("subject", .text t.subject), ("is_html", .bool t.isHtml),
      ("body_len", .number t.body.utf8ByteSize)]⟩

end Template

end Credentials.Email

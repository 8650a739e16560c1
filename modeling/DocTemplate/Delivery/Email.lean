import DocTemplate.Html.Document
import DocTemplate.Page.Document
import DocTemplate.Surroundings

/-!
# Documents by email

A document goes out as the HTML of a message, with its pages attached. The message is made before it
is handed over, and what becomes of it does not change it.
-/

namespace DocTemplate.Delivery

open DocTemplate.Artifact DocTemplate.Page DocTemplate.Text

/-- A message with a document. -/
structure Email where
  recipient : String
  subject : String
  body : String
  html : String
  attachmentName : String
  attachment : Drawn Float

/-- What a sender says of a message. -/
inductive Reply where
  | answered (accepted : Bool)
  | failed (reason : String)

/-- What became of a message: why it was not sent, if it was not. -/
structure Dispatch where
  sent : Bool
  reason : Option String
  email : Email

/-- The text of a message before its document. -/
structure Cover where
  recipient : String
  subject : String
  body : String
  attachmentName : Option String

/-- The message that carries a document. The attachment is named for the title, or else for the
subject. -/
def compose (around : Surroundings) (cover : Cover) (layout : Layout) (context : Value)
    (title : Option String) : Except Failure Email := do
  let pages ← drawDocument .standard .standard none around.pictures layout context title
  let name ← match given? cover.attachmentName with
    | some name => .ok name
    | none => (slugOf around.words (pointsOf ((given? title).getD cover.subject))).map (· ++ ".pdf")
  .ok ⟨cover.recipient, cover.subject, cover.body, Html.document layout context title, name, pages⟩

/-- A message is handed to a sender. -/
def deliver (sender : Email → Reply) (email : Email) : Dispatch :=
  match sender email with
  | .answered true => ⟨true, none, email⟩
  | .answered false => ⟨false, some "Sender did not accept message", email⟩
  | .failed reason => ⟨false, some reason, email⟩

end DocTemplate.Delivery

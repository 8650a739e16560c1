import DocTemplate.Value.Plain

/-!
# Document types

The types of documents, their names and their labels.
-/

namespace DocTemplate.Catalog

inductive DocumentType
  | invoice
  | deliveryDocket
  | orderConfirmation
  | availabilityList
  | featuredList
deriving DecidableEq, Repr

namespace DocumentType

/-- All types. -/
def all : List DocumentType :=
  [invoice, deliveryDocket, orderConfirmation, availabilityList, featuredList]

def name : DocumentType → String
  | invoice => "invoice"
  | deliveryDocket => "delivery_docket"
  | orderConfirmation => "order_confirmation"
  | availabilityList => "av_list"
  | featuredList => "lookin_good"

def label : DocumentType → String
  | invoice => "Invoice"
  | deliveryDocket => "Delivery Docket"
  | orderConfirmation => "Order Confirmation"
  | availabilityList => "Availability List"
  | featuredList => "Looking Good List"

def named? (s : String) : Option DocumentType := all.find? (·.name == s)

end DocumentType

/-- A value that is none of the members of a class. -/
structure NoMember where
  value : Value
  noun : String

/-- What is said of a value that is no member of a class. -/
def NoMember.message (e : NoMember) : String :=
  String.ofList (e.value.literal.toOption.getD []) ++ " is not a valid " ++ e.noun

def DocumentType.read (v : Value) : Except NoMember DocumentType :=
  match v.text?.bind DocumentType.named? with
  | some t => .ok t
  | none => .error ⟨v, "DocumentType"⟩

theorem DocumentType.named?_name (t : DocumentType) : named? t.name = some t := by
  cases t <;> decide

end DocTemplate.Catalog

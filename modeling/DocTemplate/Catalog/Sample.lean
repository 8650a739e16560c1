import DocTemplate.Catalog.DocumentType
import DocTemplate.Value.Basic

/-!
# Sample records

A record for each type of document, to try a layout on.
-/

namespace DocTemplate.Catalog

open DocTemplate.Calendar

/-- What all samples begin with. -/
def sampleBase (today : Date) : Fields := [
  ("title", .text "Sample Document"),
  ("subtitle", .text "Preview Mode"),
  ("generatedAt", .text (String.ofList today.text)),
  ("company", .record [("name", .text "Greenfield Nurseries Ltd")])]

def sampleOwn : DocumentType → Fields
  | .invoice => [
    ("title", .text "Invoice"),
    ("subtitle", .text "Tax Invoice"),
    ("invoice", .record [
      ("number", .text "INV-2024-001"),
      ("date", .text "2024-02-04"),
      ("dueDate", .text "2024-03-04")]),
    ("customer", .record [
      ("name", .text "Acme Garden Centre"),
      ("email", .text "orders@acmegarden.ie"),
      ("address", .text "123 Garden Lane, Dublin 4, Ireland")]),
    ("lines", .list [
      .record [
        ("description", .text "Lavender (9cm pot)"),
        ("quantity", .int 50),
        ("unitPrice", .float 2.5),
        ("total", .int 125)],
      .record [
        ("description", .text "Rosemary (9cm pot)"),
        ("quantity", .int 30),
        ("unitPrice", .float 2.75),
        ("total", .float 82.5)],
      .record [
        ("description", .text "Thyme (9cm pot)"),
        ("quantity", .int 40),
        ("unitPrice", .float 2.25),
        ("total", .int 90)]]),
    ("totals", .record [
      ("subtotal", .float 297.5),
      ("tax", .float 68.43),
      ("grandTotal", .float 365.93)]),
    ("notes", .text "Thank you for your business!")]
  | .deliveryDocket => [
    ("title", .text "Delivery Docket"),
    ("subtitle", .text "Dispatch Note"),
    ("docket", .record [("number", .text "DD-2024-042"), ("date", .text "2024-02-04")]),
    ("order", .record [("number", .text "ORD-2024-089")]),
    ("delivery", .record [
      ("address", .text "456 Nursery Road, Cork, Ireland"),
      ("contact", .text "John Murphy")]),
    ("lines", .list [
      .record [
        ("description", .text "Lavender (9cm pot)"),
        ("quantity", .int 50),
        ("location", .text "Bay A3")],
      .record [
        ("description", .text "Rosemary (9cm pot)"),
        ("quantity", .int 30),
        ("location", .text "Bay B1")],
      .record [
        ("description", .text "Thyme (9cm pot)"),
        ("quantity", .int 40),
        ("location", .text "Bay C2")]]),
    ("notes", .text "Please handle with care. Fragile plants.")]
  | .orderConfirmation => [
    ("title", .text "Order Confirmation"),
    ("subtitle", .text "Your order has been received"),
    ("order", .record [
      ("number", .text "ORD-2024-089"),
      ("date", .text "2024-02-04"),
      ("requestedDate", .text "2024-02-11")]),
    ("customer", .record [
      ("name", .text "Green Thumb Landscapes"),
      ("email", .text "info@greenthumb.ie")]),
    ("lines", .list [
      .record [
        ("description", .text "Hebe 'Autumn Glory'"),
        ("quantity", .int 25),
        ("unitPrice", .float 4.5)],
      .record [
        ("description", .text "Euonymus 'Emerald Gold'"),
        ("quantity", .int 15),
        ("unitPrice", .float 5.25)],
      .record [
        ("description", .text "Photinia 'Red Robin'"),
        ("quantity", .int 10),
        ("unitPrice", .float 8.0)]]),
    ("totals", .record [("grandTotal", .float 271.25)])]
  | .availabilityList => [
    ("title", .text "Availability List"),
    ("subtitle", .text "Current Stock"),
    ("items", .list [
      .record [
        ("name", .text "Lavender 'Hidcote'"),
        ("size", .text "9cm"),
        ("grade", .text "A"),
        ("qty", .int 500),
        ("price", .float 2.5)],
      .record [
        ("name", .text "Rosemary 'Miss Jessopp'"),
        ("size", .text "9cm"),
        ("grade", .text "A"),
        ("qty", .int 350),
        ("price", .float 2.75)],
      .record [
        ("name", .text "Salvia 'Hot Lips'"),
        ("size", .text "1L"),
        ("grade", .text "A"),
        ("qty", .int 200),
        ("price", .float 4.0)],
      .record [
        ("name", .text "Hebe 'Autumn Glory'"),
        ("size", .text "2L"),
        ("grade", .text "A+"),
        ("qty", .int 150),
        ("price", .float 5.5)]])]
  | .featuredList => [
    ("title", .text "Looking Good List"),
    ("subtitle", .text "Featured Plants This Week"),
    ("items", .list [
      .record [
        ("name", .text "Camellia japonica"),
        ("description", .text "Beautiful pink blooms, perfect for spring")],
      .record [
        ("name", .text "Magnolia stellata"),
        ("description", .text "Star magnolia, early spring flowering")],
      .record [
        ("name", .text "Prunus 'Kanzan'"),
        ("description", .text "Japanese cherry, stunning pink blossom")]])]

def sample (today : Date) (t : DocumentType) : Fields := (sampleBase today).overlay (sampleOwn t)

end DocTemplate.Catalog

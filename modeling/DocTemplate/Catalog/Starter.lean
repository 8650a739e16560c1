import DocTemplate.Catalog.DocumentType
import DocTemplate.Layout.Component

/-!
# Starter layouts

The layouts that documents begin with: one for invoices, one for delivery dockets, and a short one
that suits every type of document.
-/

namespace DocTemplate.Catalog

def whenSet (field : String) : Condition := ⟨field, .exists, .null⟩

def slot (path : String) : String := "\x7b\x7b" ++ path ++ "\x7d\x7d"

/-- What a line is about. -/
def descriptionColumn : Column :=
  { key := "desc", label := "Description", binding := some "description" }

/-- How many. -/
def quantityColumn : Column :=
  { key := "qty", label := "Qty", binding := some "quantity", align := some .right,
    format := some .number }

/-- What one costs. -/
def unitPriceColumn : Column :=
  { key := "unit", label := "Unit Price", binding := some "unitPrice", align := some .right,
    format := some .currency }

/-- An invoice: the parties, the lines and the totals. -/
def invoiceLayout : Layout := [
  .heading
      { id := "header-title",
        text := some "INVOICE",
        style := some { fontSize := some 28.0, bold := true, align := some "right" } } 1,
  .text
      { id := "header-company",
        text := some (slot "company.name"),
        style := some { align := some "right", color := some "#475569" } },
  .divider { id := "header-divider" },
  .box { id := "customer-box" } [
      .text
          { id := "cust-label",
            text := some "Bill To:",
            style := some { bold := true, fontSize := some 10.0, color := some "#64748b" } },
      .text
          { id := "cust-name",
            text := some (slot "customer.name"),
            style := some { bold := true } },
      .text
          { id := "cust-addr",
            text := some (slot "customer.address"),
            visibleWhen := [whenSet "customer.address"] },
      .text
          { id := "cust-email",
            text := some (slot "customer.email"),
            visibleWhen := [whenSet "customer.email"] }],
  .list { id := "invoice-meta" } [
      { label := some ("Invoice Number: " ++ slot "invoice.number") },
      { label := some ("Invoice Date: " ++ slot "invoice.date") },
      { label := some ("Due Date: " ++ slot "invoice.dueDate") }],
  .spacer { id := "spacer-1" } 10.0,
  .table { id := "lines-table" } (some "lines") [
      { key := "desc", label := "Description", binding := some "description", width := some 50.0 },
      quantityColumn,
      unitPriceColumn,
      { key := "total", label := "Amount", binding := some "total",
        align := some .right, format := some .currency }] true,
  .spacer { id := "spacer-2" } 10.0,
  .text
      { id := "totals-subtotal",
        text := some ("Subtotal: " ++ slot "totals.subtotal"),
        style := some { align := some "right" } },
  .text
      { id := "totals-tax",
        text := some ("VAT: " ++ slot "totals.tax"),
        style := some { align := some "right" } },
  .text
      { id := "totals-grand",
        text := some ("Total Due: " ++ slot "totals.grandTotal"),
        style := some { align := some "right", bold := true, fontSize := some 14.0 } },
  .text
      { id := "footer-notes",
        text := some (slot "notes"),
        style := some { fontSize := some 9.0, color := some "#64748b" },
        visibleWhen := [whenSet "notes"] }]

/-- A delivery docket: where it goes, what is in it, and a line to sign on. -/
def docketLayout : Layout := [
  .heading
      { id := "header-title",
        text := some "DELIVERY DOCKET",
        style := some { fontSize := some 24.0, bold := true } } 1,
  .text
      { id := "header-number",
        text := some ("#" ++ slot "docket.number"),
        style := some { fontSize := some 14.0, color := some "#64748b" } },
  .divider { id := "header-divider" },
  .box { id := "delivery-box" } [
      .text
          { id := "del-label",
            text := some "Deliver To:",
            style := some { bold := true, fontSize := some 10.0, color := some "#64748b" } },
      .text
          { id := "del-contact",
            text := some (slot "delivery.contact"),
            style := some { bold := true } },
      .text { id := "del-address", text := some (slot "delivery.address") }],
  .list { id := "docket-meta" } [
      { label := some ("Delivery Date: " ++ slot "docket.date") },
      { label := some ("Order Reference: " ++ slot "order.number") }],
  .spacer { id := "spacer-1" } 10.0,
  .table { id := "lines-table" } (some "lines") [
      descriptionColumn,
      quantityColumn,
      { key := "loc", label := "Location", binding := some "location" }] true,
  .spacer { id := "spacer-2" } 10.0,
  .text { id := "notes", text := some (slot "notes"), visibleWhen := [whenSet "notes"] },
  .text
      { id := "signature-line",
        text := some "Received by: ____________________  Date: __________",
        style := some { marginBottom := some 8.0 } }]

/-- The head of a short document. -/
def headLayout : Layout := [
  .heading { id := "heading", text := some (slot "title") } 1,
  .text
      { id := "subtitle",
        text := some (slot "subtitle"),
        style := some { color := some "#64748b" },
        visibleWhen := [whenSet "subtitle"] },
  .divider { id := "divider" }]

/-- The rest of a short order confirmation. -/
def confirmationBody : Layout := [
  .list { id := "order-info" } [
      { label := some ("Order: " ++ slot "order.number") },
      { label := some ("Requested delivery: " ++ slot "order.requestedDate") }],
  .table { id := "lines" } (some "lines") [
      descriptionColumn,
      quantityColumn,
      unitPriceColumn] true,
  .text
      { id := "total",
        text := some ("Total: " ++ slot "totals.grandTotal"),
        style := some { align := some "right", bold := true } }]

/-- The rest of a short availability list. -/
def stockBody : Layout := [
  .table { id := "items" } (some "items") [
      { key := "name", label := "Variety" },
      { key := "size", label := "Size" },
      { key := "grade", label := "Grade" },
      { key := "qty", label := "Available", align := some .right, format := some .number },
      { key := "price", label := "Price", align := some .right, format := some .currency }] true]

/-- The rest of a short list of featured plants. -/
def featuredBody : Layout := [
  .table { id := "items" } (some "items") [
      { key := "name", label := "Plant" },
      { key := "description", label := "Notes" }] true]

/-- The rest of any other short document. -/
def linesBody : Layout := [
  .table { id := "lines" } (some "lines") [
      descriptionColumn,
      quantityColumn] true]

def shortLayout : DocumentType → Layout
  | .orderConfirmation => headLayout ++ confirmationBody
  | .availabilityList => headLayout ++ stockBody
  | .featuredList => headLayout ++ featuredBody
  | _ => headLayout ++ linesBody

inductive Starter
  | classicInvoice
  | simpleDocket
  | minimal
deriving DecidableEq, Repr

namespace Starter

def all : List Starter := [classicInvoice, simpleDocket, minimal]

def name : Starter → String
  | classicInvoice => "classic-invoice"
  | simpleDocket => "simple-docket"
  | minimal => "minimal"

def named? (s : String) : Option Starter := all.find? (·.name == s)

/-- The starter layout of a name, or what is said where there is none. -/
def read (s : String) : Except String Starter :=
  match named? s with
  | some starter => .ok starter
  | none => .error ("Unknown preset: " ++ s)

def layout : Starter → DocumentType → Layout
  | classicInvoice, _ => invoiceLayout
  | simpleDocket, _ => docketLayout
  | minimal, t => shortLayout t

def standard : DocumentType → Starter
  | .invoice => classicInvoice
  | .deliveryDocket => simpleDocket
  | _ => minimal

end Starter

def defaultLayout (t : DocumentType) : Layout := (Starter.standard t).layout t

end DocTemplate.Catalog

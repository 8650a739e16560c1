import DocTemplate.Html.Body

/-!
# HTML documents

A whole document: a head with the title and the style sheet, and the body of a layout.
-/

namespace DocTemplate.Html

def defaultTitle : String := "Document"

/-- The rules of the style sheet that all documents share. -/
def styleRules : List String :=
  ["@page \x7b size: A4; margin: 0; \x7d",
   "body \x7b font-family: Inter, ui-sans-serif, -apple-system, BlinkMacSystemFont, \"Segoe UI\", sans-serif; color: #0f172a; background: #f8fafc; \x7d",
   ".doc \x7b background: white; max-width: 820px; margin: 12px auto; padding: 24px 28px; border: 1px solid #e2e8f0; border-radius: 12px; box-shadow: 0 10px 30px rgba(15, 23, 42, 0.08); \x7d",
   "h1,h2,h3,h4 \x7b margin: 0 0 8px 0; \x7d",
   "p \x7b margin: 0 0 10px 0; line-height: 1.45; \x7d",
   "table \x7b font-size: 14px; \x7d",
   "th \x7b font-size: 12px; text-transform: uppercase; letter-spacing: 0.04em; color: #475569; \x7d"]

/-- The style sheet, one rule on a line. -/
def styleSheet : String := "\n" ++ String.join (styleRules.map fun r => "    " ++ r ++ "\n")

def titleOrDefault (title : Option String) : String := (given? title).getD defaultTitle

/-- What stands before the elements of the body. -/
def opening (title : Option String) : List Char :=
  "<!DOCTYPE html>\n<html>\n  <head>\n    <meta charset=\"utf-8\" />\n    <title>".toList
    ++ escape (titleOrDefault title).toList
    ++ ("</title>\n    <style>" ++ styleSheet
      ++ "</style>\n  </head>\n  <body>\n    <div class=\"doc\">").toList

/-- What stands after the elements of the body. -/
def closing : List Char := "</div>\n  </body>\n</html>\n".toList

def document (layout : Layout) (context : Value) (title : Option String) : String :=
  String.ofList (opening title ++ printNodes (body layout context) ++ closing)

end DocTemplate.Html

import DocTemplate.Layout.Content

/-!
# Style sheets

The declarations that the style of a component gives its element.
-/

namespace DocTemplate.Html

open DocTemplate.Number

/-- The colour of lines and of chips that have none of their own. -/
def lineColor : String := "#e2e8f0"

def pixels (x : Float) : String := String.ofList (wholeOrFull x) ++ "px"

/-- The frame that a border draws. -/
def borderDeclaration? (b : Border) : Option String :=
  (nonzero? b.width).map fun width =>
    "border:" ++ pixels width ++ " solid " ++ (given? b.color).getD lineColor

/-- The declarations of a style; what is not set declares nothing. -/
def declarations (s : Style) : List String :=
  ((nonzero? s.fontSize).map fun x => "font-size:" ++ pixels x).toList
    ++ (if s.bold then ["font-weight:700"] else [])
    ++ (if s.italic then ["font-style:italic"] else [])
    ++ ((given? s.color).map ("color:" ++ ·)).toList
    ++ ((given? s.background).map ("background:" ++ ·)).toList
    ++ (s.padding.map fun x => "padding:" ++ pixels x).toList
    ++ (s.marginBottom.map fun x => "margin-bottom:" ++ pixels x).toList
    ++ ((given? s.align).map ("text-align:" ++ ·)).toList
    ++ (s.border.bind borderDeclaration?).toList

def css (s : Style) : String := ";".intercalate (declarations s)

end DocTemplate.Html

import DocTemplate.Layout.Component
import DocTemplate.Value.Equality

/-!
# Equality of layouts

Two layouts are the same when they have the same components with the same fields; loose values in
them are compared as data.
-/

namespace DocTemplate

/-- Whether two things that may be missing are both missing or both there and alike. -/
def bothOrNone {α : Type} (alike : α → α → Bool) : Option α → Option α → Bool
  | none, none => true
  | some a, some b => alike a b
  | _, _ => false

/-- Whether two lists are alike, one by one. -/
def pairwise {α : Type} (alike : α → α → Bool) : List α → List α → Bool
  | [], [] => true
  | a :: as, b :: bs => alike a b && pairwise alike as bs
  | _, _ => false

/-- Whether two sizes that may be missing are equal. -/
def sameSize : Option Float → Option Float → Bool := bothOrNone fun x y => x == y

def Border.same (a b : Border) : Bool := sameSize a.width b.width && a.color == b.color

/-- Whether two styles are the same. -/
def Style.same (a b : Style) : Bool :=
  sameSize a.fontSize b.fontSize && a.bold == b.bold && a.italic == b.italic
    && a.color == b.color && a.background == b.background && sameSize a.padding b.padding
    && sameSize a.marginBottom b.marginBottom && a.align == b.align
    && bothOrNone Border.same a.border b.border

def Condition.same (a b : Condition) : Bool :=
  a.field == b.field && a.operator == b.operator && a.value.same b.value

def ListItem.same (a b : ListItem) : Bool := a.label == b.label && a.binding == b.binding

def Chip.same (a b : Chip) : Bool := a.label == b.label && a.color == b.color

def Column.same (a b : Column) : Bool :=
  a.key == b.key && a.label == b.label && a.binding == b.binding && sameSize a.width b.width
    && a.align == b.align && a.format == b.format

/-- Whether two components share what all components have. -/
def Common.same (a b : Common) : Bool :=
  a.id == b.id && a.text == b.text && a.label == b.label && a.binding == b.binding
    && bothOrNone Style.same a.style b.style && pairwise Condition.same a.visibleWhen b.visibleWhen

mutual

/-- Whether two components are the same. -/
def Component.same : Component → Component → Bool
  | .heading c m, .heading d n => c.same d && m == n
  | .text c, .text d => c.same d
  | .list c is, .list d js => c.same d && pairwise ListItem.same is js
  | .chips c is, .chips d js => c.same d && pairwise Chip.same is js
  | .divider c, .divider d => c.same d
  | .spacer c x, .spacer d y => c.same d && x == y
  | .image c u w h, .image d u' w' h' => c.same d && u == u' && sameSize w w' && sameSize h h'
  | .box c cs, .box d ds => c.same d && sameComponents cs ds
  | .table c r cs header, .table d r' cs' header' =>
    c.same d && r == r' && pairwise Column.same cs cs' && header == header'
  | .unknown c kind extras, .unknown d kind' extras' =>
    c.same d && kind == kind' && Value.sameFields extras extras'
  | _, _ => false

def sameComponents : List Component → List Component → Bool
  | [], [] => true
  | c :: cs, d :: ds => c.same d && sameComponents cs ds
  | _, _ => false

end

def sameLayout (a b : Layout) : Bool := sameComponents a b

end DocTemplate

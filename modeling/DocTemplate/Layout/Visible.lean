import DocTemplate.Binding.Path
import DocTemplate.Layout.Component
import DocTemplate.Value.Equality

/-!
# Visibility

A component is visible when all its conditions hold of the context. Conditions are tried in order, and
the first one that does not hold settles it.
-/

namespace DocTemplate

/-- Whether a value is there: neither null nor empty text. -/
def Value.isThere : Value → Bool
  | .null => false
  | .text s => s != ""
  | _ => true

/-- Whether an operator accepts the value found, beside the value to compare with. -/
def Operator.accepts : Operator → (found given : Value) → Bool
  | .exists, found, _ => found.isThere
  | .equals, found, given => found.strictEquals given
  | .notEquals, found, given => !found.strictEquals given

def Condition.holds (context : Value) (c : Condition) : Except Failure Bool :=
  (resolve context (some c.field)).map fun found => c.operator.accepts found c.value

def allHold (context : Value) : List Condition → Except Failure Bool
  | [] => .ok true
  | c :: cs => do if ← c.holds context then allHold context cs else .ok false

def Component.isVisible (context : Value) (c : Component) : Except Failure Bool :=
  allHold context c.common.visibleWhen

end DocTemplate

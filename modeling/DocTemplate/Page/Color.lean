import DocTemplate.Number.Numeral
import DocTemplate.Text.Quoted
import DocTemplate.Value.Plain

/-!
# Colours

Colours are twenty-four bits. They are typed in base sixteen, after any number of hash signs; of a
longer number the low bits count.
-/

namespace DocTemplate.Page

open DocTemplate.Number DocTemplate.Text

/-- A colour: eight bits each of red, green and blue. -/
structure Color where
  bits : BitVec 24
deriving DecidableEq, Repr

namespace Color

def black : Color := ⟨0⟩

/-- A colour as a hash sign and six digits. -/
def text (c : Color) : String := String.ofList ('#' :: hexDigits 6 c.bits.toNat)

/-- The colour that is typed, if any is. -/
def read? (cs : List Char) : Option Color :=
  if cs.isEmpty then none
  else (readHexadecimal? (cs.dropWhile (· == '#'))).map fun n => ⟨BitVec.ofInt 24 n⟩

/-- The colour that a value writes, if it does. -/
def ofValue? (v : Value) : Option Color :=
  if v.isTruthy then v.shown.toOption.bind read? else none

example : (read? ['#', '#', 'f', '0', '0']).map (·.bits) = some 0xF00 := by decide
example : (read? ['-', '1']).map (·.bits) = some 0xFFFFFF := by decide

end Color

end DocTemplate.Page

import DocTemplate.Number.Decimal
import DocTemplate.Text.Blank
import DocTemplate.Value.Basic
import DocTemplate.Value.Failure

/-!
# Sizes

The number that a value is or writes, where a size is wanted and any value may stand.
-/

namespace DocTemplate.Value

open DocTemplate.Number DocTemplate.Text

/-- The number that bytes write. -/
def sizeInBytes? (bs : List UInt8) : Option Float :=
  if bs.all (· < 0x80) then
    readFloat? asciiDigit? (dropAround isGapChar (bs.map fun b => Char.ofNat b.toNat))
  else none

/-- The size that a value is. -/
def toSize : Value → Except Failure Float
  | .bool b => .ok (if b then 1.0 else 0.0)
  | .int n => if isFinite (ofInt n) then .ok (ofInt n) else .error .lengthTooGreat
  | .float x => .ok x
  | .decimal d =>
    match d.toFloat? with
    | some x => .ok x
    | none => .error .undefinedLength
  | .text s =>
    match readFloat? digitValue? (trim s.toList) with
    | some x => .ok x
    | none => .error (.notANumber s)
  | .bytes bs =>
    match sizeInBytes? bs with
    | some x => .ok x
    | none => .error .wrongKind
  | _ => .error .wrongKind

end DocTemplate.Value

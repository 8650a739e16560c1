import DocTemplate.Text.Printable

/-!
# Quoted text

Text and bytes as they show inside lists and records: between single quotes, or between double
quotes when the text holds a single quote and no double quote; backslash, the quote and characters
that are not printable are escaped.
-/

namespace DocTemplate.Text

/-- The lower-case hexadecimal digit of a value below sixteen. -/
def hexDigit (d : Nat) : Char :=
  if d < 10 then Char.ofNat ('0'.toNat + d) else Char.ofNat ('a'.toNat + (d - 10))

/-- A number in a fixed count of lower-case hexadecimal digits, the last ones kept. -/
def hexDigits : Nat → Nat → List Char
  | 0, _ => []
  | width + 1, n => hexDigits width (n / 16) ++ [hexDigit (n % 16)]

/-- The quote put around a text: double exactly when single quotes but no double quotes occur. -/
def quoteFor (hasSingle hasDouble : Bool) : Char :=
  if hasSingle && !hasDouble then '"' else '\''

/-- One character of quoted text. -/
def quoteChar (quote c : Char) : List Char :=
  if c = quote ∨ c = '\\' then ['\\', c]
  else if c = '\n' then ['\\', 'n']
  else if c = '\r' then ['\\', 'r']
  else if c = '\t' then ['\\', 't']
  else if isPrintable c then [c]
  else if c.toNat < 0x100 then '\\' :: 'x' :: hexDigits 2 c.toNat
  else if c.toNat < 0x10000 then '\\' :: 'u' :: hexDigits 4 c.toNat
  else '\\' :: 'U' :: hexDigits 8 c.toNat

/-- Text between quotes. -/
def quoted (cs : List Char) : List Char :=
  let quote := quoteFor (cs.contains '\'') (cs.contains '"')
  quote :: cs.flatMap (quoteChar quote) ++ [quote]

/-- One byte of quoted bytes: printable ASCII shows as itself. -/
def quoteByte (quote : Char) (b : UInt8) : List Char :=
  let c := Char.ofNat b.toNat
  if c = quote ∨ c = '\\' then ['\\', c]
  else if c = '\n' then ['\\', 'n']
  else if c = '\r' then ['\\', 'r']
  else if c = '\t' then ['\\', 't']
  else if 0x20 ≤ b.toNat ∧ b.toNat < 0x7F then [c]
  else '\\' :: 'x' :: hexDigits 2 b.toNat

/-- Bytes between quotes, marked by a leading `b`. -/
def quotedBytes (bs : List UInt8) : List Char :=
  let quote := quoteFor (bs.contains 0x27) (bs.contains 0x22)
  'b' :: quote :: bs.flatMap (quoteByte quote) ++ [quote]

example : quoted ['i', 't', '\'', 's'] = ['"', 'i', 't', '\'', 's', '"'] := by decide

end DocTemplate.Text

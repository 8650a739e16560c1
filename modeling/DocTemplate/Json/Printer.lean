import DocTemplate.Text.Encoding
import DocTemplate.Text.Quoted
import DocTemplate.Value.Plain

/-!
# Writing JSON

Values as JSON text in ASCII: other characters are escaped by their UTF-16 units. Dates, decimals
and bytes, which JSON does not have, are written as text.
-/

namespace DocTemplate.Json

open DocTemplate.Number DocTemplate.Text

def unitEscape (n : Nat) : List Char := '\\' :: 'u' :: hexDigits 4 n

/-- One character inside quotes. -/
def escapeChar (c : Char) : List Char :=
  if c = '"' ∨ c = '\\' then ['\\', c]
  else if 0x20 ≤ c.toNat ∧ c.toNat < 0x7F then [c]
  else if c.toNat < 0x10000 then unitEscape c.toNat
  else
    let n := c.toNat - 0x10000
    unitEscape (0xD800 + n / 0x400) ++ unitEscape (0xDC00 + n % 0x400)

/-- Text written after what is there already. -/
def writeText (out : String) (s : String) : String :=
  (s.foldl (fun out c => (escapeChar c).foldl String.push out) (out.push '"')).push '"'

/-- Characters written after what is there already. -/
def writeChars (out : String) (cs : List Char) : String := cs.foldl String.push out

/-- A double: its full text, or the name of an infinity or of the value that is no number. -/
def floatForm (x : Float) : List Char :=
  if isNaN x then "NaN".toList
  else if isFinite x then floatText x
  else if x < 0 then "-Infinity".toList
  else "Infinity".toList

mutual

/-- A value written after what is there already. -/
def write (out : String) : Value → String
  | .null => out ++ "null"
  | .bool b => out ++ (if b then "true" else "false")
  | .int n => writeChars out ((if n < 0 then ['-'] else []) ++ decimalDigits n.natAbs)
  | .float x => writeChars out (floatForm x)
  | .decimal d => writeText out (String.ofList d.text)
  | .text s => writeText out s
  | .bytes bs => writeText out (String.ofList (encodeBase64 bs))
  | .date d => writeText out (String.ofList d.text)
  | .moment m => writeText out (String.ofList m.text)
  | .list items => (writeItems (out.push '[') true items).push ']'
  | .tuple items => (writeItems (out.push '[') true items).push ']'
  | .record fields => (writeFields (out.push '\x7b') true fields).push '\x7d'

/-- Items written with commas between them. -/
def writeItems (out : String) (first : Bool) : List Value → String
  | [] => out
  | v :: vs => writeItems (write (if first then out else out.push ',') v) false vs

/-- Fields written with commas between them. -/
def writeFields (out : String) (first : Bool) : List (String × Value) → String
  | [] => out
  | (key, v) :: fields =>
    writeFields (write ((writeText (if first then out else out.push ',') key).push ':') v) false fields

end

/-- The JSON text of a value. -/
def print (v : Value) : String := write "" v

end DocTemplate.Json

import DocTemplate.Number.FloatText
import DocTemplate.Text.Quoted
import DocTemplate.Value.Basic
import DocTemplate.Value.Failure

/-!
# Values as text

`Value.plain` is what a bound value shows as: nothing for null, words for booleans, whole numbers
without a point, dates in universal time. Inside lists and records values show in the literal form
of `Value.literal`, where text is quoted and kinds stay apart.
-/

namespace DocTemplate

open DocTemplate.Number DocTemplate.Calendar DocTemplate.Text

/-- A whole number, unless it has too many digits. -/
def integerText (n : Int) : Except Failure (List Char) :=
  let ds := decimalDigits n.natAbs
  if digitLimit < ds.length then .error .integerTooLong
  else .ok (if n < 0 then '-' :: ds else ds)

def commaSeparated (items : List (List Char)) : List Char := join [',', ' '] items

/-- Numbers as arguments, with commas between them. -/
def argumentText (ns : List Nat) : List Char := commaSeparated (ns.map decimalDigits)

/-- A length of time in days, seconds and microseconds; parts that are zero are left out. -/
def durationLiteral (micros : Int) : List Char :=
  let days := micros / dayLength
  let rest := (micros % dayLength).toNat
  let part (name : String) (n : Int) : List (List Char) :=
    if n = 0 then []
    else [name.toList ++ '=' :: ((if n < 0 then ['-'] else []) ++ decimalDigits n.natAbs)]
  "datetime.timedelta(".toList
    ++ commaSeparated (part "days" days ++ part "seconds" (rest / 1000000 : Nat)
        ++ part "microseconds" (rest % 1000000 : Nat))
    ++ [')']

def offsetLiteral (offset : Int) : List Char :=
  if offset = 0 then "datetime.timezone.utc".toList
  else "datetime.timezone(".toList ++ durationLiteral offset ++ [')']

def dateLiteral (d : Date) : List Char :=
  "datetime.date(".toList ++ argumentText [d.year, d.month, d.day] ++ [')']

/-- The literal form of a moment; seconds and microseconds show when they are needed. -/
def momentLiteral (m : Moment) : List Char :=
  let (hour, minute, second, micros) := clock m.time
  let tail := if micros ≠ 0 then [second, micros] else if second ≠ 0 then [second] else []
  let zone := match m.offset with
    | none => []
    | some o => ", tzinfo=".toList ++ offsetLiteral o
  "datetime.datetime(".toList
    ++ argumentText ([m.date.year, m.date.month, m.date.day, hour, minute] ++ tail) ++ zone ++ [')']

/-- The literal form of a tuple's items; a single item is followed by a comma. -/
def tupleLiteral (items : List (List Char)) : List Char :=
  match items with
  | [item] => '(' :: item ++ [',', ')']
  | items => '(' :: commaSeparated items ++ [')']

namespace Value

mutual

/-- The form in which a value shows inside lists and records. -/
def literal : Value → Except Failure (List Char)
  | null => .ok "None".toList
  | bool b => .ok (if b then "True".toList else "False".toList)
  | int n => integerText n
  | float x => .ok (floatText x)
  | decimal d => .ok ("Decimal('".toList ++ d.text ++ ['\'', ')'])
  | text s => .ok (quoted s.toList)
  | bytes bs => .ok (quotedBytes bs)
  | date d => .ok (dateLiteral d)
  | moment m => .ok (momentLiteral m)
  | list items => (literals items).map fun ts => '[' :: commaSeparated ts ++ [']']
  | tuple items => (literals items).map tupleLiteral
  | record fields => (fieldLiterals fields).map fun ts => '\x7b' :: commaSeparated ts ++ ['\x7d']

/-- The literal forms of items. -/
def literals : List Value → Except Failure (List (List Char))
  | [] => .ok []
  | v :: vs => do
    let t ← literal v
    let ts ← literals vs
    .ok (t :: ts)

def fieldLiterals : List (String × Value) → Except Failure (List (List Char))
  | [] => .ok []
  | (key, v) :: fields => do
    let t ← literal v
    let ts ← fieldLiterals fields
    .ok ((quoted key.toList ++ ':' :: ' ' :: t) :: ts)

end

/-- The text of a value where it stands alone. -/
def shown : Value → Except Failure (List Char)
  | decimal d => .ok d.text
  | text s => .ok s.toList
  | v => literal v

/-- What a bound value shows as. -/
def plain : Value → Except Failure String
  | null => .ok ""
  | bool b => .ok (if b then "true" else "false")
  | float x => .ok (String.ofList (wholeOrFull x))
  | date d => .ok (String.ofList d.text)
  | moment m =>
    match m.utcDate? with
    | some d => .ok (String.ofList d.text)
    | none => .error .dateOutOfRange
  | v => v.shown.map String.ofList

end Value

end DocTemplate

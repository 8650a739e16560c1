import DocTemplate.Text.Blank
import DocTemplate.Text.Digit

/-!
# Numerals

Numbers as they are typed: an optional sign, digits with at most one point among them, an optional
power of ten. `Numeral` is what was typed, exactly; `toFloat` is the double nearest to it.
-/

namespace DocTemplate.Number

open DocTemplate.Text

/-- The number `± coefficient * 10 ^ exponent`. -/
structure Numeral where
  negative : Bool
  coefficient : Nat
  exponent : Int
deriving DecidableEq, Repr

/-- The number written by a run of digits. -/
def ofDigits (base : Nat) (ds : List Nat) : Nat := ds.foldl (fun n d => base * n + d) 0

def decimalDigits (n : Nat) : List Char := Nat.toDigits 10 n

/-- How many decimal digits a number has; zero has one. -/
def digitCount (n : Nat) : Nat := (decimalDigits n).length

/-- The digits at the start of a text and what follows them. -/
def takeDigits (digit? : Char → Option Nat) : List Char → List Nat × List Char
  | [] => ([], [])
  | c :: cs =>
    match digit? c with
    | some d => let (ds, rest) := takeDigits digit? cs; (d :: ds, rest)
    | none => ([], c :: cs)

/-- A leading sign, and what follows it; without a sign the number is not negative. -/
def takeSign : List Char → Bool × List Char
  | '-' :: cs => (true, cs)
  | '+' :: cs => (false, cs)
  | cs => (false, cs)

/-- The power of ten after the digits: nothing, or `e` with a signed run of digits. -/
def readExponent? (digit? : Char → Option Nat) : List Char → Option Int
  | [] => some 0
  | c :: cs =>
    if c = 'e' ∨ c = 'E' then
      let (negative, cs) := takeSign cs
      match takeDigits digit? cs with
      | (d :: ds, []) => some (if negative then -(ofDigits 10 (d :: ds)) else ofDigits 10 (d :: ds))
      | _ => none
    else none

/-- An unsigned numeral: digits, a point, digits, a power of ten. One digit at least is needed. -/
def readUnsigned? (digit? : Char → Option Nat) (cs : List Char) : Option (Nat × Int) := do
  let (whole, rest) := takeDigits digit? cs
  let (fraction, rest) := match rest with
    | '.' :: rest => takeDigits digit? rest
    | rest => ([], rest)
  if whole.isEmpty && fraction.isEmpty then none
  let exponent ← readExponent? digit? rest
  some (ofDigits 10 (whole ++ fraction), exponent - fraction.length)

def readNumeral? (digit? : Char → Option Nat) (cs : List Char) : Option Numeral := do
  let (negative, cs) := takeSign cs
  let (coefficient, exponent) ← readUnsigned? digit? cs
  some ⟨negative, coefficient, exponent⟩

/-- Text without its underscores, each of which must stand between two digits. -/
def dropUnderscores? (digit? : Char → Option Nat) : List Char → Option (List Char)
  | [] => some []
  | ['_'] => none
  | '_' :: _ :: _ => none
  | [c] => some [c]
  | c :: '_' :: cs =>
    match cs with
    | [] => none
    | d :: _ =>
      if (digit? c).isSome && (digit? d).isSome then (dropUnderscores? digit? cs).map (c :: ·)
      else none
  | c :: cs => (dropUnderscores? digit? cs).map (c :: ·)

/-- A run of digits of a base in which single underscores may stand between digits. -/
def readDigitRun? (base : Nat) (cs : List Char) : Option Nat := do
  let runs ← (pieces '_' cs).mapM fun run =>
    if run.isEmpty then none else run.mapM (digitIn? base)
  some (ofDigits base runs.flatten)

/-- Text after the mark of base sixteen, if it is there. -/
def dropHexMark : List Char → List Char
  | '0' :: 'x' :: '_' :: cs => cs
  | '0' :: 'X' :: '_' :: cs => cs
  | '0' :: 'x' :: cs => cs
  | '0' :: 'X' :: cs => cs
  | cs => cs

/-- A whole number in base sixteen: blanks around it, one sign, and the base's mark are allowed. -/
def readHexadecimal? (cs : List Char) : Option Int := do
  let (negative, cs) := takeSign (trim cs)
  let n ← readDigitRun? 16 (dropHexMark cs)
  some (if negative then -n else n)

/-- A whole number in base ten: blanks around it and one sign are allowed. -/
def readInteger? (cs : List Char) : Option Int := do
  let (negative, cs) := takeSign (trim cs)
  let n ← readDigitRun? 10 cs
  some (if negative then -n else n)

/-- The double nearest to `coefficient * 10 ^ exponent`. Far beyond the range of doubles the power
is not computed: the result is infinite or zero there. -/
def nearestFloat (coefficient : Nat) (exponent : Int) : Float :=
  if coefficient = 0 then 0.0
  else
    let size := exponent + digitCount coefficient
    if 400 < size then 1.0 / 0.0
    else if size < -400 then 0.0
    else Float.ofScientific coefficient (exponent < 0) exponent.natAbs

/-- The double nearest to a numeral. -/
def Numeral.toFloat (n : Numeral) : Float :=
  let size := nearestFloat n.coefficient n.exponent
  if n.negative then -size else size

/-- The names of the values that digits cannot write. -/
def readSpecialFloat? (cs : List Char) : Option Float :=
  let (negative, cs) := takeSign cs
  match cs.map Char.toLower with
  | ['i', 'n', 'f'] | ['i', 'n', 'f', 'i', 'n', 'i', 't', 'y'] =>
    some (if negative then -(1.0 / 0.0) else 1.0 / 0.0)
  | ['n', 'a', 'n'] => some (0.0 / 0.0)
  | _ => none

/-- A double as it is typed: a numeral with single underscores between digits, an infinity, or the
value that is no number. -/
def readFloat? (digit? : Char → Option Nat) (cs : List Char) : Option Float :=
  match readSpecialFloat? cs with
  | some x => some x
  | none => do
    let cs ← dropUnderscores? digit? cs
    let n ← readNumeral? digit? cs
    some n.toFloat

example : readNumeral? asciiDigit? ['-', '1', '.', '5', '0'] = some ⟨true, 150, -2⟩ := by decide
example : readHexadecimal? ['0', 'x', '_', 'f', 'f'] = some 255 := by decide

end DocTemplate.Number

/-!
# Faults of JSON text

What can be wrong with JSON text, where it was noticed, and how it is reported. Places count
characters from 0, lines and columns count from 1.
-/

namespace DocTemplate.Json

/-- What is wrong with a text. -/
inductive Fault
  | noValue
  | noName
  | noColon
  | noComma
  | extraData
  | openText
  | controlCharacter
  | badEscape
  | badUnicodeEscape
  /-- A surrogate is named that is not one of a pair. It stands for no character, so there is no text to read. -/
  | loneSurrogate
  | byteOrderMark
deriving DecidableEq, Repr

def Fault.text : Fault → String
  | noValue => "Expecting value"
  | noName => "Expecting property name enclosed in double quotes"
  | noColon => "Expecting ':' delimiter"
  | noComma => "Expecting ',' delimiter"
  | extraData => "Extra data"
  | openText => "Unterminated string starting at"
  | controlCharacter => "Invalid control character at"
  | badEscape => "Invalid \\escape"
  | badUnicodeEscape => "Invalid \\uXXXX escape"
  | loneSurrogate => "Lone surrogate"
  | byteOrderMark => "Unexpected UTF-8 BOM (decode using utf-8-sig)"

/-- Why a text could not be read. -/
inductive ReadFailure
  | malformed (fault : Fault) (place : Nat)
  /-- A whole number of more digits than are read. -/
  | integerTooLong (digits : Nat)
  /-- Lists and records nested too deeply. -/
  | tooDeep
deriving DecidableEq, Repr

def lineColumn (cs : List Char) (place : Nat) : Nat × Nat :=
  let before := cs.take place
  (before.count '\n' + 1, (before.reverse.takeWhile (· != '\n')).length + 1)

def faultText (cs : List Char) (fault : Fault) (place : Nat) : String :=
  let (line, column) := lineColumn cs place
  s!"{fault.text}: line {line} column {column} (char {place})"

example : lineColumn ['a', '\n', 'b'] 2 = (2, 1) := by decide

end DocTemplate.Json

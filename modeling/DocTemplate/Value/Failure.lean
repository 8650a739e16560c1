import DocTemplate.Text.Quoted

/-!
# Failures

What can go wrong while data are bound, formatted and drawn. A component in which something goes
wrong shows nothing; elsewhere the failure is reported.
-/

namespace DocTemplate

/-- The greatest count of digits that are read as a whole number or written as one. -/
def digitLimit : Nat := 4300

inductive Failure where
  /-- A moment whose date in universal time lies outside the years 1 to 9999. -/
  | dateOutOfRange
  /-- A list index of more digits than the limit. -/
  | indexTooLong (digits : Nat)
  /-- A whole number of more digits than the limit. -/
  | integerTooLong
  /-- A decimal too great for the working precision. -/
  | decimalTooGreat
  /-- A value of a kind that has no place here. -/
  | wrongKind
  /-- Bytes that are no text. -/
  | unreadableBytes
  /-- A member that a value does not have. -/
  | missingMember
  /-- Text that is not a number. -/
  | notANumber (source : String)
  /-- A value that is too great to be a length. -/
  | lengthTooGreat
  /-- A length that is infinite. -/
  | infiniteLength
  /-- A length that is no number. -/
  | undefinedLength
  /-- Code points that are no text, since a surrogate stands alone among them. -/
  | loneSurrogate
  /-- A slug that is no name in a directory. -/
  | straySlug
  /-- A face that no font has. -/
  | unknownFace (name : String)
deriving DecidableEq, Repr

namespace Failure

def message : Failure → String
  | dateOutOfRange => "date value out of range"
  | indexTooLong digits =>
    s!"Exceeds the limit ({digitLimit} digits) for integer string conversion: value has {digits} digits; "
      ++ "use sys.set_int_max_str_digits() to increase the limit"
  | integerTooLong =>
    s!"Exceeds the limit ({digitLimit} digits) for integer string conversion; "
      ++ "use sys.set_int_max_str_digits() to increase the limit"
  | decimalTooGreat => "decimal overflow"
  | wrongKind => "unsupported kind of value"
  | unreadableBytes => "bytes are not text"
  | missingMember => "no such member"
  | notANumber source =>
    "could not convert string to float: " ++ String.ofList (Text.quoted source.toList)
  | lengthTooGreat => "int too large to convert to float"
  | infiniteLength => "cannot convert float infinity to integer"
  | undefinedLength => "cannot convert float NaN to integer"
  | loneSurrogate => "surrogates not allowed"
  | straySlug => "Invalid slug generated from title"
  | unknownFace name => name

end Failure

end DocTemplate

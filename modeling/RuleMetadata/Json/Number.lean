import RuleMetadata.Json.Basic
import RuleMetadata.Text.Decimal

/-! The text of JSON numbers. -/

namespace RuleMetadata.Json.Number

open RuleMetadata.Text

/-- JSON numbers are written in places from 10^-5 up to 10^16; an exponent has a sign, and a number
in the middle between two decimals goes to the even one. -/
def layout : Decimal.Layout := ⟨-5, 15, true, .toEven⟩

/-- A floating-point number with the fewest digits that read back; JSON has no other than finite
ones, the rest are null. -/
def realText (value : Float) : String :=
  if value.isNaN || value.isInf then "null" else Decimal.floatText layout value

/-- The text of a number. -/
def text : Number → String
  | .integer value => toString value
  | .real value => realText value

end RuleMetadata.Json.Number

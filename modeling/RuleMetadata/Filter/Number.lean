import RuleMetadata.Text.Decimal

/-! Numbers of the filter language, and their arithmetic. -/

namespace RuleMetadata.Filter

/-- A number: a whole one of 64 bits, a floating-point one, or a numeral that has not been needed as
a number and so keeps its spelling. -/
inductive Number where
  | whole (value : Int)
  | real (value : Float)
  | numeral (text : String)

namespace Number

/-- Whether an integer fits into 64 bits with a sign. -/
def fits (value : Int) : Bool :=
  decide (-(Int.pow 2 63) ≤ value) && decide (value < Int.pow 2 63)

/-- An integer as a whole number, or as a floating-point one when it is too large. -/
def ofInt (value : Int) : Number :=
  if fits value then .whole value else .real (Float.ofInt value)

/-- The natural number that decimal digits spell. -/
def digitsValue (digits : List Char) : Nat :=
  digits.foldl (fun value digit => value * 10 + (digit.toNat - '0'.toNat)) 0

/-- A decimal as a floating-point number. -/
def ofDecimal (significand : Nat) (exponent : Int) : Float :=
  -- Beyond these exponents the result is zero or infinite whatever the digits are.
  if significand = 0 then 0
  else if 5000 < exponent then Float.ofScientific 1 false 5000
  else if exponent + (toString significand).length < -5000 then 0
  else if exponent < 0 then Float.ofScientific significand true exponent.natAbs
  else Float.ofScientific significand false exponent.toNat

/-- The exponent at the end of a numeral. -/
def exponentValue (chars : List Char) : Int :=
  match chars with
  | _ :: '-' :: digits => -(digitsValue digits : Int)
  | _ :: '+' :: digits => digitsValue digits
  -- The letter in front says nothing about the sign.
  | _ :: digits => digitsValue digits
  | [] => 0

/-- The value of a numeral without a sign. -/
def unsignedValue (chars : List Char) : Float :=
  let whole := chars.takeWhile Char.isDigit
  let rest := chars.dropWhile Char.isDigit
  match rest with
  | '.' :: rest =>
    let fraction := rest.takeWhile Char.isDigit
    -- Each digit behind the point takes one from the exponent.
    let exponent := exponentValue (rest.dropWhile Char.isDigit)
    ofDecimal (digitsValue (whole ++ fraction)) (exponent - fraction.length)
  | _ => ofDecimal (digitsValue whole) (exponentValue rest)

/-- The value of a numeral. -/
def numeralValue (text : String) : Float :=
  match text.toList with
  | '-' :: chars => -(unsignedValue chars)
  | chars => unsignedValue chars

/-- The number that a numeral without a sign stands for. -/
def ofNumeral (text : String) : Number :=
  let value := digitsValue text.toList
  if text.toList.all Char.isDigit && fits value then .whole value else .numeral text

/-- A number as a floating-point number. -/
def toFloat : Number → Float
  | .whole value => Float.ofInt value
  | .real value => value
  | .numeral text => numeralValue text

/-- Two numbers combined as whole ones if both are, and else as floating-point ones. -/
def combine (whole : Int → Int → Number) (real : Float → Float → Float) :
    Number → Number → Number
  | .whole left, .whole right => whole left right
  | left, right => .real (real left.toFloat right.toFloat)

/-- The sum of two numbers. -/
def add : Number → Number → Number :=
  combine (fun left right => ofInt (left + right)) (· + ·)

/-- The difference of two numbers. -/
def subtract : Number → Number → Number :=
  combine (fun left right => ofInt (left - right)) (· - ·)

/-- The product of two numbers. -/
def multiply : Number → Number → Number :=
  combine (fun left right => ofInt (left * right)) (· * ·)

/-- The quotient of two numbers, which is never a whole one. -/
def divide (left right : Number) : Number :=
  .real (left.toFloat / right.toFloat)

/-- The significand and the exponent of the absolute value of a finite number. -/
private def decode (value : Float) : Nat × Int :=
  let bits := value.abs.toBits.toNat
  let fraction := bits % Nat.pow 2 52
  let field : Nat := bits / Nat.pow 2 52
  if field = 0 then (fraction, -1074) else (Nat.pow 2 52 + fraction, Int.ofNat field - 1075)

/-- The remainder of a division that is rounded toward zero, which is always exact. -/
def floatRemainder (left right : Float) : Float :=
  if left.isNaN || right.isNaN || left.isInf || right == 0 then 0.0 / 0.0
  else if right.isInf then left
  else
    let (leftDigits, leftExponent) := decode left
    let (rightDigits, rightExponent) := decode right
    -- Both are multiples of the smaller power of two.
    let unit := min leftExponent rightExponent
    let remainder := leftDigits * Nat.pow 2 (leftExponent - unit).toNat %
      (rightDigits * Nat.pow 2 (rightExponent - unit).toNat)
    let size := (Float.ofNat remainder).scaleB unit
    if left < 0 || left.toBits.toNat / Nat.pow 2 63 = 1 then -size else size

/-- The remainder of two numbers; whole ones have none by zero. -/
def remainder? : Number → Number → Option Number
  | .whole left, .whole right => if right = 0 then none else some (ofInt (left.tmod right))
  | left, right => some (.real (floatRemainder left.toFloat right.toFloat))

/-- The negative of a number. -/
def negate : Number → Number
  | .whole value => ofInt (-value)
  | number => .real (-number.toFloat)

/-- The absolute value of a number. -/
def absolute : Number → Number
  | .whole value => ofInt value.natAbs
  | number => .real number.toFloat.abs

/-- A floating-point number without a fraction, as a whole number if it fits. -/
private def ofWholeFloat (value : Float) : Number :=
  if value.abs < 9223372036854775808.0 then .whole value.toInt64.toInt else .real value

/-- A number rounded by a function. -/
def rounded (round : Float → Float) : Number → Number
  | .whole value => .whole value
  | number => ofWholeFloat (round number.toFloat)

/-- The order of floating-point numbers; one that is not a number comes before all others. -/
def compareFloats (left right : Float) : Ordering :=
  -- Both zeros are one number here.
  if left == 0 && right == 0 then .eq
  else if left.isNaN then .lt
  else if right.isNaN then .gt
  else if left < right then .lt
  else if left == right then .eq
  else .gt

/-- The order of numbers. -/
def compareTo : Number → Number → Ordering
  | .whole left, .whole right => compare left right
  | left, right => compareFloats left.toFloat right.toFloat

open Text in
/-- Computed numbers are written in places from 10^-4 up to 10^16; an exponent has no sign of its
own unless it is negative, and a number in the middle between two decimals goes to the greater
one. -/
def layout : Decimal.Layout := ⟨-4, 15, false, .upward⟩

/-- The text of a number; what is not finite is null. -/
def text : Number → String
  | .whole value => toString value
  | .numeral text => text
  | .real value =>
    if value.isNaN || value.isInf then "null" else Text.Decimal.floatText layout value

end Number

end RuleMetadata.Filter

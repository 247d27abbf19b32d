import RuleMetadata.Json.Basic
import RuleMetadata.Json.Fault

/-! Numbers as they are spelled in JSON text, and their values. -/

namespace RuleMetadata.Json

/-- The spelling of a number: digits, the digits behind a point, and an exponent with its letter and
sign. What is missing is empty. -/
structure Numeral where
  isNegative : Bool
  whole : List Char
  fraction : List Char
  exponent : List Char

/-- The value of a decimal digit. -/
def digit? (char : Char) : Option Nat :=
  if char.isDigit then some (char.toNat - '0'.toNat) else none

/-- The largest number of 64 bits. -/
def wordLimit : Nat := Nat.pow 2 64 - 1

/-- A power of ten as a floating-point number. -/
private def powerOfTen (exponent : Nat) : Float :=
  Float.ofScientific 1 false exponent

/-- A significand scaled by a power of ten, by one multiplication or by divisions.

Exponents beyond the range of the table of powers divide by its largest entry first, so a result
may differ from the nearest number in its last digit. -/
def scaled (significand : Nat) (exponent : Int) : Except Fault Float :=
  -- Each division by the largest power uses up 308 of the exponent, which bounds the fuel.
  let rec go : Nat → Float → Int → Except Fault Float
    | 0, value, _ => .ok value
    | fuel + 1, value, exponent =>
      if exponent.natAbs ≤ 308 then
        if 0 ≤ exponent then
          let product := value * powerOfTen exponent.toNat
          if product.isInf then .error .numberOutOfRange else .ok product
        else .ok (value / powerOfTen exponent.natAbs)
      else if value == 0 then .ok value
      else if 0 ≤ exponent then .error .numberOutOfRange
      else go fuel (value / powerOfTen 308) (exponent + 308)
  go (exponent.natAbs / 308 + 1) (UInt64.ofNat significand).toFloat exponent

/-- Takes decimal digits while the significand fits into 64 bits; counts the taken ones. -/
def takeDigits : Nat → Nat → List Char → Nat × Nat × List Char
  | significand, count, [] => (significand, count, [])
  | significand, count, char :: rest =>
    match digit? char with
    | some value =>
      if significand * 10 + value ≤ wordLimit then
        takeDigits (significand * 10 + value) (count + 1) rest
      -- The digit that does not fit is left where it is, with those behind it.
      else (significand, count, char :: rest)
    | none => (significand, count, char :: rest)

/-- The largest exponent that is read digit by digit. -/
private def exponentLimit : Nat := Nat.pow 2 31 - 1

/-- The number that the digits of an exponent spell; none when it leaves the range of 32 bits. -/
private def takeExponent : Nat → List Char → Option Nat
  | value, [] => some value
  | value, char :: rest =>
    let value := value * 10 + (digit? char).getD 0
    if value ≤ exponentLimit then takeExponent value rest else none

namespace Numeral

/-- The spelling itself. -/
def text (numeral : Numeral) : String :=
  let point := if numeral.fraction.isEmpty then [] else ['.']
  String.ofList ((if numeral.isNegative then ['-'] else []) ++ numeral.whole ++ point ++
    numeral.fraction ++ numeral.exponent)

/-- Whether there is neither a point nor an exponent. -/
def isWhole (numeral : Numeral) : Bool :=
  numeral.fraction.isEmpty && numeral.exponent.isEmpty

/-- The integer that the digits of the whole part spell. -/
def wholeValue (numeral : Numeral) : Int :=
  let value := numeral.whole.foldl (fun value char => value * 10 + (digit? char).getD 0) 0
  if numeral.isNegative then -value else value

/-- A floating-point number of the numeral's sign. -/
private def signed (numeral : Numeral) (value : Float) : Float :=
  if numeral.isNegative then -value else value

/-- A significand with the exponent that its digits have, scaled by the exponent of the numeral. -/
private def scaledByExponent (numeral : Numeral) (significand : Nat) (start : Int) :
    Except Fault Float :=
  let (upward, digits) := match numeral.exponent with
    | _ :: '-' :: digits => (false, digits)
    | _ :: '+' :: digits => (true, digits)
    | _ :: digits => (true, digits)
    | [] => (true, [])
  match takeExponent 0 digits with
  | some size => scaled significand (if upward then start + size else start - size)
  -- An exponent that is too large leaves zero, or is out of range.
  | none => if significand != 0 && upward then .error .numberOutOfRange else .ok 0

/-- The number that a numeral spells, if it is in range. The digits that do not fit into the
significand only count as powers of ten. -/
def number (numeral : Numeral) : Except Fault Number :=
  let (significand, _, surplus) := takeDigits 0 0 numeral.whole
  if numeral.isWhole && surplus.isEmpty then
    if !numeral.isNegative then .ok (.integer significand)
    -- A negative zero and a number below 64 bits are kept as floating-point numbers.
    else if significand = 0 || significand > Nat.pow 2 63 then
      .ok (.real (-(UInt64.ofNat significand).toFloat))
    else .ok (.integer (-(significand : Int)))
  else do
    let (significand, count, _) := takeDigits significand 0 numeral.fraction
    let value ← numeral.scaledByExponent significand ((surplus.length : Int) - count)
    return .real (numeral.signed value)

/-- Takes digits, of which there is at least one. -/
private def takeSome (chars : List Char) : Except Fault (List Char × List Char) :=
  match chars with
  -- A text that ends here is missing a value, not a digit.
  | [] => .error .endInValue
  | first :: _ =>
    if first.isDigit then .ok (chars.takeWhile Char.isDigit, chars.dropWhile Char.isDigit)
    else .error .invalidNumber

/-- Takes the digits of a whole part, which do not begin with a needless zero. -/
private def takeWhole (chars : List Char) : Except Fault (List Char × List Char) := do
  let (digits, rest) ← takeSome chars
  match digits with
  | '0' :: _ :: _ => throw .invalidNumber
  | _ => return (digits, rest)

/-- Takes the digits of a fraction, if there is one. -/
private def takeFraction (chars : List Char) : Except Fault (List Char × List Char) :=
  match chars with
  | '.' :: rest => takeSome rest
  | _ => .ok ([], chars)

/-- Takes an exponent, if there is one. -/
private def takeScale (chars : List Char) : Except Fault (List Char × List Char) :=
  match chars with
  | letter :: rest =>
    if letter = 'e' || letter = 'E' then do
      let (sign, rest) := match rest with
        | '+' :: rest => (['+'], rest)
        | '-' :: rest => (['-'], rest)
        | _ => ([], rest)
      -- Behind the letter there must be digits, with a sign in front or without one.
      let (digits, rest) ← takeSome rest
      return (letter :: sign ++ digits, rest)
    else .ok ([], chars)
  | [] => .ok ([], [])

/-- Takes a numeral behind its sign. -/
def take (isNegative : Bool) (chars : List Char) : Except Fault (Numeral × List Char) := do
  let (whole, rest) ← takeWhole chars
  let (fraction, rest) ← takeFraction rest
  let (exponent, rest) ← takeScale rest
  return (⟨isNegative, whole, fraction, exponent⟩, rest)

end Numeral

end RuleMetadata.Json

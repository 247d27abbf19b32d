/-! The shortest decimal that reads back as a given binary floating-point number. -/

namespace RuleMetadata.Text

/-- A positive decimal: the digits read as one number, times a power of ten. -/
structure Decimal where
  digits : Nat
  exponent : Int

namespace Decimal

/-- The number of decimal digits of a positive number, and zero for zero. -/
def width (value : Nat) : Nat :=
  if value = 0 then 0 else (Nat.toDigits 10 value).length

/-- A power of two as a fraction. -/
private def binaryPower (exponent : Int) : Nat × Nat :=
  if exponent < 0 then (1, Nat.pow 2 exponent.natAbs) else (Nat.pow 2 exponent.toNat, 1)

/-- The largest power of ten that does not exceed a positive fraction, as an exponent. -/
def magnitude (numerator denominator : Nat) : Int :=
  if denominator ≤ numerator then Int.ofNat (width (numerator / denominator)) - 1
  else -Int.ofNat (width ((denominator - 1) / numerator))

/-- The interval of fractions over four that round to `significand * 2 ^ exponent`. -/
structure Neighbourhood where
  low : Nat
  high : Nat
  closed : Bool

/-- The halves toward the neighbours of a number; below a power of two the neighbour is nearer. -/
def neighbourhood (significand : Nat) (lowest : Bool) : Neighbourhood :=
  ⟨4 * significand - (if significand = Nat.pow 2 52 && !lowest then 1 else 2), 4 * significand + 2,
    significand % 2 == 0⟩

/-- Trailing zeros moved into the exponent; the fuel is the number of digits. -/
private def strip : Nat → Decimal → Decimal
  | 0, decimal => decimal
  | fuel + 1, decimal =>
    -- Nothing but zeros would never come to an end.
    if decimal.digits % 10 = 0 && decimal.digits != 0 then
      strip fuel ⟨decimal.digits / 10, decimal.exponent + 1⟩
    else decimal

/-- Which of two decimals is taken when a number lies in the middle between them. -/
inductive Tie where
  | toEven
  | upward

/-- The shortest decimal within half a unit of `significand * 2 ^ exponent`, the nearest of those.

The grids of 1, 2, … 17 digits are tried in turn; on each only the two neighbours of the number
can lie in its interval, and seventeen digits always suffice. -/
def shortest (tie : Tie) (significand : Nat) (exponent : Int) (lowest : Bool) : Decimal :=
  let scale := binaryPower (exponent - 2)
  let numerator := 4 * significand * scale.1
  let denominator := scale.2
  let bounds := neighbourhood significand lowest
  let leading := magnitude numerator denominator
  let inside (top bottom : Nat) : Bool :=
    -- A candidate `top / bottom` is compared with the ends of the interval by cross products.
    let low := compare (bounds.low * scale.1 * bottom) (top * denominator)
    let high := compare (top * denominator) (bounds.high * scale.1 * bottom)
    if bounds.closed then low != .gt && high != .gt else low == .lt && high == .lt
  let candidate (count : Nat) : Option Decimal :=
    let step := leading - (count : Int) + 1
    let up := if step < 0 then 1 else Nat.pow 10 step.toNat
    let down := if step < 0 then Nat.pow 10 step.natAbs else 1
    let below : Nat := numerator * down / (denominator * up)
    let remainder := numerator * down - below * (denominator * up)
    let above := below + 1
    match inside (below * up) down, inside (above * up) down with
    | true, true =>
      match compare (2 * remainder) (denominator * up), tie with
      | .lt, _ => some ⟨below, step⟩
      | .eq, .toEven => some ⟨if below % 2 = 0 then below else above, step⟩
      | _, _ => some ⟨above, step⟩
    | true, false => some ⟨below, step⟩
    | false, true => some ⟨above, step⟩
    | false, false => none
  match (List.range 17).findSome? (fun index => candidate (index + 1)) with
  | some decimal => strip 20 decimal
  | none => ⟨significand, exponent⟩

/-- The shortest decimal of the absolute value of a finite number that is not zero. -/
def ofFloat (tie : Tie) (value : Float) : Decimal :=
  let bits := value.abs.toBits.toNat
  let fraction := bits % Nat.pow 2 52
  let field : Nat := bits / Nat.pow 2 52
  -- The smallest numbers have no leading digit that is left out.
  if field = 0 then shortest tie fraction (-1074) true
  else shortest tie (Nat.pow 2 52 + fraction) (Int.ofNat field - 1075) (field == 1)

/-- A run of zeros. -/
private def zeros (count : Nat) : String :=
  String.ofList (List.replicate count '0')

/-- The spelling of decimals: in places while the power of ten of the first digit is in a range, and
with an exponent outside of it. -/
structure Layout where
  lowest : Int
  highest : Int
  /-- Whether an exponent that is not negative has a sign. -/
  plusSign : Bool
  tie : Tie

/-- The text of a decimal, always with a point or an exponent. -/
def text (layout : Layout) (decimal : Decimal) : String :=
  let digits := toString decimal.digits
  let length := digits.length
  let leading : Int := decimal.exponent + length - 1
  if decide (layout.lowest ≤ leading) && decide (leading ≤ layout.highest) then
    if 0 ≤ decimal.exponent then digits ++ zeros decimal.exponent.toNat ++ ".0"
    else if leading < 0 then "0." ++ zeros (leading.natAbs - 1) ++ digits
    else
      let whole := leading.toNat + 1
      String.ofList (digits.toList.take whole) ++ "." ++ String.ofList (digits.toList.drop whole)
  else
    let tail := String.ofList (digits.toList.drop 1)
    let mantissa := String.ofList (digits.toList.take 1) ++ (if tail = "" then "" else "." ++ tail)
    let size := toString leading.natAbs
    let sign := if leading < 0 then "-" else if layout.plusSign then "+" else ""
    mantissa ++ "e" ++ sign ++ size

/-- The text of a finite floating-point number, with the fewest digits that read back. -/
def floatText (layout : Layout) (value : Float) : String :=
  let sign := if value.toBits.toNat / Nat.pow 2 63 = 1 then "-" else ""
  if value == 0 then sign ++ "0.0" else sign ++ (ofFloat layout.tie value).text layout

end Decimal

end RuleMetadata.Text

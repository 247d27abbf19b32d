import RuleMetadata.Filter.Value
import RuleMetadata.Json.Literal
import RuleMetadata.Json.Numeral
import RuleMetadata.Text.Digit

/-! Reading values from JSON text. Numbers keep their spelling, and values may be nested as deep as
they like. -/

namespace RuleMetadata.Filter

/-- Why a text spells no value: what is missing or wrong at the first place that is not JSON. -/
inductive SpellingFault where
  | noValue
  | noValueOrEnd
  | noCommaOrEnd
  | noKey
  | noColon
  | noEnd
  | noDigit
  | openText
  | controlCharacter
  | openEscape
  | unknownEscape
  | invalidHex
  | invalidCode (code : Nat)
  | noLowSurrogate

/-- The wording of a fault. -/
def SpellingFault.message : SpellingFault → String
  | .noValue => "value expected"
  | .noValueOrEnd => "value or end of sequence expected"
  | .noCommaOrEnd => "comma or end of sequence expected"
  | .noKey => "string expected"
  | .noColon => "colon expected"
  | .noEnd => "end of file expected"
  | .noDigit => "expected digit"
  | .openText => "unterminated string"
  | .controlCharacter => "invalid string control character"
  | .openEscape => "unterminated escape sequence"
  | .unknownEscape => "unknown escape sequence type"
  | .invalidHex => "invalid hexadecimal sequence"
  -- The code is given as a number, since no character has it.
  | .invalidCode code => s!"invalid character with index {code}"
  | .noLowSurrogate => "expected low surrogate"

namespace Spelling

/-- What is read off a text, if it is there. -/
abbrev Reading := Except SpellingFault

/-- Takes so many hexadecimal digits behind those that spell a code. -/
def takeHexDigits : Nat → Nat → List Char → Reading (Nat × List Char)
  | 0, code, chars => .ok (code, chars)
  -- The text ends inside of the escape.
  | _ + 1, _, [] => .error .openEscape
  | count + 1, code, char :: rest =>
    match Text.hexDigit? char with
    | some digit => takeHexDigits count (16 * code + digit) rest
    | none => .error .invalidHex

/-- Takes an escape behind its backslash, and gives the 16 bits that it stands for. -/
def takeUnit : List Char → Reading (Nat × List Char)
  | [] => .error .openEscape
  -- The only escape that is longer than a character.
  | 'u' :: rest => takeHexDigits 4 0 rest
  | '"' :: rest => .ok ('"'.toNat, rest)
  | '\\' :: rest => .ok ('\\'.toNat, rest)
  | '/' :: rest => .ok ('/'.toNat, rest)
  | 'b' :: rest => .ok (0x08, rest)
  | 'f' :: rest => .ok (0x0C, rest)
  | 'n' :: rest => .ok (0x0A, rest)
  | 'r' :: rest => .ok (0x0D, rest)
  | 't' :: rest => .ok (0x09, rest)
  | _ => .error .unknownEscape

/-- Takes the escape of a character behind its backslash; a high surrogate is followed by the escape
of a low one. -/
def takeEscape (chars : List Char) : Reading (Char × List Char) := do
  let (unit, rest) ← takeUnit chars
  if 0xD800 ≤ unit && unit < 0xDC00 then
    -- A high surrogate by itself is no character.
    match rest with
    | '\\' :: rest =>
      let (low, rest) ← takeUnit rest
      if 0xDC00 ≤ low && low < 0xE000 then
        return (Char.ofNat (0x10000 + (unit - 0xD800) * 0x400 + (low - 0xDC00)), rest)
      throw .noLowSurrogate
    | _ => throw .noLowSurrogate
  match Text.charOfCode? unit with
  | some char => return (char, rest)
  | none => throw (.invalidCode unit)

/-- Takes the rest of a text value; the fuel bounds the number of its characters. -/
def takeTextFrom : Nat → List Char → List Char → Reading (String × List Char)
  | 0, _, _ => .error .openText
  | fuel + 1, done, chars =>
    match chars with
    | [] => .error .openText
    | '"' :: rest => .ok (String.ofList done.reverse, rest)
    | '\\' :: rest => do
      let (char, rest) ← takeEscape rest
      takeTextFrom fuel (char :: done) rest
    | char :: rest =>
      -- A control character has to be escaped.
      if char.toNat < 32 then .error .controlCharacter else takeTextFrom fuel (char :: done) rest

/-- Takes a text value behind its opening quote. -/
def takeText (chars : List Char) : Reading (String × List Char) :=
  takeTextFrom (chars.length + 1) [] chars

/-- Takes digits, of which there is at least one. -/
def takeDigits (chars : List Char) : Reading (List Char × List Char) :=
  match chars.takeWhile Char.isDigit with
  | [] => .error .noDigit
  | digits => .ok (digits, chars.dropWhile Char.isDigit)

/-- Takes the digits of a whole part; behind a zero there are none. -/
def takeWhole : List Char → Reading (List Char × List Char)
  | '0' :: rest => .ok (['0'], rest)
  | chars => takeDigits chars

/-- Takes the digits of a fraction, if there is one. -/
def takeFraction : List Char → Reading (List Char × List Char)
  | '.' :: rest => takeDigits rest
  | chars => .ok ([], chars)

/-- Takes an exponent, if there is one. -/
def takeExponent : List Char → Reading (List Char × List Char)
  | [] => .ok ([], [])
  | letter :: rest =>
    if letter = 'e' || letter = 'E' then do
      let (sign, rest) := match rest with
        | '+' :: rest => (['+'], rest)
        | '-' :: rest => (['-'], rest)
        | _ => ([], rest)
      -- Behind the letter there must be digits, with a sign in front or without one.
      let (digits, rest) ← takeDigits rest
      return (letter :: sign ++ digits, rest)
    else .ok ([], letter :: rest)

/-- Takes a number behind its sign; whole ones of 64 bits do not keep their spelling. -/
def takeNumber (isNegative : Bool) (chars : List Char) : Reading (Value × List Char) := do
  let (whole, rest) ← takeWhole chars
  let (fraction, rest) ← takeFraction rest
  let (exponent, rest) ← takeExponent rest
  let numeral : Json.Numeral := ⟨isNegative, whole, fraction, exponent⟩
  -- Any other number is kept as it is spelled.
  if numeral.isWhole && Number.fits numeral.wholeValue then
    return (.number (.whole numeral.wholeValue), rest)
  return (.number (.numeral numeral.text), rest)

/-- The rest of a text behind its leading blanks, where it must go on. -/
def continued (fault : SpellingFault) (chars : List Char) : Reading (List Char) :=
  match Json.skipGap chars with
  | [] => .error fault
  | rest => .ok rest

mutual

/-- Takes a value that begins with the first character; the fuel bounds the number of values and
brackets. -/
def takeValue : Nat → List Char → Reading (Value × List Char)
  | 0, _ => .error .noValue
  | fuel + 1, chars =>
    match chars with
    | 'n' :: 'u' :: 'l' :: 'l' :: rest => .ok (.null, rest)
    | 't' :: 'r' :: 'u' :: 'e' :: rest => .ok (.boolean true, rest)
    | 'f' :: 'a' :: 'l' :: 's' :: 'e' :: rest => .ok (.boolean false, rest)
    | '"' :: rest => (takeText rest).map fun (text, rest) => (.text text, rest)
    | '-' :: rest => takeNumber true rest
    | '[' :: rest => do
      -- Right behind the opening bracket there may be the closing one.
      match ← continued .noValueOrEnd rest with
      | ']' :: rest => return (.array [], rest)
      | rest => takeItems fuel [] rest
    | '\x7b' :: rest => do
      match ← continued .noValueOrEnd rest with
      | '\x7d' :: rest => return (.object [], rest)
      | rest => takeEntries fuel [] rest
    | char :: rest =>
      if char.isDigit then takeNumber false (char :: rest) else .error .noValue
    | [] => .error .noValue

/-- Takes the items of an array from the beginning of one on, behind those that are done. -/
def takeItems : Nat → List Value → List Char → Reading (Value × List Char)
  | 0, _, _ => .error .noValue
  | fuel + 1, done, chars => do
    let (item, rest) ← takeValue fuel chars
    match ← continued .noCommaOrEnd rest with
    | ']' :: rest => return (.array (item :: done).reverse, rest)
    -- Behind a comma there must be another item.
    | ',' :: rest => takeItems fuel (item :: done) (← continued .noValue rest)
    | _ => throw .noCommaOrEnd

/-- Takes the entries of an object from the beginning of one on, and adds them to those that are
done; of a repeated key the last value counts, in the first place. -/
def takeEntries : Nat → List (String × Value) → List Char → Reading (Value × List Char)
  | 0, _, _ => .error .noValue
  | fuel + 1, done, chars => do
    let (key, rest) ← match chars with
      | '"' :: rest => takeText rest
      | _ => .error .noKey
    let rest ← match ← continued .noColon rest with
      | ':' :: rest => continued .noValue rest
      | _ => .error .noColon
    let (value, rest) ← takeValue fuel rest
    let done := Json.insertEntry done key value
    match ← continued .noCommaOrEnd rest with
    | '\x7d' :: rest => return (.object done, rest)
    -- Behind a comma there must be another entry.
    | ',' :: rest => takeEntries fuel done (← continued .noValue rest)
    | _ => throw .noCommaOrEnd

end

end Spelling

/-- The value that a whole JSON text spells. -/
def Value.ofText (text : String) : Except SpellingFault Value := do
  let chars ← Spelling.continued .noValue text.toList
  -- A value takes a character, and an item or an entry has a value.
  let (value, rest) ← Spelling.takeValue (2 * text.length + 2) chars
  if (Json.skipGap rest).isEmpty then return value
  throw .noEnd

end RuleMetadata.Filter

import RuleMetadata.Json.Basic
import RuleMetadata.Json.Fault
import RuleMetadata.Text.Digit

/-! Reading words and texts of JSON. -/

namespace RuleMetadata.Json

/-- The blanks between the tokens of JSON. -/
def isGap (char : Char) : Bool :=
  char == ' ' || char == '\n' || char == '\t' || char == '\r'

/-- The rest of a text behind its leading blanks. -/
def skipGap (chars : List Char) : List Char :=
  chars.dropWhile isGap

/-- Takes the given letters off the front of a text. -/
def readWord : List Char → List Char → Except Fault (Unit × List Char)
  | [], chars => .ok ((), chars)
  | _ :: _, [] => .error .endInValue
  | letter :: letters, char :: chars =>
    if letter = char then readWord letters chars else .error .expectedLiteral

/-- Reads the four hexadecimal digits of an escape. -/
private def readHex (chars : List Char) : Except Fault (Nat × List Char) :=
  let size := ((chars.take 4).map Char.utf8Size).foldl (· + ·) 0
  -- Four bytes have to be there before the digits are looked at.
  if size < 4 then .error .endInText
  else match chars with
    | a :: b :: c :: d :: rest =>
      match Text.hexDigit? a, Text.hexDigit? b, Text.hexDigit? c, Text.hexDigit? d with
      | some a, some b, some c, some d => .ok (((a * 16 + b) * 16 + c) * 16 + d, rest)
      | _, _, _, _ => .error .invalidEscape
    | _ => .error .invalidEscape

/-- Reads the character of a `\u` escape, a surrogate pair included. -/
private def readCodePoint (chars : List Char) : Except Fault (Char × List Char) := do
  let (high, rest) ← readHex chars
  if 0xDC00 ≤ high && high ≤ 0xDFFF then throw .loneSurrogate
  -- Anything but the first half of a pair is a character by itself.
  if high < 0xD800 || 0xDBFF < high then return (Char.ofNat high, rest)
  match rest with
  | [] => throw .endInText
  | '\\' :: [] => throw .endInText
  | '\\' :: 'u' :: rest =>
    let (low, rest) ← readHex rest
    if low < 0xDC00 || 0xDFFF < low then throw .loneSurrogate
    return (Char.ofNat (0x10000 + (high - 0xD800) * 0x400 + (low - 0xDC00)), rest)
  | _ => throw .incompleteSurrogatePair

/-- Reads the character behind a backslash. -/
private def readEscape (chars : List Char) : Except Fault (Char × List Char) :=
  match chars with
  | [] => .error .endInText
  | char :: rest =>
    match char with
    | '"' => .ok ('"', rest)
    | '\\' => .ok ('\\', rest)
    | '/' => .ok ('/', rest)
    | 'b' => .ok ('\x08', rest)
    | 'f' => .ok ('\x0c', rest)
    | 'n' => .ok ('\n', rest)
    | 'r' => .ok ('\r', rest)
    | 't' => .ok ('\t', rest)
    -- Only this escape is followed by more characters.
    | 'u' => readCodePoint rest
    | _ => .error .invalidEscape

/-- Reads the rest of a text behind its opening quote; the fuel is the number of characters. -/
private def readTextFrom : Nat → List Char → List Char → Except Fault (String × List Char)
  | 0, _, _ => .error .endInText
  | fuel + 1, done, chars =>
    match chars with
    | [] => .error .endInText
    | '"' :: rest => .ok (String.ofList done.reverse, rest)
    | '\\' :: rest => do
      let (char, rest) ← readEscape rest
      readTextFrom fuel (char :: done) rest
    | char :: rest =>
      -- Other characters stand for themselves, whatever their width.
      if char.val < 32 then .error .controlCharacter
      else readTextFrom fuel (char :: done) rest

/-- Reads a text behind its opening quote. -/
def readText (chars : List Char) : Except Fault (String × List Char) :=
  readTextFrom (chars.length + 1) [] chars

/-- What is left behind a backslash and what it escapes; an escaped code only has to have its
digits, whatever they stand for. -/
private def skipEscape (chars : List Char) : Except Fault (List Char) :=
  match chars with
  | [] => .error .endInText
  -- Half a pair is as good as a whole one, since nothing is made of it.
  | 'u' :: rest => (readHex rest).map (·.2)
  | char :: rest =>
    if ['"', '\\', '/', 'b', 'f', 'n', 'r', 't'].contains char then .ok rest
    else .error .invalidEscape

/-- What is left behind the spelling of a text; the fuel is the number of characters. -/
private def skipTextFrom : Nat → List Char → Except Fault (List Char)
  | 0, _ => .error .endInText
  | fuel + 1, chars =>
    match chars with
    | [] => .error .endInText
    | '"' :: rest => .ok rest
    | '\\' :: rest =>
      match skipEscape rest with
      | .ok rest => skipTextFrom fuel rest
      | .error found => .error found
    -- Nothing is gathered, but the same characters are refused.
    | char :: rest => if char.val < 32 then .error .controlCharacter else skipTextFrom fuel rest

/-- What is left behind the spelling of a text without its opening quote. -/
def skipText (chars : List Char) : Except Fault (List Char) :=
  skipTextFrom (chars.length + 1) chars

end RuleMetadata.Json

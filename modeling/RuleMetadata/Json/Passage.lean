import RuleMetadata.Json.Literal
import RuleMetadata.Json.Numeral

/-! Passing over a JSON value of which nothing is needed. It only has to be spelled properly: its
numbers and texts need not stand for anything, and it may be nested as deep as the text is long. -/

namespace RuleMetadata.Json

/-- What encloses the place that a passage has come to. -/
private inductive Enclosure where
  | array
  | object

/-- The fault of a text that ends inside of an enclosure. -/
private def Enclosure.endFault : Enclosure → Fault
  | .array => .endInList
  | .object => .endInObject

/-- The fault of a text in which a value is not followed by another one or by the end. -/
private def Enclosure.continuationFault : Enclosure → Fault
  | .array => .expectedListContinuation
  | .object => .expectedObjectContinuation

/-- The bracket that ends an enclosure. -/
private def Enclosure.closing : Enclosure → Char
  | .array => ']'
  | .object => '\x7d'

/-- Where a passage has come to. -/
private inductive Spot where
  | beforeValue
  /-- Behind a value, or behind an opening bracket. -/
  | behind (value : Bool)

/-- Passes over a number without its sign; here the end of the text is no fault of its own. -/
private def skipNumeral (chars : List Char) : Except Fault (List Char) :=
  match Numeral.take false chars with
  | .ok (_, rest) => .ok rest
  | .error _ => .error .invalidNumber

/-- Passes over the key of an entry and the colon behind it. -/
private def skipKey (chars : List Char) : Except Fault (List Char) :=
  match skipGap chars with
  | [] => .error .endInObject
  | '"' :: rest => do
    -- The key is only passed over, so it may stand there twice.
    match skipGap (← skipText rest) with
    | [] => throw .endInObject
    | ':' :: rest => return rest
    | _ => throw .expectedColon
  | _ => .error .keyNotText

/-- Passes over the beginning of a value: a scalar value, or a bracket that opens an enclosure. -/
private def skipStart (chars : List Char) : Except Fault (Option Enclosure × List Char) :=
  match skipGap chars with
  | [] => .error .endInValue
  | 'n' :: rest => (readWord ['u', 'l', 'l'] rest).map fun (_, rest) => (none, rest)
  | 't' :: rest => (readWord ['r', 'u', 'e'] rest).map fun (_, rest) => (none, rest)
  | 'f' :: rest => (readWord ['a', 'l', 's', 'e'] rest).map fun (_, rest) => (none, rest)
  | '-' :: rest => (skipNumeral rest).map (none, ·)
  | '"' :: rest => (skipText rest).map (none, ·)
  -- An enclosure is not entered here, so that nesting needs no recursion.
  | '[' :: rest => .ok (some .array, rest)
  | '\x7b' :: rest => .ok (some .object, rest)
  | char :: rest =>
    if char.isDigit then (skipNumeral (char :: rest)).map (none, ·) else .error .expectedValue

/-- Passes on to what stands in front of the next value of an enclosure. -/
private def skipToValue (enclosure : Enclosure) (chars : List Char) : Except Fault (List Char) :=
  match enclosure with
  | .array => .ok chars
  | .object => skipKey chars

/-- Passes over what is left of a value inside some enclosures, the innermost one first. -/
private def skipFrom : Nat → List Enclosure → Spot → List Char → Except Fault (List Char)
  | 0, _, _, _ => .error .endInValue
  | fuel + 1, enclosures, .beforeValue, chars =>
    match skipStart chars with
    | .error found => .error found
    | .ok (none, rest) => skipFrom fuel enclosures (.behind true) rest
    | .ok (some enclosure, rest) => skipFrom fuel (enclosure :: enclosures) (.behind false) rest
  -- With all enclosures closed, the value is at its end.
  | _ + 1, [], .behind _, chars => .ok chars
  | fuel + 1, enclosure :: enclosures, .behind value, chars =>
    match skipGap chars with
    | [] => .error enclosure.endFault
    | char :: rest =>
      if char = enclosure.closing then skipFrom fuel enclosures (.behind true) rest
      -- Behind a value there is a comma; right behind the opening bracket there is none.
      else if value && char != ',' then .error enclosure.continuationFault
      else match skipToValue enclosure (if value then rest else char :: rest) with
        | .error found => .error found
        | .ok rest => skipFrom fuel (enclosure :: enclosures) .beforeValue rest

/-- What is left of a text behind the value at its start. -/
def skipValue (chars : List Char) : Except Fault (List Char) :=
  -- At most two turns are taken for each character.
  skipFrom (2 * chars.length + 2) [] .beforeValue chars

end RuleMetadata.Json

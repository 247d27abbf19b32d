import RuleMetadata.Filter.Number
import RuleMetadata.Json.Printer

/-! Values of the filter language: their order, their text, and the failures they can cause. -/

namespace RuleMetadata.Filter

/-- A value that filters work on. -/
inductive Value where
  | null
  | boolean (value : Bool)
  | number (value : Number)
  | text (value : String)
  | array (items : List Value)
  | object (entries : List (String × Value))

/-- What ends the evaluation of a filter early. -/
inductive Interrupt where
  /-- An error, which carries a value. -/
  | failure (payload : Value)
  /-- A jump out of a label. -/
  | leave (label : Nat)

/-- One output of a filter. -/
abbrev Result := Except Interrupt Value

namespace Value

instance : Inhabited Value := ⟨.null⟩

mutual

/-- The value of a JSON value. -/
def ofJson : Json → Value
  | .null => .null
  | .boolean value => .boolean value
  | .number (.integer value) =>
    -- A number that is not a whole one of 64 bits keeps its spelling.
    .number (if Number.fits value then .whole value else .numeral (toString value))
  | .number (.real value) => .number (.numeral (Json.Number.realText value))
  | .text value => .text value
  | .array items => .array (ofItems items)
  | .object entries => .object (ofEntries entries)

/-- The values of the items of an array. -/
def ofItems : List Json → List Value
  | [] => []
  | item :: rest => ofJson item :: ofItems rest

/-- The values of the entries of an object. -/
def ofEntries : List (String × Json) → List (String × Value)
  | [] => []
  | (key, value) :: rest => (key, ofJson value) :: ofEntries rest

end

/-- A text in quotes. Of the control characters, only tabs and line ends have escapes of their
own. -/
def quote (text : String) : String :=
  let spell (char : Char) : List Char :=
    if char = '\x08' || char = '\x0c' then Json.escapeCode char else Json.escapeChar char
  String.ofList ('"' :: text.toList.flatMap spell ++ ['"'])

mutual

/-- The text of a value on one line. -/
def render : Value → String
  | .null => "null"
  | .boolean true => "true"
  | .boolean false => "false"
  | .number value => value.text
  | .text value => quote value
  | .array items => "[" ++ ",".intercalate (renderItems items) ++ "]"
  -- The braces are given by their codes, since they are marks inside of a text here.
  | .object entries => "\x7b" ++ ",".intercalate (renderEntries entries) ++ "\x7d"

/-- The texts of items. -/
def renderItems : List Value → List String
  | [] => []
  | item :: rest => render item :: renderItems rest

/-- The texts of entries. -/
def renderEntries : List (String × Value) → List String
  | [] => []
  | (key, value) :: rest => (quote key ++ ":" ++ render value) :: renderEntries rest

end

/-- Whether a value counts as true: all do but null and false. -/
def isTrue : Value → Bool
  | .null => false
  | .boolean value => value
  | _ => true

/-- The number of a whole number. -/
def ofInt (value : Int) : Value :=
  .number (Number.ofInt value)

/-- The place of a value's kind in the order of values. -/
def rank : Value → Nat
  -- Values of different kinds are ordered by their kinds alone.
  | .null => 0
  | .boolean _ => 1
  | .number _ => 2
  | .text _ => 3
  | .array _ => 4
  | .object _ => 5

/-- The name of a value's kind. -/
def kindName : Value → String
  | .null => "null"
  | .boolean _ => "boolean"
  | .number _ => "number"
  | .text _ => "string"
  | .array _ => "array"
  | .object _ => "object"

/-- The entries of an object by ascending keys. -/
def sortEntries (entries : List (String × Value)) : List (String × Value) :=
  entries.mergeSort fun left right => left.1 ≤ right.1

mutual

/-- The value with the entries of all objects in it by ascending keys. -/
def sorted : Value → Value
  -- The order of items says something, and so it stays.
  | .array items => .array (sortedItems items)
  | .object entries => .object (sortEntries (sortedEntries entries))
  | .null => .null
  | .boolean value => .boolean value
  | .number value => .number value
  | .text value => .text value

/-- The items with sorted entries. -/
def sortedItems : List Value → List Value
  | [] => []
  | item :: rest => sorted item :: sortedItems rest

/-- The entries with sorted entries below them. -/
def sortedEntries : List (String × Value) → List (String × Value)
  | [] => []
  | (key, value) :: rest => (key, sorted value) :: sortedEntries rest

end

mutual

/-- The order of two values whose entries are sorted. -/
def compareSorted : Value → Value → Ordering
  | .boolean left, .boolean right => compare left right
  | .number left, .number right => left.compareTo right
  | .text left, .text right => compare left right
  | .array left, .array right => compareItems left right
  | .object left, .object right =>
    -- The keys decide before the values do.
    (compareKeys left right).then (compareEntries left right)
  | left, right => compare left.rank right.rank

/-- The order of two lists of items, item by item. -/
def compareItems : List Value → List Value → Ordering
  | [], [] => .eq
  | [], _ :: _ => .lt
  | _ :: _, [] => .gt
  | left :: lefts, right :: rights => (compareSorted left right).then (compareItems lefts rights)

/-- The order of two lists of entries by their values. -/
def compareEntries : List (String × Value) → List (String × Value) → Ordering
  | (_, left) :: lefts, (_, right) :: rights =>
    (compareSorted left right).then (compareEntries lefts rights)
  | _, _ => .eq

/-- The order of two lists of entries by their keys. -/
def compareKeys : List (String × Value) → List (String × Value) → Ordering
  | [], [] => .eq
  | [], _ :: _ => .lt
  | _ :: _, [] => .gt
  | (left, _) :: lefts, (right, _) :: rights => (compare left right).then (compareKeys lefts rights)

end

/-- The order of values: null, false, true, numbers, texts, arrays, objects. -/
def compareTo (left right : Value) : Ordering :=
  compareSorted left.sorted right.sorted

/-- Whether two values are equal. -/
def equals (left right : Value) : Bool :=
  left.compareTo right == .eq

/-- Whether a value comes before another one or is equal to it. -/
def atMost (left right : Value) : Bool :=
  left.compareTo right != .gt

mutual

/-- A value and all values inside it, outer ones first. -/
def descend : Value → List Value
  -- The value itself comes first.
  | .array items => .array items :: descendItems items
  | .object entries => .object entries :: descendEntries entries
  | .null => [.null]
  | .boolean value => [.boolean value]
  | .number value => [.number value]
  | .text value => [.text value]

/-- The values inside items. -/
def descendItems : List Value → List Value
  | [] => []
  | item :: rest => descend item ++ descendItems rest

/-- The values inside entries. -/
def descendEntries : List (String × Value) → List Value
  | [] => []
  | (_, value) :: rest => descend value ++ descendEntries rest

end

end Value

namespace Interrupt

/-- An error with a message. -/
def ofMessage (message : String) : Interrupt :=
  .failure (.text message)

/-- The error of a value that is not of the kind that is needed. -/
def wrongKind (value : Value) (kind : String) : Interrupt :=
  .ofMessage s!"cannot use {value.render} as {kind}"

/-- The error of an index that a value cannot have. -/
def wrongIndex (value index : Value) : Interrupt :=
  .ofMessage s!"cannot index {value.render} with {index.render}"

/-- The error of an operation on values that it is not defined for. -/
def wrongOperands (left : Value) (operator : String) (right : Value) : Interrupt :=
  .ofMessage s!"cannot calculate {left.render} {operator} {right.render}"

end Interrupt

end RuleMetadata.Filter

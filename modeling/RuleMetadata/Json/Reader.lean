import RuleMetadata.Json.Passage

/-! Reading JSON text: as far as it is JSON, or as a whole. -/

namespace RuleMetadata.Json

/-- The value that a text spells up to the first place where it stops being JSON.

A reader that looks at the parts in order meets either what it wants to refuse or the fault,
whichever comes first in the text. -/
inductive Draft where
  | scalar (value : Json)
  /-- A number as it is spelled, which may be out of range. -/
  | number (numeral : Numeral)
  | array (items : List Draft) (cut : Option Fault)
  | object (entries : List (String × Draft)) (cut : Option Fault)
  | fault (fault : Fault)

namespace Draft

/-- The deepest nesting of arrays and objects. -/
def depthLimit : Nat := 127

/-- What is left behind a draft; none when a fault ended the reading. -/
abbrev Rest := Option (List Char)

/-- What a part of a text reads as. -/
private def ofRead (wrap : α → Draft) : Except Fault (α × List Char) → Draft × Rest
  | .ok (value, rest) => (wrap value, some rest)
  | .error found => (.fault found, none)

/-- The draft of a value that is passed over; it is as good as null. -/
private def ofSkipped : Except Fault (List Char) → Draft × Rest
  | .ok rest => (.scalar .null, some rest)
  | .error found => (.fault found, none)

/-- Reads the items of an array from the start of an item on, each by a reader; the fuel bounds the
number of items. -/
private def readItems (readItem : List Char → Draft × Rest) :
    Nat → List Draft → List Char → Draft × Rest
  | 0, done, _ => (.array done.reverse (some .endInList), none)
  | fuel + 1, done, chars =>
    match readItem chars with
    -- A fault inside of an item is the fault of the whole text.
    | (item, none) => (.array (item :: done).reverse none, none)
    | (item, some rest) =>
      let done := item :: done
      match skipGap rest with
      | [] => (.array done.reverse (some .endInList), none)
      | ']' :: rest => (.array done.reverse none, some rest)
      | ',' :: rest =>
        match skipGap rest with
        | [] => (.array done.reverse (some .endInValue), none)
        -- A comma promises another item.
        | ']' :: _ => (.array done.reverse (some .trailingComma), none)
        | rest => readItems readItem fuel done rest
      | _ => (.array done.reverse (some .expectedListContinuation), none)

/-- Reads the entries of an object from the start of a key on, each value by a reader for its key;
the fuel bounds the number of entries. -/
private def readEntries (readUnder : String → List Char → Draft × Rest) :
    Nat → List (String × Draft) → List Char → Draft × Rest
  | 0, done, _ => (.object done.reverse (some .endInObject), none)
  | fuel + 1, done, chars =>
    match chars with
    | '"' :: rest =>
      match readText rest with
      | .error found => (.object done.reverse (some found), none)
      | .ok (key, rest) =>
        -- A colon that is missing is a fault of the value that it would announce.
        match skipGap rest with
        | [] => (.object ((key, .fault .endInObject) :: done).reverse none, none)
        | ':' :: rest =>
          match readUnder key rest with
          | (value, none) => (.object ((key, value) :: done).reverse none, none)
          | (value, some rest) =>
            let done := (key, value) :: done
            match skipGap rest with
            | [] => (.object done.reverse (some .endInObject), none)
            | '\x7d' :: rest => (.object done.reverse none, some rest)
            | ',' :: rest =>
              match skipGap rest with
              | [] => (.object done.reverse (some .endInValue), none)
              | '\x7d' :: _ => (.object done.reverse (some .trailingComma), none)
              | rest => readEntries readUnder fuel done rest
            | _ => (.object done.reverse (some .expectedObjectContinuation), none)
        | _ => (.object ((key, .fault .expectedColon) :: done).reverse none, none)
    | _ => (.object done.reverse (some .keyNotText), none)

/-- Reads an array behind its opening bracket. -/
private def readArray (readItem : List Char → Draft × Rest) (chars : List Char) : Draft × Rest :=
  match skipGap chars with
  | [] => (.array [] (some .endInList), none)
  | ']' :: rest => (.array [] none, some rest)
  | rest => readItems readItem rest.length [] rest

/-- Reads an object behind its opening bracket. -/
private def readObject (readUnder : String → List Char → Draft × Rest) (chars : List Char) :
    Draft × Rest :=
  match skipGap chars with
  | [] => (.object [] (some .endInObject), none)
  | '\x7d' :: rest => (.object [] none, some rest)
  -- There are no more entries than characters.
  | rest => readEntries readUnder rest.length [] rest

/-- Reads one value, in which so many nestings are allowed. -/
def readValue : Nat → List Char → Draft × Rest
  | depth, chars =>
    match skipGap chars with
    | [] => (.fault .endInValue, none)
    | 'n' :: rest => ofRead (fun _ => .scalar .null) (readWord ['u', 'l', 'l'] rest)
    | 't' :: rest => ofRead (fun _ => .scalar (.boolean true)) (readWord ['r', 'u', 'e'] rest)
    | 'f' :: rest =>
      ofRead (fun _ => .scalar (.boolean false)) (readWord ['a', 'l', 's', 'e'] rest)
    | '-' :: rest => ofRead .number (Numeral.take true rest)
    | '"' :: rest => ofRead (fun value => .scalar (.text value)) (readText rest)
    | '[' :: rest =>
      match depth with
      | 0 => (.fault .tooDeep, none)
      -- Each enclosure takes one of the nestings that are allowed.
      | depth + 1 => readArray (readValue depth) rest
    | '\x7b' :: rest =>
      match depth with
      | 0 => (.fault .tooDeep, none)
      | depth + 1 => readObject (fun _ => readValue depth) rest
    | char :: rest =>
      if char.isDigit then ofRead .number (Numeral.take false (char :: rest))
      else (.fault .expectedValue, none)

/-- Reads one value; in an object, the values of unknown keys are passed over. -/
def readKnown (isKnown : String → Bool) (chars : List Char) : Draft × Rest :=
  match skipGap chars with
  | '\x7b' :: rest =>
    readObject (fun key rest =>
      if isKnown key then readValue (depthLimit - 1) rest else ofSkipped (skipValue rest)) rest
  -- Only an object has keys that might be unknown.
  | rest => readValue depthLimit rest

mutual

/-- The value of a draft, or its fault; of a repeated key the last value counts, in the first
place. -/
def toJson : Draft → Except Fault Json
  | .scalar value => .ok value
  | .number numeral => numeral.number.map .number
  | .fault found => .error found
  | .array items cut => do
    -- What was read before a fault is looked at first, as it stands in front.
    let items ← itemsToJson items
    match cut with
    | none => return .array items
    | some found => throw found
  | .object entries cut => do
    let entries ← entriesToJson [] entries
    match cut with
    | none => return .object entries
    | some found => throw found

/-- The values of the items of an array. -/
def itemsToJson : List Draft → Except Fault (List Json)
  | [] => .ok []
  | item :: rest => do
    -- The first fault in the order of the text decides.
    let item ← toJson item
    let rest ← itemsToJson rest
    return item :: rest

/-- The entries of an object, added to those that came before. -/
def entriesToJson (done : List (String × Json)) :
    List (String × Draft) → Except Fault (List (String × Json))
  | [] => .ok done
  | (key, value) :: rest => do
    let value ← toJson value
    -- A repeated key keeps its first place and takes its last value.
    entriesToJson (insertEntry done key value) rest

end

mutual

/-- The draft of a value, which has no fault. -/
def ofJson : Json → Draft
  -- Enclosures are cut short by nothing.
  | .array items => .array (ofItems items) none
  | .object entries => .object (ofEntries entries) none
  | .null => .scalar .null
  | .boolean value => .scalar (.boolean value)
  | .number value => .scalar (.number value)
  | .text value => .scalar (.text value)

/-- The drafts of the items of an array. -/
def ofItems : List Json → List Draft
  | [] => []
  | item :: rest => ofJson item :: ofItems rest

/-- The drafts of the entries of an object. -/
def ofEntries : List (String × Json) → List (String × Draft)
  | [] => []
  | (key, value) :: rest => (key, ofJson value) :: ofEntries rest

end

end Draft

/-- The value that a whole text spells. -/
def parse (text : String) : Except Fault Json := do
  let (draft, rest) := Draft.readValue Draft.depthLimit text.toList
  let value ← draft.toJson
  if (skipGap (rest.getD [])).isEmpty then return value else throw .trailingCharacters

end RuleMetadata.Json

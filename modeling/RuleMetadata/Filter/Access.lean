import RuleMetadata.Filter.Value

/-! Reaching into values: indices, slices and items, and the values with such a part changed. -/

namespace RuleMetadata.Filter

/-- What a step of a path selects. -/
inductive Selection where
  | all
  | index (key : Value)
  | slice (lower upper : Option Value)

/-- A step of a path with its indices evaluated. -/
structure Access where
  selection : Selection
  optional : Bool

namespace Access

/-- The words for values that have items. -/
private def iterable : String := "iterable (array or object)"

/-- The words for values that have slices. -/
private def rangeable : String := "rangeable (array or string)"

/-- The place that an index names in a list of some length; a negative one counts from the end. -/
def place? (index : Int) (length : Nat) : Option Nat :=
  let place := if index < 0 then index + length else index
  if 0 ≤ place && place < length then some place.toNat else none

/-- The whole number that a bound of a slice must be. -/
def wholeNumber : Value → Except Interrupt Int
  | .number (.whole value) => .ok value
  | value => .error (.wrongKind value "integer")

/-- The place of a bound in a list of some length. -/
def boundPlace (length fallback : Nat) : Option Value → Except Interrupt Nat
  | none => .ok fallback
  | some value => do
    let bound ← wholeNumber value
    -- A negative bound counts from the end.
    let place := if bound < 0 then bound + length else bound
    return min place.toNat length

/-- The places at which a slice of a list begins and ends. -/
def slicePlaces (length : Nat) (lower upper : Option Value) : Except Interrupt (Nat × Nat) := do
  let first ← boundPlace length 0 lower
  let last ← boundPlace length length upper
  return (first, max first last)

/-- The value under an index: null if the key is missing or the place is none. -/
def readIndex (key : Value) : Value → Result
  -- A place outside of the array is null, but any other kind of index is an error.
  | .array items =>
    match key with
    | .number (.whole index) => .ok (((place? index items.length).bind (items[·]?)).getD .null)
    | _ => .error (.wrongIndex (.array items) key)
  | .object entries =>
    match key with
    | .text name => .ok ((Json.lookup? entries name).getD .null)
    | _ => .error (.wrongIndex (.object entries) key)
  | value => .error (.wrongKind value iterable)

/-- A slice of an array or of a text. -/
def readSlice (lower upper : Option Value) : Value → Result
  | .array items => do
    let (first, last) ← slicePlaces items.length lower upper
    return .array ((items.take last).drop first)
  -- Texts are sliced by characters.
  | .text text => do
    let (first, last) ← slicePlaces text.length lower upper
    return .text (String.ofList ((text.toList.take last).drop first))
  | value => .error (.wrongKind value rangeable)

/-- The values that a selection selects, or the error of a value that has no such parts. -/
def readSelection (selection : Selection) (value : Value) : Except Interrupt (List Value) :=
  match selection, value with
  -- Only all parts are several values.
  | .all, .array items => .ok items
  | .all, .object entries => .ok (entries.map (·.2))
  | .all, _ => .error (.wrongKind value iterable)
  | .index key, _ => (readIndex key value).map ([·])
  | .slice lower upper, _ => (readSlice lower upper value).map ([·])

/-- The values that a step selects; an optional step selects nothing where it would fail. -/
def read (access : Access) (value : Value) : Except Interrupt (List Value) :=
  match readSelection access.selection value with
  | .ok parts => .ok parts
  | .error interrupt => if access.optional then .ok [] else .error interrupt

/-- What a change of a selected part works on. -/
inductive Target where
  /-- Items, each of which becomes all the outputs of the change. -/
  | items (items : List Value)
  /-- Entries, each of which keeps its key and takes the first output of the change. -/
  | entries (entries : List (String × Value))
  /-- One part, which becomes the first output of the change. -/
  | part (value : Value)

/-- What a change of the selected part of a value works on, or the error of a part that the value
cannot have. -/
def target (selection : Selection) (value : Value) : Except Interrupt Target :=
  match selection, value with
  | .all, .array items => .ok (.items items)
  | .all, .object entries => .ok (.entries entries)
  | .all, _ => .error (.wrongKind value iterable)
  | .index (.text name), .object entries =>
    .ok (.part ((Json.lookup? entries name).getD .null))
  | .index key, .object _ => .error (.wrongIndex value key)
  | .index (.number (.whole index)), .array items =>
    match place? index items.length with
    | some place => .ok (.part (items[place]?.getD .null))
    -- A place that is none can be read, but not be changed.
    | none => .error (.ofMessage s!"index {index} out of bounds")
  | .index key, .array _ => .error (.wrongKind key "integer")
  | .index _, _ => .error (.wrongKind value iterable)
  | .slice lower upper, .array items =>
    (slicePlaces items.length lower upper).map fun (first, last) =>
      .part (.array ((items.take last).drop first))
  | .slice _ _, _ => .error (.wrongKind value "array")

/-- The entries without a key; the last entry takes the place of the one that goes. -/
def removeKey (entries : List (String × Value)) (name : String) : List (String × Value) :=
  match entries.findIdx? (·.1 == name), entries.getLast? with
  | some place, some last => (entries.set place last).dropLast
  | _, _ => entries

/-- The value with its selected part replaced, or without it. -/
def replace (selection : Selection) (value : Value) (part : Option Value) : Result :=
  match selection, value with
  | .index (.text name), .object entries =>
    -- A slice is replaced by the items of an array, however many there are.
    .ok (.object (match part with
      | some part => Json.insertEntry entries name part
      | none => removeKey entries name))
  | .index (.number (.whole index)), .array items =>
    .ok (.array (match place? index items.length, part with
      | some place, some part => items.set place part
      | some place, none => items.eraseIdx place
      | none, _ => items))
  | .slice lower upper, .array items => do
    let (first, last) ← slicePlaces items.length lower upper
    match part with
    | some (.array changed) => return .array (items.take first ++ changed ++ items.drop last)
    | some changed => throw (.wrongKind changed "array")
    | none => return .array (items.take first ++ items.drop last)
  | _, _ => .ok value

end Access

end RuleMetadata.Filter

import RuleMetadata.Filter.Access
import RuleMetadata.Filter.Operation
import RuleMetadata.Filter.Spelling
import RuleMetadata.Text.Blank
import RuleMetadata.Text.Regex.Parser
import RuleMetadata.Text.Regex.Search

/-! The operations on values that filters can name and that are no definitions. -/

namespace RuleMetadata.Filter.Builtin

/-- The length of a value: the size of a number, and how much is in everything else. -/
def length : Value → Result
  | .null => .ok (.ofInt 0)
  | .boolean value => .error (.ofMessage ((Value.boolean value).render ++ " has no length"))
  | .number value => .ok (.number value.absolute)
  -- The length of a text is counted in characters, not in bytes.
  | .text text => .ok (.ofInt text.length)
  | .array items => .ok (.ofInt items.length)
  | .object entries => .ok (.ofInt entries.length)

/-- The keys of an object in its order, or the indices of an array. -/
def keysInOrder : Value → Result
  | .array items => .ok (.array ((List.range items.length).map fun (index : Nat) => .ofInt index))
  | .object entries => .ok (.array (entries.map fun (key, _) => .text key))
  | value => .error (.wrongKind value "iterable (array or object)")

/-- The keys of an object in ascending order, or the indices of an array. -/
def keys : Value → Result
  | .object entries => keysInOrder (.object (Value.sortEntries entries))
  | value => keysInOrder value

/-- The text of a value; a text stands for itself. -/
def toText : Value → Value
  | .text text => .text text
  | value => .text value.render

/-- The value that a JSON text stands for. -/
def fromJson : Value → Result
  | .text text =>
    match Value.ofText text with
    | .ok value => .ok value
    | .error fault => .error (.ofMessage s!"cannot parse {text} as JSON: {fault.message}")
  | value => .error (.wrongKind value "string")

/-- A function of numbers. -/
def onNumber (function : Number → Number) : Value → Result
  | .number value => .ok (.number (function value))
  | value => .error (.wrongKind value "number")

/-- A function of texts. -/
def onText (function : List Char → List Char) : Value → Result
  | .text text => .ok (.text (String.ofList (function text.toList)))
  | value => .error (.wrongKind value "string")

/-- The code points of a text. -/
def explode : Value → Result
  | .text text => .ok (.array (text.toList.map fun char => .ofInt char.toNat))
  | value => .error (.wrongKind value "string")

/-- The character of a code point. -/
def codePoint : Value → Except Interrupt Char
  | .number (.whole code) =>
    if 0 ≤ code && code.toNat.isValidChar then .ok (Char.ofNat code.toNat)
    else .error (.ofMessage s!"cannot use {code} as character")
  | value => .error (.wrongKind value "integer")

/-- The text that code points make. -/
def implode : Value → Result
  | .array items => do return .text (String.ofList (← items.mapM codePoint))
  | value => .error (.wrongKind value "array")

/-- The items of an array from the last to the first. -/
def reverse : Value → Result
  | .array items => .ok (.array items.reverse)
  | value => .error (.wrongKind value "array")

/-- Whether an object has a key or an array has a place. -/
def has (value key : Value) : Result :=
  match value, key with
  | .array items, .number (.whole index) =>
    -- A negative place is an error here, unlike where it is read.
    if 0 ≤ index then .ok (.boolean (index < items.length)) else .error (.wrongIndex value key)
  | .object entries, .text name => .ok (.boolean (Json.lookup? entries name).isSome)
  | _, _ => .error (.wrongIndex value key)

/-- Whether characters occur in others. -/
def occursIn (needle : List Char) : List Char → Bool
  | [] => needle.isEmpty
  | char :: rest => needle.isPrefixOf (char :: rest) || occursIn needle rest

mutual

/-- Whether a value contains another one: a text or items or entries of it. -/
def contains (whole : Value) : Value → Bool
  | .text part =>
    match whole with
    | .text text => occursIn part.toList text.toList
    | _ => false
  | .array parts =>
    match whole with
    | .array items => containsItems items parts
    | _ => false
  | .object parts =>
    match whole with
    | .object entries => containsEntries entries parts
    | _ => false
  -- Scalars contain what equals them.
  | .null => whole.equals .null
  | .boolean part => whole.equals (.boolean part)
  | .number part => whole.equals (.number part)

/-- Whether each of some items is contained in one of others. -/
def containsItems (items : List Value) : List Value → Bool
  | [] => true
  | part :: rest => items.any (fun item => contains item part) && containsItems items rest

/-- Whether the value of each of some entries is contained in the value of the same key. -/
def containsEntries (entries : List (String × Value)) : List (String × Value) → Bool
  | [] => true
  | (key, part) :: rest =>
    -- Other entries do not matter.
    (match Json.lookup? entries key with
      | some value => contains value part
      | none => false) && containsEntries entries rest

end

/-- A function of two texts. -/
def onTexts (function : String → String → Value) (left right : Value) : Result :=
  match left, right with
  | .text left, .text right => .ok (function left right)
  | .text _, value => .error (.wrongKind value "string")
  | value, _ => .error (.wrongKind value "string")

/-- The places at which a list occurs in another one, found by comparing items. -/
def places (same : α → α → Bool) (needle : List α) : Nat → List α → List Nat
  | _, [] => []
  | place, item :: rest =>
    let matched := needle.length ≤ (item :: rest).length &&
      (needle.zip (item :: rest)).all fun (left, right) => same left right
    -- Occurrences may overlap.
    if matched then place :: places same needle (place + 1) rest
    else places same needle (place + 1) rest

/-- The places at which a value occurs in another one. -/
def indices (value part : Value) : Result :=
  let found : Option (List Nat) := match value, part with
    | .text text, .text needle =>
      -- What is empty occurs nowhere.
      if needle = "" then some [] else some (places (· == ·) needle.toList 0 text.toList)
    | .array items, .array needle =>
      if needle.isEmpty then some [] else some (places Value.equals needle 0 items)
    | .array items, item => some (places Value.equals [item] 0 items)
    | _, _ => none
  match found with
  | some found => .ok (.array (found.map fun (place : Nat) => .ofInt place))
  | none => .error (.wrongIndex value part)

/-- The first or the last of the places at which a value occurs in another one, or null. -/
def chosenIndex (choose : List Value → Option Value) (value part : Value) : Result := do
  match ← indices value part with
  | .array found => return (choose found).getD .null
  | other => return other

/-- A text without another one at its beginning. -/
def withoutStart (value part : Value) : Value :=
  match value, part with
  | .text text, .text start =>
    if start.toList.isPrefixOf text.toList then
      .text (String.ofList (text.toList.drop start.length))
    else value
  -- A value that does not fit is left as it is, without an error.
  | _, _ => value

/-- A text without another one at its end. -/
def withoutEnd (value part : Value) : Value :=
  match value, part with
  | .text text, .text tail =>
    if tail.toList.isSuffixOf text.toList then
      .text (String.ofList (text.toList.take (text.length - tail.length)))
    else value
  -- A value that does not fit is left as it is, without an error.
  | _, _ => value

/-- How the letters of a text say that an expression is read, and whether its empty matches are left
out; or the first letter that says nothing. -/
def matchFlags (mode : Text.Regex.Mode) (leavesOutEmpty : Bool) :
    List Char → Except Char (Text.Regex.Mode × Bool)
  | [] => .ok (mode, leavesOutEmpty)
  -- All matches are wanted in any case.
  | 'g' :: rest => matchFlags mode leavesOutEmpty rest
  | 'n' :: rest => matchFlags mode true rest
  | 'i' :: rest => matchFlags { mode with ignoresCase := true } leavesOutEmpty rest
  | 'x' :: rest => matchFlags { mode with skipsBlanks := true } leavesOutEmpty rest
  | 'm' :: rest => matchFlags { mode with manyLines := true } leavesOutEmpty rest
  | 's' :: rest => matchFlags { mode with wholeText := true } leavesOutEmpty rest
  | 'p' :: rest =>
    matchFlags { mode with manyLines := true, wholeText := true } leavesOutEmpty rest
  | 'l' :: rest => matchFlags { mode with swapsGreed := true } leavesOutEmpty rest
  | letter :: _ => .error letter

/-- The text of a value that must be one. -/
def textOf : Value → Except Interrupt String
  | .text text => .ok text
  | value => .error (.wrongKind value "string")

/-- The pieces of a text between all matches of a regular expression. -/
def splitMatching (value expression flags : Value) : Result := do
  -- Pieces are always made at all matches.
  let letters ← textOf (← Arithmetic.apply .add flags (.text "g"))
  match matchFlags {} false letters.toList with
  | .error letter => throw (.ofMessage s!"invalid regex flag: {letter}")
  | .ok (mode, leavesOutEmpty) =>
    match Text.Regex.ofText mode (← textOf expression) with
    | .error fault => throw (.ofMessage s!"invalid regex: {fault.message}")
    | .ok regex =>
      let pieces := Text.Regex.split regex leavesOutEmpty (← textOf value)
      return .array (pieces.map .text)

/-- The operations on one value, by their names. -/
def operations : List (String × (Value → Result)) :=
  [ ("null", fun _ => .ok .null),
    ("true", fun _ => .ok (.boolean true)),
    ("false", fun _ => .ok (.boolean false)),
    ("nan", fun _ => .ok (.number (.real (0.0 / 0.0)))),
    ("infinite", fun _ => .ok (.number (.real (1.0 / 0.0)))),
    ("length", length),
    ("utf8bytelength", fun
      | .text text => .ok (.ofInt text.utf8ByteSize)
      | value => .error (.wrongKind value "string")),
    ("keys", keys),
    ("keys_unsorted", keysInOrder),
    ("type", fun value => .ok (.text value.kindName)),
    ("tojson", fun value => .ok (.text value.render)),
    ("fromjson", fromJson),
    ("floor", onNumber (Number.rounded Float.floor)),
    ("ceil", onNumber (Number.rounded Float.ceil)),
    ("round", onNumber (Number.rounded Float.round)),
    ("sqrt", onNumber fun value => .real value.toFloat.sqrt),
    ("ascii_downcase", onText (·.map Char.toLower)),
    ("ascii_upcase", onText (·.map Char.toUpper)),
    ("trim", onText Text.trimChars),
    ("ltrim", onText Text.trimStart),
    ("rtrim", onText Text.trimEnd),
    ("explode", explode),
    ("implode", implode),
    ("reverse", reverse) ]

/-- The operations on a value and an argument, by their names. -/
def relations : List (String × (Value → Value → Result)) :=
  [ ("has", has),
    ("contains", fun value part => .ok (.boolean (contains value part))),
    ("startswith", onTexts fun text start => .boolean (start.toList.isPrefixOf text.toList)),
    ("endswith", onTexts fun text tail => .boolean (tail.toList.isSuffixOf text.toList)),
    ("ltrimstr", fun value part => .ok (withoutStart value part)),
    ("rtrimstr", fun value part => .ok (withoutEnd value part)),
    ("indices", indices),
    ("index", chosenIndex List.head?),
    ("rindex", chosenIndex List.getLast?) ]

/-- A number of outputs that no evaluation reaches. -/
def endless : Nat := Nat.pow 2 62

/-- The number of steps from a number up to another one, or down to it. -/
def stepCount : Number → Number → Number → Nat
  | .whole start, .whole stop, .whole step =>
    -- Steps of no size never arrive, unless there is nowhere to go.
    if step = 0 then (if start = stop then 0 else endless)
    else if 0 < step then ((stop - start + step - 1) / step).toNat
    else ((start - stop - step - 1) / -step).toNat
  | start, stop, step =>
    let count := ((stop.toFloat - start.toFloat) / step.toFloat).ceil
    if count > 0 then min count.toUInt64.toNat endless else 0

/-- How many numbers there are from one to another one by steps, with the first of them. -/
def range : Value → Value → Value → Except Interrupt (Nat × Number × Number)
  | .number start, .number stop, .number step => .ok (stepCount start stop step, start, step)
  | .number _, .number _, value => .error (.wrongKind value "number")
  | .number _, value, _ => .error (.wrongKind value "number")
  | value, _, _ => .error (.wrongKind value "number")

/-- What is made of an array whose items have keys. -/
inductive Sorting where
  | sortBy
  | groupBy
  | minBy
  | maxBy
  deriving DecidableEq

/-- An item put behind the last one, in the descending list `sorted`, whose key does not come after
its own. -/
def insertKeyed (item : Value × Value) : List (Value × Value) → List (Value × Value)
  | [] => [item]
  | last :: sorted =>
    if item.1.compareTo last.1 == .lt then last :: insertKeyed item sorted
    else item :: last :: sorted

/-- How many items are sorted by putting one after the other in its place. -/
def insertionLimit : Nat := 20

/-- Items by ascending keys; those of equal keys stay in order. The order of numbers is not
transitive where whole ones are compared with rounded ones, so the way of sorting shows there. -/
def sortKeyed (keyed : List (Value × Value)) : List (Value × Value) :=
  if keyed.length ≤ insertionLimit then
    (keyed.foldl (fun sorted item => insertKeyed item sorted) []).reverse
  else keyed.mergeSort fun left right => left.1.atMost right.1

/-- Sorted items in groups of equal keys. -/
def groupKeyed : List (Value × Value) → List (Value × List Value)
  | [] => []
  | (key, item) :: rest =>
    match groupKeyed rest with
    | (other, items) :: groups =>
      -- Equal keys stand side by side, since the items are sorted.
      if key.equals other then (key, item :: items) :: groups
      else (key, [item]) :: (other, items) :: groups
    | [] => [(key, [item])]

/-- The value that is made of items with their keys. -/
def Sorting.apply (sorting : Sorting) (keyed : List (Value × Value)) : Value :=
  let sorted := sortKeyed keyed
  match sorting with
  | .sortBy => .array (sorted.map (·.2))
  | .groupBy => .array ((groupKeyed sorted).map fun (_, items) => .array items)
  -- Without items there is no least one, and null stands for it.
  | .minBy => (sorted.head?.map (·.2)).getD .null
  | .maxBy => (sorted.getLast?.map (·.2)).getD .null

/-- An operation on the input and on the outputs of so many arguments. -/
inductive Operation where
  | onInput (function : Value → Result)
  | onOne (function : Value → Value → Result)
  | onTwo (function : Value → Value → Value → Result)
  | range

/-- What is called by a name that no definition introduces. -/
inductive Callee where
  | operation (operation : Operation)
  | sorting (sorting : Sorting)
  -- The rest is called by the machine itself, since it may leave out outputs.
  | error
  | first
  | last
  | limit
  | skip

/-- The parameters of a call: an operation takes the outputs of its arguments, and the rest takes
filters, but for the numbers of outputs to take or to skip. -/
def Callee.parameters : Callee → List Parameter
  | .operation (.onInput _) => []
  | .operation (.onOne _) => [⟨"first", true⟩]
  | .operation (.onTwo _) => [⟨"first", true⟩, ⟨"second", true⟩]
  -- Arguments that are values are evaluated before the call.
  | .operation .range => [⟨"start", true⟩, ⟨"stop", true⟩, ⟨"step", true⟩]
  | .sorting _ => [⟨"key", false⟩]
  | .error => [⟨"payload", false⟩]
  | .first => [⟨"outputs", false⟩]
  | .last => [⟨"outputs", false⟩]
  | .limit => [⟨"count", true⟩, ⟨"outputs", false⟩]
  | .skip => [⟨"count", true⟩, ⟨"outputs", false⟩]

/-- All that can be called without a definition, by name and number of arguments. -/
def callees : List ((String × Nat) × Callee) :=
  operations.map (fun (name, function) => ((name, 0), .operation (.onInput function))) ++
    relations.map (fun (name, function) => ((name, 1), .operation (.onOne function))) ++
    [ (("split", 2), .operation (.onTwo splitMatching)),
      (("range", 3), .operation .range),
      (("sort_by", 1), .sorting .sortBy),
      (("group_by", 1), .sorting .groupBy),
      (("min_by", 1), .sorting .minBy),
      (("max_by", 1), .sorting .maxBy),
      (("error", 1), .error),
      (("first", 1), .first),
      (("last", 1), .last),
      (("limit", 2), .limit),
      (("skip", 2), .skip) ]

/-- What is called by a name with so many arguments. -/
def callee? (name : String) (count : Nat) : Option Callee :=
  (callees.find? fun (key, _) => key = (name, count)).map (·.2)

end RuleMetadata.Filter.Builtin

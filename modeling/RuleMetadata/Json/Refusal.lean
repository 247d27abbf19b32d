import RuleMetadata.Json.Number
import RuleMetadata.Json.Fault
import RuleMetadata.Text.Printable

/-! Why a JSON value is refused where something else was expected, and where. -/

namespace RuleMetadata.Json

/-- One step from a value into a part of it. -/
inductive Step where
  | key (name : String)
  | item (index : Nat)
  deriving DecidableEq, Repr

/-- What a reader expects of a value. -/
inductive Expected where
  | text
  | flag
  | list
  | path
  | unit
  | choice
  | choiceOrEntry
  | record (name : String)
  | tagged (name : String)
  deriving DecidableEq, Repr

/-- The wording of an expectation. -/
def Expected.message : Expected → String
  | .text => "a string"
  | .flag => "a boolean"
  | .list => "a sequence"
  | .path => "path string"
  | .unit => "unit"
  | .choice => "variant identifier"
  | .choiceOrEntry => "string or map"
  -- Records go by the names that the messages have for them.
  | .record name => s!"struct {name}"
  | .tagged name => s!"internally tagged enum {name}"

/-- The reasons for refusing a value. -/
inductive Cause where
  | missingField (name : String)
  | duplicateField (name : String)
  | wrongType (found : String) (expected : Expected)
  | unknownChoice (name : String) (known : List String)
  | choiceOutOfRange (index : Nat) (count : Nat)
  | tooFewItems (count : Nat) (record : String) (fields : Nat)
  | surplusItems (count : Nat)
  | surplusFields (count : Nat) (fields : Nat)
  | notSingleEntry
  | neitherTextNorTexts
  | malformed (fault : Fault)
  deriving DecidableEq, Repr

/-- A message names the type of a value, and the value itself when it is a scalar. -/
def describe : Json → String
  | .null => "null"
  | .boolean value => s!"boolean `{value}`"
  | .number (.integer value) => s!"integer `{value}`"
  | .number (.real value) => "floating point `" ++ Number.realText value ++ "`"
  | .text value => "string " ++ Text.shown value
  -- What is inside of a value is not shown.
  | .array _ => "sequence"
  | .object _ => "map"

/-- Names in backquotes: two joined by a word, more as a list. -/
private def alternatives (names : List String) : String :=
  let quoted := names.map fun name => s!"`{name}`"
  match quoted with
  | [one] => one
  -- Two names are joined without a comma.
  | [one, other] => s!"{one} or {other}"
  | _ => "one of " ++ ", ".intercalate quoted

/-- A number of elements in words. -/
private def elements (count : Nat) : String :=
  if count = 1 then "1 element" else s!"{count} elements"

/-- The wording of a cause. -/
def Cause.message : Cause → String
  | .missingField name => s!"missing field `{name}`"
  | .duplicateField name => s!"duplicate field `{name}`"
  | .wrongType found expected => s!"invalid type: {found}, expected " ++ expected.message
  | .unknownChoice name known => s!"unknown variant `{name}`, expected " ++ alternatives known
  | .choiceOutOfRange index count =>
    s!"invalid value: integer `{index}`, expected variant index 0 <= i < {count}"
  | .tooFewItems count record fields =>
    s!"invalid length {count}, expected struct {record} with " ++ elements fields
  -- Surplus items are counted in two ways, depending on where the record stands.
  | .surplusItems count => s!"invalid length {count}, expected fewer elements in array"
  | .surplusFields count fields =>
    s!"invalid length {count}, expected " ++ elements fields ++ " in sequence"
  | .notSingleEntry => "invalid value: map, expected map with a single key"
  | .neitherTextNorTexts => "data did not match any variant of untagged enum OneOrMany"
  | .malformed fault => fault.message

/-- A refused value: the way to it from the root, and the reason. -/
structure Refusal where
  path : List Step
  cause : Cause
  deriving DecidableEq, Repr

/-- The steps of a path: keys are joined by points, positions stand in brackets. -/
def pathText (path : List Step) : String :=
  let rec go (joint : String) : List Step → String
    | [] => ""
    | .key name :: rest => joint ++ name ++ go "." rest
    -- A position needs no joint in front of it, and a key behind it does.
    | .item index :: rest => s!"[{index}]" ++ go "." rest
  if path.isEmpty then "." else go "" path

namespace Refusal

/-- The wording of a refusal. -/
def message (refusal : Refusal) : String :=
  "at JSON path " ++ pathText refusal.path ++ " → " ++ refusal.cause.message

/-- The refusal of the value itself. -/
def here (cause : Cause) : Refusal := ⟨[], cause⟩

end Refusal

/-- Refuses the value itself. -/
def refuse (cause : Cause) : Except Refusal α :=
  .error (.here cause)

/-- A refusal inside a part, seen from the whole. -/
def within (step : Step) : Except Refusal α → Except Refusal α
  | .ok value => .ok value
  | .error refusal => .error { refusal with path := step :: refusal.path }

/-- A refusal inside a value, reported for the value itself. -/
def atWhole : Except Refusal α → Except Refusal α
  | .ok value => .ok value
  | .error refusal => .error (.here refusal.cause)

/-- Reads a text. -/
def readText? : Json → Except Refusal String
  | .text value => .ok value
  | other => refuse (.wrongType (describe other) .text)

/-- Reads a text that may be absent. -/
def readOptionalText : Json → Except Refusal (Option String)
  | .null => .ok none
  | other => (readText? other).map some

/-- Reads a truth value. -/
def readFlag : Json → Except Refusal Bool
  | .boolean value => .ok value
  | other => refuse (.wrongType (describe other) .flag)

/-- Reads the items of a list, the first at a given position. -/
def readItems (read : Json → Except Refusal α) (index : Nat) :
    List Json → Except Refusal (List α)
  | [] => .ok []
  | item :: rest => do
    -- The position goes into the path of a refusal.
    let value ← within (.item index) (read item)
    let values ← readItems read (index + 1) rest
    return value :: values

/-- Reads a list. -/
def readList (read : Json → Except Refusal α) : Json → Except Refusal (List α)
  | .array items => readItems read 0 items
  | other => refuse (.wrongType (describe other) .list)

/-- Reads one text or a list of texts; null is neither. -/
def readTexts : Json → Except Refusal (List String)
  | .text value => .ok [value]
  | .array items =>
    match readItems readText? 0 items with
    | .ok values => .ok values
    -- Which item is at fault is not told.
    | .error _ => refuse .neitherTextNorTexts
  | _ => refuse .neitherTextNorTexts

end RuleMetadata.Json

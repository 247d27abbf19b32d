import RuleMetadata.Json.Reader
import RuleMetadata.Json.Refusal
import RuleMetadata.Options.Basic

/-! Reading options from JSON, and showing them as JSON.

Options are read from a draft, so that a text is refused for whatever comes first in it: a value
of the wrong type, or the place where it stops being JSON. What follows the value is not looked
at. -/

namespace RuleMetadata

open Json

namespace BuildOptions

/-- Refuses a draft that is not what is expected, or for the fault that ends it. -/
private def refuseDraft (expected : Expected) : Draft → Except Refusal α
  | .scalar value => refuse (.wrongType (describe value) expected)
  -- A number that is too large is at fault by itself, whatever was expected.
  | .number numeral =>
    match numeral.number with
    | .ok value => refuse (.wrongType (describe (.number value)) expected)
    | .error fault => refuse (.malformed fault)
  | .array _ _ => refuse (.wrongType "sequence" expected)
  | .object _ _ => refuse (.wrongType "map" expected)
  | .fault fault => refuse (.malformed fault)

/-- Reads a draft that has to be a scalar value. -/
private def readScalar (expected : Expected) (read : Json → Option α) (draft : Draft) :
    Except Refusal α :=
  match draft with
  | .scalar value =>
    -- What is a scalar but not the right one is refused like anything else.
    match read value with
    | some value => .ok value
    | none => refuseDraft expected draft
  | _ => refuseDraft expected draft

/-- The text of a value. -/
private def text? : Json → Option String
  | .text value => some value
  | _ => none

/-- The truth value of a value. -/
private def flag? : Json → Option Bool
  | .boolean value => some value
  | _ => none

/-- The text of a value that may also be null. -/
private def optional? : Json → Option (Option String)
  | .null => some none
  | .text value => some (some value)
  | _ => none

/-- Reads the items of a list, the first at a given position. -/
private def readTextItems (index : Nat) : List Draft → Except Refusal (List String)
  | [] => .ok []
  | item :: rest => do
    -- The position goes into the path of a refusal.
    let value ← within (.item index) (readScalar .text text? item)
    let values ← readTextItems (index + 1) rest
    return value :: values

/-- Refuses a draft that was cut short. -/
private def checkCut : Option Fault → Except Refusal Unit
  | none => .ok ()
  | some fault => refuse (.malformed fault)

/-- Reads a list of texts. -/
private def readTextList : Draft → Except Refusal (List String)
  | .array items cut => do
    let values ← readTextItems 0 items
    -- The items that are there are read before the missing end counts.
    checkCut cut
    return values
  | other => refuseDraft .list other

/-- The names of the options in order. -/
def optionNames : List String :=
  ["rulesOutput", "namedObjectsOutput", "resourceOutput", "resourceInput", "descriptionDir",
    "implementationAttribute", "containerTypes", "skipRules", "skipNamedObjects",
    "skipDescriptions", "failFast"]

/-- Reads one option; the value of an unknown one has been passed over. -/
private def readOption (options : BuildOptions) (name : String) (draft : Draft) :
    Except Refusal BuildOptions :=
  match name with
  | "rulesOutput" => do
    return { options with rulesOutput := ← readScalar .path optional? draft }
  | "namedObjectsOutput" => do
    return { options with namedObjectsOutput := ← readScalar .path optional? draft }
  | "resourceOutput" => do
    return { options with resourceOutput := ← readScalar .path text? draft }
  | "resourceInput" => do
    return { options with resourceInput := ← readScalar .path optional? draft }
  | "descriptionDir" => do
    return { options with descriptionDir := ← readScalar .text text? draft }
  | "implementationAttribute" => do
    return { options with implementationAttribute := ← readScalar .text text? draft }
  | "containerTypes" => do return { options with containerTypes := ← readTextList draft }
  | "skipRules" => do return { options with skipRules := ← readScalar .flag flag? draft }
  | "skipNamedObjects" => do
    return { options with skipNamedObjects := ← readScalar .flag flag? draft }
  | "skipDescriptions" => do
    return { options with skipDescriptions := ← readScalar .flag flag? draft }
  | "failFast" => do return { options with failFast := ← readScalar .flag flag? draft }
  -- An unknown option has to be well spelled all the same.
  | _ =>
    match draft with
    | .fault fault => refuse (.malformed fault)
    | _ => .ok options

/-- Reads the entries of an object; an option must not be given twice. -/
private def readEntries (options : BuildOptions) (seen : List String) :
    List (String × Draft) → Except Refusal BuildOptions
  | [] => .ok options
  | (name, draft) :: rest => do
    if name ∈ seen then refuse (.duplicateField name)
    let options ← within (.key name) (readOption options name draft)
    -- Unknown names may be repeated.
    readEntries options (if name ∈ optionNames then name :: seen else seen) rest

/-- Reads the items of an array as the options in order. -/
private def readPositions (surplus : Cause) (options : BuildOptions) (index : Nat) :
    List String → List Draft → Except Refusal BuildOptions
  | _, [] => .ok options
  -- There are more items than options.
  | [], _ :: _ => refuse surplus
  | name :: names, draft :: rest => do
    let options ← within (.item index) (readOption options name draft)
    readPositions surplus options (index + 1) names rest

/-- Reads options from a draft; those that are not given keep their defaults. -/
private def ofDraft (surplus : Nat → Cause) : Draft → Except Refusal BuildOptions
  | .object entries cut => do
    let options ← readEntries {} [] entries
    checkCut cut
    return options
  -- A record may also be written as the array of its fields.
  | .array items cut => do
    let options ← readPositions (surplus items.length) {} 0 optionNames items
    checkCut cut
    return options
  | other => refuseDraft (.record "BuildOptions") other

/-- Reads options from a value. -/
def ofJson (value : Json) : Except Refusal BuildOptions :=
  ofDraft .surplusItems (.ofJson value)

/-- Reads options from the value at the start of a text. -/
def ofText (text : String) : Except Refusal BuildOptions :=
  ofDraft (fun _ => .malformed .trailingCharacters)
    (Draft.readKnown optionNames.contains text.toList).1

/-- The options as a value, each under its name. -/
def toJson (options : BuildOptions) : Json :=
  .object [
    -- Options without a value are null, so that all names are there.
    ("rulesOutput", .ofText? options.rulesOutput),
    ("namedObjectsOutput", .ofText? options.namedObjectsOutput),
    ("resourceOutput", .text options.resourceOutput),
    ("resourceInput", .ofText? options.resourceInput),
    ("descriptionDir", .text options.descriptionDir),
    ("implementationAttribute", .text options.implementationAttribute),
    ("containerTypes", .ofTexts options.containerTypes),
    ("skipRules", .boolean options.skipRules),
    ("skipNamedObjects", .boolean options.skipNamedObjects),
    ("skipDescriptions", .boolean options.skipDescriptions),
    ("failFast", .boolean options.failFast)]

end BuildOptions

end RuleMetadata

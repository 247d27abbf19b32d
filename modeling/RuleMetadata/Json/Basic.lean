/-! JSON values with their object entries in order. -/

namespace RuleMetadata

/-- A JSON number: exact when it is an integer of at most 64 bits, else a binary floating point. -/
inductive Json.Number where
  | integer (value : Int)
  | real (value : Float)

/-- A JSON value; an object keeps its entries in the order of their first appearance. -/
inductive Json where
  | null
  | boolean (value : Bool)
  | number (value : Json.Number)
  | text (value : String)
  | array (items : List Json)
  -- Keys are distinct where an object was read, since a later entry takes over an earlier one.
  | object (entries : List (String × Json))

namespace Json

instance : Inhabited Json := ⟨.null⟩

/-- The value stored under a key of an entry list. -/
def lookup? (entries : List (String × α)) (key : String) : Option α :=
  match entries with
  | [] => none
  | (name, value) :: rest => if name = key then some value else lookup? rest key

/-- Stores a value under a key: a known key keeps its place, a new one comes last. -/
def insertEntry (entries : List (String × α)) (key : String) (value : α) : List (String × α) :=
  match entries with
  | [] => [(key, value)]
  | (name, old) :: rest =>
    if name = key then (name, value) :: rest else (name, old) :: insertEntry rest key value

/-- The value of an object's key, if the value is an object that has it. -/
def get? (value : Json) (key : String) : Option Json :=
  match value with
  | .object entries => lookup? entries key
  | _ => none

/-- A text, or null when it is absent. -/
def ofText? : Option String → Json
  | none => .null
  | some value => .text value

/-- A list of texts. -/
def ofTexts (values : List String) : Json :=
  .array (values.map .text)

/-- A natural number. -/
def ofNat (value : Nat) : Json :=
  .number (.integer value)

end Json

end RuleMetadata

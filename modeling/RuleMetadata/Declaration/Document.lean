import RuleMetadata.Declaration.Basic
import RuleMetadata.Json.Refusal

/-! Reading declarations from model documents.

A record is written as an object or as the array of its fields in order. Its fields are read in
the order in which they stand; the first one that is refused decides, and a missing field counts
only after all present ones were read. Members and markers carry their kind as a tag; what is wrong
inside one of them is reported for the outermost of them as a whole. -/

namespace RuleMetadata

open Json

/-- Where a record stands: in the document itself, or inside a tagged value.

Inside a tagged value a position may stand for a kind, and surplus items are counted otherwise. -/
inductive Setting where
  | document
  | tagged
  deriving DecidableEq, Repr

/-- Refuses a record written as an array with more items than fields. -/
def refuseSurplus (setting : Setting) (count fields : Nat) : Except Refusal α :=
  match setting with
  | .document => refuse (.surplusItems count)
  | .tagged => refuse (.surplusFields count fields)

/-- Reads a tag: the position of its name among the known ones. -/
def readTag (setting : Setting) (known : List String) : Json → Except Refusal Nat
  | .text name =>
    match known.findIdx? (· == name) with
    | some index => .ok index
    | none => refuse (.unknownChoice name known)
  | .number (.integer value) =>
    -- Only inside a tagged value, and not below zero, a number is taken as a position.
    if setting = .tagged && 0 ≤ value then
      if value.toNat < known.length then .ok value.toNat
      else refuse (.choiceOutOfRange value.toNat known.length)
    else refuse (.wrongType (describe (.number (.integer value))) .choice)
  | other => refuse (.wrongType (describe other) .choice)

/-- The tag of a tagged value written as an object: the value of its key `kind`. -/
def readObjectTag (setting : Setting) (known : List String) (entries : List (String × Json)) :
    Except Refusal Nat :=
  match lookup? entries "kind" with
  | none => refuse (.missingField "kind")
  -- The tag need not be the first entry.
  | some value => within (.key "kind") (readTag setting known value)

namespace Marker

/-- Reads the role of an argument: its name, or an object of that one name with nothing in it. -/
def readRole : Json → Except Refusal ArgumentRole
  | .text name => named name
  -- A tagged value of any shape is read here, so the content must say nothing.
  | .object [(name, content)] => do
    let role ← named name
    match content with
    | .null | .object [] => return role
    | other => refuse (.wrongType (describe other) .unit)
  | .object _ => refuse .notSingleEntry
  | other => refuse (.wrongType (describe other) .choiceOrEntry)
where
  /-- The role with a name. -/
  named (name : String) : Except Refusal ArgumentRole :=
    if name = "input" then .ok .input
    else if name = "returns" then .ok .returns
    else refuse (.unknownChoice name ["input", "returns"])

/-- Reads one field of a marker by its name; unknown fields change nothing. -/
def readField (marker : Marker) (name : String) (value : Json) : Except Refusal Marker :=
  match marker, name with
  | .rule marker, "value" => do return .rule { marker with value := ← readOptionalText value }
  | .rule marker, "type" => do return .rule { marker with types := ← readTexts value }
  | .namedObject marker, "value" => do
    return .namedObject { marker with value := ← readOptionalText value }
  | .argument marker, "name" => do
    return .argument { marker with name := ← readOptionalText value }
  | .argument marker, "prompt" => do
    return .argument { marker with prompt := ← readOptionalText value }
  | .argument marker, "required" => do
    return .argument { marker with required := ← readFlag value }
  | .argument marker, "role" => do return .argument { marker with role := ← readRole value }
  | .argument marker, "returnType" => do
    return .argument { marker with returnType := ← readFlag value }
  | .attribute marker, "name" => do
    return .attribute { marker with name := ← readOptionalText value }
  | .attribute marker, "value" => do return .attribute { marker with value := ← readTexts value }
  | .attribute marker, "collection" => do
    return .attribute { marker with collection := ← readFlag value }
  -- What is not a field of this kind is passed over, be it one of another kind.
  | marker, _ => .ok marker

/-- The fields of a kind of marker, in order. -/
def fields : MarkerKind → List String
  | .rule => ["value", "type"]
  | .namedObject => ["value"]
  | .argument => ["name", "prompt", "required", "role", "returnType"]
  | .attribute => ["name", "value", "collection"]

/-- A marker that says nothing besides its kind. -/
def plain : MarkerKind → Marker
  | .rule => .rule {}
  | .namedObject => .namedObject {}
  | .argument => .argument {}
  | .attribute => .attribute {}

/-- The tags of the kinds of marker. -/
def tags : List String :=
  MarkerKind.all.map MarkerKind.label

/-- Reads the entries of an object as fields, in the order in which they stand. -/
def readEntries (marker : Marker) : List (String × Json) → Except Refusal Marker
  | [] => .ok marker
  | (name, value) :: rest => do
    -- The keys of an object are distinct, so that no field is read twice.
    let marker ← readField marker name value
    readEntries marker rest

/-- Reads the items of an array as the fields of a marker; `count` is the number of all items. -/
def readItems (count : Nat) (marker : Marker) : List String → List Json → Except Refusal Marker
  -- Fields for which there is no item stay as they are.
  | _, [] => .ok marker
  | [], _ :: _ => refuseSurplus .tagged count (fields marker.kind).length
  | name :: names, value :: rest => do
    let marker ← readField marker name value
    readItems count marker names rest

/-- Reads a marker. -/
def read (setting : Setting) : Json → Except Refusal Marker
  | .object entries => do
    let index ← readObjectTag setting tags entries
    let kind := MarkerKind.all.getD index .rule
    -- The tag is no field of a marker, so it changes nothing among the entries.
    atWhole (readEntries (plain kind) entries)
  | .array [] => refuse (.missingField "kind")
  | .array (tag :: items) => do
    let index ← within (.item 0) (readTag setting tags tag)
    let kind := MarkerKind.all.getD index .rule
    atWhole (readItems items.length (plain kind) (fields kind) items)
  | other => refuse (.wrongType (describe other) (.tagged "Marker"))

end Marker

namespace FieldDeclaration

/-- Reads one entry of a field; unknown entries change nothing. -/
def readEntry (declaration : FieldDeclaration) (name : String) (value : Json) :
    Except Refusal FieldDeclaration :=
  match name with
  | "name" => do return { declaration with name := ← readText? value }
  | "type" => do return { declaration with type := ← readOptionalText value }
  | "doc" => do return { declaration with doc := ← readOptionalText value }
  -- Members are read from tagged values, and so are their markers.
  | "markers" => do return { declaration with markers := ← readList (Marker.read .tagged) value }
  | _ => .ok declaration

end FieldDeclaration

namespace MethodDeclaration

/-- Reads one entry of a method; unknown entries change nothing. -/
def readEntry (declaration : MethodDeclaration) (name : String) (value : Json) :
    Except Refusal MethodDeclaration :=
  match name with
  | "name" => do return { declaration with name := ← readText? value }
  -- Unlike the type of a field, a result may be left out but not be null.
  | "returns" => do return { declaration with returns := ← readText? value }
  | "doc" => do return { declaration with doc := ← readOptionalText value }
  | "markers" => do return { declaration with markers := ← readList (Marker.read .tagged) value }
  | _ => .ok declaration

end MethodDeclaration

namespace ConstructorDeclaration

/-- Reads one entry of a constructor; unknown entries change nothing. -/
def readEntry (declaration : ConstructorDeclaration) (name : String) (value : Json) :
    Except Refusal ConstructorDeclaration :=
  match name with
  -- A constructor has the name of its type, and no entry for it.
  | "doc" => do return { declaration with doc := ← readOptionalText value }
  | "markers" => do return { declaration with markers := ← readList (Marker.read .tagged) value }
  | _ => .ok declaration

end ConstructorDeclaration

/-- Reads the entries of an object one by one into a record. -/
def readEntries (readEntry : α → String → Json → Except Refusal α) (record : α) :
    List (String × Json) → Except Refusal α
  | [] => .ok record
  | (name, value) :: rest => do
    -- The keys of an object are distinct, so that no field is read twice.
    let record ← readEntry record name value
    readEntries readEntry record rest

/-- Reads the items of an array one by one into the fields of a record. -/
def readPositions (readEntry : α → String → Json → Except Refusal α) (surplus : Except Refusal α)
    (record : α) : List String → List Json → Except Refusal α
  -- Fields for which there is no item stay as they are.
  | _, [] => .ok record
  | [], _ :: _ => surplus
  | name :: names, value :: rest => do
    let record ← readEntry record name value
    readPositions readEntry surplus record names rest

/-- The tags of the kinds of member. -/
def memberTags : List String :=
  ["field", "method", "constructor", "type"]

/-- Reads the content of a field, method or constructor written as an object. -/
def readSimpleEntries (entries : List (String × Json)) :
    Nat → Except Refusal MemberDeclaration
  | 0 => do
    let declaration ← readEntries FieldDeclaration.readEntry { name := "" } entries
    -- The name is missed only when all entries have been read.
    if (lookup? entries "name").isNone then refuse (.missingField "name")
    return .field declaration
  | 1 => do
    let declaration ← readEntries MethodDeclaration.readEntry { name := "" } entries
    if (lookup? entries "name").isNone then refuse (.missingField "name")
    return .method declaration
  | _ => do
    return .constructor (← readEntries ConstructorDeclaration.readEntry {} entries)

/-- Reads the content of a field, method or constructor written as an array. -/
def readSimpleItems (items : List Json) : Nat → Except Refusal MemberDeclaration
  | 0 => do
    let surplus := refuseSurplus .tagged items.length 4
    if items.isEmpty then refuse (.tooFewItems 0 "FieldDecl" 4)
    return .field (← readPositions FieldDeclaration.readEntry surplus { name := "" }
      ["name", "type", "doc", "markers"] items)
  | 1 => do
    let surplus := refuseSurplus .tagged items.length 4
    if items.isEmpty then refuse (.tooFewItems 0 "MethodDecl" 4)
    return .method (← readPositions MethodDeclaration.readEntry surplus { name := "" }
      ["name", "returns", "doc", "markers"] items)
  -- All fields of a constructor may be left out, so an empty array is one.
  | _ => do
    let surplus := refuseSurplus .tagged items.length 2
    return .constructor (← readPositions ConstructorDeclaration.readEntry surplus {}
      ["doc", "markers"] items)

namespace TypeDeclaration

/-- The fields of a type in order; the members come last. -/
def fields : List String :=
  ["name", "extends", "implements", "doc", "markers", "members"]

/-- Reads one entry of a type, its members apart; unknown entries change nothing. -/
def readEntry (setting : Setting) (declaration : TypeDeclaration) (name : String) (value : Json) :
    Except Refusal TypeDeclaration :=
  match name with
  | "name" => do return { declaration with name := ← readText? value }
  | "extends" => do return { declaration with superclass := ← readOptionalText value }
  -- A list of texts, where a marker takes one text as well.
  | "implements" => do return { declaration with interfaces := ← readList readText? value }
  | "doc" => do return { declaration with doc := ← readOptionalText value }
  | "markers" => do return { declaration with markers := ← readList (Marker.read setting) value }
  | _ => .ok declaration

mutual

/-- Reads a type. -/
def read (setting : Setting) : Json → Except Refusal TypeDeclaration
  | .object entries => do
    let declaration ← readObject setting { name := "" } entries
    -- The name is missed only when all entries have been read.
    if (lookup? entries "name").isNone then refuse (.missingField "name")
    return declaration
  | .array [] => refuse (.tooFewItems 0 "TypeDecl" 6)
  | .array items => readArray setting items.length 0 { name := "" } fields items
  | other => refuse (.wrongType (describe other) (.record "TypeDecl"))

/-- Reads the entries of an object into a type. -/
def readObject (setting : Setting) (declaration : TypeDeclaration) :
    List (String × Json) → Except Refusal TypeDeclaration
  | [] => .ok declaration
  | (name, value) :: rest => do
    -- Members are read by the recursion itself, which ends since they stand inside.
    if name = "members" then
      let members ← within (.key name) (readMembers setting value)
      readObject setting { declaration with members } rest
    else
      let declaration ← within (.key name) (readEntry setting declaration name value)
      readObject setting declaration rest

/-- Reads the items of an array into the fields of a type; `count` is the number of all items. -/
def readArray (setting : Setting) (count index : Nat) (declaration : TypeDeclaration) :
    List String → List Json → Except Refusal TypeDeclaration
  | _, [] => .ok declaration
  | [], _ :: _ => refuseSurplus setting count fields.length
  | name :: names, value :: rest => do
    -- Members are read by the recursion itself, which ends since they stand inside.
    if name = "members" then
      let members ← within (.item index) (readMembers setting value)
      readArray setting count (index + 1) { declaration with members } names rest
    else
      let declaration ← within (.item index) (readEntry setting declaration name value)
      readArray setting count (index + 1) declaration names rest

/-- Reads the list of members of a type. -/
def readMembers (setting : Setting) : Json → Except Refusal (List MemberDeclaration)
  | .array items => readMemberItems setting 0 items
  | other => refuse (.wrongType (describe other) .list)

/-- Reads members from a position on. -/
def readMemberItems (setting : Setting) (index : Nat) :
    List Json → Except Refusal (List MemberDeclaration)
  | [] => .ok []
  | item :: rest => do
    let member ← within (.item index) (readMember setting item)
    -- The position goes into the path of a refusal.
    let members ← readMemberItems setting (index + 1) rest
    return member :: members

/-- Reads a member. -/
def readMember (setting : Setting) : Json → Except Refusal MemberDeclaration
  | .object entries => do
    let kind ← readObjectTag setting memberTags entries
    -- A nested type is read like one of its own, but refused as a whole.
    if kind = 3 then
      let declaration ← atWhole (readObject .tagged { name := "" } entries)
      if (lookup? entries "name").isNone then refuse (.missingField "name")
      return .type declaration
    else atWhole (readSimpleEntries entries kind)
  | .array [] => refuse (.missingField "kind")
  | .array (tag :: items) => do
    let kind ← within (.item 0) (readTag setting memberTags tag)
    if kind = 3 then
      if items.isEmpty then refuse (.tooFewItems 0 "TypeDecl" 6)
      return .type (← atWhole (readArray .tagged items.length 0 { name := "" } fields items))
    else atWhole (readSimpleItems items kind)
  | other => refuse (.wrongType (describe other) (.tagged "MemberDecl"))

end

end TypeDeclaration

/-- Why a model document is refused; the path starts at the list under `types` if there is one. -/
structure DocumentRefusal where
  underTypes : Bool
  refusal : Refusal
  deriving DecidableEq, Repr

/-- The wording of a refused document. -/
def DocumentRefusal.message (refused : DocumentRefusal) : String :=
  (if refused.underTypes then "in `types`: " else "") ++ refused.refusal.message

/-- Reads a model document: a list of types, bare or under `types`, or a single type. -/
def readDocument (document : Json) : Except DocumentRefusal (List TypeDeclaration) :=
  let list := readList (TypeDeclaration.read .document)
  match document with
  | .object entries =>
    match lookup? entries "types" with
    -- Other entries beside the types are passed over.
    | some types => (list types).mapError (⟨true, ·⟩)
    | none => ((TypeDeclaration.read .document document).map ([·])).mapError (⟨false, ·⟩)
  | .array _ => (list document).mapError (⟨false, ·⟩)
  | _ => ((TypeDeclaration.read .document document).map ([·])).mapError (⟨false, ·⟩)

end RuleMetadata

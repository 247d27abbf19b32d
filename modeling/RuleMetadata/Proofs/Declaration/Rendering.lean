import Mathlib.Data.List.Forall2
import Mathlib.Tactic.Simps.Basic
import RuleMetadata.Declaration.Document

/-! The layouts in which a model document may state a declaration.

A record is an object with its keys in any order, or the array of all its fields. What is absent in
the record may be left out of the object, or be null where the field is an optional text. Each
record of a document chooses its layout for itself. -/

namespace RuleMetadata

namespace Json

/-- A field of a record in its documents: the key, the values that state what the record has there,
and whether an object states the same without the key. -/
structure Part where
  key : String
  states : Json → Prop
  -- In an array nothing can be left out, for the places count.
  omittable : Prop

namespace Part

/-- A text that is always there. -/
@[simps key omittable]
def text (key value : String) : Part :=
  ⟨key, (· = .text value), False⟩

/-- A text that may be missing. -/
@[simps key omittable]
def optionalText (key : String) (value : Option String) : Part :=
  ⟨key, (· = .ofText? value), value = none⟩

/-- A truth value that is false unless something else is said. -/
@[simps key omittable]
def flag (key : String) (value : Bool) : Part :=
  ⟨key, (· = .boolean value), value = false⟩

/-- A list, with the values that state one of its elements. -/
@[simps key omittable]
def list (key : String) (states : α → Json → Prop) (values : List α) : Part :=
  ⟨key, fun json => ∃ items, json = .array items ∧ List.Forall₂ states values items, values = []⟩

/-- A list of texts. -/
@[simps! key omittable]
def texts (key : String) (values : List String) : Part :=
  list key (fun value json => json = .text value) values

/-- A list of texts that may be a single text as well. -/
@[simps key omittable]
def textOrTexts (key : String) (values : List String) : Part :=
  ⟨key, fun json => json = .ofTexts values ∨ ∃ value, values = [value] ∧ json = .text value,
    values = []⟩

/-- The tag of a record. -/
@[simps! key omittable]
def tag (label : String) : Part :=
  text "kind" label

/-- Whether the entries of an object state a field. -/
def StatedBy (part : Part) (entries : List (String × Json)) : Prop :=
  (∀ value, (part.key, value) ∈ entries → part.states value) ∧
    (part.key ∉ entries.map (·.1) → part.omittable)

end Part

/-- Whether a value states a record of some parts: an object that states each of them, whatever else
it holds, or the array of all of them in order. -/
def States (parts : List Part) : Json → Prop
  -- Keys that no part has may stand anywhere.
  | .object entries => ∀ part ∈ parts, part.StatedBy entries
  | .array items => List.Forall₂ Part.states parts items
  | _ => False

end Json

open Json

/-- The name of an argument's role in documents. -/
def ArgumentRole.label : ArgumentRole → String
  | .input => "input"
  | .returns => "returns"

namespace Marker

/-- The fields of a marker in documents, without its tag. -/
def parts : Marker → List Part
  | .rule marker => [.optionalText "value" marker.value, .textOrTexts "type" marker.types]
  | .namedObject marker => [.optionalText "value" marker.value]
  | .argument marker =>
    [.optionalText "name" marker.name, .optionalText "prompt" marker.prompt,
      .flag "required" marker.required,
      -- The role is a word, which may be left out if it is the usual one.
      ⟨"role", (· = .text marker.role.label), marker.role = .input⟩,
      .flag "returnType" marker.returnType]
  | .attribute marker =>
    [.optionalText "name" marker.name, .textOrTexts "value" marker.value,
      .flag "collection" marker.collection]

/-- Whether a value states a marker. -/
def StatedBy (marker : Marker) : Json → Prop :=
  States (.tag marker.kind.label :: marker.parts)

end Marker

/-- The fields of a declared field in documents, without its tag. -/
def FieldDeclaration.parts (declaration : FieldDeclaration) : List Part :=
  [.text "name" declaration.name, .optionalText "type" declaration.type,
    .optionalText "doc" declaration.doc, .list "markers" Marker.StatedBy declaration.markers]

/-- The fields of a declared method in documents, without its tag. -/
def MethodDeclaration.parts (declaration : MethodDeclaration) : List Part :=
  [.text "name" declaration.name,
    -- A method that returns nothing need not say so.
    ⟨"returns", (· = .text declaration.returns), declaration.returns = "void"⟩,
    .optionalText "doc" declaration.doc, .list "markers" Marker.StatedBy declaration.markers]

/-- The fields of a declared constructor in documents, without its tag. -/
def ConstructorDeclaration.parts (declaration : ConstructorDeclaration) : List Part :=
  [.optionalText "doc" declaration.doc, .list "markers" Marker.StatedBy declaration.markers]

mutual

/-- The fields of a declared type in documents, without the tag that it has inside another one. -/
def TypeDeclaration.parts : TypeDeclaration → List Part
  | ⟨name, superclass, interfaces, doc, markers, members⟩ =>
    [.text "name" name, .optionalText "extends" superclass, .texts "implements" interfaces,
      .optionalText "doc" doc, .list "markers" Marker.StatedBy markers,
      -- The members are not a list of the usual kind, since they can hold types again.
      ⟨"members", fun json => ∃ items, json = .array items ∧ membersStatedBy members items,
        members = []⟩]

/-- Whether a value states a member. -/
def MemberDeclaration.StatedBy : MemberDeclaration → Json → Prop
  | .field declaration => States (.tag "field" :: declaration.parts)
  | .method declaration => States (.tag "method" :: declaration.parts)
  | .constructor declaration => States (.tag "constructor" :: declaration.parts)
  -- A nested type has the fields of a top-level one, behind a tag.
  | .type declaration => States (.tag "type" :: declaration.parts)

/-- Whether values state members one by one. -/
def membersStatedBy : List MemberDeclaration → List Json → Prop
  | [], items => items = []
  -- The recursion is on the members, so that it can go through a nested type.
  | member :: rest, items =>
    ∃ item others, items = item :: others ∧ member.StatedBy item ∧ membersStatedBy rest others

end

/-- Whether a value states a top-level type. -/
def TypeDeclaration.StatedBy (declaration : TypeDeclaration) : Json → Prop :=
  States declaration.parts

end RuleMetadata

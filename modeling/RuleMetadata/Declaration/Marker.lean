import RuleMetadata.Text.Blank

/-! The markers that select declarations for extraction. -/

namespace RuleMetadata

/-- The kinds of marker. -/
inductive MarkerKind where
  | rule
  | namedObject
  | argument
  | attribute
  deriving DecidableEq, Repr

/-- Which list of a signature an argument belongs to. -/
inductive ArgumentRole where
  | input
  | returns
  deriving DecidableEq, Repr

/-- Marks a type as a rule, under a name of its own and with its rule types. -/
structure RuleMarker where
  value : Option String := none
  types : List String := []
  deriving DecidableEq, Repr

/-- Marks a type as a named object, under a name of its own. -/
structure NamedObjectMarker where
  value : Option String := none
  deriving DecidableEq, Repr

/-- Marks an element as an argument of the rule. -/
structure ArgumentMarker where
  name : Option String := none
  prompt : Option String := none
  required : Bool := false
  role : ArgumentRole := .input
  -- Whether the argument claims to be the return type of the whole rule.
  returnType : Bool := false
  deriving DecidableEq, Repr

/-- Marks an element as the source of an attribute; a collection is a list however many values
it has. -/
structure AttributeMarker where
  name : Option String := none
  value : List String := []
  collection : Bool := false
  deriving DecidableEq, Repr

/-- A marker on a declaration. -/
inductive Marker where
  | rule (marker : RuleMarker)
  | namedObject (marker : NamedObjectMarker)
  | argument (marker : ArgumentMarker)
  | attribute (marker : AttributeMarker)
  deriving DecidableEq, Repr

namespace MarkerKind

/-- The tag of a kind in documents. -/
def label : MarkerKind → String
  | .rule => "rule"
  | .namedObject => "named-object"
  | .argument => "argument"
  | .attribute => "attribute"

/-- Every kind, in the order of their tags. -/
def all : List MarkerKind :=
  [.rule, .namedObject, .argument, .attribute]

/-- The kind with a tag. -/
def ofLabel? (label : String) : Option MarkerKind :=
  all.find? (·.label == label)

end MarkerKind

/-- The kind of a marker. -/
def Marker.kind : Marker → MarkerKind
  | .rule _ => .rule
  | .namedObject _ => .namedObject
  | .argument _ => .argument
  | .attribute _ => .attribute

/-- The name that replaces the type's own, trimmed; a blank one replaces nothing. -/
def RuleMarker.nameOverride (marker : RuleMarker) : Option String :=
  marker.value.bind Text.nonBlank?

/-- The name that replaces the type's own, trimmed; a blank one replaces nothing. -/
def NamedObjectMarker.nameOverride (marker : NamedObjectMarker) : Option String :=
  marker.value.bind Text.nonBlank?

/-- The name that replaces the element's own, trimmed; a blank one replaces nothing. -/
def ArgumentMarker.nameOverride (marker : ArgumentMarker) : Option String :=
  marker.name.bind Text.nonBlank?

/-- The name that replaces the element's own, trimmed; a blank one replaces nothing. -/
def AttributeMarker.nameOverride (marker : AttributeMarker) : Option String :=
  marker.name.bind Text.nonBlank?

end RuleMetadata

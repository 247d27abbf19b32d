import RuleMetadata.Json.Basic
import RuleMetadata.Walk

/-! Attributes: names with one value or a list of values, taken from a type's hierarchy. -/

namespace RuleMetadata

/-- The value of an attribute. -/
inductive AttributeValue where
  | single (value : String)
  | list (values : List String)
  deriving DecidableEq, Repr

/-- Attributes by name, in the order in which the names first appeared. -/
abbrev AttributeMap := List (String × AttributeValue)

namespace AttributeMap

/-- The value of an attribute. -/
def get? (map : AttributeMap) (name : String) : Option AttributeValue :=
  Json.lookup? map name

/-- Sets an attribute: a known name keeps its place. -/
def insert (map : AttributeMap) (name : String) (value : AttributeValue) : AttributeMap :=
  Json.insertEntry map name value

/-- Whether two maps hold the same attributes in whatever order. -/
def sameAs (left right : AttributeMap) : Bool :=
  -- Names are distinct in a map, so that an equal number of entries leaves none over.
  left.length == right.length &&
    left.all fun entry => get? right entry.1 == some entry.2

end AttributeMap

/-- The value that an attribute marker gives: a list for a collection or for several values. -/
def AttributeMarker.attributeValue (marker : AttributeMarker) : AttributeValue :=
  -- A single value counts as a list only if the marker says so.
  if marker.collection || 1 < marker.value.length then .list marker.value
  else .single (marker.value.headD "")

namespace Model

/-- The name and value that an element declares as an attribute. -/
def attribute? (model : Model) (position : Nat) : Option (String × AttributeValue) :=
  match model.elements[position]? with
  | none => none
  | some element =>
    match element.marker? .attribute with
    | some (.attribute marker) =>
      -- A marker without a name is for the name of its element.
      some (marker.nameOverride.getD element.simpleName, marker.attributeValue)
    | _ => none

/-- The attributes of a type: each declaration on the walk replaces one of the same name before
it. -/
def attributes (model : Model) (root : Nat) : AttributeMap :=
  -- The walk visits the most derived declaration last.
  ((model.visits .attribute root).filterMap model.attribute?).foldl
    (fun map entry => map.insert entry.1 entry.2) []

end Model

end RuleMetadata

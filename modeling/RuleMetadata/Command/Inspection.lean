import RuleMetadata.Artifact.Assembly
import RuleMetadata.Json.Basic

/-! What is extracted for one type, as JSON. -/

namespace RuleMetadata

/-- An entry of an object, if there is a text for it. -/
private def optionalText (key : String) (text : Option String) : List (String × Json) :=
  (text.map fun value => (key, Json.text value)).toList

/-- An attribute's value as JSON: a text or a list of texts. -/
def AttributeValue.toJson : AttributeValue → Json
  | .single value => .text value
  | .list values => .ofTexts values

/-- Attributes as an object. -/
def AttributeMap.toJson (map : AttributeMap) : Json :=
  -- The names are distinct, so that no entry hides another one.
  .object (map.map fun (name, value) => (name, value.toJson))

/-- An argument as an object; what is absent has no entry. -/
def Argument.toJson (argument : Argument) : Json :=
  .object (
    [("name", .text argument.name), ("type", .text argument.type),
      ("multiValued", .boolean argument.multiValued), ("required", .boolean argument.required)] ++
    optionalText "description" argument.description ++ optionalText "prompt" argument.prompt)

/-- A signature as an object; what is absent has no entry. -/
def Signature.toJson (signature : Signature) : Json :=
  .object (
    [("arguments", .array (signature.arguments.map Argument.toJson)),
      ("returns", .array (signature.returns.map Argument.toJson))] ++
    optionalText "returnType" signature.returnType)

/-- What is extracted for the type at a position. -/
def Extraction.inspection [Monad m] (extraction : Extraction m) (position : Nat)
    (element : Element) : m Json := do
  let (signature, notes) ←
    extraction.model.signature extraction.containers extraction.describe position
  -- As in a rule, the type itself is described behind its arguments.
  let description ← extraction.describe position
  return .object [
    ("type", .text element.qualifiedName),
    ("markers", .ofTexts (element.markers.map (·.kind.label))),
    ("description", .ofText? description),
    ("attributes", (extraction.model.attributes position).toJson),
    ("signature", signature.toJson),
    ("notes", .ofTexts (notes.map (·.message)))]

end RuleMetadata

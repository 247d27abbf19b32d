import RuleMetadata.Artifact.Basic

/-! Assembling artifacts from the types of a model. -/

namespace RuleMetadata

/-- The language that every rule is implemented in. -/
def implementationLanguage : String := "java"

/-- A problem that does not keep an artifact from being written. -/
inductive Warning where
  | ambiguousRuleType (object kept : String) (discarded : List String)
  | returnTypeReplaced (object : String) (note : ReturnTypeNote)
  deriving DecidableEq, Repr

/-- The wording of a note on a replaced return type. -/
def ReturnTypeNote.message (note : ReturnTypeNote) : String :=
  s!"`{note.element}` replaces return type `{note.previous}` with `{note.current}`"

/-- The wording of a warning. -/
def Warning.message : Warning → String
  | .ambiguousRuleType object kept discarded =>
    s!"rule `{object}` declares several types; using `{kept}`, ignoring " ++
      ", ".intercalate discarded
  -- The note has a wording of its own, which does not name the rule.
  | .returnTypeReplaced object note => s!"rule `{object}`: " ++ note.message

/-- An object name that cannot be the name of a file. -/
structure InvalidObjectName where
  object : String
  element : String
  deriving DecidableEq, Repr

/-- The wording of an invalid object name. -/
def InvalidObjectName.message (invalid : InvalidObjectName) : String :=
  s!"cannot use `{invalid.object}` (from `{invalid.element}`) as an artifact name"

/-- What artifacts are assembled from: a model, and a way to find the descriptions of its elements,
which may have a state of its own. -/
structure Extraction (m : Type → Type := Id) where
  model : Model
  containers : List String
  describe : Nat → m (Option String)

namespace Extraction

/-- The object name of an element, which must be a plain segment of a path. -/
def objectName (element : Element) (override : Option String) : Except InvalidObjectName String :=
  -- A name that is given by the marker is checked as well.
  let name := override.getD element.simpleName
  if Text.isPlainSegment name then .ok name else .error ⟨name, element.qualifiedName⟩

/-- The warning of a rule with more types than one: only the first is used. -/
def typeWarnings (name : String) : List String → List Warning
  -- One type, or none, is no reason for a warning.
  | kept :: other :: others => [.ambiguousRuleType name kept (other :: others)]
  | _ => []

variable [Monad m]

/-- The artifact of a rule with its warnings; under the implementation attribute it names the type
that it was assembled from. -/
def rule (extraction : Extraction m) (implementationAttribute : String) (position : Nat)
    (element : Element) (marker : RuleMarker) :
    m (Except InvalidObjectName (RuleArtifact × List Warning)) := do
  match objectName element marker.nameOverride with
  -- The name is checked first, so nothing is looked up for a rule without a usable one.
  | .error invalid => return .error invalid
  | .ok name =>
    let (signature, notes) ←
      extraction.model.signature extraction.containers extraction.describe position
    -- The rule itself is described behind its arguments.
    let description ← extraction.describe position
    return .ok (
      { name, signature, description
        type := marker.types.head?
        language := implementationLanguage
        -- The implementation attribute wins over a declared one of its name.
        attributes := (extraction.model.attributes position).insert implementationAttribute
          (.single element.qualifiedName) },
      typeWarnings name marker.types ++ notes.map (.returnTypeReplaced name))

/-- The artifact of a named object. -/
def namedObject (extraction : Extraction m) (position : Nat) (element : Element)
    (marker : NamedObjectMarker) : m (Except InvalidObjectName NamedObjectArtifact) := do
  match objectName element marker.nameOverride with
  | .error invalid => return .error invalid
  | .ok name =>
    -- A named object shows no arguments, so that only its own description is looked up.
    let description ← extraction.describe position
    return .ok { name, description, attributes := extraction.model.attributes position }

end Extraction

end RuleMetadata

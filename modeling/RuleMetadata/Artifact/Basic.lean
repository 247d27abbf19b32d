import RuleMetadata.Attributes
import RuleMetadata.Signature

/-! Artifacts: the metadata of a rule or of a named object. -/

namespace RuleMetadata

/-- The metadata of a rule. -/
structure RuleArtifact where
  name : String
  type : Option String := none
  language : String
  description : Option String := none
  attributes : AttributeMap := []
  signature : Signature := {}
  deriving DecidableEq, Repr

/-- The metadata of a named object. -/
structure NamedObjectArtifact where
  name : String
  description : Option String := none
  attributes : AttributeMap := []
  deriving DecidableEq, Repr

/-- The metadata that one document holds. -/
inductive Artifact where
  | rule (artifact : RuleArtifact)
  | namedObject (artifact : NamedObjectArtifact)
  deriving DecidableEq, Repr

/-- The kinds of artifact. -/
inductive ArtifactKind where
  | rule
  | namedObject
  deriving DecidableEq, Repr

/-- The words for a kind in listings. -/
def ArtifactKind.label : ArtifactKind → String
  | .rule => "rule"
  | .namedObject => "named object"

namespace Artifact

/-- The object that an artifact describes. -/
def name : Artifact → String
  | .rule artifact => artifact.name
  | .namedObject artifact => artifact.name

/-- The kind of an artifact. -/
def kind : Artifact → ArtifactKind
  | .rule _ => .rule
  | .namedObject _ => .namedObject

/-- Whether two artifacts agree but for the order of their attributes. -/
def sameAs : Artifact → Artifact → Bool
  -- All that is left besides the attributes is compared as it is.
  | .rule left, .rule right =>
    left.attributes.sameAs right.attributes &&
      decide ({ left with attributes := [] } = { right with attributes := [] })
  | .namedObject left, .namedObject right =>
    left.attributes.sameAs right.attributes &&
      decide ({ left with attributes := [] } = { right with attributes := [] })
  | _, _ => false

end Artifact

end RuleMetadata

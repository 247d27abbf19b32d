import RuleMetadata.Artifact.Assembly
import RuleMetadata.Proofs.Attributes
import RuleMetadata.Proofs.State

/-! What holds of every artifact that is assembled from a model. -/

namespace RuleMetadata

namespace Artifact

/-- The attributes of an artifact. -/
def attributes : Artifact → AttributeMap
  | .rule artifact => artifact.attributes
  | .namedObject artifact => artifact.attributes

/-- An artifact with its attributes merged. -/
def merged : Artifact → Artifact
  | .rule artifact => .rule { artifact with attributes := artifact.attributes.merged }
  | .namedObject artifact => .namedObject { artifact with attributes := artifact.attributes.merged }

/-- An artifact with distinct attributes is merged already. -/
theorem merged_eq (artifact : Artifact) (distinct : artifact.attributes.IsDistinct) :
    artifact.merged = artifact := by
  -- Merging changes nothing but the attributes of either kind.
  cases artifact with
  | rule rule =>
    have same : rule.attributes.merged = rule.attributes :=
      AttributeMap.IsDistinct.merged_eq distinct
    rw [merged, same]
  | namedObject object =>
    have same : object.attributes.merged = object.attributes :=
      AttributeMap.IsDistinct.merged_eq distinct
    rw [merged, same]

end Artifact

namespace Extraction

/-- An object name that is accepted is a plain segment of a path. -/
theorem isPlainSegment_of_objectName {element : Element} {override : Option String} {name : String}
    (accepted : objectName element override = .ok name) : Text.isPlainSegment name := by
  -- A name is refused unless it is plain.
  simp only [objectName] at accepted
  split at accepted
  · rename_i plain
    cases accepted
    exact plain
  · cases accepted

section Runs

variable {σ : Type} (extraction : Extraction (StateM σ)) (implementationAttribute : String)
  (position : Nat) {element : Element} {name : String} {invalid : InvalidObjectName}

/-- A rule of a usable name is assembled from the signature of its type, and from the description
that is found behind those of the signature. -/
theorem rule_run {marker : RuleMarker} (named : objectName element marker.nameOverride = .ok name)
    (state : σ) :
    let signed := (extraction.model.signature extraction.containers extraction.describe
      position).run state
    let described := (extraction.describe position).run signed.2
    (extraction.rule implementationAttribute position element marker).run state =
      (.ok ({
          name, signature := signed.1.1, type := marker.types.head?
          language := implementationLanguage, description := described.1
          attributes := (extraction.model.attributes position).insert implementationAttribute
            (.single element.qualifiedName) },
        typeWarnings name marker.types ++ signed.1.2.map (.returnTypeReplaced name)),
        described.2) := by
  -- Behind the name, every step is carried out from where the one before it has ended.
  rw [rule, named]
  rfl

/-- A rule without a usable name is refused, and nothing is looked up for it. -/
theorem rule_run_of_refused {marker : RuleMarker}
    (refused : objectName element marker.nameOverride = .error invalid) (state : σ) :
    (extraction.rule implementationAttribute position element marker).run state =
      (.error invalid, state) := by
  -- The name is asked for before anything else.
  rw [rule, refused]
  rfl

/-- A named object of a usable name is assembled from the description that is found for it. -/
theorem namedObject_run {marker : NamedObjectMarker}
    (named : objectName element marker.nameOverride = .ok name) (state : σ) :
    let described := (extraction.describe position).run state
    (extraction.namedObject position element marker).run state =
      (.ok {
          name, description := described.1, attributes := extraction.model.attributes position },
        described.2) := by
  -- Behind its name, a named object needs its own description alone.
  rw [namedObject, named]
  rfl

/-- A named object without a usable name is refused, and nothing is looked up for it. -/
theorem namedObject_run_of_refused {marker : NamedObjectMarker}
    (refused : objectName element marker.nameOverride = .error invalid) (state : σ) :
    (extraction.namedObject position element marker).run state = (.error invalid, state) := by
  -- The name is asked for before anything else.
  rw [namedObject, refused]
  rfl

end Runs

/-! ### Descriptions that are known -/

/-- An extraction with known descriptions in place of those that it would look up. -/
def withTexts {m : Type → Type} (extraction : Extraction m) (texts : Descriptions) : Extraction :=
  { extraction with describe := texts }

/-- Whether looking up the descriptions that the artifact of a type shows finds some texts in a
state and leaves the state alone. -/
def Shows {σ : Type} (extraction : Extraction (StateM σ)) (texts : Descriptions) (root : Nat)
    (state : σ) : Prop :=
  -- An artifact shows what its arguments are described by, and its own description.
  ∀ position ∈ extraction.model.visits .argument root ++ [root],
    (extraction.describe position).run state = (texts position, state)

section Shows

variable {σ : Type} {extraction : Extraction (StateM σ)} {texts : Descriptions} {position : Nat}
  {state : σ} (shows : extraction.Shows texts position state)
include shows

/-- A signature is the one of the texts that are found. -/
theorem Shows.signature_run : (extraction.model.signature extraction.containers
    extraction.describe position).run state =
      (extraction.model.signature extraction.containers (extraction.withTexts texts).describe
        position, state) := by
  -- Each visit finds its text, and the next one finds the state as it was.
  have visited : ((extraction.model.visits .argument position).mapM extraction.describe).run
      state = ((extraction.model.visits .argument position).map texts, state) :=
    run_mapM_of_ended fun place inside => shows place (List.mem_append_left _ inside)
  have known : (extraction.model.visits .argument position).map texts =
      (extraction.model.visits .argument position).mapM (extraction.withTexts texts).describe :=
    List.idRun_mapM.symm
  rw [Model.signature, Model.argumentVisits, bind_assoc, run_bind_of_ended visited, known]
  rfl

/-- A rule is the one of the texts that are found. -/
theorem Shows.rule_run (implementationAttribute : String) (element : Element)
    (marker : RuleMarker) :
    (extraction.rule implementationAttribute position element marker).run state =
      ((extraction.withTexts texts).rule implementationAttribute position element marker,
        state) := by
  have own := shows position (List.mem_append_right _ (List.mem_singleton_self _))
  cases named : objectName element marker.nameOverride with
  | error invalid =>
    rw [rule_run_of_refused extraction _ _ named, rule, named]
    rfl
  | ok name =>
    -- The own description is looked up in the state that the signature has left alone.
    rw [Extraction.rule_run extraction _ _ named, shows.signature_run, own, rule, named]
    rfl

/-- A named object is the one of the text that is found. -/
theorem Shows.namedObject_run (element : Element) (marker : NamedObjectMarker) :
    (extraction.namedObject position element marker).run state =
      ((extraction.withTexts texts).namedObject position element marker, state) := by
  have own := shows position (List.mem_append_right _ (List.mem_singleton_self _))
  -- The own description is looked for only once the name is accepted.
  cases named : objectName element marker.nameOverride with
  | error invalid =>
    rw [namedObject_run_of_refused extraction _ named, namedObject, named]
    rfl
  | ok name =>
    rw [Extraction.namedObject_run extraction _ named, own, namedObject, named]
    rfl

end Shows

variable {σ : Type} {extraction : Extraction (StateM σ)} {position : Nat} {element : Element}
  {state : σ}

/-- A rule has the name that was accepted for its type. -/
theorem objectName_of_rule {implementationAttribute : String} {marker : RuleMarker}
    {artifact : RuleArtifact} {warnings : List Warning}
    (assembled : ((extraction.rule implementationAttribute position element marker).run state).1 =
      .ok (artifact, warnings)) : objectName element marker.nameOverride = .ok artifact.name := by
  -- A refused name would have been the end of it.
  cases named : objectName element marker.nameOverride with
  | error invalid =>
    rw [rule_run_of_refused extraction _ _ named] at assembled
    cases assembled
  | ok name =>
    rw [rule_run extraction _ _ named] at assembled
    cases assembled
    rfl

/-- A named object has the name that was accepted for its type. -/
theorem objectName_of_namedObject {marker : NamedObjectMarker} {artifact : NamedObjectArtifact}
    (assembled : ((extraction.namedObject position element marker).run state).1 = .ok artifact) :
    objectName element marker.nameOverride = .ok artifact.name := by
  -- A refused name would have been the end of it.
  cases named : objectName element marker.nameOverride with
  | error invalid =>
    rw [namedObject_run_of_refused extraction _ named] at assembled
    cases assembled
  | ok name =>
    rw [namedObject_run extraction _ named] at assembled
    cases assembled
    rfl

/-- The name of a rule is plain, its attributes are distinct, and the implementation attribute
names its type, even if the type itself declares an attribute of that name. -/
theorem of_rule_eq_ok {implementationAttribute : String} {marker : RuleMarker}
    {artifact : RuleArtifact} {warnings : List Warning}
    (assembled : ((extraction.rule implementationAttribute position element marker).run state).1 =
      .ok (artifact, warnings)) :
    Text.isPlainSegment artifact.name ∧ artifact.attributes.IsDistinct ∧
      artifact.attributes.get? implementationAttribute = some (.single element.qualifiedName) := by
  cases named : objectName element marker.nameOverride with
  | error invalid =>
    rw [rule_run_of_refused extraction _ _ named] at assembled
    cases assembled
  | ok name =>
    -- The implementation attribute is inserted last, and so replaces a declared one.
    rw [rule_run extraction _ _ named] at assembled
    cases assembled
    exact ⟨isPlainSegment_of_objectName named,
      (extraction.model.isDistinct_attributes position).insert _ _,
      AttributeMap.get?_insert_self _ _ _⟩

/-- The name of a named object is plain, and its attributes are distinct. -/
theorem of_namedObject_eq_ok {marker : NamedObjectMarker} {artifact : NamedObjectArtifact}
    (assembled : ((extraction.namedObject position element marker).run state).1 = .ok artifact) :
    Text.isPlainSegment artifact.name ∧ artifact.attributes.IsDistinct := by
  cases named : objectName element marker.nameOverride with
  | error invalid =>
    rw [namedObject_run_of_refused extraction _ named] at assembled
    cases assembled
  | ok name =>
    -- The attributes are taken from the model as they are.
    rw [namedObject_run extraction _ named] at assembled
    cases assembled
    exact ⟨isPlainSegment_of_objectName named, extraction.model.isDistinct_attributes position⟩

end Extraction

end RuleMetadata

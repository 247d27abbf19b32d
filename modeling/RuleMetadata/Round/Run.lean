import RuleMetadata.Options.Basic
import RuleMetadata.Round.Writing

/-! Rounds: descriptions are kept first, then each marked top-level type of the sources gets its
artifacts. The work of a round is a list of tasks that the model and the options determine. -/

namespace RuleMetadata

/-- What a task does with its element. -/
inductive Job where
  | keepDescription
  -- The marker is the one that called for the artifact.
  | emitRule (marker : RuleMarker)
  | emitNamedObject (marker : NamedObjectMarker)
  deriving DecidableEq, Repr

/-- The kind of artifact that a job makes. -/
def Job.artifactKind? : Job → Option ArtifactKind
  | .keepDescription => none
  | .emitRule _ => some .rule
  | .emitNamedObject _ => some .namedObject

/-- One step of a round: a job on one element. -/
structure Task where
  position : Nat
  element : Element
  job : Job
  deriving DecidableEq, Repr

/-- What a task that succeeds adds to the report. -/
inductive TaskResult where
  | description (saved : Bool)
  | artifact (emission : Emission)
  deriving DecidableEq, Repr

/-- The report with the result of one more task. -/
def Report.add (report : Report) : TaskResult → Report
  | .description true => { report with descriptionsSaved := report.descriptionsSaved + 1 }
  -- An element without live documentation is not counted.
  | .description false => report
  | .artifact emission => { report with emitted := report.emitted ++ [emission] }

/-- What a round works on. -/
structure Round (m : Type → Type) where
  model : Model
  options : BuildOptions
  system : FileSystem m
  descriptions : DescriptionCache m
  format : DocumentFormat := .xml

namespace Round

/-- Whether the description of an element is kept: it is marked and comes from the sources. -/
def keepsDescription (element : Element) : Bool :=
  element.origin = .source && !element.markers.isEmpty

/-- Whether an element may get artifacts: it is a top-level type of the sources. -/
def emitsArtifacts (element : Element) : Bool :=
  element.origin = .source && element.owner.isNone

/-- The tasks that keep descriptions. -/
def descriptionTasks (model : Model) (options : BuildOptions) : List Task :=
  -- Members count as well as types here, since arguments have descriptions of their own.
  if options.skipDescriptions then []
  else (model.positions keepsDescription).filterMap fun position =>
    model.elements[position]?.map fun element => ⟨position, element, .keepDescription⟩

/-- The artifacts that an element calls for: the one of its first rule marker, then the one of its
first named-object marker. -/
def artifactJobs (options : BuildOptions) (element : Element) : List Job :=
  -- Skipping one kind of artifact does not keep the other one from being written.
  (match element.marker? .rule with
    | some (.rule marker) => if options.skipRules then [] else [.emitRule marker]
    | _ => []) ++
  (match element.marker? .namedObject with
    | some (.namedObject marker) =>
      if options.skipNamedObjects then [] else [.emitNamedObject marker]
    | _ => [])

/-- The tasks that write artifacts. -/
def artifactTasks (model : Model) (options : BuildOptions) : List Task :=
  -- One type may call for artifacts of both kinds.
  (model.positions emitsArtifacts).flatMap fun position =>
    match model.elements[position]? with
    | some element => (artifactJobs options element).map fun job => ⟨position, element, job⟩
    | none => []

/-- The tasks of a round in order. -/
def tasks (model : Model) (options : BuildOptions) : List Task :=
  -- All descriptions are kept before any artifact shows one.
  descriptionTasks model options ++ artifactTasks model options

/-- The directory of named-object documents. -/
def namedObjectsDirectory (options : BuildOptions) : String :=
  Path.join options.namedObjectsRoot namedObjectDirectory

variable [Monad m]

/-- What the artifacts of a round are assembled from. -/
def extraction (round : Round m) : Extraction m :=
  { model := round.model
    containers := containersWith round.options.containerTypes
    describe := round.descriptions.readAt round.model }

/-- Assembles the artifact of a rule and writes it. -/
def emitRule (round : Round m) (position : Nat) (element : Element) (marker : RuleMarker) :
    m (Except EmitError Emission) := do
  match ← round.extraction.rule round.options.implementationAttribute position element marker with
  -- An unusable name is found before anything is written.
  | .error invalid => return .error (.invalidName invalid)
  | .ok (artifact, warnings) =>
    let written ←
      writeArtifact round.system round.format (.rule artifact) round.options.rulesRoot
    return written.map fun path => { kind := .rule, object := artifact.name, path, warnings }

/-- Assembles the artifact of a named object and writes it. -/
def emitNamedObject (round : Round m) (position : Nat) (element : Element)
    (marker : NamedObjectMarker) : m (Except EmitError Emission) := do
  match ← round.extraction.namedObject position element marker with
  -- An unusable name is found before anything is written.
  | .error invalid => return .error (.invalidName invalid)
  | .ok artifact =>
    let written ← writeArtifact round.system round.format (.namedObject artifact)
      (namedObjectsDirectory round.options)
    return written.map fun path => { kind := .namedObject, object := artifact.name, path }

/-- Carries out one task. -/
def perform (round : Round m) (task : Task) : m (Except EmitError TaskResult) := do
  match task.job with
  -- Without live documentation nothing is saved, and that is no failure.
  | .keepDescription =>
    let saved ← round.descriptions.save task.element
    return (saved.map .description).mapError .description
  | .emitRule marker =>
    return (← round.emitRule task.position task.element marker).map .artifact
  | .emitNamedObject marker =>
    return (← round.emitNamedObject task.position task.element marker).map .artifact

/-- The failure of a task. -/
def failure (task : Task) (error : EmitError) : Failure :=
  ⟨task.element.qualifiedName, task.job.artifactKind?, error⟩

/-- Carries out tasks in order and reports on them. A failure either ends the round or is recorded
before the round goes on. -/
def performAll (round : Round m) (failFast : Bool) (report : Report) :
    List Task → m (Except Halt Report)
  | [] => pure (.ok report)
  | task :: rest => do
    match ← round.perform task with
    | .ok result => round.performAll failFast (report.add result) rest
    | .error error =>
      -- What was written before the failure stays.
      if failFast then return .error ⟨task.element.qualifiedName, error⟩
      else round.performAll failFast (report.addFailure (failure task error)) rest

/-- Carries out a round. -/
def run (round : Round m) : m (Except Halt Report) :=
  round.performAll round.options.failFast {} (tasks round.model round.options)

end Round

end RuleMetadata

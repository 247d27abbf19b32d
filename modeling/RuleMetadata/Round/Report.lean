import RuleMetadata.Artifact.Assembly
import RuleMetadata.Description.Cache

/-! What a round reports: artifacts that were written, and elements that could not be processed. -/

namespace RuleMetadata

/-- Why an element could not be processed. -/
inductive EmitError where
  | invalidName (invalid : InvalidObjectName)
  | notRendered (object reason : String)
  | notWritten (object path : String) (cause : FileError)
  | description (error : DescriptionError)
  deriving DecidableEq, Repr

/-- The wording of a format's refusal to render an artifact. -/
def renderMessage (reason : String) : String :=
  "failed to serialize document: " ++ reason

/-- The wording of an emission error. -/
def EmitError.message : EmitError → String
  | .invalidName invalid => invalid.message
  | .notRendered object reason => s!"failed to render artifact `{object}`: " ++ renderMessage reason
  -- The cause comes last, as the file system words it.
  | .notWritten object path cause =>
    s!"failed to write artifact `{object}` to {path}: " ++ cause.message
  | .description error => error.message

/-- An artifact that was written. -/
structure Emission where
  kind : ArtifactKind
  object : String
  path : String
  warnings : List Warning := []
  deriving DecidableEq, Repr

/-- An element that could not be processed; without a kind, its description could not be kept. -/
structure Failure where
  element : String
  kind : Option ArtifactKind
  error : EmitError
  deriving DecidableEq, Repr

/-- What a round has done. -/
structure Report where
  descriptionsSaved : Nat := 0
  emitted : List Emission := []
  failures : List Failure := []
  deriving DecidableEq, Repr

namespace Report

/-- Whether nothing failed. -/
def isSuccess (report : Report) : Bool :=
  report.failures.isEmpty

/-- The report with one more failure. -/
def addFailure (report : Report) (failure : Failure) : Report :=
  { report with failures := report.failures ++ [failure] }

end Report

/-- The end of a round at its first failure. -/
structure Halt where
  element : String
  error : EmitError
  deriving DecidableEq, Repr

/-- The wording of the end of a round. -/
def Halt.message (halt : Halt) : String :=
  s!"build round halted at `{halt.element}`: " ++ halt.error.message

end RuleMetadata

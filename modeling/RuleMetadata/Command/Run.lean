import RuleMetadata.Command.Documents
import RuleMetadata.Command.Inspection
import RuleMetadata.Json.Printer
import RuleMetadata.Options.Document
import RuleMetadata.Round.Run

/-! Carrying out what a command line asks for, on whatever files there are. -/

namespace RuleMetadata.Command

/-- How a command ends: its exit code and what it prints. -/
structure Outcome where
  exit : Nat := 0
  output : String := ""
  errors : String := ""
  deriving DecidableEq, Repr

/-- The name of the program with its version. -/
def versionLine : String := "metagen 0.1.0\n"

/-- How the program is used. -/
def usage : String :=
  "Usage: metagen [OPTIONS] <COMMAND>\n\nCommands:\n" ++
  "  generate  run one build round and write metadata documents\n" ++
  "  inspect   print the signature, attributes and description extracted for one type\n" ++
  "  help      Print this message or the help of the given subcommand(s)\n"

/-- The outcome of a command line that is not carried out. -/
def Stop.outcome : Stop → Outcome
  | .help => { output := usage }
  | .version => { output := versionLine }
  | .misuse => { exit := 2, errors := usage }

/-- The outcome of a problem behind what was printed before. -/
def Problem.outcome (problem : Problem) (output errors : String) : Outcome :=
  ⟨1, output, errors ++ problem.render⟩

/-- Lines one below the other. -/
private def lines (texts : List String) : String :=
  String.join (texts.map (· ++ "\n"))

/-- The lines on an artifact that was written. -/
def emissionLines (emission : Emission) : List String :=
  s!"✔ {emission.kind.label} {emission.object} → {emission.path}" ::
    emission.warnings.map fun warning => "  warning: " ++ warning.message

/-- The line on an element that could not be processed. -/
def failureLine (failure : Failure) : String :=
  let kind := match failure.kind with
    | some kind => kind.label
    | none => "description"
  s!"✘ {kind} for {failure.element}: " ++ failure.error.message

/-- The line that counts what a round has done. -/
def tally (report : Report) : String :=
  s!"{report.emitted.length} written, {report.failures.length} failed, " ++
    s!"{report.descriptionsSaved} descriptions saved"

/-- The outcome of a round that ran to its end. -/
def reportOutcome (report : Report) : Outcome :=
  let output := report.emitted.flatMap emissionLines
  let errors := report.failures.map failureLine
  if report.isSuccess then { output := lines (output ++ [tally report]) }
  else
    let failed := report.failures.length
    -- Every artifact that failed counts, together with descriptions that could not be kept.
    let problem : Problem :=
      { message := s!"{failed} of {failed + report.emitted.length} artifacts failed" }
    problem.outcome (lines output) (lines (errors ++ [tally report]))

variable [Monad m] (system : FileSystem m)

/-- The options of a command: those of its file or the defaults, then those on the command line. -/
def resolveOptions (overrides : Overrides) : ExceptT Problem m BuildOptions := do
  let options ← match overrides.config with
    | none => pure {}
    | some path =>
      match ← (system.readText path : m (Except FileError String)) with
      | .error error => throw (.ofFile s!"failed to read config file {path}" error)
      | .ok text =>
        match BuildOptions.ofText text with
        | .ok options => pure options
        | .error refusal =>
          throw { message := s!"failed to parse config file {path}: " ++ refusal.message }
  -- What is checked are the options as they take effect, wherever they come from.
  let options := overrides.apply options
  match options.validate with
  | .ok () => return options
  | .error invalid => throw { message := invalid.message }

/-- The descriptions that a command works with, in files. -/
def descriptionFiles (options : BuildOptions) : DescriptionCache m :=
  -- Without an input root of their own, the two stores are one.
  .ofStores (.inFiles system options.descriptionOutput) (.inFiles system options.descriptionInput)

/-- The round that a command runs: its documents and its descriptions are in files. -/
def roundInFiles (model : Model) (options : BuildOptions) : Round m :=
  { model, options, system, descriptions := descriptionFiles system options }

/-- Runs a round. -/
def runRound (inputs : Inputs) (overrides : Overrides) : ExceptT Problem m Outcome := do
  let options ← resolveOptions system overrides
  let model ← loadModel system inputs
  -- A round that halts has no report, and a problem instead.
  match ← ((roundInFiles system model options).run : m (Except Halt Report)) with
  | .ok report => return reportOutcome report
  | .error halt => throw (.ofHalt halt)

/-- Shows what is extracted for a type. -/
def runInspection (inputs : Inputs) (overrides : Overrides) (type : String) :
    ExceptT Problem m Outcome := do
  let options ← resolveOptions system overrides
  let model ← loadModel system inputs
  -- Only types can be inspected, since only they are looked up by name.
  let found := (model.lookup? type).bind fun position =>
    model.elements[position]?.map fun element => (position, element)
  match found with
  | none => throw { message := s!"type `{type}` is not in the model" }
  | some (position, element) =>
    let extraction : Extraction m :=
      { model, containers := containersWith options.containerTypes
        describe := (descriptionFiles system options).readAt model }
    let inspection ← (extraction.inspection position element : m Json)
    return { output := Json.pretty 0 inspection ++ "\n" }

/-- Carries out what a command line asks for. -/
def Invocation.run : Invocation → ExceptT Problem m Outcome
  | .generate inputs overrides => runRound system inputs overrides
  | .noOperation => pure {}
  | .inspect inputs overrides type => runInspection system inputs overrides type

/-- Carries out a command line. -/
def run (words : List String) : m Outcome := do
  match Invocation.ofWords words with
  -- Nothing is read or written for a command line that is not carried out.
  | .error stop => return stop.outcome
  | .ok invocation =>
    match ← invocation.run system with
    | .ok outcome => return outcome
    | .error problem => return problem.outcome "" ""

end RuleMetadata.Command

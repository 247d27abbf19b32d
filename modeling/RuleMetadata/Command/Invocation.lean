import RuleMetadata.Command.Arguments
import RuleMetadata.Options.Basic

/-! What a command line asks for. -/

namespace RuleMetadata.Command

/-- Where the model documents of a command are, and how they are selected. -/
structure Inputs where
  /-- A JSON pointer to the part of each document that counts. -/
  pointer : Option String := none
  /-- A filter, each of whose outputs is a document. -/
  filter : Option String := none
  sources : List String
  classpath : List String := []
  deriving DecidableEq, Repr

/-- Options that are given on the command line. -/
structure Overrides where
  /-- A file with options. -/
  config : Option String := none
  rulesOutput : Option String := none
  namedObjectsOutput : Option String := none
  resourceOutput : Option String := none
  resourceInput : Option String := none
  descriptionDir : Option String := none
  implementationAttribute : Option String := none
  containerTypes : List String := []
  skipRules : Bool := false
  skipNamedObjects : Bool := false
  skipDescriptions : Bool := false
  failFast : Bool := false
  deriving DecidableEq, Repr

/-- What a command line asks for. -/
inductive Invocation where
  /-- A round. -/
  | generate (inputs : Inputs) (overrides : Overrides)
  /-- Nothing, once the command line has been read. -/
  | noOperation
  /-- What is extracted for one type. -/
  | inspect (inputs : Inputs) (overrides : Overrides) (type : String)
  deriving DecidableEq, Repr

/-- Options on what is logged, which every command takes. -/
def logShapes : List OptionShape :=
  [ { name := "verbose", letter := some 'v' },
    { name := "quiet", letter := some 'q' } ]

/-- The options in front of the command. -/
def programShapes : List OptionShape :=
  logShapes ++ [.help, .version]

/-- The options that both commands take. -/
def commonShapes : List OptionShape :=
  logShapes ++
  -- Only what may not be empty is checked here, and the options themselves later on.
  [ { name := "json-pointer", arity := .one },
    { name := "jq-expr", arity := .one },
    { name := "input", letter := some 'i', arity := .several, repeatable := true },
    { name := "classpath", arity := .several, repeatable := true },
    { name := "config", arity := .one, acceptsEmpty := false },
    { name := "rules-out", arity := .one, acceptsEmpty := false },
    { name := "named-objects-out", arity := .one, acceptsEmpty := false },
    { name := "resource-out", arity := .one, acceptsEmpty := false },
    { name := "resource-in", arity := .one, acceptsEmpty := false },
    { name := "description-dir", arity := .one },
    { name := "implementation-attribute", arity := .one },
    { name := "container-type", arity := .one, repeatable := true },
    { name := "skip-rules" },
    { name := "skip-named-objects" },
    { name := "skip-descriptions" },
    { name := "fail-fast" },
    .help ]

/-- The options of a round. -/
def generateShapes : List OptionShape :=
  commonShapes ++ [{ name := "no-op" }]

/-- The options of an inspection. -/
def inspectShapes : List OptionShape :=
  commonShapes ++ [{ name := "type", arity := .one }]

/-- Rejects options that exclude each other. -/
def checkConflicts (reading : Reading) : Except Stop Unit :=
  if reading.has "verbose" && reading.has "quiet" then .error .misuse else .ok ()

/-- The inputs that are given; there must be a source. -/
def Inputs.ofReading (reading : Reading) : Except Stop Inputs :=
  if reading.has "input" then
    -- The classpath may be empty, and so may be the way into a document.
    .ok {
      pointer := reading.value? "json-pointer"
      filter := reading.value? "jq-expr"
      sources := reading.values "input"
      classpath := reading.values "classpath" }
  else .error .misuse

/-- The options that are given. -/
def Overrides.ofReading (reading : Reading) : Overrides where
  config := reading.value? "config"
  rulesOutput := reading.value? "rules-out"
  namedObjectsOutput := reading.value? "named-objects-out"
  resourceOutput := reading.value? "resource-out"
  resourceInput := reading.value? "resource-in"
  descriptionDir := reading.value? "description-dir"
  implementationAttribute := reading.value? "implementation-attribute"
  containerTypes := reading.values "container-type"
  -- Flags can only be set on the command line, not taken back.
  skipRules := reading.has "skip-rules"
  skipNamedObjects := reading.has "skip-named-objects"
  skipDescriptions := reading.has "skip-descriptions"
  failFast := reading.has "fail-fast"

/-- Reads the options of a command; no word may be left over. -/
def readCommand (shapes : List OptionShape) (words : List String) : Except Stop Reading := do
  let reading ← readOptions shapes {} words
  if !reading.rest.isEmpty then throw .misuse
  checkConflicts reading
  return reading

/-- Reads a command line. -/
def Invocation.ofWords (words : List String) : Except Stop Invocation := do
  let program ← readOptions programShapes {} words
  match program.rest with
  | "generate" :: rest =>
    -- What is wrong behind the command counts before a conflict in front of it.
    let reading ← readCommand generateShapes rest
    let inputs ← Inputs.ofReading reading
    checkConflicts program
    return if reading.has "no-op" then .noOperation
      else .generate inputs (.ofReading reading)
  | "inspect" :: rest =>
    let reading ← readCommand inspectShapes rest
    let inputs ← Inputs.ofReading reading
    checkConflicts program
    match reading.value? "type" with
    | some type => return .inspect inputs (.ofReading reading) type
    | none => throw .misuse
  | "help" :: rest =>
    match rest with
    -- The help of a command is known for these three commands alone.
    | [] => throw .help
    | ["generate"] => throw .help
    | ["inspect"] => throw .help
    | ["help"] => throw .help
    | _ => throw .misuse
  | _ => throw .misuse

namespace Overrides

/-- The options with those in place that are given on the command line. A list is extended, and a
flag stays set. -/
def apply (overrides : Overrides) (options : BuildOptions) : BuildOptions where
  rulesOutput := overrides.rulesOutput <|> options.rulesOutput
  namedObjectsOutput := overrides.namedObjectsOutput <|> options.namedObjectsOutput
  resourceOutput := overrides.resourceOutput.getD options.resourceOutput
  resourceInput := overrides.resourceInput <|> options.resourceInput
  descriptionDir := overrides.descriptionDir.getD options.descriptionDir
  implementationAttribute :=
    overrides.implementationAttribute.getD options.implementationAttribute
  -- The names on the command line come behind those of the file.
  containerTypes := options.containerTypes ++ overrides.containerTypes
  skipRules := options.skipRules || overrides.skipRules
  skipNamedObjects := options.skipNamedObjects || overrides.skipNamedObjects
  skipDescriptions := options.skipDescriptions || overrides.skipDescriptions
  failFast := options.failFast || overrides.failFast

end Overrides

end RuleMetadata.Command

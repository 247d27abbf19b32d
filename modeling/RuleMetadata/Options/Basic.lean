import RuleMetadata.Files.Path

/-! The options of a round. -/

namespace RuleMetadata

/-- The directory below which artifacts are written by default. -/
def defaultArtifactRoot : String := "target/metadata"

/-- The directory of named objects below their root. -/
def namedObjectDirectory : String := "named-objects"

/-- The options of a round. -/
structure BuildOptions where
  /-- The root of rule documents. -/
  rulesOutput : Option String := none
  /-- The root of named-object documents, which have a directory of their own below it. -/
  namedObjectsOutput : Option String := none
  /-- The root under which descriptions are kept. -/
  resourceOutput : String := "target/generated-resources"
  /-- The root of the descriptions of earlier rounds, if it is another one. -/
  resourceInput : Option String := none
  /-- The directory of descriptions below either root. -/
  descriptionDir : String := "descriptions"
  /-- The attribute that names the type behind a rule. -/
  implementationAttribute : String := "implementation"
  /-- The names of further containers. -/
  containerTypes : List String := []
  skipRules : Bool := false
  skipNamedObjects : Bool := false
  skipDescriptions : Bool := false
  /-- Whether the first failure ends the round. -/
  failFast : Bool := false
  deriving DecidableEq, Repr

/-- What is wrong with the value of an option. -/
inductive OptionProblem where
  | emptyPath
  | notDirectoryName (value : String)
  | notAttributeKey (value : String)
  | notTypeName (value : String)
  deriving DecidableEq, Repr

/-- An option with a value that would fail a round. -/
structure InvalidOption where
  option : String
  problem : OptionProblem
  deriving DecidableEq, Repr

/-- The wording of a problem. -/
def OptionProblem.message : OptionProblem → String
  | .emptyPath => "path must not be empty"
  | .notDirectoryName value => s!"`{value}` is not a single plain directory name"
  | .notAttributeKey value => s!"`{value}` is not a valid attribute key"
  | .notTypeName value => s!"`{value}` is not a qualified type name"

/-- The wording of an invalid option. -/
def InvalidOption.message (invalid : InvalidOption) : String :=
  s!"invalid build option `{invalid.option}`: " ++ invalid.problem.message

/-- Letters, digits and the underscore, of ASCII alone. -/
def isWordChar (char : Char) : Bool :=
  char.isAlphanum || char == '_'

/-- A name of word characters, points and hyphens that begins with a word character. -/
def isDirectoryName (name : String) : Bool :=
  match name.toList with
  | [] => false
  | first :: rest =>
    -- A point may not come first, so that no name leads elsewhere.
    isWordChar first && rest.all fun char => isWordChar char || char == '.' || char == '-'

/-- A name of word characters and hyphens that begins with a letter or an underscore. -/
def isAttributeKey (name : String) : Bool :=
  match name.toList with
  | [] => false
  | first :: rest =>
    -- A hyphen or a digit may not come first.
    (first.isAlpha || first == '_') && rest.all fun char => isWordChar char || char == '-'

/-- A name of word characters and dollar signs that does not begin with a digit. -/
def isIdentifier (name : List Char) : Bool :=
  match name with
  | [] => false
  | first :: rest =>
    -- A digit may not come first.
    (first.isAlpha || first == '_' || first == '$') &&
      rest.all fun char => isWordChar char || char == '$'

/-- Identifiers joined by points. -/
def isTypeName (name : String) : Bool :=
  (Text.splitOn (· == '.') name.toList).all isIdentifier

namespace BuildOptions

/-- Rejects an empty path. -/
private def checkPath (option : String) (path : Option String) : Except InvalidOption Unit :=
  if path = some "" then .error ⟨option, .emptyPath⟩ else .ok ()

/-- Rejects options that would only fail in the middle of a round. -/
def validate (options : BuildOptions) : Except InvalidOption Unit := do
  -- The first invalid option is the one that is reported.
  checkPath "rulesOutput" options.rulesOutput
  checkPath "namedObjectsOutput" options.namedObjectsOutput
  checkPath "resourceOutput" (some options.resourceOutput)
  checkPath "resourceInput" options.resourceInput
  if !isDirectoryName options.descriptionDir then
    throw ⟨"descriptionDir", .notDirectoryName options.descriptionDir⟩
  if !isAttributeKey options.implementationAttribute then
    throw ⟨"implementationAttribute", .notAttributeKey options.implementationAttribute⟩
  match options.containerTypes.find? (!isTypeName ·) with
  | some bad => throw ⟨"containerTypes", .notTypeName bad⟩
  | none => return ()

/-- The root of rule documents. -/
def rulesRoot (options : BuildOptions) : String :=
  options.rulesOutput.getD defaultArtifactRoot

/-- The root of named-object documents. -/
def namedObjectsRoot (options : BuildOptions) : String :=
  options.namedObjectsOutput.getD defaultArtifactRoot

/-- The directory in which descriptions are kept. -/
def descriptionOutput (options : BuildOptions) : String :=
  Path.join options.resourceOutput options.descriptionDir

/-- The directory in which the descriptions of earlier rounds are. -/
def descriptionInput (options : BuildOptions) : String :=
  -- Earlier rounds kept their descriptions where this one does, unless another root is given.
  Path.join (options.resourceInput.getD options.resourceOutput) options.descriptionDir

end BuildOptions

end RuleMetadata

import RuleMetadata.Command.Invocation
import RuleMetadata.Command.Problem
import RuleMetadata.Declaration.Document
import RuleMetadata.Filter.Run
import RuleMetadata.Json.Pointer
import RuleMetadata.Json.Reader

/-! Loading model documents from the files that a command names. -/

namespace RuleMetadata.Command

variable [Monad m] (system : FileSystem m)

/-- The paths that names on the command line stand for: a pattern for the files that match it, of
which there must be one, and any other name for itself. -/
def expandPaths : List String → ExceptT Problem m (List String)
  | [] => pure []
  | name :: rest => do
    let paths ←
      if FilePattern.isPattern name then
        match FilePattern.ofText name with
        | .error error => throw { message := error.message }
        | .ok pattern => do
          let found ← (pattern.expand system : m (List String))
          -- A pattern that finds nothing is likely a mistake.
          if found.isEmpty then
            throw { message := "glob pattern matched no files: " ++ name }
          pure found
      else pure [name]
    return paths ++ (← expandPaths rest)

/-- The documents that a file's value holds: the part that a pointer selects, or the outputs of a
filter on that part. -/
def selectDocuments (inputs : Inputs) (path : String) (value : Json) :
    Except Problem (List Json) := do
  let failed (reason : String) : Problem :=
    { message := s!"pre-processing of {path} failed: " ++ reason }
  -- The pointer comes first, so the filter sees nothing but the selected part.
  let value ← match inputs.pointer with
    | none => pure value
    | some pointer =>
      match Json.Pointer.select? pointer value with
      | some part => pure part
      | none => throw (failed s!"JSON pointer `{pointer}` selects nothing")
  match inputs.filter with
  | none => return [value]
  | some filter =>
    match Filter.run filter value with
    | .ok documents => return documents
    | .error error => throw (failed error.message)

/-- The types that a file's text declares. -/
def readDeclarations (inputs : Inputs) (path text : String) :
    Except Problem (List TypeDeclaration) := do
  let malformed (reason : String) : Problem :=
    { message := s!"malformed model document {path}: " ++ reason }
  match Json.parse text with
  | .error fault => throw (malformed fault.message)
  | .ok value =>
    -- One file may hold several documents, once a filter has been applied.
    let documents ← selectDocuments inputs path value
    let declarations ← documents.mapM fun document =>
      (readDocument document).mapError fun refused => malformed refused.message
    return declarations.flatten

/-- The types that some files declare. -/
def loadFiles (inputs : Inputs) : List String → ExceptT Problem m (List TypeDeclaration)
  | [] => pure []
  | path :: rest => do
    match ← (system.readText path : m (Except FileError String)) with
    -- The first file that cannot be read ends the loading.
    | .error error => throw (.ofFile s!"failed to read model document {path}" error)
    | .ok text =>
      let declarations ← (readDeclarations inputs path text : Except Problem _)
      return declarations ++ (← loadFiles inputs rest)

/-- The types that named files declare; a problem tells what they were read for. -/
def loadDeclarations (inputs : Inputs) (names : List String) (purpose : String) :
    ExceptT Problem m (List TypeDeclaration) := do
  try
    loadFiles system inputs (← expandPaths system names)
  catch problem => throw (problem.under purpose)

/-- The model of the files that a command names. -/
def loadModel (inputs : Inputs) : ExceptT Problem m Model := do
  let sources ←
    loadDeclarations system inputs inputs.sources "failed to load source model documents"
  -- The classpath is read with the same pointer and filter as the sources.
  let classpath ←
    loadDeclarations system inputs inputs.classpath "failed to load classpath model documents"
  match Model.build sources classpath with
  | .ok model => return model
  | .error error => throw { message := error.message }

end RuleMetadata.Command

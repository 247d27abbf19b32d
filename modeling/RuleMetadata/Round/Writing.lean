import RuleMetadata.Artifact.Document
import RuleMetadata.Round.Report

/-! Writing artifacts so that a document is either complete or not there. -/

namespace RuleMetadata

/-- A format of documents: the ending of their file names, and their text. -/
structure DocumentFormat where
  extension : String
  render : Artifact → Except String String

/-- The format that writes XML documents; it can express every artifact. -/
def DocumentFormat.xml : DocumentFormat where
  extension := "xml"
  render artifact := .ok (Document.render artifact)

/-- The path of an object's document in a directory. -/
def DocumentFormat.path (format : DocumentFormat) (directory object : String) : String :=
  Path.join directory (object ++ "." ++ format.extension)

namespace FileSystem

variable [Monad m]

/-- Fills a temporary file, brings it to the disk and moves it to its path. -/
def fillAndMove (system : FileSystem m) (temporary : TemporaryFile) (path text : String) :
    ExceptT FileError m Unit := do
  -- The first step that fails keeps those behind it from being taken.
  ExceptT.mk (system.fill temporary text)
  ExceptT.mk (system.sync temporary)
  ExceptT.mk (system.persist temporary path)

/-- Puts a text at a path of a directory by way of a temporary file, which is removed if it cannot
take its place. -/
def replace (system : FileSystem m) (directory path text : String) :
    ExceptT FileError m Unit := do
  ExceptT.mk (system.createDirectories directory)
  let temporary ← ExceptT.mk (system.createTemporary directory)
  -- The path itself is only touched by the last of the three steps.
  try
    system.fillAndMove temporary path text
  catch cause =>
    -- The first failure is the one that counts, whether the file can be removed or not.
    let _ ← ExceptT.lift (system.discard temporary)
    throw cause

end FileSystem

/-- Writes the document of an artifact into a directory, and tells its path. -/
def writeArtifact [Monad m] (system : FileSystem m) (format : DocumentFormat)
    (artifact : Artifact) (directory : String) : m (Except EmitError String) := do
  match format.render artifact with
  -- Nothing is written unless the whole text is there.
  | .error reason => return .error (.notRendered artifact.name reason)
  | .ok text =>
    let path := format.path directory artifact.name
    match ← system.replace directory path text with
    | .ok () => return .ok path
    | .error cause => return .error (.notWritten artifact.name path cause)

end RuleMetadata

import RuleMetadata.Files.Error

/-! The operations on files that the program is built on. -/

namespace RuleMetadata

/-- What a path leads to. -/
inductive EntryKind where
  | file
  | directory
  deriving DecidableEq, Repr

/-- A temporary file: the directory that it was made in, and its name there. -/
structure TemporaryFile where
  directory : String
  name : String
  deriving DecidableEq, Repr

/-- Operations on files, as actions of a monad: on a tree held as a value, or on real files. -/
structure FileSystem (m : Type → Type) where
  /-- The text of a file. -/
  readText : String → m (Except FileError String)
  /-- Makes a file hold a text, creating it if it is missing. -/
  writeText : String → String → m (Except FileError Unit)
  /-- Makes a directory and those above it, as far as they are missing. -/
  createDirectories : String → m (Except FileError Unit)
  /-- Makes a new empty file in a directory, under a name that is free there. -/
  createTemporary : String → m (Except FileError TemporaryFile)
  /-- Makes a temporary file hold a text. -/
  fill : TemporaryFile → String → m (Except FileError Unit)
  /-- Makes sure that a temporary file has reached the disk. -/
  sync : TemporaryFile → m (Except FileError Unit)
  /-- Moves a temporary file to a path, in place of a file that is there. -/
  persist : TemporaryFile → String → m (Except FileError Unit)
  /-- Removes a temporary file. -/
  discard : TemporaryFile → m (Except FileError Unit)
  /-- What a path leads to, if it leads to anything. -/
  kind? : String → m (Option EntryKind)
  /-- The names in a directory, in ascending order. -/
  names : String → m (List String)

end RuleMetadata

import RuleMetadata.Command.Run

/-! The program: the command line on real files. -/

namespace RuleMetadata

/-- The file error behind a failure of the system. -/
def FileError.ofSystem : IO.Error → FileError
  | .noFileOrDirectory _ _ _ => .notFound
  | .alreadyExists _ _ _ => .alreadyExists
  -- The same failure comes under one of two names, so its number decides.
  | .inappropriateType _ 20 _ => .notDirectory
  | .inappropriateType _ 21 _ => .isDirectory
  | .illegalOperation 20 _ => .notDirectory
  | .illegalOperation 21 _ => .isDirectory
  | .invalidArgument _ 36 _ => .nameTooLong
  | error => .other (toString error)

/-- The result of an action on files. -/
def attempt (action : IO α) : IO (Except FileError α) := do
  try return .ok (← action) catch error => return .error (.ofSystem error)

/-- The text of a file. -/
def readTextFile (path : String) : IO (Except FileError String) := do
  match ← attempt (IO.FS.readBinFile path) with
  | .error error => return .error error
  | .ok bytes =>
    -- What is no text is refused only when all bytes are there.
    match String.fromUTF8? bytes with
    | some text => return .ok text
    | none => return .error .notText

/-- How many names are tried for a temporary file. -/
def temporaryNames : Nat := 10000

/-- The path of a temporary file. -/
def TemporaryFile.path (temporary : TemporaryFile) : String :=
  Path.join temporary.directory temporary.name

/-- Makes a new empty file in a directory. -/
def createTemporaryFile (directory : String) : IO (Except FileError TemporaryFile) := do
  for index in List.range temporaryNames do
    let temporary : TemporaryFile := ⟨directory, s!".tmp{index}"⟩
    -- The file is made only where none is, so no other file is written over.
    match ← attempt (IO.FS.Handle.mk temporary.path .writeNew) with
    | .ok _ => return .ok temporary
    | .error .alreadyExists => continue
    | .error error => return .error error
  return .error .alreadyExists

/-- What a path leads to, if it leads to anything. -/
def entryKind? (path : String) : IO (Option EntryKind) := do
  let location ← attempt (IO.FS.realPath path)
  -- A path is followed through all links before it is asked what it leads to.
  match location with
  | .error _ => return none
  | .ok location =>
    if ← location.isDir then return some .directory
    else if ← location.pathExists then return some .file
    else return none

/-- The names in a directory, in ascending order. -/
def directoryNames (path : String) : IO (List String) := do
  match ← attempt (do return ← (← IO.FS.realPath path).readDir) with
  | .error _ => return []
  | .ok entries => return (entries.toList.map (·.fileName)).mergeSort (· ≤ ·)

/-- The operations on real files. -/
def realFiles : FileSystem IO where
  readText := readTextFile
  writeText path text := attempt (IO.FS.writeFile path text)
  -- The empty path is the current directory, which is there.
  createDirectories path := if path = "" then pure (.ok ()) else attempt (IO.FS.createDirAll path)
  createTemporary := createTemporaryFile
  fill temporary text := attempt (IO.FS.writeFile temporary.path text)
  sync temporary := attempt do (← IO.FS.Handle.mk temporary.path .append).flush
  persist temporary path := attempt (IO.FS.rename temporary.path path)
  discard temporary := attempt (IO.FS.removeFile temporary.path)
  kind? := entryKind?
  names := directoryNames

end RuleMetadata

/-- Carries out the command line, and exits with its code. -/
def main (words : List String) : IO UInt32 := do
  let outcome ← RuleMetadata.Command.run RuleMetadata.realFiles words
  IO.print outcome.output
  IO.eprint outcome.errors
  return outcome.exit.toUInt32

import RuleMetadata.Files.Path
import RuleMetadata.Files.System

/-! A tree of files and directories as a value, with the rules by which paths are followed. -/

namespace RuleMetadata

/-- What a file holds: text, or bytes that are not text. -/
inductive Content where
  | text (value : String)
  | bytes (values : List UInt8)
  deriving DecidableEq, Repr

/-- The content that bytes make: text whenever they are. -/
def Content.ofBytes (bytes : List UInt8) : Content :=
  -- Bytes are text as soon as they can be decoded.
  match String.fromUTF8? ⟨bytes.toArray⟩ with
  | some value => .text value
  | none => .bytes bytes

/-- A file or a directory. -/
inductive Entry where
  | file (content : Content)
  | directory
  deriving DecidableEq, Repr

/-- The kind of an entry. -/
def Entry.kind : Entry → EntryKind
  | .file _ => .file
  | .directory => .directory

/-- A place in a tree: the names on the way down from the root. -/
abbrev Location := List String

/-- Files and directories by location, and the directory in which relative paths start. -/
structure FileTree where
  home : Location
  entries : List (Location × Entry)
  deriving DecidableEq, Repr

namespace FileTree

/-- A tree with nothing in it but the way to its home. -/
def empty (home : Location) : FileTree :=
  -- Each step on the way is a directory of its own.
  ⟨home, (List.range home.length).map fun depth => (home.take (depth + 1), .directory)⟩

/-- The entry at a location; the root is always a directory. -/
def at? (tree : FileTree) (location : Location) : Option Entry :=
  if location = [] then some .directory
  else (tree.entries.find? (·.1 = location)).map (·.2)

/-- Puts an entry at a location, in place of one that is there. -/
def put (tree : FileTree) (location : Location) (entry : Entry) : FileTree :=
  -- The old entry is taken out, so that each location is listed once.
  { tree with entries := (location, entry) :: tree.entries.filter (·.1 ≠ location) }

/-- Takes the entry at a location away. -/
def erase (tree : FileTree) (location : Location) : FileTree :=
  { tree with entries := tree.entries.filter (·.1 ≠ location) }

/-- The most bytes that a name may have. -/
def nameLimit : Nat := 255

/-- The most bytes that a path may have, its end included. -/
def pathLimit : Nat := 4096

/-- Follows one name from a location, which must be a directory. -/
def step (tree : FileTree) (location : Location) (name : String) : Except FileError Location :=
  match tree.at? location with
  | none => .error .notFound
  | some (.file _) => .error .notDirectory
  | some .directory =>
    -- Two names lead elsewhere: one stays, and one goes up, though never above the root.
    if nameLimit < name.utf8ByteSize then .error .nameTooLong
    else if name = "." then .ok location
    else if name = ".." then .ok location.dropLast
    else .ok (location ++ [name])

/-- Follows names one after the other. -/
def follow (tree : FileTree) (location : Location) : List String → Except FileError Location
  | [] => .ok location
  | name :: rest => do tree.follow (← tree.step location name) rest

/-- The names of a path; empty ones lead nowhere. -/
def pathNames (path : String) : List String :=
  (Text.segments path).filter (· ≠ "")

/-- The location that a path leads to, whether there is anything or not. -/
def locate (tree : FileTree) (path : String) : Except FileError Location :=
  if path.toList.contains '\x00' then .error .nulInName
  else if path = "" then .error .notFound
  else if pathLimit ≤ path.utf8ByteSize then .error .nameTooLong
  -- A path starts at the root or at home.
  else tree.follow (if Path.isAbsolute path then [] else tree.home) (pathNames path)

/-- Whether a path can only lead to a directory, since a slash ends it. -/
def endsInSlash (path : String) : Bool :=
  path.toList.getLast? == some '/'

/-- The entry that a path leads to. -/
def find (tree : FileTree) (path : String) : Except FileError Entry := do
  let location ← tree.locate path
  match tree.at? location with
  | none => throw .notFound
  | some .directory => return .directory
  | some (.file content) =>
    -- A slash at the end asks for a directory.
    if endsInSlash path then throw .notDirectory else return .file content

/-- Whether a path leads to a directory. -/
def isDirectory (tree : FileTree) (path : String) : Bool :=
  match tree.find path with
  | .ok .directory => true
  | _ => false

/-- The text of a file. -/
def readText (tree : FileTree) (path : String) : Except FileError String := do
  match ← tree.find path with
  | .directory => throw .isDirectory
  -- A file of bytes is found like any other one, and refused only when it is read.
  | .file (.bytes _) => throw .notText
  | .file (.text value) => return value

/-- A location where a new entry can be put: the directory above it is there. -/
def locateNew (tree : FileTree) (path : String) : Except FileError Location := do
  let location ← tree.locate path
  -- Whether the location itself is free is left to the caller.
  match tree.at? location.dropLast with
  | none => throw .notFound
  | some (.file _) => throw .notDirectory
  | some .directory => return location

/-- The tree in which a file holds a content. -/
def write (tree : FileTree) (path : String) (content : Content) : Except FileError FileTree := do
  let location ← tree.locateNew path
  match tree.at? location with
  | some .directory => throw .isDirectory
  -- A file is overwritten, but not by a path that asks for a directory.
  | some (.file _) => if endsInSlash path then throw .notDirectory
  | none => if endsInSlash path then throw .isDirectory
  return tree.put location (.file content)

/-- The tree with one more directory. -/
def createDirectory (tree : FileTree) (path : String) : Except FileError FileTree := do
  let location ← tree.locateNew path
  match tree.at? location with
  -- A file is in the way as well as a directory.
  | some _ => throw .alreadyExists
  | none => return tree.put location .directory

/-- Makes a directory, and those above it first when they are missing; the fuel bounds how far up
that goes. Directories that were made stay even if a later one cannot be made. -/
def createFrom : Nat → FileTree → String → Except FileError Unit × FileTree
  | 0, tree, _ => (.error .notFound, tree)
  | fuel + 1, tree, path =>
    if path = "" then (.ok (), tree)
    else match tree.createDirectory path with
      -- The last directory is tried first, as it may be the only one that is missing.
      | .ok tree => (.ok (), tree)
      -- Something above is missing, and is made first.
      | .error .notFound =>
        match Path.parent? path with
        | none => (.error (.other "failed to create whole tree"), tree)
        | some parent =>
          match createFrom fuel tree parent with
          | (.error error, tree) => (.error error, tree)
          | (.ok (), tree) =>
            match tree.createDirectory path with
            | .ok tree => (.ok (), tree)
            | .error error => if tree.isDirectory path then (.ok (), tree) else (.error error, tree)
      | .error error => if tree.isDirectory path then (.ok (), tree) else (.error error, tree)

/-- Makes a directory and those above it, as far as they are missing. -/
def createDirectories (tree : FileTree) (path : String) : Except FileError Unit × FileTree :=
  -- Each step up shortens the path.
  createFrom (path.length + 1) tree path

/-- The names that temporary files may have. -/
def temporaryName (index : Nat) : String :=
  s!".tmp{index}"

/-- A name for a temporary file that no entry of a directory has. -/
def freshName (tree : FileTree) (location : Location) : String :=
  -- Of more names than there are entries, one is free.
  match (List.range (tree.entries.length + 1)).find? fun index =>
      (tree.at? (location ++ [temporaryName index])).isNone with
  | some index => temporaryName index
  | none => temporaryName (tree.entries.length + 1)

/-- A name of the length that temporary names count as, however many there are. -/
def temporaryPattern : String :=
  ".tmpXXXXXX"

/-- The location of a directory that a temporary file can be made in. -/
def locateTemporaries (tree : FileTree) (directory : String) : Except FileError Location := do
  -- A path behind which a temporary name would be too long is refused.
  return (← tree.locateNew (Path.join directory temporaryPattern)).dropLast

/-- The tree with a new empty file in a directory. -/
def createTemporary (tree : FileTree) (directory : String) :
    Except FileError (TemporaryFile × FileTree) := do
  let location ← tree.locateTemporaries directory
  let name := tree.freshName location
  -- The file is there at once, so that its name is taken.
  return (⟨directory, name⟩, tree.put (location ++ [name]) (.file (.text "")))

/-- The location of a temporary file, and what it holds. -/
def findTemporary (tree : FileTree) (temporary : TemporaryFile) :
    Except FileError (Location × Content) := do
  -- The path of the directory is followed anew, as the tree may have changed.
  let directory ← tree.locateTemporaries temporary.directory
  let location := directory ++ [temporary.name]
  match tree.at? location with
  | none => throw .notFound
  | some .directory => throw .isDirectory
  | some (.file content) => return (location, content)

/-- The tree in which a temporary file holds a text. -/
def fill (tree : FileTree) (temporary : TemporaryFile) (text : String) :
    Except FileError FileTree := do
  let (location, _) ← tree.findTemporary temporary
  return tree.put location (.file (.text text))

/-- The tree in which a temporary file has moved to a path, in place of a file that is there. -/
def persist (tree : FileTree) (temporary : TemporaryFile) (path : String) :
    Except FileError FileTree := do
  let (origin, content) ← tree.findTemporary temporary
  let location ← tree.locateNew path
  if tree.at? location = some .directory then throw .isDirectory
  -- A file that moves onto itself stays.
  return (tree.erase origin).put location (.file content)

/-- The tree without a temporary file. -/
def discard (tree : FileTree) (temporary : TemporaryFile) : Except FileError FileTree := do
  let (location, _) ← tree.findTemporary temporary
  return tree.erase location

/-- The tree without an entry and everything below it. -/
def remove (tree : FileTree) (path : String) : Except FileError FileTree := do
  let _ ← tree.find path
  -- Everything below starts with the same names.
  let location ← tree.locate path
  return { tree with entries := tree.entries.filter (!location.isPrefixOf ·.1) }

/-- The names directly below a location, in ascending order. -/
def childNames (tree : FileTree) (location : Location) : List String :=
  -- The root is not a child of itself.
  let names := tree.entries.filterMap fun (other, _) =>
    if other.dropLast = location && other ≠ [] then other.getLast? else none
  names.mergeSort (· ≤ ·)

/-- The names in a directory, in ascending order. -/
def names (tree : FileTree) (path : String) : List String :=
  match tree.locate path with
  | .ok location => tree.childNames location
  | .error _ => []

/-- An operation that leaves the tree as it was unless it succeeds. -/
def change (operation : FileTree → Except FileError FileTree) :
    StateM FileTree (Except FileError Unit) := do
  match operation (← get) with
  | .ok tree => set tree; return .ok ()
  -- The tree is left alone, not even set again.
  | .error error => return .error error

/-- The operations on files, carried out on a tree. -/
def system : FileSystem (StateM FileTree) where
  readText path := return (← get).readText path
  writeText path text := change (·.write path (.text text))
  createDirectories path := modifyGet (·.createDirectories path)
  createTemporary path := do
    match (← get).createTemporary path with
    | .ok (temporary, tree) => set tree; return .ok temporary
    | .error error => return .error error
  fill temporary text := change (·.fill temporary text)
  sync temporary := return ((← get).findTemporary temporary).map fun _ => ()
  persist temporary path := change (·.persist temporary path)
  discard temporary := change (·.discard temporary)
  -- What cannot be found has no kind, for whatever reason.
  kind? path := return match (← get).find path with
    | .ok entry => some entry.kind
    | .error _ => none
  names path := return (← get).names path

/-- The entries below the home of a tree, by their relative paths in ascending order. -/
def listing (tree : FileTree) : List (String × Entry) :=
  -- Home itself is not listed.
  let below := tree.entries.filterMap fun (location, entry) =>
    if tree.home.isPrefixOf location && location ≠ tree.home then
      some ("/".intercalate (location.drop tree.home.length), entry)
    else none
  below.mergeSort fun left right => left.1 ≤ right.1

/-- Whether a directory holds nothing. -/
def isEmptyDirectory (tree : FileTree) (location : Location) : Bool :=
  (tree.childNames location).isEmpty

end FileTree

end RuleMetadata

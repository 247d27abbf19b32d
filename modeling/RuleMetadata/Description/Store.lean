import RuleMetadata.Files.Path
import RuleMetadata.Files.System

/-! Stores of texts under keys: in files, or in memory. -/

namespace RuleMetadata

/-- A store of texts under keys. -/
structure Store (m : Type → Type) where
  /-- The text under a key, if there is one. -/
  read : String → m (Except FileError (Option String))
  /-- Keeps a text under a key, in place of an earlier one. -/
  write : String → String → m (Except FileError Unit)
  /-- Where the texts are kept; two stores of one location are the same. -/
  location : String

/-- The path of a key below the root of a store; every segment of the key has to be plain. -/
def keyPath (root key : String) : Except FileError String :=
  -- A key is refused as a whole, before any file is touched.
  let segments := Text.segments key
  if segments.all Text.isPlainSegment then .ok (segments.foldl Path.join root)
  else .error (.refusedKey key)

namespace Store

variable [Monad m]

/-- The store that keeps each text in a file below a root directory. -/
def inFiles (system : FileSystem m) (root : String) : Store m where
  read key :=
    match keyPath root key with
    | .error error => pure (.error error)
    | .ok path => do
      match ← system.readText path with
      | .ok text => return .ok (some text)
      -- A text that was never kept is no failure.
      | .error .notFound => return .ok none
      | .error error => return .error error
  write key text :=
    match keyPath root key with
    | .error error => pure (.error error)
    | .ok path => do
      match Path.parent? path with
      | none => system.writeText path text
      -- The directory of the owner may not be there yet.
      | some parent =>
        match ← system.createDirectories parent with
        | .ok () => system.writeText path text
        | .error error => return .error error
  location := root

end Store

/-- Texts in memory, with a way to make reading and writing fail. -/
structure MemoryStore where
  texts : List (String × String) := []
  failsReading : Bool := false
  failsWriting : Bool := false
  deriving DecidableEq, Repr

namespace MemoryStore

/-- The error of a store that is made to fail. -/
def offline : FileError := .other "store offline"

/-- The text under a key. -/
def read (store : MemoryStore) (key : String) : Except FileError (Option String) :=
  if store.failsReading then .error offline
  else .ok ((store.texts.find? (·.1 = key)).map (·.2))

/-- Keeps a text under a key. -/
def write (store : MemoryStore) (key text : String) : Except FileError MemoryStore :=
  if store.failsWriting then .error offline
  else .ok { store with texts := (key, text) :: store.texts.filter (·.1 ≠ key) }

/-- A store in memory as a part of some state. -/
def store (part : σ → MemoryStore) (replace : MemoryStore → σ → σ) (location : String) :
    Store (StateM σ) where
  read key := return (part (← get)).read key
  write key text := do
    -- A text that is refused leaves the memory as it was.
    match (part (← get)).write key text with
    | .ok memory => modify (replace memory); return .ok ()
    | .error error => return .error error
  location := location

end MemoryStore

end RuleMetadata

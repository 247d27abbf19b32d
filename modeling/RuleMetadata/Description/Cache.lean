import RuleMetadata.Description.Key
import RuleMetadata.Description.Store
import RuleMetadata.Signature

/-! Descriptions that outlast the round in which their elements were compiled. -/

namespace RuleMetadata

/-- A description that could not be kept. -/
structure DescriptionError where
  element : String
  key : String
  cause : FileError
  deriving DecidableEq, Repr

/-- The wording of a description error. -/
def DescriptionError.message (error : DescriptionError) : String :=
  s!"failed to persist description of `{error.element}` to {error.key}: " ++ error.cause.message

/-- The store in which descriptions are kept, and one of earlier rounds that is asked first. -/
structure DescriptionCache (m : Type → Type) where
  output : Store m
  input : Option (Store m) := none

namespace DescriptionCache

/-- The cache of two stores; two of one location count as one. -/
def ofStores (output input : Store m) : DescriptionCache m :=
  -- A store that is both would be asked twice otherwise.
  if input.location = output.location then { output } else { output, input := some input }

variable [Monad m]

/-- Keeps the live documentation of an element under its key, and tells whether there was any. -/
def save (cache : DescriptionCache m) (element : Element) : m (Except DescriptionError Bool) :=
  match element.resourceKey?, element.liveText? with
  -- A blank text is not kept, and neither is one without a key.
  | some key, some text => do
    match ← cache.output.write key text with
    | .ok () => return .ok true
    | .error cause => return .error ⟨element.qualifiedName, key, cause⟩
  | _, _ => pure (.ok false)

/-- The first text under a key that is not blank, trimmed; a failing store has none. -/
def readStores (key : String) : List (Store m) → m (Option String)
  | [] => pure none
  | store :: rest => do
    match ← store.read key with
    | .ok (some text) =>
      match Text.nonBlank? text with
      | some text => return some text
      | none => readStores key rest
    -- A text that cannot be read counts as missing.
    | _ => readStores key rest

/-- The description of an element: its live documentation, or what the stores hold. -/
def read (cache : DescriptionCache m) (element : Element) : m (Option String) :=
  match element.liveText? with
  -- What is live counts more than what was kept.
  | some text => pure (some text)
  | none =>
    match element.resourceKey? with
    | none => pure none
    | some key => readStores key (cache.input.toList ++ [cache.output])

/-- The description of the element at a position, if there is an element. -/
def readAt (cache : DescriptionCache m) (model : Model) (position : Nat) : m (Option String) :=
  match model.elements[position]? with
  | some element => cache.read element
  | none => pure none

/-- The descriptions that the artifact of a type shows, as they are kept at the moment: those of its
arguments and its own. -/
def descriptions (cache : DescriptionCache m) (model : Model) (root : Nat) : m Descriptions := do
  let positions := model.visits .argument root ++ [root]
  let found ← positions.mapM (cache.readAt model)
  -- A position that was visited more than once has the description of its first visit.
  return fun position => ((positions.zip found).find? (·.1 = position)).bind (·.2)

end DescriptionCache

end RuleMetadata

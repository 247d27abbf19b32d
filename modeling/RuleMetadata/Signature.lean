import RuleMetadata.Model.Container
import RuleMetadata.Walk

/-! Signatures: the arguments, returns and return type that a type's hierarchy declares. -/

namespace RuleMetadata

/-- An argument or a returned value. -/
structure Argument where
  name : String
  type : String
  multiValued : Bool := false
  required : Bool := false
  description : Option String := none
  prompt : Option String := none
  deriving DecidableEq, Repr

/-- The arguments and returned values of a rule, and its overall return type. -/
structure Signature where
  arguments : List Argument := []
  returns : List Argument := []
  returnType : Option String := none
  deriving DecidableEq, Repr

/-- An element took the place of the return type that another one had claimed before. -/
structure ReturnTypeNote where
  previous : String
  current : String
  element : String
  deriving DecidableEq, Repr

/-- What one element on the walk contributes to a signature. -/
structure ArgumentVisit where
  element : String
  role : ArgumentRole
  argument : Argument
  /-- The erased type of an element that claims the return type. -/
  returnType : Option String
  deriving DecidableEq, Repr

/-- The descriptions of elements by position. -/
abbrev Descriptions := Nat → Option String

namespace Model

/-- The type of an argument and whether it holds several values: the item type of a container,
else the erased type itself. -/
def argumentType (model : Model) (containers : List String) (element : Element) : String × Bool :=
  let type := element.effectiveType
  -- Only the name that is looked up is qualified; the type is shown as it was written.
  if model.isContainer containers (model.qualify element.package type) then
    match type.firstArgument? with
    | some item => (item.text, true)
    -- A raw container shows no item type, but holds several values nonetheless.
    | none => (type.erase, true)
  else (type.erase, false)

/-- What an element contributes as an argument, with the description that was found for it. -/
def argumentVisit? (model : Model) (containers : List String) (position : Nat)
    (description : Option String) : Option ArgumentVisit :=
  match model.elements[position]? with
  | none => none
  | some element =>
    match element.marker? .argument with
    | some (.argument marker) =>
      -- The name and the prompt come from the marker, the type from the element.
      let (type, multiValued) := model.argumentType containers element
      some
        { element := element.qualifiedName
          role := marker.role
          argument :=
            { name := marker.nameOverride.getD element.simpleName
              type, multiValued, description, required := marker.required
              prompt := marker.prompt.bind Text.nonBlank? }
          returnType := if marker.returnType then some element.effectiveType.erase else none }
    | _ => none

/-- What elements contribute as arguments, in order, each with the description found for it. -/
def contributions (model : Model) (containers : List String) (positions : List Nat)
    (descriptions : List (Option String)) : List ArgumentVisit :=
  (positions.zip descriptions).filterMap fun (position, description) =>
    model.argumentVisit? containers position description

/-- What the elements on the walk contribute as arguments, in order. -/
def argumentVisits [Monad m] (model : Model) (containers : List String)
    (describe : Nat → m (Option String)) (root : Nat) : m (List ArgumentVisit) := do
  let positions := model.visits .argument root
  -- An element is described anew each time that the walk comes to it.
  let descriptions ← positions.mapM describe
  return model.contributions containers positions descriptions

end Model

namespace Signature

/-- The note that a contribution calls for: none, unless it replaces a claimed return type. -/
def noteOf (previous : Option String) (visit : ArgumentVisit) : List ReturnTypeNote :=
  match previous, visit.returnType with
  -- The first claim replaces nothing, and is no reason for a note.
  | some previous, some current => [⟨previous, current, visit.element⟩]
  | _, _ => []

/-- Adds one contribution: its argument to the list of its role, and its claim of the return
type. -/
def add (state : Signature × List ReturnTypeNote) (visit : ArgumentVisit) :
    Signature × List ReturnTypeNote :=
  let (signature, notes) := state
  -- The latest claim counts.
  let returnType := visit.returnType <|> signature.returnType
  let notes := notes ++ noteOf signature.returnType visit
  match visit.role with
  | .input =>
    ({ signature with returnType, arguments := signature.arguments ++ [visit.argument] }, notes)
  | .returns =>
    ({ signature with returnType, returns := signature.returns ++ [visit.argument] }, notes)

/-- The signature that a list of contributions adds up to, with its notes. -/
def ofVisits (visits : List ArgumentVisit) : Signature × List ReturnTypeNote :=
  visits.foldl add ({}, [])

end Signature

/-- The signature of a type's hierarchy, with the notes on replaced return types. -/
def Model.signature [Monad m] (model : Model) (containers : List String)
    (describe : Nat → m (Option String)) (root : Nat) : m (Signature × List ReturnTypeNote) := do
  return Signature.ofVisits (← model.argumentVisits containers describe root)

end RuleMetadata

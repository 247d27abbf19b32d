import RuleMetadata.Model.Basic

/-! Containers: types that hold several values, recognised by name or through their parents. -/

namespace RuleMetadata

/-- The simple names of the collection types that are containers by themselves. -/
def collectionNames : List String :=
  ["Collection", "List", "Set", "SortedSet", "NavigableSet", "Queue", "Deque", "ArrayList",
    "LinkedList", "HashSet", "LinkedHashSet", "TreeSet", "ArrayDeque"]

/-- The names that are containers in every round: in full, and simple. -/
def defaultContainers : List String :=
  collectionNames.map (qualifiedBy "java.util") ++ collectionNames

/-- The default container names and those that options add. -/
def containersWith (extra : List String) : List String :=
  defaultContainers ++ extra

namespace Model

/-- Searches the ancestors of a type for a container, entering no type twice.

`free` holds the types not yet entered; the answer is none as soon as a container is found, else
the types that are still free. -/
def searchAncestors (model : Model) (containers : List String) :
    Nat → List Nat → Nat → Option (List Nat)
  | 0, free, _ => some free
  | fuel + 1, free, position =>
    match model.elements[position]? with
    | none => some free
    | some element =>
      if position ∈ free then
        -- The parents are searched in turn; each one leaves fewer types for those after it.
        element.parents.foldl (fun state parent => state.bind fun free =>
          let erased := parent.erase
          if erased ∈ containers then none
          else match model.resolve? element.package erased with
            | none => some free
            | some next => searchAncestors model containers fuel free next)
          (some (free.erase position))
      else some free

/-- Whether a type expression denotes a container: no array, and a container by name or the name of
a model type that has one among its ancestors. -/
def isContainer (model : Model) (containers : List String) (type : TypeExpr) : Bool :=
  let erased := type.erase
  if TypeExpr.isArrayName erased then false
  -- The names are taken as they stand, so a container needs no element in the model.
  else if erased ∈ containers then true
  else match model.lookup? erased with
    | none => false
    | some position =>
      -- Each step up enters another type, so the number of elements bounds the depth.
      (model.searchAncestors containers model.size (List.range model.size) position).isNone

end Model

end RuleMetadata

import RuleMetadata.Model.Basic

/-! The walk through a type's hierarchy: ancestors first, then members, then the element itself. -/

namespace RuleMetadata.Model

/-- The elements with a marker of a kind on the walk from an element: those of its supertype, those
of its members in order, and the element itself.

An element that is on the way to itself is not entered again; `free` holds the elements that are
not on the way. An element that is reached along two ways counts twice. -/
def visitsFrom (model : Model) (kind : MarkerKind) : Nat → List Nat → Nat → List Nat
  | 0, _, _ => []
  | fuel + 1, free, position =>
    match model.elements[position]? with
    | none => []
    | some element =>
      if position ∈ free then
        -- Each way starts with the same free elements, so it may visit what another way has
        -- visited.
        let free := free.erase position
        -- The order is that in which later declarations replace earlier ones.
        element.supertype.toList.flatMap (visitsFrom model kind fuel free) ++
          element.enclosed.flatMap (visitsFrom model kind fuel free) ++
          (if element.carries kind then [position] else [])
      else []

/-- The elements with a marker of a kind in the hierarchy of a type, in the order of the walk. -/
def visits (model : Model) (kind : MarkerKind) (root : Nat) : List Nat :=
  -- Each step takes an element off the free ones, so their number bounds the depth.
  model.visitsFrom kind model.size (List.range model.size) root

end RuleMetadata.Model

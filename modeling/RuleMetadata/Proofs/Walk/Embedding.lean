import RuleMetadata.Attributes
import RuleMetadata.Description.Cache
import RuleMetadata.Proofs.Model.Container
import RuleMetadata.Proofs.Model.Moving
import RuleMetadata.Proofs.Walk.Ways

/-! A model inside another one: what is extracted from its types is the same there, as long as the
names that are looked up on the way stand for the same types. -/

namespace RuleMetadata

namespace Element

/-- The names that may be looked up to find the types above an element. -/
def parentNames (element : Element) : List String :=
  element.parents.flatMap fun parent => spellings element.package parent.erase

/-- The names that may be looked up to tell whether the type of an element is a container: those of
its head, and the erased form of the type as it is written and with its head inside the package. -/
def containerNames (element : Element) : List String :=
  let type := element.effectiveType
  spellings element.package type.head ++ type.erase ::
    -- The head may be put inside the package before the type is erased.
    (element.package.map fun package =>
      (TypeExpr.ofText (qualifiedBy package type.head ++ type.tail)).erase).toList

/-- Moving keeps the parents of an element as they are written. -/
@[simp] theorem moved_parents (move : Nat → Nat) (element : Element) :
    (element.moved move).parents = element.parents := rfl

/-- Moving keeps the effective type of an element. -/
@[simp] theorem moved_effectiveType (move : Nat → Nat) (element : Element) :
    (element.moved move).effectiveType = element.effectiveType := rfl

end Element

namespace Model

/-- Whether the elements of a model stand in another one, each where it has moved to; behind the
last element of the one, there is none that has moved to the other. -/
structure Embeds (move : Nat → Nat) (model other : Model) : Prop where
  injective : Function.Injective move
  -- Outside of the one model nothing of the other is at a moved position.
  stands : ∀ position, other.elements[move position]? =
    model.elements[position]?.map (Element.moved move)

/-- Whether the same types are free in both models, as far as they stand in both. -/
structure FreeAlike (move : Nat → Nat) (free otherFree : List Nat) : Prop where
  distinct : free.Nodup
  otherDistinct : otherFree.Nodup
  -- Types of the other model that nothing has moved to do not matter.
  mem_iff : ∀ position, move position ∈ otherFree ↔ position ∈ free

variable {move : Nat → Nat} {model other : Model}

/-- A position that is taken leaves the others free. -/
theorem FreeAlike.erase {free otherFree : List Nat} (same : FreeAlike move free otherFree)
    (injective : Function.Injective move) (position : Nat) :
    FreeAlike move (free.erase position) (otherFree.erase (move position)) where
  -- Another position is free in both or in neither, and moves to another one.
  distinct := same.distinct.erase position
  otherDistinct := same.otherDistinct.erase (move position)
  mem_iff next := by
    rw [same.distinct.mem_erase_iff, same.otherDistinct.mem_erase_iff, same.mem_iff,
      injective.ne_iff]

/-- A type expression is qualified alike where its head is known alike. -/
theorem qualify_eq {package : Option String} {type : TypeExpr}
    (known : ∀ name ∈ spellings package type.head, NamesAlike move model other name) :
    other.qualify package type = model.qualify package type := by
  -- It matters only whether the names are known, not where.
  have known (name) (spelled : name ∈ spellings package type.head) :
      (other.lookup? name).isSome = (model.lookup? name).isSome := by
    rw [known name spelled, Option.isSome_map]
  simp only [qualify, known type.head (by simp [spellings])]
  cases package with
  | none => rfl
  | some package => simp only [known (qualifiedBy package type.head) (by simp [spellings])]

/-- The type of an element is looked up as a container under one of its container names. -/
theorem erase_qualify_mem (model : Model) (element : Element) :
    (model.qualify element.package element.effectiveType).erase ∈ element.containerNames := by
  have written : element.effectiveType.erase ∈ element.containerNames := by
    simp [Element.containerNames]
  -- The type is left as it is written, or gets the package in front of its head.
  simp only [qualify]
  split
  · exact written
  · split
    · exact written
    · split
      · simp [Element.containerNames, *]
      · exact written

namespace Embeds

variable (embeds : model.Embeds move other)
include embeds

/-- What no move changes of an element is the same in both models. -/
theorem map_eq {α : Type} {read : Element → α}
    (steady : ∀ element : Element, read (element.moved move) = read element) (position : Nat) :
    other.elements[move position]?.map read = model.elements[position]?.map read := by
  -- The element is the same one, but for the positions that it holds.
  rw [embeds.stands, Option.map_map]
  exact congrArg (Option.map · _) (funext steady)

/-- Where all positions are free, the same ones are. -/
theorem range_alike : FreeAlike move (List.range model.size) (List.range other.size) where
  distinct := List.nodup_range
  otherDistinct := List.nodup_range
  mem_iff position := by
    -- A position lies in the model just when it has an element there.
    have missing : other.elements[move position]? = none ↔ model.elements[position]? = none := by
      rw [embeds.stands, Option.map_eq_none_iff]
    rwa [Array.getElem?_eq_none_iff, Array.getElem?_eq_none_iff, ← not_lt, ← not_lt, not_iff_not,
      ← size, ← size, ← List.mem_range, ← List.mem_range] at missing

/-! ### The walk -/

/-- The walk visits what has moved, in the same order. -/
theorem visitsFrom (kind : MarkerKind) (fuel : Nat) {free otherFree : List Nat}
    (same : FreeAlike move free otherFree) (position : Nat) :
    other.visitsFrom kind fuel otherFree (move position) =
      (model.visitsFrom kind fuel free position).map move := by
  -- Below each position, the two walks go on with the same positions free.
  induction fuel generalizing free otherFree position with
  | zero => rfl
  | succ fuel ih =>
    simp only [Model.visitsFrom, embeds.stands position, same.mem_iff]
    cases model.elements[position]? with
    | none => rfl
    | some element =>
      have below := ih (same.erase embeds.injective position)
      by_cases isFree : position ∈ free
      · simp only [Option.map_some, isFree, if_true, Element.moved_supertype,
          Element.moved_enclosed, Option.toList_map, List.flatMap_map, below, List.map_append,
          List.map_flatMap, apply_ite (List.map move), List.map_cons, List.map_nil]
        -- The element carries the same markers, which the two sides ask it for in two ways.
        rfl
      · simp [isFree]

/-- The walk from where a root has moved to visits what has moved. -/
theorem visits (kind : MarkerKind) (root : Nat) :
    other.visits kind (move root) = (model.visits kind root).map move := by
  -- Both walks come to their ends within the larger number of elements.
  rw [Model.visits, Model.visits,
    ← visitsFrom_of_le kind (by simp) (Nat.le_max_left model.size other.size),
    ← visitsFrom_of_le kind (by simp) (Nat.le_max_right model.size other.size)]
  exact embeds.visitsFrom kind _ embeds.range_alike root

/-- The attributes of a type are the same where it has moved to. -/
theorem attributes (root : Nat) : other.attributes (move root) = model.attributes root := by
  -- An attribute comes from an element, which is the same one where it has moved to.
  have declared (position : Nat) :
      other.attribute? (move position) = model.attribute? position := by
    simp only [attribute?, embeds.stands position]
    cases model.elements[position]? <;> rfl
  rw [Model.attributes, embeds.visits, List.filterMap_map]
  simp only [Function.comp_def, declared]
  rfl

/-! ### Containers -/

section Names

variable (parents_alike : ∀ (position : Nat) (element : Element),
  model.elements[position]? = some element →
    ∀ name ∈ element.parentNames, NamesAlike move model other name)
include parents_alike

/-- The ancestors of a type are searched alike, and leave the same types free. -/
theorem searchAncestors (containers : List String) (fuel : Nat) {free otherFree : List Nat}
    (same : FreeAlike move free otherFree) (position : Nat) :
    Option.Rel (fun otherLeft left => FreeAlike move left otherLeft)
      (other.searchAncestors containers fuel otherFree (move position))
      (model.searchAncestors containers fuel free position) := by
  -- The two searches go through the same parents, and are left with the same free positions.
  induction fuel generalizing free otherFree position with
  | zero => exact .some same
  | succ fuel ih =>
    simp only [Model.searchAncestors, embeds.stands position, same.mem_iff]
    cases found : model.elements[position]? with
    | none => exact .some same
    | some element =>
      by_cases isFree : position ∈ free
      · simp only [Option.map_some, isFree, if_true]
        refine List.foldl_rel (.some (same.erase embeds.injective position)) ?_
        intro parent listed otherLeft left related
        cases related with
        | none => exact .none
        | some same =>
          have resolved : other.resolve? element.package parent.erase = _ :=
            resolve?_eq fun spelling mem => parents_alike position element found spelling
              (List.mem_flatMap.2 ⟨parent, listed, mem⟩)
          simp only [Option.bind_some, resolved, Element.moved_package]
          split
          · exact .none
          · cases model.resolve? element.package parent.erase with
            | none => exact .some same
            | some next => exact ih same next
      · simp only [Option.map_some, isFree, if_false]
        exact .some same

/-- A type expression denotes a container in both models, if its name is looked up alike. -/
theorem isContainer (containers : List String) {type : TypeExpr}
    (alike : NamesAlike move model other type.erase) :
    other.isContainer containers type = model.isContainer containers type := by
  have ends_alike {relation : List Nat → List Nat → Prop} {one two : Option (List Nat)}
      (related : Option.Rel relation one two) : one.isNone = two.isNone := by
    cases related <;> rfl
  simp only [Model.isContainer, show other.lookup? type.erase = _ from alike]
  cases model.lookup? type.erase with
  | none => rfl
  | some root =>
    -- Both searches start with all types free, and come to their ends by themselves.
    have searched := embeds.searchAncestors parents_alike containers (max model.size other.size)
      embeds.range_alike root
    rw [searchAncestors_of_le (by simp) (Nat.le_max_right _ _),
      searchAncestors_of_le (by simp) (Nat.le_max_left _ _)] at searched
    simp only [Option.map_some, ends_alike searched]

variable (types_alike : ∀ (position : Nat) (element : Element),
  model.elements[position]? = some element →
    ∀ name ∈ element.containerNames, NamesAlike move model other name)
include types_alike

/-- What an element contributes to a signature has the same type wherever the element has moved
to. -/
theorem argumentType (containers : List String) {position : Nat} {element : Element}
    (found : model.elements[position]? = some element) :
    other.argumentType containers (element.moved move) =
      model.argumentType containers element := by
  have alike := types_alike position element found
  -- The head is qualified by the same lookups, and what comes of it is looked up alike.
  have qualified : other.qualify element.package element.effectiveType =
      model.qualify element.package element.effectiveType :=
    qualify_eq fun name listed => alike name (List.mem_append_left _ listed)
  simp only [Model.argumentType, Element.moved_package, Element.moved_effectiveType, qualified,
    embeds.isContainer parents_alike containers (alike _ (model.erase_qualify_mem element))]

/-- An element contributes the same argument from wherever it has moved to. -/
theorem argumentVisit? (containers : List String) (position : Nat) (description : Option String) :
    other.argumentVisit? containers (move position) description =
      model.argumentVisit? containers position description := by
  simp only [Model.argumentVisit?, embeds.stands position]
  -- The element is the same one where it has moved to, and so is the type it is given.
  cases found : model.elements[position]? with
  | none => rfl
  | some element =>
    simp only [Option.map_some, embeds.argumentType parents_alike types_alike containers found]
    rfl

/-- A type has the same signature, if each element is described where it has moved to. -/
theorem signature {m : Type → Type} [Monad m] [LawfulMonad m] (containers : List String)
    (describe : Nat → m (Option String)) (root : Nat) :
    other.signature containers describe (move root) =
      model.signature containers (describe ∘ move) root := by
  -- The walk has moved with its elements, and each visit contributes what it did before.
  have contributed (positions : List Nat) (descriptions : List (Option String)) :
      other.contributions containers (positions.map move) descriptions =
        model.contributions containers positions descriptions := by
    rw [contributions, contributions, List.zip_map_left, List.filterMap_map]
    refine List.filterMap_congr fun visit _ => ?_
    exact embeds.argumentVisit? parents_alike types_alike containers visit.1 visit.2
  simp only [Model.signature, argumentVisits, embeds.visits, List.mapM_map, contributed]

end Names

/-! ### Descriptions -/

/-- A cache describes each element where it has moved to. -/
theorem readAt {m : Type → Type} [Monad m] (cache : DescriptionCache m) :
    cache.readAt other ∘ move = cache.readAt model := by
  -- What an element is described by does not depend on where it stands.
  funext position
  simp only [Function.comp_apply, DescriptionCache.readAt, embeds.stands position]
  cases model.elements[position]? <;> rfl

end Embeds

end Model

end RuleMetadata

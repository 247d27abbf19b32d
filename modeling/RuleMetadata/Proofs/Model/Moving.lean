import RuleMetadata.Description.Key
import RuleMetadata.Proofs.Model.Enclosure

/-! Declarations in another order: their elements are the same ones at other positions. -/

namespace RuleMetadata

namespace Element

/-- An element whose owner, supertype and members have moved to other positions. -/
def moved (move : Nat → Nat) (element : Element) : Element :=
  { element with
    -- Only these fields hold positions.
    owner := element.owner.map move
    supertype := element.supertype.map move
    enclosed := element.enclosed.map move }

variable (move : Nat → Nat) (element : Element)

/-- Moving keeps the kind of an element. -/
@[simp] theorem moved_kind : (element.moved move).kind = element.kind := rfl

/-- Moving keeps the qualified name of an element. -/
@[simp] theorem moved_qualifiedName :
    (element.moved move).qualifiedName = element.qualifiedName := rfl

/-- The supertype of an element moves as any other position does. -/
@[simp] theorem moved_supertype :
    (element.moved move).supertype = element.supertype.map move := rfl

/-- The members of an element move as any other positions do. -/
@[simp] theorem moved_enclosed : (element.moved move).enclosed = element.enclosed.map move := rfl

/-- Moving keeps the package of an element. -/
@[simp] theorem moved_package : (element.moved move).package = element.package := rfl

/-- Moving keeps the name of an element's owner, which is no position. -/
@[simp] theorem moved_ownerName : (element.moved move).ownerName = element.ownerName := rfl

/-- Moving keeps the key of an element, which is made of names. -/
@[simp] theorem moved_resourceKey? : (element.moved move).resourceKey? = element.resourceKey? := rfl

/-- An element that stays where it is. -/
@[simp] theorem moved_id : element.moved id = element := by
  simp [moved]

/-- An element that moves twice. -/
@[simp] theorem moved_moved (further : Nat → Nat) :
    (element.moved move).moved further = element.moved (further ∘ move) := by
  simp [moved]

end Element

/-! ### Blocks of elements -/

/-- Members that move together stand one behind the other as before. -/
theorem map_memberPositions {move : Nat → Nat} {start target : Nat}
    {members : List MemberDeclaration}
    (together : ∀ index < membersSize members, move (start + index) = target + index) :
    (memberPositions start members).map move = memberPositions target members := by
  induction members generalizing start target with
  | nil => rfl
  | cons member rest ih =>
    rw [membersSize_cons] at together
    have positive := member.size_pos
    rw [memberPositions, List.map_cons, ih fun index below => ?_]
    · exact congrArg (· :: _) (together 0 (by omega))
    · -- The members behind this one move as far as it does.
      rw [Nat.add_assoc, together (member.size + index) (by omega), Nat.add_assoc]

mutual

/-- A declared type whose elements move together is laid out at the target. -/
theorem TypeDeclaration.layout_moved {move : Nat → Nat} {origin : Origin}
    {package : Option String} {owner : Option Nat} {ownerName : Option String}
    {simpleName qualifiedName : String} {position target : Nat} :
    ∀ declaration : TypeDeclaration,
      (∀ index < declaration.size, move (position + index) = target + index) →
      (declaration.layout origin package owner ownerName simpleName qualifiedName position).map
          (Element.moved move) =
        declaration.layout origin package (owner.map move) ownerName simpleName qualifiedName target
  | ⟨_, _, _, _, _, members⟩ => by
    intro together
    rw [TypeDeclaration.size] at together
    -- The members start right behind the type, and move with it.
    have here : move position = target := together 0 (by omega)
    have below : ∀ index < membersSize members,
        move (position + 1 + index) = target + 1 + index := by
      intro index inside
      rw [Nat.add_assoc, together (1 + index) (by omega), Nat.add_assoc]
    rw [TypeDeclaration.layout, TypeDeclaration.layout, List.map_cons,
      membersLayout_moved _ members below, ← map_memberPositions below, ← here]
    rfl

/-- Members that move together are laid out at the target, around the owner that moves as well. -/
theorem membersLayout_moved {move : Nat → Nat} (scope : Scope) {position target : Nat} :
    ∀ members : List MemberDeclaration,
      (∀ index < membersSize members, move (position + index) = target + index) →
      (membersLayout scope position members).map (Element.moved move) =
        membersLayout { scope with owner := move scope.owner } target members
  | [] => fun _ => rfl
  | .field _ :: rest | .method _ :: rest | .constructor _ :: rest => by
    -- The first member moves with the ones behind it, which start one position later.
    intro together
    rw [membersSize] at together
    rw [membersLayout, membersLayout, List.map_cons, membersLayout_moved scope rest]
    · rfl
    · intro index below
      rw [Nat.add_assoc, together (1 + index) (by omega), Nat.add_assoc]
  | .type declaration :: rest => by
    intro together
    rw [membersSize] at together
    rw [membersLayout, membersLayout, List.map_append,
      declaration.layout_moved fun index inside => together index (by omega),
      membersLayout_moved scope rest]
    · rfl
    · intro index below
      rw [Nat.add_assoc, together (declaration.size + index) (by omega), Nat.add_assoc]

end

/-- Declarations of the classpath and the sources, laid out one behind the other. -/
def declaredElements (position : Nat) : List (Origin × TypeDeclaration) → List Element
  | [] => []
  | (origin, declaration) :: rest =>
    -- The next declaration starts behind all members of this one.
    declaration.elements origin position ++ declaredElements (position + declaration.size) rest

/-- The number of elements of some declarations. -/
def declaredSize : List (Origin × TypeDeclaration) → Nat
  | [] => 0
  | (_, declaration) :: rest => declaration.size + declaredSize rest

/-- As many elements are laid out as the declarations have. -/
@[simp] theorem length_declaredElements (position : Nat)
    (declared : List (Origin × TypeDeclaration)) :
    (declaredElements position declared).length = declaredSize declared := by
  -- The induction is on the declarations, each of which has its own size.
  induction declared generalizing position with
  | nil => rfl
  | cons first rest ih => simp [declaredElements, declaredSize, ih]

/-- Declarations whose elements move together are laid out at the target. -/
theorem declaredElements_moved {move : Nat → Nat} {position target : Nat}
    {declared : List (Origin × TypeDeclaration)}
    (together : ∀ index < declaredSize declared, move (position + index) = target + index) :
    (declaredElements position declared).map (Element.moved move) =
      declaredElements target declared := by
  induction declared generalizing position target with
  | nil => rfl
  | cons first rest ih =>
    obtain ⟨origin, declaration⟩ := first
    have size : declaredSize ((origin, declaration) :: rest) =
        declaration.size + declaredSize rest := rfl
    rw [size] at together
    -- The first declaration moves together, and so do those behind it.
    rw [declaredElements, declaredElements, List.map_append, ih fun index below => ?_]
    · exact congrArg (· ++ _)
        (declaration.layout_moved fun index inside => together index (by omega))
    · rw [Nat.add_assoc, together (declaration.size + index) (by omega), Nat.add_assoc]

/-! ### Names of types that have moved -/

/-- The names under which a type is looked up: as spelled, and inside a package. -/
def spellings (package : Option String) (name : String) : List String :=
  name :: (package.map (qualifiedBy · name)).toList

namespace Model

/-- Whether a name stands for the same type in both models, or for none. -/
def NamesAlike (move : Nat → Nat) (model other : Model) (name : String) : Prop :=
  other.lookup? name = (model.lookup? name).map move

/-- A name inside a package is that of the type that has moved. -/
theorem resolve?_eq {move : Nat → Nat} {model other : Model} {package : Option String}
    {name : String}
    (alike : ∀ spelling ∈ spellings package name, NamesAlike move model other spelling) :
    other.resolve? package name = (model.resolve? package name).map move := by
  simp only [resolve?, show other.lookup? name = _ from alike name (by simp [spellings])]
  -- The package counts only if the name itself stands for no type.
  cases model.lookup? name with
  | some position => rfl
  | none =>
    cases package with
    | none => rfl
    | some package => exact alike (qualifiedBy package name) (by simp [spellings])

end Model

end RuleMetadata

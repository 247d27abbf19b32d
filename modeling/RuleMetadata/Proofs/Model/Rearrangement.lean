import Mathlib.Data.Fintype.Card
import Mathlib.Data.List.Perm.Basic
import Mathlib.Logic.Equiv.Basic
import RuleMetadata.Proofs.Model.Moving

/-! Models from declarations in another order: they are built alike, with their elements moved. -/

namespace RuleMetadata

namespace Model

/-- Whether one model has the elements of another, each at the position that it has moved to. -/
def MovesTo (move : Equiv.Perm Nat) (model other : Model) : Prop :=
  ∀ position, other.elements[move position]? =
    model.elements[position]?.map (Element.moved move)

variable {move further : Equiv.Perm Nat} {model other third : Model}

/-- A model moves to itself. -/
theorem MovesTo.refl (model : Model) : model.MovesTo (Equiv.refl Nat) model := by
  intro position
  -- An element that stays where it is is the same.
  have still : Element.moved id = id := funext Element.moved_id
  rw [Equiv.refl_apply, Equiv.coe_refl, still, Option.map_id, id]

/-- Elements that move twice move to where the second move takes them. -/
theorem MovesTo.trans (first : model.MovesTo move other) (second : other.MovesTo further third) :
    model.MovesTo (move.trans further) third := by
  intro position
  -- The element of the third model is the one of the first, moved twice.
  rw [Equiv.trans_apply, second, first, Option.map_map]
  exact congrArg (Option.map · _) (funext fun element => element.moved_moved _ _)

end Model

/-! ### Declarations in another order -/

/-- Two blocks of positions, one behind the other, change places. -/
def swapBlocks (start first second : Nat) : Equiv.Perm Nat where
  toFun position :=
    if position < start then position
    else if position < start + first then position + second
    else if position < start + first + second then position - first
    else position
  invFun position :=
    if position < start then position
    else if position < start + second then position + first
    else if position < start + second + first then position - second
    else position
  left_inv position := by grind
  right_inv position := by grind

/-- Where a position moves to depends on the block that it lies in. -/
theorem swapBlocks_apply (start first second position : Nat) :
    swapBlocks start first second position =
      if position < start then position
      else if position < start + first then position + second
      else if position < start + first + second then position - first
      else position := rfl

section SwapBlocks

variable {start first second index : Nat}

/-- What stands in front of the two blocks stays. -/
theorem swapBlocks_front (inside : index < start) :
    swapBlocks start first second index = index := by
  rw [swapBlocks_apply, if_pos inside]

/-- The first block moves by the length of the second one. -/
theorem swapBlocks_first (inside : index < first) :
    swapBlocks start first second (start + index) = start + second + index := by
  -- The position lies in the first of the four ranges that move in one piece.
  rw [swapBlocks_apply, if_neg (by omega), if_pos (by omega)]
  omega

/-- The second block moves to where the first one was. -/
theorem swapBlocks_second (inside : index < second) :
    swapBlocks start first second (start + first + index) = start + index := by
  rw [swapBlocks_apply, if_neg (by omega), if_neg (by omega), if_pos (by omega)]
  omega

/-- What stands behind the two blocks stays, whichever comes first. -/
theorem swapBlocks_back :
    swapBlocks start first second (start + first + second + index) =
      start + second + first + index := by
  rw [swapBlocks_apply, if_neg (by omega), if_neg (by omega), if_neg (by omega)]
  omega

end SwapBlocks

/-- Elements in blocks of which two change places stand where the blocks have moved to. -/
theorem getElem?_swapBlocks (front one two back : List Element) (position : Nat) :
    (front ++ (two ++ (one ++ back)))[swapBlocks front.length one.length two.length position]? =
      (front ++ (one ++ (two ++ back)))[position]? := by
  -- Each of the four ranges is found by its own lengths.
  simp only [swapBlocks_apply, List.getElem?_append]
  grind

/-- Declarations one behind the other stand where those in front of them end. -/
theorem declaredElements_append (position : Nat) (front back : List (Origin × TypeDeclaration)) :
    declaredElements position (front ++ back) =
      declaredElements position front ++
        declaredElements (position + declaredSize front) back := by
  -- The induction is on those in front, each of which moves the position on by its size.
  induction front generalizing position with
  | nil => rfl
  | cons first rest ih =>
    simp [declaredElements, declaredSize, ih, Nat.add_assoc]

/-- Declarations of which two parts change places have the same elements, which have moved. -/
theorem movesTo_swap (front one two back : List (Origin × TypeDeclaration)) :
    (Model.mk (declaredElements 0 (front ++ (one ++ (two ++ back)))).toArray).MovesTo
      (swapBlocks (declaredSize front) (declaredSize one) (declaredSize two))
      ⟨(declaredElements 0 (front ++ (two ++ (one ++ back)))).toArray⟩ := by
  intro position
  let move := swapBlocks (declaredSize front) (declaredSize one) (declaredSize two)
  -- Within each of the four parts, all elements move by the same number of positions.
  have front_stays : (declaredElements 0 front).map (Element.moved move) =
      declaredElements 0 front :=
    declaredElements_moved fun index inside => by
      rw [Nat.zero_add]
      exact swapBlocks_front inside
  have one_moves : (declaredElements (declaredSize front) one).map (Element.moved move) =
      declaredElements (declaredSize front + declaredSize two) one :=
    declaredElements_moved fun _ => swapBlocks_first
  have two_moves : (declaredElements (declaredSize front + declaredSize one) two).map
      (Element.moved move) = declaredElements (declaredSize front) two :=
    declaredElements_moved fun _ => swapBlocks_second
  have back_stays : (declaredElements (declaredSize front + declaredSize one + declaredSize two)
      back).map (Element.moved move) =
        declaredElements (declaredSize front + declaredSize two + declaredSize one) back :=
    declaredElements_moved fun _ _ => swapBlocks_back
  have swapped := getElem?_swapBlocks (declaredElements 0 front)
    (declaredElements (declaredSize front + declaredSize two) one)
    (declaredElements (declaredSize front) two)
    (declaredElements (declaredSize front + declaredSize two + declaredSize one) back) position
  simp only [length_declaredElements] at swapped
  simp only [List.getElem?_toArray, ← List.getElem?_map, declaredElements_append, List.map_append,
    Nat.zero_add]
  rw [front_stays, one_moves, two_moves, back_stays, swapped]

/-- Declarations in another order have the same elements, which have moved. -/
theorem exists_move_of_perm {declared others : List (Origin × TypeDeclaration)}
    (same : declared.Perm others) (front : List (Origin × TypeDeclaration)) :
    ∃ move, (Model.mk (declaredElements 0 (front ++ declared)).toArray).MovesTo move
      ⟨(declaredElements 0 (front ++ others)).toArray⟩ := by
  -- The declarations in front stay, so that those behind the first one can be put in order.
  induction same generalizing front with
  | nil => exact ⟨_, .refl _⟩
  | cons first _ ih => simpa using ih (front ++ [first])
  | swap one two rest => exact ⟨_, movesTo_swap front [two] [one] rest⟩
  | trans _ _ first second =>
    obtain ⟨_, moved⟩ := first front
    obtain ⟨_, moved_further⟩ := second front
    exact ⟨_, moved.trans moved_further⟩

/-- Declarations of one origin are laid out alike in either form. -/
theorem declaredElements_map (origin : Origin) (position : Nat)
    (declarations : List TypeDeclaration) :
    declaredElements position (declarations.map (origin, ·)) =
      declarationsElements origin position declarations := by
  -- The induction is on the declarations, whatever position they start from.
  induction declarations generalizing position with
  | nil => rfl
  | cons declaration rest ih =>
    exact congrArg (declaration.elements origin position ++ ·) (ih (position + declaration.size))

namespace Model

/-- The declarations that have elements in a model, in the order of the layout. -/
def declared (sources classpath : List TypeDeclaration) : List (Origin × TypeDeclaration) :=
  (unshadowed sources classpath).map (.classpath, ·) ++ sources.map (.source, ·)

/-- The layout has the elements of the unshadowed classpath and of the sources. -/
theorem layout_eq (sources classpath : List TypeDeclaration) :
    layout sources classpath = declaredElements 0 (declared sources classpath) := by
  -- The classpath comes first, and the sources start where it ends.
  rw [declared, declaredElements_append, declaredElements_map, declaredElements_map, layout,
    Nat.zero_add, ← length_declaredElements 0, declaredElements_map]

/-- The declarations that have elements do not depend on any order. -/
theorem declared_perm {sources others classpath otherClasspath : List TypeDeclaration}
    (sources_perm : sources.Perm others) (classpath_perm : classpath.Perm otherClasspath) :
    (declared sources classpath).Perm (declared others otherClasspath) := by
  -- The same classpath declarations are shadowed.
  have shadowed : shadows sources = shadows others := funext fun _ => sources_perm.any_eq
  have unshadowed_perm :
      (unshadowed sources classpath).Perm (unshadowed others otherClasspath) := by
    rw [unshadowed, unshadowed, shadowed]
    exact classpath_perm.filter _
  exact (unshadowed_perm.map _).append (sources_perm.map _)

/-! ### Models whose elements have moved -/

namespace MovesTo

variable {move : Equiv.Perm Nat} {model other : Model} (moved : model.MovesTo move other)
include moved

/-- Each element has moved from one position. -/
theorem exists_of_getElem? {target : Nat} {counterpart : Element}
    (found : other.elements[target]? = some counterpart) :
    ∃ position element, model.elements[position]? = some element ∧ move position = target ∧
      element.moved move = counterpart := by
  -- Every position is one that another one moves to.
  obtain ⟨position, rfl⟩ := move.surjective target
  rw [moved, Option.map_eq_some_iff] at found
  obtain ⟨element, found, same⟩ := found
  exact ⟨position, element, found, rfl, same⟩

/-- A position is one of the model just when the one that it has moved to is. -/
theorem move_lt_size_iff (position : Nat) : move position < other.size ↔ position < model.size := by
  -- There is no element at a position just when there is none at the other.
  have missing : other.elements[move position]? = none ↔ model.elements[position]? = none := by
    rw [moved, Option.map_eq_none_iff]
  rwa [Array.getElem?_eq_none_iff, Array.getElem?_eq_none_iff, ← not_lt, ← not_lt, not_iff_not]
    at missing

/-- Both models have the same number of elements. -/
theorem size_eq : other.size = model.size :=
  -- The move is one-to-one between the positions of the two models.
  Fin.equiv_iff_eq.1 ⟨(Fin.equivSubtype.trans (move.subtypeEquiv fun position =>
    (moved.move_lt_size_iff position).symm)).trans Fin.equivSubtype.symm⟩ |>.symm

/-- Types with distinct names have distinct names wherever they have moved to. -/
theorem nodup_typeNames (distinct : (typeNames model.elements.toList).Nodup) :
    (typeNames other.elements.toList).Nodup := by
  rw [nodup_typeNames_iff]
  intro left right one two at_left at_right one_type two_type same
  -- Both types have moved from types of the same names, which stand at one position.
  obtain ⟨left, one, from_left, rfl, rfl⟩ := moved.exists_of_getElem? at_left
  obtain ⟨right, two, from_right, rfl, rfl⟩ := moved.exists_of_getElem? at_right
  exact congrArg move (nodup_typeNames_iff.1 distinct from_left from_right one_type two_type same)

/-- Elements that pass the checks pass them wherever they have moved to. -/
theorem exists_checkElements_eq_ok
    (passed : ∃ seen, checkElements [] model.elements.toList = .ok seen) :
    ∃ seen, checkElements [] other.elements.toList = .ok seen := by
  -- The checks look at the names of the types, and at each element by itself.
  rw [exists_checkElements_eq_ok_iff] at passed ⊢
  obtain ⟨distinct, -, typed⟩ := passed
  refine ⟨moved.nodup_typeNames distinct, fun _ _ => List.not_mem_nil, fun counterpart inside => ?_⟩
  obtain ⟨target, at_target⟩ := List.mem_iff_getElem?.1 inside
  obtain ⟨position, element, found, _, rfl⟩ :=
    moved.exists_of_getElem? (Array.getElem?_toList ▸ at_target)
  exact typed element (List.mem_iff_getElem?.2 ⟨position, Array.getElem?_toList ▸ found⟩)

section Names

variable (distinct : (typeNames model.elements.toList).Nodup)
include distinct

/-- A name is that of the type that has moved. -/
theorem lookup? (name : String) : other.lookup? name = (model.lookup? name).map move := by
  -- With distinct names, a type is looked up exactly if it bears the name.
  ext target
  obtain ⟨position, rfl⟩ := move.surjective target
  simp only [Option.map_eq_some_iff, move.injective.eq_iff, exists_eq_right,
    lookup?_eq_some_iff distinct, lookup?_eq_some_iff (moved.nodup_typeNames distinct),
    moved position]
  simp

/-- A name inside a package is that of the type that has moved. -/
theorem resolve? (package : Option String) (name : String) :
    other.resolve? package name = (model.resolve? package name).map move :=
  resolve?_eq fun spelling _ => moved.lookup? distinct spelling

/-- Supertypes are resolved to where they have moved to. -/
theorem link : (link model).MovesTo move (link other) := by
  intro position
  rw [link_getElem?, link_getElem?, moved, Option.map_map, Option.map_map]
  -- Names are resolved to where their types have moved to, in the package that has not changed.
  refine congrArg (Option.map · _) (funext fun element => ?_)
  simp [linked, Element.moved, moved.resolve? distinct, Option.map_bind]

end Names

/-- A chain of supertypes has the same length from where its start has moved to. -/
theorem chainEnds (fuel position : Nat) :
    other.chainEnds fuel (move position) = model.chainEnds fuel position := by
  induction fuel generalizing position with
  | zero => rfl
  | succ fuel ih =>
    simp only [Model.chainEnds, moved position]
    cases model.elements[position]? with
    | none => rfl
    | some element =>
      -- The chains go on where both elements have a supertype.
      cases above : element.supertype with
      | none => simp [above]
      | some next => simpa [above] using ih next

/-- Without a cyclic chain, there is none among the types that have moved. -/
theorem firstCyclic?_eq_none (acyclic : model.firstCyclic? = none) :
    other.firstCyclic? = none := by
  rw [firstCyclic?_eq_none_iff] at acyclic ⊢
  intro target counterpart at_target type
  -- A type that has moved has the chain of where it comes from.
  obtain ⟨position, element, found, rfl, rfl⟩ := moved.exists_of_getElem? at_target
  rw [moved.size_eq, moved.chainEnds]
  exact acyclic found type

end MovesTo

/-- Declarations that form a model form one in any order, with the same elements, which have
moved. -/
theorem exists_build_of_perm {sources others classpath otherClasspath : List TypeDeclaration}
    (sources_perm : sources.Perm others) (classpath_perm : classpath.Perm otherClasspath)
    {model : Model} (built : build sources classpath = .ok model) :
    ∃ move other, build others otherClasspath = .ok other ∧ model.MovesTo move other := by
  obtain ⟨distinct, classpath_distinct, passed, rfl, acyclic⟩ := build_eq_ok_iff.1 built
  -- The elements have moved before their supertypes are resolved, and move on with them.
  obtain ⟨move, moved⟩ := exists_move_of_perm (declared_perm sources_perm classpath_perm) []
  rw [List.nil_append, List.nil_append, ← layout_eq, ← layout_eq] at moved
  have linked := moved.link (exists_checkElements_eq_ok_iff.1 passed).1
  refine ⟨move, _, build_eq_ok_iff.2 ⟨?_, ?_, ?_, rfl, linked.firstCyclic?_eq_none acyclic⟩,
    linked⟩
  · exact (sources_perm.map _).nodup_iff.1 distinct
  · exact (classpath_perm.map _).nodup_iff.1 classpath_distinct
  · exact moved.exists_checkElements_eq_ok passed

end Model

end RuleMetadata

import Mathlib.Data.List.Sort
import RuleMetadata.Proofs.Model.Preorder

/-! Models are forests: their elements are the declarations in preorder, and all links between them
agree. -/

namespace RuleMetadata

namespace IsLaidOut

variable {declared : List (Origin × TypeDeclaration)} {position outer : Nat}
  {entry : MemberDeclaration} {element above : Element}
  (laid : IsLaidOut declared position entry element)
include laid

/-- At one position, one element is laid out, for one entry. -/
theorem unique {other : MemberDeclaration} {another : Element}
    (again : IsLaidOut declared position other another) : entry = other ∧ element = another := by
  -- Both stand in the same two lists, at the same position.
  have one := laid.standsAt
  have two := again.standsAt
  obtain rfl : element = another := Option.some.inj (one.found.symm.trans two.found)
  exact ⟨(Prod.mk.inj (Option.some.inj (one.listed.symm.trans two.listed))).2, rfl⟩

/-- An element without an owner is a top-level type. -/
theorem top_of_owner (owner : element.owner = none) : ∃ origin declaration,
    (position, origin, declaration) ∈ declaredPositions 0 declared ∧
      entry = .type declaration ∧ element = declaration.element origin position := by
  -- A member has an owner.
  cases laid with
  | top starts => exact ⟨_, _, starts, rfl, rfl⟩
  | member => cases owner

/-- An element with an owner is a member of what is laid out there. -/
theorem member_of_owner (owner : element.owner = some outer) :
    ∃ around above front back, IsLaidOut declared outer around above ∧
      around.members = front ++ entry :: back ∧ position = outer + 1 + membersSize front ∧
        element = entry.element (above.scope outer) position := by
  -- A top-level type has no owner.
  cases laid with
  | top => cases owner
  | member outside split =>
    obtain rfl := Option.some.inj owner
    exact ⟨_, _, _, _, outside, split, rfl, rfl⟩

/-- What is laid out encloses just the elements that it owns. -/
theorem mem_enclosed_iff {inner : Nat} :
    inner ∈ element.enclosed ↔ Nests declared position inner := by
  rw [laid.standsAt.enclosed, mem_memberPositions_iff]
  -- The positions of the members are counted from behind the element, past those in front.
  constructor
  · rintro ⟨front, member, back, split, rfl⟩
    exact ⟨member, _, .member laid split, rfl⟩
  · rintro ⟨member, below, inside, owner⟩
    obtain ⟨_, _, front, back, outside, split, rfl, _⟩ := inside.member_of_owner owner
    obtain ⟨rfl, _⟩ := laid.unique outside
    exact ⟨front, member, back, split, rfl⟩

/-- What is declared in an entry, at some depth, lies in its block. -/
theorem mem_block_of_nests {inner : Nat}
    (below : Relation.ReflTransGen (Nests declared) position inner) :
    position ≤ inner ∧ inner < position + entry.size := by
  -- Along the way down, each block lies within the one before.
  suffices within : ∃ member element, IsLaidOut declared inner member element ∧
      position ≤ inner ∧ inner + member.size ≤ position + entry.size by
    obtain ⟨member, _, _, behind, ends⟩ := within
    have positive := member.size_pos
    omega
  induction below with
  | refl => exact ⟨entry, element, laid, Nat.le_refl _, Nat.le_refl _⟩
  | tail _ step ih =>
    obtain ⟨around, above, outside, behind, ends⟩ := ih
    obtain ⟨member, inside, at_inner, owner⟩ := step
    obtain ⟨_, _, front, back, at_outer, split, rfl, _⟩ := at_inner.member_of_owner owner
    obtain ⟨rfl, _⟩ := outside.unique at_outer
    refine ⟨member, inside, at_inner, by omega, ?_⟩
    have sizes : around.size = 1 + (membersSize front + (member.size + membersSize back)) := by
      rw [around.size_eq, split, membersSize_eq_sum, List.map_append, List.sum_append,
        ← membersSize_eq_sum, ← membersSize_eq_sum, membersSize_cons]
    omega

/-- The elements that are declared in an entry, at some depth, are those of its block. -/
theorem reflTransGen_nests_iff {inner : Nat} :
    Relation.ReflTransGen (Nests declared) position inner ↔
      position ≤ inner ∧ inner < position + entry.size := by
  -- What is nested lies in the block, and all of the block is nested by induction on the offset.
  constructor
  · exact laid.mem_block_of_nests
  · rintro ⟨behind, ends⟩
    have below := (laid.exists_below (inner - position) (by omega)).2
    rwa [Nat.add_sub_cancel' behind] at below

/-- The kind of an element is that of its entry. -/
theorem kind_eq (origin : Origin) : element.kind = (entry.features origin).kind := by
  -- The origin does not matter to the kind of an entry.
  rw [show element.kind = element.features.kind from rfl, laid.standsAt.features]
  cases entry <;> rfl

/-- A type is laid out for the declaration of one. -/
theorem exists_of_kind (type : element.kind = .type) :
    ∃ declaration, entry = .type declaration := by
  -- The kind of an element is that of what declares it.
  rw [laid.kind_eq .source] at type
  cases entry with
  | type declaration => exact ⟨declaration, rfl⟩
  | _ => cases type

/-- What has members is a type. -/
theorem kind_of_members (present : entry.members ≠ []) : element.kind = .type := by
  -- Only types have members of their own.
  rw [laid.kind_eq .source]
  cases entry with
  | type declaration => rfl
  | _ => cases present rfl

/-- A type has the supertype expression of its declaration. -/
theorem superclass_eq {declaration : TypeDeclaration} (entered : entry = .type declaration) :
    element.superclass = declaration.superclass.map .ofText := by
  subst entered
  exact congrArg Features.superclass laid.standsAt.features

/-- What is no type has no supertype expression. -/
theorem superclass_of_member (member : element.kind ≠ .type) : element.superclass = none := by
  -- Only types have a superclass among their features.
  rw [laid.kind_eq .source] at member
  rw [show element.superclass = element.features.superclass from rfl, laid.standsAt.features]
  cases entry with
  | type declaration => cases member rfl
  | _ => rfl

end IsLaidOut

namespace Model

/-- What is declared for a model, in preorder: the unshadowed classpath, and then the sources. -/
def listing (sources classpath : List TypeDeclaration) : List (Origin × MemberDeclaration) :=
  declaredPreorder (declared sources classpath)

/-- Whether the element at one position is the owner of that at another. -/
def Owns (model : Model) (outer inner : Nat) : Prop :=
  ∃ element, model.elements[inner]? = some element ∧ element.owner = some outer

/-- Whether a model is the forest that declarations make. -/
structure IsForest (sources classpath : List TypeDeclaration) (model : Model) : Prop where
  /-- The elements are what is declared, in preorder. -/
  preorder : model.elements.toList.map Element.features =
    (listing sources classpath).map fun (origin, entry) => entry.features origin
  /-- An element without an owner is a top-level type, named as it was declared. -/
  top : ∀ {position : Nat} {element : Element}, model.elements[position]? = some element →
    element.owner = none → ∃ declaration,
      (element.origin, declaration) ∈ declared sources classpath ∧
      (listing sources classpath)[position]? = some (element.origin, .type declaration) ∧
      element.qualifiedName = declaration.name ∧ element.simpleName = lastName declaration.name ∧
      element.package = packageOf declaration.name ∧
      element.ownerName = packageOf declaration.name
  /-- An owner is a type in front of its members, and its name the first part of theirs. -/
  member : ∀ {position outer : Nat} {element : Element},
    model.elements[position]? = some element → element.owner = some outer →
      ∃ above entry, model.elements[outer]? = some above ∧ outer < position ∧
        above.kind = .type ∧
        (listing sources classpath)[position]? = some (element.origin, entry) ∧
        element.simpleName = entry.simpleNameIn above.simpleName ∧
        element.qualifiedName = above.qualifiedName ++ "." ++ element.simpleName ∧
        element.ownerName = some above.qualifiedName ∧
        element.package = above.package ∧ element.origin = above.origin
  /-- An element encloses just the elements that it owns. -/
  mem_enclosed_iff : ∀ {position : Nat} {element : Element},
    model.elements[position]? = some element →
      ∀ inner, inner ∈ element.enclosed ↔ model.Owns position inner
  /-- A member is enclosed by one element alone. -/
  existsUnique_enclosing : ∀ {position : Nat} {element : Element},
    model.elements[position]? = some element → element.owner ≠ none →
      ∃! outer : Nat, ∃ above : Element,
        model.elements[outer]? = some above ∧ position ∈ above.enclosed
  /-- Enclosed elements are the declared members in order, behind their owner and without
  repetition. -/
  enclosed : ∀ {position : Nat} {element : Element},
    model.elements[position]? = some element → ∃ entry,
      (listing sources classpath)[position]? = some (element.origin, entry) ∧
      element.enclosed.map ((listing sources classpath)[·]?) =
        entry.members.map (fun member => some (element.origin, member)) ∧
      (position :: element.enclosed).Pairwise (· < ·)
  /-- What is declared in a type, at some depth, takes the positions from the type on. -/
  subtree : ∀ {position : Nat} {element : Element},
    model.elements[position]? = some element → element.kind = .type → ∃ declaration,
      (listing sources classpath)[position]? = some (element.origin, .type declaration) ∧
      ∀ inner, Relation.ReflTransGen model.Owns position inner ↔
        position ≤ inner ∧ inner < position + declaration.preorder.length
  /-- A name is looked up to the one type that bears it. -/
  lookup?_iff : ∀ {name : String} {position : Nat}, model.lookup? name = some position ↔
    ∃ element, model.elements[position]? = some element ∧ element.kind = .type ∧
      element.qualifiedName = name
  /-- No two types have one name. -/
  names : (typeNames model.elements.toList).Nodup
  /-- The top-level types are those of the sources, and then those of the classpath. -/
  topLevel : model.topLevel.map some =
    (sources ++ unshadowed sources classpath).map fun declaration => model.lookup? declaration.name
  /-- A supertype is what its expression resolves to. -/
  supertype : ∀ {position : Nat} {element : Element},
    model.elements[position]? = some element →
      element.supertype = element.superclass.bind fun reference =>
        model.resolve? element.package reference.erase
  /-- Only a type has a supertype. -/
  supertype_of_member : ∀ {position : Nat} {element : Element},
    model.elements[position]? = some element → element.kind ≠ .type →
      element.superclass = none ∧ element.supertype = none

section Built

variable {sources classpath : List TypeDeclaration} {model : Model}
  (built : build sources classpath = .ok model)
include built

/-- A model links an element as the elements that it was linked from do. -/
theorem linked_of_build (element : Element) :
    linked ⟨(layout sources classpath).toArray⟩ element = model.linked element := by
  obtain ⟨_, _, _, rfl, _⟩ := build_eq_ok_iff.1 built
  -- A supertype is resolved by the names of the types, which are there before.
  simp only [linked, resolve?, lookup?_link]

/-- The elements of a model are those that its declarations lay out, with their supertypes. -/
theorem getElem?_eq_some_iff_isLaidOut {position : Nat} {element : Element} :
    model.elements[position]? = some element ↔ ∃ entry unlinked,
      IsLaidOut (declared sources classpath) position entry unlinked ∧
        element = model.linked unlinked := by
  -- The model is the layout with every element linked.
  have elements : model.elements[position]? =
      (declaredElements 0 (declared sources classpath))[position]?.map model.linked := by
    rw [← layout_eq, ← Array.getElem?_toList, elements_of_build built, List.getElem?_map,
      funext (linked_of_build built)]
  rw [elements, Option.map_eq_some_iff]
  constructor
  · rintro ⟨unlinked, found, rfl⟩
    obtain ⟨entry, laid⟩ := getElem?_declaredElements_iff.1 found
    exact ⟨entry, unlinked, laid, rfl⟩
  · rintro ⟨entry, unlinked, laid, rfl⟩
    exact ⟨unlinked, laid.standsAt.found, rfl⟩

/-- The owners in a model are those of the layout. -/
theorem owns_eq_nests : model.Owns = Nests (declared sources classpath) := by
  -- Linking supertypes changes no owner.
  funext outer inner
  refine propext ⟨?_, ?_⟩
  · rintro ⟨_, found, owner⟩
    obtain ⟨entry, unlinked, laid, rfl⟩ := (getElem?_eq_some_iff_isLaidOut built).1 found
    exact ⟨entry, unlinked, laid, owner⟩
  · rintro ⟨entry, unlinked, laid, owner⟩
    exact ⟨_, (getElem?_eq_some_iff_isLaidOut built).2 ⟨entry, unlinked, laid, rfl⟩, owner⟩

/-- The top-level types of one origin stand where their declarations start. -/
theorem positions_top (origin : Origin) :
    model.positions (fun element => element.owner.isNone && element.origin = origin) =
      ((declaredPositions 0 (declared sources classpath)).filter (·.2.1 = origin)).map (·.1) := by
  -- Both lists increase, so that it is enough that they have the same members.
  refine List.Pairwise.eq_of_mem_iff (List.pairwise_lt_range.filter _)
    ((pairwise_declaredPositions.filter _).map _ fun _ _ => id) fun position => ?_
  show position ∈ model.positions _ ↔ _
  rw [mem_positions_iff]
  constructor
  · rintro ⟨element, found, unowned⟩
    rw [Bool.and_eq_true, Option.isNone_iff_eq_none, decide_eq_true_eq] at unowned
    obtain ⟨owner, rfl⟩ := unowned
    obtain ⟨_, _, laid, rfl⟩ := (getElem?_eq_some_iff_isLaidOut built).1 found
    obtain ⟨origin, declaration, starts, rfl, rfl⟩ := laid.top_of_owner owner
    exact List.mem_map.2 ⟨_, List.mem_filter.2 ⟨starts, decide_eq_true rfl⟩, rfl⟩
  · intro inside
    obtain ⟨⟨position, _, declaration⟩, picked, rfl⟩ := List.mem_map.1 inside
    obtain ⟨starts, same⟩ := List.mem_filter.1 picked
    obtain rfl := of_decide_eq_true same
    have found := (getElem?_eq_some_iff_isLaidOut built).2 ⟨_, _, .top starts, rfl⟩
    exact ⟨_, found, by simp [linked, TypeDeclaration.element]⟩

/-- The top-level types of one origin are found by the names of the declarations, in order. -/
theorem map_positions_top (origin : Origin) :
    (model.positions fun element => element.owner.isNone && element.origin = origin).map some =
      ((declared sources classpath).filter (·.1 = origin)).map (model.lookup? ·.2.name) := by
  -- A declared name is looked up to the position where its declaration starts.
  have found : ∀ start ∈ (declaredPositions 0 (declared sources classpath)).filter
      (·.2.1 = origin), some start.1 = model.lookup? start.2.2.name := by
    rintro ⟨position, origin, declaration⟩ inside
    have starts := (List.mem_filter.1 inside).1
    have stands := (getElem?_eq_some_iff_isLaidOut built).2 ⟨_, _, .top starts, rfl⟩
    exact ((lookup?_eq_some_iff (typeNames_nodup built)).2 ⟨_, stands, rfl, rfl⟩).symm
  calc (model.positions _).map some
      = ((declaredPositions 0 (declared sources classpath)).filter (·.2.1 = origin)).map
          (some ·.1) := by rw [positions_top built, List.map_map]; rfl
    _ = ((declaredPositions 0 (declared sources classpath)).filter (·.2.1 = origin)).map
          (model.lookup? ·.2.2.name) := List.map_congr_left found
    _ = (((declaredPositions 0 (declared sources classpath)).map (·.2)).filter
          (·.1 = origin)).map (model.lookup? ·.2.name) := by
        rw [List.filter_map, List.map_map]; rfl
    _ = _ := by rw [map_snd_declaredPositions]

/-- The elements of a model are what is declared, in preorder. -/
theorem map_features_of_build : model.elements.toList.map Element.features =
    (listing sources classpath).map fun (origin, entry) => entry.features origin := by
  -- Resolving supertypes changes none of the features.
  calc model.elements.toList.map Element.features
      = (declaredElements 0 (declared sources classpath)).map Element.features := by
        rw [elements_of_build built, layout_eq, List.map_map]
        rfl
    _ = _ := map_features_declaredElements _

/-- An element of a model encloses just the elements that it owns. -/
theorem mem_enclosed_iff_owns {position inner : Nat} {element : Element}
    (found : model.elements[position]? = some element) :
    inner ∈ element.enclosed ↔ model.Owns position inner := by
  -- Linking supertypes changes neither members nor owners.
  obtain ⟨_, _, laid, rfl⟩ := (getElem?_eq_some_iff_isLaidOut built).1 found
  rw [owns_eq_nests built]
  exact laid.mem_enclosed_iff

/-- The owner of an element is there, and encloses it. -/
theorem exists_enclosing_of_owner {position outer : Nat} {element : Element}
    (found : model.elements[position]? = some element) (owner : element.owner = some outer) :
    ∃ above, model.elements[outer]? = some above ∧ position ∈ above.enclosed := by
  obtain ⟨_, _, laid, rfl⟩ := (getElem?_eq_some_iff_isLaidOut built).1 found
  obtain ⟨_, _, _, _, outside, _, _, _⟩ := laid.member_of_owner owner
  -- The member was laid out inside of what is at its owner.
  have above_found := (getElem?_eq_some_iff_isLaidOut built).2 ⟨_, _, outside, rfl⟩
  exact ⟨_, above_found, (mem_enclosed_iff_owns built above_found).2 ⟨_, found, owner⟩⟩

/-- Declarations that form a model make it a forest. -/
theorem isForest_of_build : model.IsForest sources classpath where
  -- Each element of the model is a laid-out one, which only got its links.
  preorder := map_features_of_build built
  top found owner := by
    obtain ⟨_, _, laid, rfl⟩ := (getElem?_eq_some_iff_isLaidOut built).1 found
    obtain ⟨origin, declaration, starts, rfl, rfl⟩ := laid.top_of_owner owner
    exact ⟨declaration, exists_mem_declaredPositions_iff.1 ⟨_, starts⟩, laid.standsAt.listed, rfl,
      rfl, rfl, rfl⟩
  member found owner := by
    obtain ⟨entry, _, laid, rfl⟩ := (getElem?_eq_some_iff_isLaidOut built).1 found
    obtain ⟨around, above, front, back, outside, split, rfl, rfl⟩ := laid.member_of_owner owner
    have above_found := (getElem?_eq_some_iff_isLaidOut built).2 ⟨_, _, outside, rfl⟩
    have type : above.kind = .type := outside.kind_of_members (by simp [split])
    exact ⟨_, entry, above_found, by omega, type, laid.standsAt.listed, rfl, rfl, rfl, rfl, rfl⟩
  mem_enclosed_iff found _ := mem_enclosed_iff_owns built found
  existsUnique_enclosing found owned := by
    obtain ⟨outer, owner⟩ := Option.ne_none_iff_exists'.1 owned
    refine ⟨outer, exists_enclosing_of_owner built found owner, ?_⟩
    rintro other ⟨above, above_found, inside⟩
    obtain ⟨_, again, other_owner⟩ := (mem_enclosed_iff_owns built above_found).1 inside
    obtain rfl := Option.some.inj (found.symm.trans again)
    exact Option.some.inj (other_owner.symm.trans owner)
  enclosed found := by
    have follow := membersFollow_of_build built found
    obtain ⟨entry, _, laid, rfl⟩ := (getElem?_eq_some_iff_isLaidOut built).1 found
    exact ⟨entry, laid.standsAt.listed, laid.standsAt.map_enclosed, follow⟩
  subtree found type := by
    obtain ⟨entry, _, laid, rfl⟩ := (getElem?_eq_some_iff_isLaidOut built).1 found
    obtain ⟨declaration, rfl⟩ := laid.exists_of_kind type
    refine ⟨declaration, laid.standsAt.listed, fun inner => ?_⟩
    rw [owns_eq_nests built, declaration.length_preorder]
    exact laid.reflTransGen_nests_iff
  lookup?_iff := lookup?_eq_some_iff (typeNames_nodup built)
  names := typeNames_nodup built
  topLevel := by
    rw [Model.topLevel, List.map_append, map_positions_top built, map_positions_top built]
    simp [declared, List.filter_map, Function.comp_def]
  supertype found := by
    obtain ⟨_, _, _, rfl⟩ := (getElem?_eq_some_iff_isLaidOut built).1 found
    rfl
  supertype_of_member found member := by
    obtain ⟨_, _, laid, rfl⟩ := (getElem?_eq_some_iff_isLaidOut built).1 found
    have absent := laid.superclass_of_member member
    exact ⟨absent, by rw [linked, absent]; rfl⟩

end Built

/-- A type with a nested type between two fields, which extends a type of the classpath by its
simple name. -/
def nesting : List TypeDeclaration :=
  [{ name := "p.Outer", superclass := some "Base<String>"
     members := [.field { name := "front", type := some "int" },
      .type { name := "Inner", members := [.constructor {}, .method { name := "run" }] },
      -- Its element stands behind those of the nested type.
      .field { name := "back", type := some "int" }] }]

/-- A classpath with another type of the outer type's name, and with its supertype. -/
def nestingClasspath : List TypeDeclaration :=
  [{ name := "p.Outer", members := [.method { name := "hidden" }] },
   { name := "p.Base", members := [.field { name := "shared", type := some "int" }] }]

/-- The model of the types. -/
def nestingModel : Model :=
  (build nesting nestingClasspath).toOption.getD ⟨#[]⟩

/-- The nested type stands between the fields around it, behind the classpath that is not hidden. -/
theorem isForest_of_build_nesting :
    build nesting nestingClasspath = .ok nestingModel ∧
      nestingModel.IsForest nesting nestingClasspath ∧
      nestingModel.elements.toList.map (·.qualifiedName) =
        ["p.Base", "p.Base.shared", "p.Outer", "p.Outer.front", "p.Outer.Inner",
          "p.Outer.Inner.Inner", "p.Outer.Inner.run", "p.Outer.back"] ∧
      nestingModel.elements.toList.map (·.enclosed) =
        [[1], [], [3, 4, 7], [], [5, 6], [], [], []] ∧
      nestingModel.topLevel = [2, 0] := by
  -- The theorem tells the shape, and what it amounts to here is computed.
  have built : build nesting nestingClasspath = .ok nestingModel := by decide +kernel
  exact ⟨built, isForest_of_build built, by decide +kernel, by decide +kernel, by decide +kernel⟩

end Model

end RuleMetadata

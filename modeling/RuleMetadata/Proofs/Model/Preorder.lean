import Mathlib.Algebra.BigOperators.Group.List.Basic
import Mathlib.Algebra.Ring.Nat
import Mathlib.Logic.Relation
import RuleMetadata.Proofs.Model.Rearrangement

/-! Declarations in preorder: every position of a layout is reached from the one of a top-level
type, and holds what is declared there. -/

namespace RuleMetadata

/-! ### What an element takes from its declaration -/

/-- What an element has from its own declaration, whatever stands around it. -/
structure Features where
  kind : ElementKind
  declaredType : Option TypeExpr := none
  superclass : Option TypeExpr := none
  interfaces : List TypeExpr := []
  markers : List Marker
  doc : Option String
  origin : Origin
  deriving DecidableEq, Repr

/-- The features of an element. -/
def Element.features (element : Element) : Features where
  kind := element.kind
  declaredType := element.declaredType
  superclass := element.superclass
  interfaces := element.interfaces
  markers := element.markers
  doc := element.doc
  origin := element.origin

namespace MemberDeclaration

/-- The features that are declared; documentation counts as long as it is live. -/
def features (origin : Origin) : MemberDeclaration → Features
  | .field declaration =>
    { kind := .field, declaredType := declaration.type.map .ofText
      markers := declaration.markers, doc := liveDoc origin declaration.doc, origin }
  | .method declaration =>
    { kind := .method, declaredType := some (.ofText declaration.returns)
      markers := declaration.markers, doc := liveDoc origin declaration.doc, origin }
  -- A constructor declares no type.
  | .constructor declaration =>
    { kind := .constructor
      markers := declaration.markers, doc := liveDoc origin declaration.doc, origin }
  | .type declaration =>
    { kind := .type, superclass := declaration.superclass.map .ofText
      interfaces := declaration.interfaces.map .ofText
      markers := declaration.markers, doc := liveDoc origin declaration.doc, origin }

/-- The simple name of a member; a constructor bears that of the type around it. -/
def simpleNameIn (ownerSimpleName : String) : MemberDeclaration → String
  | .field declaration => declaration.name
  | .method declaration => declaration.name
  | .constructor _ => ownerSimpleName
  | .type declaration => declaration.name

/-- What is declared directly in a member: only a type has members of its own. -/
def members : MemberDeclaration → List MemberDeclaration
  | .type declaration => declaration.members
  | _ => []

/-- What is declared in a type are its members. -/
@[simp] theorem members_type (declaration : TypeDeclaration) :
    (MemberDeclaration.type declaration).members = declaration.members := rfl

/-- The element that a member makes in the scope of the type around it. -/
def element (scope : Scope) (position : Nat) (member : MemberDeclaration) : Element :=
  let features := member.features scope.origin
  let simpleName := member.simpleNameIn scope.ownerSimpleName
  { kind := features.kind, simpleName, qualifiedName := qualifiedBy scope.ownerName simpleName
    declaredType := features.declaredType, owner := some scope.owner
    superclass := features.superclass, interfaces := features.interfaces
    -- Only a type has members; for the others the list is empty.
    enclosed := memberPositions (position + 1) member.members
    markers := features.markers, doc := features.doc, origin := scope.origin
    package := scope.package, ownerName := some scope.ownerName }

/-- A member has one element for itself, and those of its own members. -/
theorem size_eq (member : MemberDeclaration) : member.size = 1 + membersSize member.members := by
  -- Only a type has members, which are counted by the same recursion.
  cases member with
  | type declaration =>
    obtain ⟨_, _, _, _, _, _⟩ := declaration
    rfl
  | _ => rfl

end MemberDeclaration

/-- The scope of the members of an element at a position. -/
def Element.scope (element : Element) (position : Nat) : Scope :=
  ⟨element.origin, element.package, position, element.qualifiedName, element.simpleName⟩

/-- The element of a top-level type. -/
def TypeDeclaration.element (origin : Origin) (position : Nat) (declaration : TypeDeclaration) :
    Element :=
  let features := (MemberDeclaration.type declaration).features origin
  { kind := .type, simpleName := lastName declaration.name, qualifiedName := declaration.name
    superclass := features.superclass, interfaces := features.interfaces
    enclosed := memberPositions (position + 1) declaration.members
    markers := features.markers, doc := features.doc, origin
    -- A top-level type is owned by its package.
    package := packageOf declaration.name, ownerName := packageOf declaration.name }

/-! ### Preorder -/

mutual

/-- What a declared type brings along: itself, and then what its members bring. -/
def TypeDeclaration.preorder : TypeDeclaration → List MemberDeclaration
  | ⟨name, superclass, interfaces, doc, markers, members⟩ =>
    .type ⟨name, superclass, interfaces, doc, markers, members⟩ :: membersPreorder members

/-- What members bring along, one member after the other. -/
def membersPreorder : List MemberDeclaration → List MemberDeclaration
  | [] => []
  | .field declaration :: rest => .field declaration :: membersPreorder rest
  | .method declaration :: rest => .method declaration :: membersPreorder rest
  | .constructor declaration :: rest => .constructor declaration :: membersPreorder rest
  -- All that a nested type brings stands in front of the next member.
  | .type declaration :: rest => declaration.preorder ++ membersPreorder rest

end

/-- A declared type comes before what is declared in it. -/
theorem TypeDeclaration.preorder_eq (declaration : TypeDeclaration) :
    declaration.preorder = .type declaration :: membersPreorder declaration.members := by
  -- The recursion takes the declaration apart first.
  obtain ⟨_, _, _, _, _, _⟩ := declaration
  rfl

/-- A member comes before what is declared in it, and that before the next member. -/
theorem membersPreorder_cons (member : MemberDeclaration) (rest : List MemberDeclaration) :
    membersPreorder (member :: rest) =
      member :: (membersPreorder member.members ++ membersPreorder rest) := by
  -- Only a type has members, which are listed behind it.
  cases member with
  | type declaration => rw [membersPreorder, declaration.preorder_eq]; rfl
  | _ => rfl

/-- The element of a member comes before those of its own members, and these before the next
member. -/
theorem membersLayout_cons (scope : Scope) (position : Nat) (member : MemberDeclaration)
    (rest : List MemberDeclaration) :
    membersLayout scope position (member :: rest) =
      member.element scope position ::
        (membersLayout ((member.element scope position).scope position) (position + 1)
          member.members ++ membersLayout scope (position + member.size) rest) := by
  -- In all four cases, the layout spells out the same element.
  cases member with
  | type declaration =>
    obtain ⟨_, _, _, _, _, _⟩ := declaration
    rfl
  | _ => rfl

/-- The element of a top-level type comes before those of its members. -/
theorem TypeDeclaration.elements_eq (origin : Origin) (position : Nat)
    (declaration : TypeDeclaration) :
    declaration.elements origin position =
      declaration.element origin position ::
        membersLayout ((declaration.element origin position).scope position) (position + 1)
          declaration.members := by
  -- The recursion takes the declaration apart first.
  obtain ⟨_, _, _, _, _, _⟩ := declaration
  rfl

mutual

/-- A declared type brings along as many entries as it has elements. -/
@[simp] theorem TypeDeclaration.length_preorder :
    ∀ declaration : TypeDeclaration, declaration.preorder.length = declaration.size
  | ⟨_, _, _, _, _, members⟩ => by
    -- The type itself is one entry, and its members bring along theirs.
    simp only [TypeDeclaration.preorder, TypeDeclaration.size, List.length_cons,
      length_membersPreorder members, Nat.add_comm]

/-- Members bring along as many entries as they have elements. -/
@[simp] theorem length_membersPreorder :
    ∀ members : List MemberDeclaration, (membersPreorder members).length = membersSize members
  | [] => rfl
  | .field _ :: rest | .method _ :: rest | .constructor _ :: rest => by
    simp only [membersPreorder, membersSize, List.length_cons, length_membersPreorder rest,
      Nat.add_comm]
  | .type declaration :: rest => by
    -- A type brings along an entry for each of its elements.
    simp only [membersPreorder, membersSize, List.length_append, declaration.length_preorder,
      length_membersPreorder rest]

end

/-- Members in two parts bring along what the first part brings, and then what the second does. -/
theorem membersPreorder_append (front back : List MemberDeclaration) :
    membersPreorder (front ++ back) = membersPreorder front ++ membersPreorder back := by
  -- The induction is on the first part, which is passed member by member.
  induction front with
  | nil => rfl
  | cons member rest ih =>
    rw [List.cons_append, membersPreorder_cons, membersPreorder_cons, ih, List.cons_append,
      List.append_assoc]

/-- Members in two parts are laid out one part behind the other. -/
theorem membersLayout_append (scope : Scope) (position : Nat)
    (front back : List MemberDeclaration) :
    membersLayout scope position (front ++ back) =
      membersLayout scope position front ++
        membersLayout scope (position + membersSize front) back := by
  -- The induction is on the first part, each member of which moves the position on by its size.
  induction front generalizing position with
  | nil => rfl
  | cons member rest ih =>
    rw [List.cons_append, membersLayout_cons, membersLayout_cons, ih, membersSize_cons,
      List.cons_append, List.append_assoc, Nat.add_assoc]

/-! ### Positions in blocks -/

/-- In blocks of given sizes, one behind the other, every index falls into one of the blocks. -/
theorem exists_block_of_lt_sum {α : Type} (size : α → Nat) {blocks : List α} {index : Nat}
    (inside : index < (blocks.map size).sum) :
    ∃ front block back further, blocks = front ++ block :: back ∧ further < size block ∧
      index = (front.map size).sum + further := by
  induction blocks generalizing index with
  | nil => simp at inside
  | cons first rest ih =>
    rw [List.map_cons, List.sum_cons] at inside
    rcases Nat.lt_or_ge index (size first) with here | behind
    · exact ⟨[], first, rest, index, rfl, here, by simp⟩
    · -- Behind the first block, the index is counted from its end.
      obtain ⟨front, block, back, further, rfl, within, counted⟩ :=
        @ih (index - size first) (by omega)
      refine ⟨first :: front, block, back, further, rfl, within, ?_⟩
      rw [List.map_cons, List.sum_cons]
      omega

/-- Members have together the sizes of all of them. -/
theorem membersSize_eq_sum (members : List MemberDeclaration) :
    membersSize members = (members.map MemberDeclaration.size).sum := by
  -- The size of the first member is added to those of the others.
  induction members with
  | nil => rfl
  | cons member rest ih => rw [membersSize_cons, ih, List.map_cons, List.sum_cons]

/-- Members in two parts have the sizes of both. -/
theorem membersSize_append (front back : List MemberDeclaration) :
    membersSize (front ++ back) = membersSize front + membersSize back := by
  simp [membersSize_eq_sum]

/-- Declarations have together the sizes of all of them. -/
theorem declaredSize_eq_sum (declared : List (Origin × TypeDeclaration)) :
    declaredSize declared = (declared.map (·.2.size)).sum := by
  -- The size of the first declaration is added to those of the others.
  induction declared with
  | nil => rfl
  | cons first rest ih => rw [declaredSize, ih, List.map_cons, List.sum_cons]

/-- The positions of members are those behind the members in front of each. -/
theorem mem_memberPositions_iff {start position : Nat} {members : List MemberDeclaration} :
    position ∈ memberPositions start members ↔ ∃ front member back,
      members = front ++ member :: back ∧ position = start + membersSize front := by
  induction members generalizing start with
  | nil => simp [memberPositions]
  | cons first rest ih =>
    rw [memberPositions, List.mem_cons, ih]
    constructor
    · rintro (rfl | ⟨front, member, back, rfl, rfl⟩)
      · exact ⟨[], first, rest, rfl, rfl⟩
      · exact ⟨first :: front, member, back, rfl, by rw [membersSize_cons, Nat.add_assoc]⟩
    · rintro ⟨front, member, back, split, rfl⟩
      -- The member is the first one, or stands behind it.
      cases front with
      | nil => exact .inl rfl
      | cons _ front =>
        obtain ⟨rfl, rfl⟩ := List.cons.inj split
        exact .inr ⟨front, member, back, rfl, by rw [membersSize_cons, Nat.add_assoc]⟩

/-! ### What stands at a position -/

/-- The entries that declarations bring along, each with the origin of its declaration. -/
def declaredPreorder (declared : List (Origin × TypeDeclaration)) :
    List (Origin × MemberDeclaration) :=
  declared.flatMap fun (origin, declaration) => declaration.preorder.map (origin, ·)

/-- Whether an element stands at a position of a layout and was declared as a member or type, and
what that declares follows behind it. -/
structure StandsAt (elements : List Element) (entries : List (Origin × MemberDeclaration))
    (position : Nat) (entry : MemberDeclaration) (element : Element) : Prop where
  found : elements[position]? = some element
  listed : entries[position]? = some (element.origin, entry)
  features : element.features = entry.features element.origin
  enclosed : element.enclosed = memberPositions (position + 1) entry.members
  -- Its members come right behind it, each with its own members.
  layout : membersLayout (element.scope position) (position + 1) entry.members <+:
    elements.drop (position + 1)
  preorder : (membersPreorder entry.members).map (element.origin, ·) <+:
    entries.drop (position + 1)

section Standing

variable {elements : List Element} {entries : List (Origin × MemberDeclaration)}

/-- Where members are laid out, the first of them stands. -/
theorem standsAt_of_membersLayout {scope : Scope} {position : Nat} {member : MemberDeclaration}
    {rest : List MemberDeclaration}
    (layout : membersLayout scope position (member :: rest) <+: elements.drop position)
    (preorder : (membersPreorder (member :: rest)).map (scope.origin, ·) <+:
      entries.drop position) :
    StandsAt elements entries position member (member.element scope position) := by
  rw [membersLayout_cons] at layout
  rw [membersPreorder_cons, List.map_cons, List.map_append] at preorder
  -- The member stands first, and what it declares follows.
  obtain ⟨found, layout⟩ := standing_cons layout
  obtain ⟨listed, preorder⟩ := standing_cons preorder
  refine ⟨found, listed, ?_, rfl, (standing_append layout).1, (standing_append preorder).1⟩
  cases member <;> rfl

namespace StandsAt

variable {position : Nat} {entry member : MemberDeclaration} {element : Element}
  {front back : List MemberDeclaration}
  (stands : StandsAt elements entries position entry element)
include stands

/-- Each member of what stands at a position stands behind it, and behind the members in front. -/
theorem of_split (split : entry.members = front ++ member :: back) :
    StandsAt elements entries (position + 1 + membersSize front) member
      (member.element (element.scope position) (position + 1 + membersSize front)) := by
  -- What is in front has as many elements as entries, and is passed on both sides.
  have layout := stands.layout
  have preorder := stands.preorder
  rw [split, membersLayout_append] at layout
  rw [split, membersPreorder_append, List.map_append] at preorder
  have layout_behind := (standing_append layout).2
  have preorder_behind := (standing_append preorder).2
  rw [length_membersLayout] at layout_behind
  rw [List.length_map, length_membersPreorder] at preorder_behind
  exact standsAt_of_membersLayout layout_behind preorder_behind

/-- The members of what stands at a position are entered at the positions that it encloses, in the
order of declaration. -/
theorem map_enclosed :
    element.enclosed.map (entries[·]?) = entry.members.map fun member =>
      some (element.origin, member) := by
  rw [stands.enclosed]
  -- The members that were passed are in front, so that each one stands where it is looked up.
  suffices behind : ∀ front back, entry.members = front ++ back →
      (memberPositions (position + 1 + membersSize front) back).map (entries[·]?) =
        back.map fun member => some (element.origin, member) from behind [] entry.members rfl
  intro front back split
  induction back generalizing front with
  | nil => rfl
  | cons member rest ih =>
    have next := ih (front ++ [member]) (by rw [split, List.append_assoc]; rfl)
    have passed : membersSize (front ++ [member]) = membersSize front + member.size := by
      simp [membersSize_eq_sum]
    rw [passed, ← Nat.add_assoc] at next
    rw [memberPositions, List.map_cons, List.map_cons, next, (stands.of_split split).listed]
    rfl

end StandsAt

end Standing

/-! ### Layouts of declarations -/

/-- Declarations in a row, each with the position at which it starts. -/
def declaredPositions (start : Nat) :
    List (Origin × TypeDeclaration) → List (Nat × Origin × TypeDeclaration)
  | [] => []
  -- A type takes one place and those of its members.
  | first :: rest => (start, first) :: declaredPositions (start + first.2.size) rest

section Declared

variable {start position : Nat} {origin : Origin} {declaration : TypeDeclaration}
  {declared : List (Origin × TypeDeclaration)}

/-- The positions of declarations leave out none of them, and keep their order. -/
@[simp] theorem map_snd_declaredPositions :
    (declaredPositions start declared).map (·.2) = declared := by
  -- The induction is on the declarations, whatever position they start from.
  induction declared generalizing start with
  | nil => rfl
  | cons first rest ih => rw [declaredPositions, List.map_cons, ih]

/-- A declaration starts behind those in front of it. -/
theorem mem_declaredPositions_iff :
    (position, origin, declaration) ∈ declaredPositions start declared ↔ ∃ front back,
      declared = front ++ (origin, declaration) :: back ∧
        position = start + declaredSize front := by
  induction declared generalizing start with
  | nil => simp [declaredPositions]
  | cons first rest ih =>
    rw [declaredPositions, List.mem_cons, ih, Prod.mk.injEq]
    constructor
    · rintro (⟨rfl, rfl⟩ | ⟨front, back, rfl, rfl⟩)
      · exact ⟨[], rest, rfl, rfl⟩
      · exact ⟨first :: front, back, rfl, by rw [declaredSize, Nat.add_assoc]⟩
    · rintro ⟨front, back, split, rfl⟩
      -- The declaration is the first one, or stands behind it.
      cases front with
      | nil => exact .inl ⟨rfl, (List.cons.inj split).1.symm⟩
      | cons _ front =>
        obtain ⟨rfl, rfl⟩ := List.cons.inj split
        exact .inr ⟨front, back, rfl, by rw [declaredSize, Nat.add_assoc]⟩

/-- Just the declarations have a position. -/
theorem exists_mem_declaredPositions_iff :
    (∃ position, (position, origin, declaration) ∈ declaredPositions start declared) ↔
      (origin, declaration) ∈ declared := by
  -- Leaving out the positions leaves just the declarations.
  calc (∃ position, (position, origin, declaration) ∈ declaredPositions start declared)
      ↔ (origin, declaration) ∈ (declaredPositions start declared).map (·.2) := by
        simp only [List.mem_map, Prod.exists, exists_eq_right]
    _ ↔ (origin, declaration) ∈ declared := by rw [map_snd_declaredPositions]

/-- Declarations start one behind the other. -/
theorem pairwise_declaredPositions :
    (declaredPositions start declared).Pairwise (·.1 < ·.1) := by
  induction declared generalizing start with
  | nil => exact .nil
  | cons first rest ih =>
    refine List.pairwise_cons.2 ⟨?_, ih⟩
    rintro ⟨position, origin, declaration⟩ behind
    obtain ⟨front, back, _, rfl⟩ := mem_declaredPositions_iff.1 behind
    -- A declaration has an element, so that the next one starts behind it.
    have positive : 0 < first.2.size := (MemberDeclaration.type first.2).size_pos
    show start < start + first.2.size + declaredSize front
    omega

/-- Declarations bring along as many entries as they have elements. -/
@[simp] theorem length_declaredPreorder :
    (declaredPreorder declared).length = declaredSize declared := by
  -- The induction is on the declarations, each of which has as many entries as elements.
  induction declared with
  | nil => rfl
  | cons first rest ih =>
    rw [declaredSize, ← ih]
    simp [declaredPreorder]

/-- A top-level type stands where its declaration starts. -/
theorem standsAt_of_mem_declaredPositions
    (starts : (position, origin, declaration) ∈ declaredPositions 0 declared) :
    StandsAt (declaredElements 0 declared) (declaredPreorder declared) position
      (.type declaration) (declaration.element origin position) := by
  obtain ⟨front, back, rfl, rfl⟩ := mem_declaredPositions_iff.1 starts
  rw [Nat.zero_add]
  -- What is in front has one element for each entry, and is passed on both sides.
  have layout : declaration.elements origin (declaredSize front) <+:
      (declaredElements 0 (front ++ (origin, declaration) :: back)).drop (declaredSize front) := by
    rw [declaredElements_append, Nat.zero_add, ← length_declaredElements 0 front, List.drop_left]
    exact List.prefix_append _ _
  have preorder : declaration.preorder.map (origin, ·) <+:
      (declaredPreorder (front ++ (origin, declaration) :: back)).drop (declaredSize front) := by
    rw [declaredPreorder, List.flatMap_append, ← declaredPreorder, ← length_declaredPreorder,
      List.drop_left]
    exact List.prefix_append _ _
  rw [declaration.elements_eq] at layout
  rw [declaration.preorder_eq] at preorder
  obtain ⟨found, layout⟩ := standing_cons layout
  obtain ⟨listed, preorder⟩ := standing_cons preorder
  exact ⟨found, listed, rfl, rfl, layout, preorder⟩

end Declared

/-- Whether declarations put an entry at a position as an element: a top-level type where its
declaration starts, or a member behind the members in front of it. -/
inductive IsLaidOut (declared : List (Origin × TypeDeclaration)) :
    Nat → MemberDeclaration → Element → Prop where
  | top {position : Nat} {origin : Origin} {declaration : TypeDeclaration} :
    (position, origin, declaration) ∈ declaredPositions 0 declared →
      IsLaidOut declared position (.type declaration) (declaration.element origin position)
  -- The members in front take as many places as they have elements.
  | member {outer : Nat} {entry : MemberDeclaration} {above : Element}
      {front : List MemberDeclaration} {member : MemberDeclaration}
      {back : List MemberDeclaration} :
    IsLaidOut declared outer entry above → entry.members = front ++ member :: back →
      IsLaidOut declared (outer + 1 + membersSize front) member
        (member.element (above.scope outer) (outer + 1 + membersSize front))

/-- Whether the element at one position is owned by that at another. -/
def Nests (declared : List (Origin × TypeDeclaration)) (outer inner : Nat) : Prop :=
  ∃ entry element, IsLaidOut declared inner entry element ∧ element.owner = some outer

namespace IsLaidOut

variable {declared : List (Origin × TypeDeclaration)} {position : Nat} {entry : MemberDeclaration}
  {element : Element}

/-- What is laid out stands at its position. -/
theorem standsAt (laid : IsLaidOut declared position entry element) :
    StandsAt (declaredElements 0 declared) (declaredPreorder declared) position entry element := by
  -- The induction is on how it is laid out, from the top-level type inward.
  induction laid with
  | top starts => exact standsAt_of_mem_declaredPositions starts
  | member _ split ih => exact ih.of_split split

/-- Everything in the block of what is laid out is laid out, and declared in it at some depth. -/
theorem exists_below (laid : IsLaidOut declared position entry element) :
    ∀ index < entry.size, (∃ below inner, IsLaidOut declared (position + index) below inner) ∧
      Relation.ReflTransGen (Nests declared) position (position + index) := by
  -- The block of a member is smaller, and the same holds in it.
  induction size : entry.size using Nat.strongRecOn generalizing position entry element with
  | ind size ih =>
    subst size
    intro index inside
    rw [entry.size_eq] at inside
    cases index with
    | zero => exact ⟨⟨entry, element, laid⟩, .refl⟩
    | succ index =>
      have among : index < (entry.members.map MemberDeclaration.size).sum := by
        rw [← membersSize_eq_sum]
        omega
      obtain ⟨front, member, back, further, split, within, rfl⟩ :=
        exists_block_of_lt_sum MemberDeclaration.size among
      have smaller : member.size < entry.size := by
        rw [entry.size_eq, split, membersSize_eq_sum, List.map_append, List.sum_append,
          List.map_cons, List.sum_cons]
        omega
      have next : IsLaidOut declared (position + 1 + membersSize front) member _ :=
        .member laid split
      obtain ⟨below, nested⟩ := ih member.size smaller next rfl further within
      have passed : position + ((front.map MemberDeclaration.size).sum + further + 1) =
          position + 1 + membersSize front + further := by
        rw [membersSize_eq_sum]
        omega
      rw [passed]
      exact ⟨below, .head ⟨member, _, next, rfl⟩ nested⟩

end IsLaidOut

/-- At each position of a layout something is laid out. -/
theorem exists_isLaidOut {declared : List (Origin × TypeDeclaration)} {position : Nat}
    (inside : position < declaredSize declared) :
    ∃ entry element, IsLaidOut declared position entry element := by
  rw [declaredSize_eq_sum] at inside
  obtain ⟨front, ⟨origin, declaration⟩, back, further, split, within, rfl⟩ :=
    exists_block_of_lt_sum _ inside
  -- The position is in the block of some top-level type.
  have starts : ((front.map (·.2.size)).sum, origin, declaration) ∈ declaredPositions 0 declared :=
    mem_declaredPositions_iff.2 ⟨front, back, split, by rw [declaredSize_eq_sum, Nat.zero_add]⟩
  exact ((IsLaidOut.top starts).exists_below further within).1

/-- The elements of a layout are those that are laid out at its positions. -/
theorem getElem?_declaredElements_iff {declared : List (Origin × TypeDeclaration)} {position : Nat}
    {element : Element} : (declaredElements 0 declared)[position]? = some element ↔
      ∃ entry, IsLaidOut declared position entry element := by
  constructor
  · intro found
    have inside := (List.getElem?_eq_some_iff.1 found).1
    rw [length_declaredElements] at inside
    -- Something is laid out at every position, and one thing alone.
    obtain ⟨entry, laid_out, laid⟩ := exists_isLaidOut inside
    obtain rfl : element = laid_out := Option.some.inj (found.symm.trans laid.standsAt.found)
    exact ⟨entry, laid⟩
  · rintro ⟨entry, laid⟩
    exact laid.standsAt.found

/-- The elements of a layout are what is declared, in preorder. -/
theorem map_features_declaredElements (declared : List (Origin × TypeDeclaration)) :
    (declaredElements 0 declared).map Element.features =
      (declaredPreorder declared).map fun (origin, entry) => entry.features origin := by
  refine List.ext_getElem? fun position => ?_
  rw [List.getElem?_map, List.getElem?_map]
  -- Where there is an element, its entry stands; elsewhere there is neither.
  cases found : (declaredElements 0 declared)[position]? with
  | some element =>
    obtain ⟨entry, laid⟩ := getElem?_declaredElements_iff.1 found
    rw [laid.standsAt.listed]
    exact congrArg some laid.standsAt.features
  | none =>
    rw [List.getElem?_eq_none_iff, length_declaredElements, ← length_declaredPreorder] at found
    rw [List.getElem?_eq_none found]
    rfl

end RuleMetadata

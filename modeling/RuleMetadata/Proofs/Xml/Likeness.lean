import Mathlib.Data.List.Find
import Mathlib.Data.List.Forall2
import RuleMetadata.Xml.Basic

/-! Elements that are alike: they differ in the order of their attributes, and in text that stands
between child elements where it does not matter. -/

namespace RuleMetadata.Xml

/-! ### Nodes in a row -/

/-- The elements among nodes. -/
def elementsOf (nodes : List Node) : List Tree :=
  nodes.filterMap fun
    | .element name attributes children => some ⟨name, attributes, children⟩
    | .text _ => none

/-- The text among nodes, without that inside of the elements. -/
def textOf (nodes : List Node) : List Char :=
  nodes.flatMap fun
    | .text value => value
    | .element .. => []

/-- There is no element among no nodes. -/
@[simp] theorem elementsOf_nil : elementsOf [] = [] := rfl

/-- A text is no element. -/
@[simp] theorem elementsOf_text (value : List Char) (rest : List Node) :
    elementsOf (.text value :: rest) = elementsOf rest := rfl

/-- An element is the first one of the nodes that it stands in front of. -/
@[simp] theorem elementsOf_toNode (tree : Tree) (rest : List Node) :
    elementsOf (tree.toNode :: rest) = tree :: elementsOf rest := rfl

/-- Elements are collected in the order of their nodes. -/
@[simp] theorem elementsOf_append (front back : List Node) :
    elementsOf (front ++ back) = elementsOf front ++ elementsOf back :=
  List.filterMap_append

/-- There is no text among no nodes. -/
@[simp] theorem textOf_nil : textOf [] = [] := rfl

/-- A text stands in front of the text behind it. -/
@[simp] theorem textOf_text (value : List Char) (rest : List Node) :
    textOf (.text value :: rest) = value ++ textOf rest := rfl

/-- What is inside of an element is no text of the nodes. -/
@[simp] theorem textOf_toNode (tree : Tree) (rest : List Node) :
    textOf (tree.toNode :: rest) = textOf rest := rfl

/-- Texts are collected in the order of their nodes. -/
@[simp] theorem textOf_append (front back : List Node) :
    textOf (front ++ back) = textOf front ++ textOf back :=
  List.flatMap_append

/-- The elements among nodes that are elements are those. -/
@[simp] theorem elementsOf_map_toNode {α : Type} (make : α → Tree) (items : List α) :
    elementsOf (items.map fun item => (make item).toNode) = items.map make := by
  -- Each item puts its one element in front of those of the others.
  induction items with
  | nil => rfl
  | cons item rest ih => simp [ih]

/-- There is no text among nodes that are elements. -/
@[simp] theorem textOf_map_toNode {α : Type} (make : α → Tree) (items : List α) :
    textOf (items.map fun item => (make item).toNode) = [] := by
  -- No item has a text of its own beside its element.
  induction items with
  | nil => rfl
  | cons item rest ih => simp [ih]

/-- The elements among nodes are nodes there. -/
theorem toNode_mem_of_mem_elementsOf {nodes : List Node} {tree : Tree}
    (inside : tree ∈ elementsOf nodes) : tree.toNode ∈ nodes := by
  -- An element was made from a node that is an element, and made into a node it is that one.
  obtain ⟨node, member, made⟩ := List.mem_filterMap.1 inside
  cases node with
  | text value => cases made
  | element name attributes children =>
    obtain rfl := Option.some.inj made
    exact member

/-- The content of an element is the text among its children. -/
theorem Tree.content_eq (tree : Tree) : tree.content = String.ofList (textOf tree.children) := rfl

/-- The children of a name are found among the child elements. -/
theorem Tree.childrenNamed_eq (tree : Tree) (base : String) :
    tree.childrenNamed base = (elementsOf tree.children).filter (·.name.base = base) := by
  -- Both pick the elements from the front, one asks for the name at once and the other one later.
  obtain ⟨name, attributes, children⟩ := tree
  simp only [childrenNamed, elementsOf]
  induction children with
  | nil => rfl
  | cons child rest ih =>
    cases child with
    | text value => simpa using ih
    | element child_name _ _ =>
      by_cases same : child_name.base = base <;> simp [same, ih]

/-- The children of a name have that name. -/
theorem Tree.base_of_mem_childrenNamed {tree child : Tree} {base : String}
    (inside : child ∈ tree.childrenNamed base) : child.name.base = base := by
  -- They are picked by that name.
  rw [childrenNamed_eq, List.mem_filter] at inside
  simpa using inside.2

/-! ### Alike elements -/

/-- Whether elements have the same name, attributes of the same values, and child elements that are
alike one by one. Only where it does not matter, their texts may differ. -/
inductive Tree.Alike (loose : String → Bool) : Tree → Tree → Prop where
  | intro {one other : Tree} (name : one.name = other.name)
    -- The order of attributes does not matter, as long as each name finds the same value.
    (attributes : ∀ wanted, one.attribute? wanted = other.attribute? wanted)
    (content : loose other.name.base = false → one.content = other.content)
    -- The order of elements does.
    (elements : List.Forall₂ (Tree.Alike loose) (elementsOf one.children)
      (elementsOf other.children)) : Tree.Alike loose one other

namespace Tree.Alike

variable {loose : String → Bool} {one other : Tree} (alike : one.Alike loose other)
include alike

/-- Elements that are alike have one name. -/
theorem name_eq : one.name = other.name := by
  cases alike
  assumption

/-- Every attribute has the same value in both. -/
theorem attribute?_eq (wanted : String) : one.attribute? wanted = other.attribute? wanted := by
  cases alike with
  | intro _ attributes _ _ => exact attributes wanted

/-- Where text matters, it is the same. -/
theorem content_eq (strict : loose other.name.base = false) : one.content = other.content := by
  cases alike with
  | intro _ _ content _ => exact content strict

/-- The children of a name are alike one by one. -/
theorem childrenNamed (base : String) :
    List.Forall₂ (Alike loose) (one.childrenNamed base) (other.childrenNamed base) := by
  cases alike with
  | intro _ _ _ elements =>
    -- The elements have the same names one by one, so the same ones are picked on both sides.
    rw [childrenNamed_eq, childrenNamed_eq]
    refine List.rel_filter (fun left right same => ?_) elements
    simp [same.name_eq]

/-- The first children of a name are alike, if there are any. -/
theorem child? (base : String) :
    Option.Rel (Alike loose) (one.child? base) (other.child? base) := by
  rw [Tree.child?, Tree.child?]
  -- The first child is the head of the children of its name, which are alike in length too.
  have named := alike.childrenNamed base
  generalize one.childrenNamed base = left at named ⊢
  generalize other.childrenNamed base = right at named ⊢
  cases named with
  | nil => exact .none
  | cons first _ => exact .some first

end Tree.Alike

end RuleMetadata.Xml

import RuleMetadata.Model.Element

/-! Where the elements of declarations stand, and what of them does not depend on it. -/

namespace RuleMetadata

/-! ### Sizes -/

mutual

/-- A declared type has as many elements as its size says, wherever they stand. -/
@[simp] theorem TypeDeclaration.length_layout (origin : Origin) (package : Option String)
    (owner : Option Nat) (ownerName : Option String) (simpleName qualifiedName : String)
    (position : Nat) : ∀ declaration : TypeDeclaration,
      (declaration.layout origin package owner ownerName simpleName qualifiedName position).length =
        declaration.size
  | ⟨_, _, _, _, _, members⟩ => by
    -- The type counts one, and its members count by the same recursion.
    simp only [TypeDeclaration.layout, TypeDeclaration.size, List.length_cons,
      length_membersLayout, Nat.add_comm]

/-- A list of members has as many elements as its size says, wherever they stand. -/
@[simp] theorem length_membersLayout (scope : Scope) (position : Nat) :
    ∀ members : List MemberDeclaration,
      (membersLayout scope position members).length = membersSize members
  | [] => rfl
  | .field _ :: rest | .method _ :: rest | .constructor _ :: rest => by
    simp only [membersLayout, membersSize, List.length_cons, length_membersLayout scope _ rest,
      Nat.add_comm]
  | .type declaration :: rest => by
    -- A type has the elements of all its members behind its own.
    simp only [membersLayout, membersSize, List.length_append, TypeDeclaration.length_layout,
      length_membersLayout scope _ rest]

end

/-- A top-level declaration has as many elements as its size says. -/
@[simp] theorem TypeDeclaration.length_elements (origin : Origin) (position : Nat)
    (declaration : TypeDeclaration) :
    (declaration.elements origin position).length = declaration.size := by
  simp [TypeDeclaration.elements]

/-- Declarations one after the other stand where those in front of them end. -/
theorem declarationsElements_append (origin : Origin) (position : Nat)
    (front back : List TypeDeclaration) :
    declarationsElements origin position (front ++ back) =
      declarationsElements origin position front ++
        declarationsElements origin
          (position + (declarationsElements origin position front).length) back := by
  -- The declarations in front are passed one by one, and each moves the position by its size.
  induction front generalizing position with
  | nil => simp [declarationsElements]
  | cons declaration rest ih =>
    simp [declarationsElements, ih, Nat.add_assoc]

/-! ### What the checks see -/

namespace Element

/-- What decides whether elements form a model: kind, qualified name, and whether a type is
declared. -/
def outward (element : Element) : ElementKind × String × Bool :=
  (element.kind, element.qualifiedName, element.declaredType.isSome)

end Element

mutual

/-- The checks see a declared type by its qualified name alone, wherever it stands. -/
theorem TypeDeclaration.outward_layout {origin other : Origin}
    {package otherPackage : Option String} {owner otherOwner : Option Nat}
    {ownerName otherName : Option String} {simpleName qualifiedName : String}
    {position otherPosition : Nat} :
    ∀ declaration : TypeDeclaration,
      (declaration.layout origin package owner ownerName simpleName qualifiedName position).map
          Element.outward =
        (declaration.layout other otherPackage otherOwner otherName simpleName qualifiedName
          otherPosition).map Element.outward
  | ⟨_, _, _, _, _, members⟩ => by
    -- The scopes of the members agree in their names, which is all that is outward of them.
    simp only [TypeDeclaration.layout, List.map_cons]
    exact congrArg _ (outward_membersLayout (by rfl) (by rfl) members)

/-- The checks see members by the names of the type around them alone, wherever they stand. -/
theorem outward_membersLayout {scope other : Scope} {position otherPosition : Nat}
    (named : scope.ownerName = other.ownerName)
    (called : scope.ownerSimpleName = other.ownerSimpleName) :
    ∀ members : List MemberDeclaration,
      (membersLayout scope position members).map Element.outward =
        (membersLayout other otherPosition members).map Element.outward
  | [] => rfl
  | .field _ :: rest | .method _ :: rest | .constructor _ :: rest => by
    simp only [membersLayout, List.map_cons, Element.outward, named, called]
    exact congrArg _ (outward_membersLayout named called rest)
  | .type declaration :: rest => by
    -- A type names its members itself, so the scope matters to its own name alone.
    simp only [membersLayout, List.map_append, named]
    exact congr (congrArg _ declaration.outward_layout) (outward_membersLayout named called rest)

end

/-! ### What a later round sees -/

namespace Element

/-- An element as a later round sees it: compiled before, and without its documentation. -/
def outline (element : Element) : Element :=
  { element with origin := .classpath, doc := none }

end Element

mutual

/-- On the classpath, a declared type has the same elements, but for their documentation. -/
theorem TypeDeclaration.layout_classpath {origin : Origin} {package : Option String}
    {owner : Option Nat} {ownerName : Option String} {simpleName qualifiedName : String}
    {position : Nat} : ∀ declaration : TypeDeclaration,
      declaration.layout .classpath package owner ownerName simpleName qualifiedName position =
        (declaration.layout origin package owner ownerName simpleName qualifiedName position).map
          Element.outline
  | ⟨_, _, _, _, _, members⟩ => by
    -- The type is an outline by definition, and its members are by the other induction.
    simp only [TypeDeclaration.layout, List.map_cons]
    exact congrArg _ (membersLayout_classpath ⟨origin, package, position, qualifiedName, simpleName⟩
      (position + 1) members)

/-- On the classpath, members have the same elements, but for their documentation. -/
theorem membersLayout_classpath (scope : Scope) (position : Nat) :
    ∀ members : List MemberDeclaration,
      membersLayout { scope with origin := .classpath } position members =
        (membersLayout scope position members).map Element.outline
  | [] => rfl
  | .field _ :: rest | .method _ :: rest | .constructor _ :: rest => by
    simp only [membersLayout, List.map_cons]
    exact congrArg _ (membersLayout_classpath scope _ rest)
  | .type declaration :: rest => by
    -- A type hands its origin down to its members.
    simp only [membersLayout, List.map_append]
    exact congr (congrArg _ (declaration.layout_classpath))
      (membersLayout_classpath scope _ rest)

end

/-- On the classpath, top-level declarations have the same elements, but for their
documentation. -/
theorem declarationsElements_classpath (origin : Origin) (position : Nat)
    (declarations : List TypeDeclaration) :
    declarationsElements .classpath position declarations =
      (declarationsElements origin position declarations).map Element.outline := by
  -- An outline counts as the element itself, so that all positions agree.
  induction declarations generalizing position with
  | nil => rfl
  | cons declaration rest ih =>
    simp only [declarationsElements, List.map_append, ih]
    exact congrArg (· ++ _) declaration.layout_classpath

mutual

/-- Every element of a declared type comes from where the type does. -/
theorem TypeDeclaration.origin_layout {origin : Origin} {package : Option String}
    {owner : Option Nat} {ownerName : Option String} {simpleName qualifiedName : String}
    {position : Nat} : ∀ declaration : TypeDeclaration, ∀ element ∈
      declaration.layout origin package owner ownerName simpleName qualifiedName position,
      element.origin = origin
  | ⟨_, _, _, _, _, members⟩ => by
    -- The scope of the members has the origin of the type.
    simp only [TypeDeclaration.layout, List.forall_mem_cons, true_and]
    exact origin_membersLayout ⟨origin, package, position, qualifiedName, simpleName⟩ _ members

/-- Every member comes from where the type around it does. -/
theorem origin_membersLayout (scope : Scope) (position : Nat) :
    ∀ members : List MemberDeclaration, ∀ element ∈ membersLayout scope position members,
      element.origin = scope.origin
  | [] => by simp [membersLayout]
  | .field _ :: rest | .method _ :: rest | .constructor _ :: rest => by
    simp only [membersLayout, List.forall_mem_cons, true_and]
    exact origin_membersLayout scope _ rest
  | .type declaration :: rest => by
    -- A type hands its origin down to its members.
    simp only [membersLayout, List.forall_mem_append]
    exact ⟨declaration.origin_layout, origin_membersLayout scope _ rest⟩

end

/-- Every element of top-level declarations comes from where the declarations do. -/
theorem origin_declarationsElements (origin : Origin) (position : Nat)
    (declarations : List TypeDeclaration) :
    ∀ element ∈ declarationsElements origin position declarations, element.origin = origin := by
  -- Each declaration hands its origin down to its elements.
  induction declarations generalizing position with
  | nil => simp [declarationsElements]
  | cons declaration rest ih =>
    simp only [declarationsElements, List.forall_mem_append]
    exact ⟨declaration.origin_layout, ih _⟩

/-! ### Owners -/

/-- Whether an element stands where its names say: a top-level type in its package, and a member
in a type of the elements that bears its owner's name. -/
def Element.IsPlaced (elements : List Element) (element : Element) : Prop :=
  match element.owner with
  -- A top-level type is placed by its own name alone.
  | none =>
    element.kind = .type ∧ element.ownerName = packageOf element.qualifiedName ∧
      element.simpleName = lastName element.qualifiedName
  -- The name of a member goes on from that of the type around it.
  | some owner => ∃ outer, elements[owner]? = some outer ∧ outer.kind = .type ∧
      element.ownerName = some outer.qualifiedName ∧
      element.qualifiedName = qualifiedBy outer.qualifiedName element.simpleName

/-- Elements that stand at a position of a list are one element there, and the others behind it. -/
theorem standing_cons {α : Type} {elements rest : List α} {element : α} {position : Nat}
    (standing : element :: rest <+: elements.drop position) :
    elements[position]? = some element ∧ rest <+: elements.drop (position + 1) := by
  -- Dropping the elements in front of the position leaves this one first, and then the others.
  obtain ⟨back, split⟩ := standing
  constructor
  · rw [← List.head?_drop, ← split]
    rfl
  · refine ⟨back, ?_⟩
    rw [← List.drop_drop, ← split]
    rfl

/-- Elements that stand at a position of a list in two parts stand one part behind the other. -/
theorem standing_append {α : Type} {elements front rest : List α} {position : Nat}
    (standing : front ++ rest <+: elements.drop position) :
    front <+: elements.drop position ∧ rest <+: elements.drop (position + front.length) := by
  -- Dropping as many elements more as the first part has leaves the second part in front.
  obtain ⟨back, split⟩ := standing
  refine ⟨⟨rest ++ back, by simpa using split⟩, ⟨back, ?_⟩⟩
  rw [← List.drop_drop, ← split, List.append_assoc, List.drop_left]

mutual

/-- The elements of a declared type are placed, as soon as the type itself is. -/
theorem TypeDeclaration.isPlaced_layout {elements : List Element} {origin : Origin}
    {package : Option String} {owner : Option Nat} {ownerName : Option String}
    {simpleName qualifiedName : String} {position : Nat}
    (placed : ∀ element : Element, element.kind = .type → element.owner = owner →
      element.ownerName = ownerName → element.simpleName = simpleName →
      element.qualifiedName = qualifiedName → element.IsPlaced elements) :
    ∀ declaration : TypeDeclaration,
      declaration.layout origin package owner ownerName simpleName qualifiedName position <+:
        elements.drop position →
      ∀ element ∈
        declaration.layout origin package owner ownerName simpleName qualifiedName position,
        element.IsPlaced elements
  | ⟨_, _, _, _, _, members⟩ => by
    intro standing
    rw [TypeDeclaration.layout] at standing ⊢
    -- The type stands first, and its members stand behind it.
    obtain ⟨found, below⟩ := standing_cons standing
    rw [List.forall_mem_cons]
    exact ⟨placed _ rfl rfl rfl rfl rfl, isPlaced_membersLayout found rfl rfl members below⟩

/-- Members are placed, as soon as the type around them is found. -/
theorem isPlaced_membersLayout {elements : List Element} {scope : Scope} {position : Nat}
    {outer : Element} (found : elements[scope.owner]? = some outer) (type : outer.kind = .type)
    (named : outer.qualifiedName = scope.ownerName) :
    ∀ members : List MemberDeclaration,
      membersLayout scope position members <+: elements.drop position →
      ∀ element ∈ membersLayout scope position members, element.IsPlaced elements
  | [] => by simp [membersLayout]
  | .field _ :: rest | .method _ :: rest | .constructor _ :: rest => by
    intro standing
    rw [membersLayout] at standing ⊢
    rw [List.forall_mem_cons]
    -- The owner of the member is the type around it, and its name is made from that type's.
    exact ⟨⟨outer, found, type, by rw [named], by rw [named]⟩,
      isPlaced_membersLayout found type named rest (standing_cons standing).2⟩
  | .type declaration :: rest => by
    intro standing
    rw [membersLayout] at standing ⊢
    obtain ⟨inside, behind⟩ := standing_append standing
    rw [TypeDeclaration.length_layout] at behind
    rw [List.forall_mem_append]
    refine ⟨declaration.isPlaced_layout ?_ inside,
      isPlaced_membersLayout found type named rest behind⟩
    -- A nested type is owned as every other member is.
    intro element _ owner ownerName simpleName qualifiedName
    rw [Element.IsPlaced, owner]
    exact ⟨outer, found, type, by rw [ownerName, named], by rw [qualifiedName, simpleName, named]⟩

end

/-- The elements of top-level declarations are placed in every list in which they stand. -/
theorem isPlaced_declarationsElements {elements : List Element} {origin : Origin} {position : Nat}
    {declarations : List TypeDeclaration}
    (standing : declarationsElements origin position declarations <+: elements.drop position) :
    ∀ element ∈ declarationsElements origin position declarations, element.IsPlaced elements := by
  -- A top-level type takes its package and simple name from its qualified name.
  induction declarations generalizing position with
  | nil => simp [declarationsElements]
  | cons declaration rest ih =>
    obtain ⟨inside, behind⟩ := standing_append standing
    rw [TypeDeclaration.length_elements] at behind
    rw [declarationsElements, List.forall_mem_append]
    refine ⟨declaration.isPlaced_layout ?_ inside, ih behind⟩
    intro element type owner ownerName simpleName qualifiedName
    rw [Element.IsPlaced, owner]
    exact ⟨type, by rw [ownerName, qualifiedName], by rw [simpleName, qualifiedName]⟩

end RuleMetadata

import RuleMetadata.Proofs.Model.Resolution
import RuleMetadata.Proofs.Model.Shadowing

/-! Valid inputs: declarations form a model just when no name is repeated, every field has a type,
and no type is above itself. -/

namespace RuleMetadata

/-! ### Declared types -/

/-- The types that members declare are those that each nested type among them declares. -/
theorem mem_membersNamedTypes_iff {ownerName : String} {members : List MemberDeclaration}
    {named : String × TypeDeclaration} : named ∈ membersNamedTypes ownerName members ↔
      ∃ declaration, .type declaration ∈ members ∧
        named ∈ declaration.namedTypes (qualifiedBy ownerName declaration.name) := by
  -- Other members declare no type, and are passed over.
  induction members with
  | nil => simp [membersNamedTypes]
  | cons member rest ih =>
    cases member with
    | type declaration => simp [membersNamedTypes, ih, or_and_right, exists_or]
    | _ => simp [membersNamedTypes, ih]

/-- What is laid out belongs to a top-level type: it has the package of that one, and the types that
it declares are among those that that one declares. -/
theorem IsLaidOut.exists_top {declared : List (Origin × TypeDeclaration)} {position : Nat}
    {entry : MemberDeclaration} {element : Element}
    (laid : IsLaidOut declared position entry element) :
    ∃ top, (element.origin, top) ∈ declared ∧ element.package = packageOf top.name ∧
      ∀ declaration, entry = .type declaration →
        declaration.namedTypes element.qualifiedName ⊆ top.namedTypes top.name := by
  -- On the way down, the package stays the same, and fewer types are declared at each step.
  induction laid with
  | @top position origin declaration starts =>
    refine ⟨declaration, exists_mem_declaredPositions_iff.1 ⟨_, starts⟩, rfl, ?_⟩
    rintro _ ⟨⟩
    exact List.Subset.refl _
  | @member outer entry above front member back outside split ih =>
    obtain ⟨top, listed, package, within⟩ := ih
    refine ⟨top, listed, package, ?_⟩
    rintro nested rfl
    -- The owner is a type, and declares what is nested in it.
    cases entry with
    | type around =>
      have inside : .type nested ∈ around.members := by
        rw [← MemberDeclaration.members_type, split]
        exact List.mem_append_right _ List.mem_cons_self
      intro named declares
      refine within around rfl ?_
      rw [around.namedTypes_eq]
      exact List.mem_cons_of_mem _ (mem_membersNamedTypes_iff.2 ⟨nested, inside, declares⟩)
    | _ => simp [MemberDeclaration.members] at split

/-- Whether something has a declared type if it is a field. -/
def Features.IsTyped (features : Features) : Prop :=
  features.kind = .field → features.declaredType.isSome

/-- An entry has a declared type if it needs one, just when it is no field without one. -/
theorem MemberDeclaration.isTyped_features_iff {origin : Origin} {entry : MemberDeclaration} :
    (entry.features origin).IsTyped ↔ ∀ field, entry = .field field → field.type.isSome := by
  -- Of all kinds of entries, only a field may lack a type that it needs.
  cases entry with
  | field declaration => simp [features, Features.IsTyped]
  | _ => simp [features, Features.IsTyped]

namespace Model

/-! ### Chains of supertypes -/

section Chains

variable {model : Model} {fuel position next : Nat}

/-- Whether the supertype of one element is another one. -/
def Extends (model : Model) (position next : Nat) : Prop :=
  ∃ element, model.elements[position]? = some element ∧ element.supertype = some next

/-- Only an element of the model has a supertype. -/
theorem Extends.lt_size (step : model.Extends position next) : position < model.size := by
  -- A supertype is one of an element that is there.
  obtain ⟨element, found, _⟩ := step
  exact (Array.getElem?_eq_some_iff.1 found).1

/-- A chain of supertypes ends one step later than that of the supertype. -/
theorem chainEnds_succ_iff : model.chainEnds (fuel + 1) position ↔
    ∀ next, model.Extends position next → model.chainEnds fuel next := by
  -- A type extends no more than one other, and only what it resolves to.
  have above (next : Nat) : model.Extends position next ↔
      model.elements[position]?.bind (·.supertype) = some next := by
    rw [Option.bind_eq_some_iff]
    rfl
  rw [chainEnds]
  simp only [above]
  cases model.elements[position]?.bind (·.supertype) with
  | none => simp
  | some next => simp

/-- A chain of supertypes that ends does not come back to where it starts. -/
theorem not_transGen_of_chainEnds (ends : model.chainEnds fuel position) :
    ¬ Relation.TransGen model.Extends position position := by
  -- Around a cycle, the chain of each element would end earlier than that of the one before.
  induction fuel generalizing position with
  | zero => cases ends
  | succ fuel ih =>
    intro cycle
    -- The chain of the supertype ends as well, and goes around the same cycle.
    obtain ⟨next, step, rest⟩ := Relation.TransGen.head'_iff.1 cycle
    exact ih (chainEnds_succ_iff.1 ends next step) (Relation.TransGen.tail' rest step)

/-- Without a cycle, a chain of supertypes ends within one step for each element on it. -/
theorem chainEnds_of_acyclic
    (acyclic : ∀ position, ¬ Relation.TransGen model.Extends position position) {free : List Nat}
    (enough : free.length ≤ fuel) (above : ∀ next,
      Relation.ReflTransGen model.Extends position next → next < model.size → next ∈ free) :
    model.chainEnds (fuel + 1) position := by
  -- The positions that can still come up on the chain are free, and each step takes one of them.
  induction fuel generalizing position free with
  | zero =>
    rw [chainEnds_succ_iff]
    intro next step
    -- Where the chain goes on, a position would have to be free.
    have isFree := above position .refl step.lt_size
    have filled := List.length_pos_of_mem isFree
    omega
  | succ fuel ih =>
    rw [chainEnds_succ_iff]
    intro next step
    have isFree := above position .refl step.lt_size
    have shorter : (free.erase position).length ≤ fuel := by
      rw [List.length_erase_of_mem isFree]
      omega
    apply ih shorter
    intro further rest inside
    -- The chain does not come back to the position that was taken.
    have apart : further ≠ position := by
      rintro rfl
      exact acyclic _ (Relation.TransGen.head' step rest)
    exact (List.mem_erase_of_ne apart).2 (above further (.head step rest) inside)

/-- If only types have a supertype, the search for a cycle finds none just when there is none. -/
theorem firstCyclic?_eq_none_iff_acyclic (types : ∀ {position : Nat} {element : Element},
      model.elements[position]? = some element → element.supertype ≠ none →
        element.kind = .type) :
    model.firstCyclic? = none ↔
      ∀ position, ¬ Relation.TransGen model.Extends position position := by
  rw [firstCyclic?_eq_none_iff]
  constructor
  · intro ends position cycle
    -- The type at which the cycle starts is searched.
    obtain ⟨next, ⟨element, found, supertype⟩, _⟩ := Relation.TransGen.head'_iff.1 cycle
    have type := types found (by rw [supertype]; exact Option.some_ne_none next)
    exact not_transGen_of_chainEnds (ends found type) cycle
  · intro acyclic position element found type
    -- At first, every position is free.
    have all : (List.range model.size).length ≤ model.size := List.length_range.le
    apply chainEnds_of_acyclic acyclic all
    intro next _ inside
    exact List.mem_range.2 inside

end Chains

/-! ### Links between names -/

/-- The declarations whose types are in a model: all but the shadowed ones. -/
def visible (sources classpath : List TypeDeclaration) : List TypeDeclaration :=
  unshadowed sources classpath ++ sources

/-- Whether a declared type names another one as its supertype, by the erased form of its reference
and inside the package of the top-level type around it. -/
def NamesSupertype (declarations : List TypeDeclaration) (name above : String) : Prop :=
  ∃ top ∈ declarations, ∃ declaration, (name, declaration) ∈ top.namedTypes top.name ∧
    ∃ reference, declaration.superclass = some reference ∧
      -- A nested type is in the package of the type around it, not in a package of that name.
      StandsFor (qualifiedNames declarations) (packageOf top.name)
        (TypeExpr.ofText reference).erase above

/-- Inputs that form a model: nothing is declared twice, each field has a type, and no chain of
supertypes comes back to where it starts. -/
structure IsValid (sources classpath : List TypeDeclaration) : Prop where
  sources_distinct : (sources.map (·.name)).Nodup
  /-- Shadowed declarations count here, by their names alone. -/
  classpath_distinct : (classpath.map (·.name)).Nodup
  /-- Nested types count by their qualified names. -/
  names_distinct : (qualifiedNames (visible sources classpath)).Nodup
  /-- Fields count at every depth. -/
  typed : ∀ declaration ∈ visible sources classpath, ∀ field,
    .field field ∈ declaration.preorder → field.type.isSome
  acyclic : ∀ name, ¬ Relation.TransGen (NamesSupertype (visible sources classpath)) name name

/-- A name stands for one of the names that there are. -/
theorem StandsFor.mem {names : List String} {package : Option String} {name full : String}
    (stands : StandsFor names package name full) : full ∈ names := by
  -- Both ways to stand for a name ask for it to be there.
  cases stands with
  | written known => exact known
  | relative _ _ known => exact known

section Links

variable {sources classpath : List TypeDeclaration} {position next : Nat}

/-- The visible declarations are those that are laid out. -/
theorem mem_visible_iff {declaration : TypeDeclaration} :
    declaration ∈ visible sources classpath ↔
      ∃ origin, (origin, declaration) ∈ declared sources classpath := by
  -- The origins aside, those that are laid out are the visible ones.
  have declarations : (declared sources classpath).map (·.2) = visible sources classpath := by
    simp [declared, visible, Function.comp_def]
  rw [← declarations, List.mem_map]
  simp only [Prod.exists, exists_eq_right]

/-- The elements of a layout, with no supertype resolved yet. -/
def laidOut (sources classpath : List TypeDeclaration) : Model :=
  ⟨(layout sources classpath).toArray⟩

/-- A layout has the names of the visible types. -/
theorem typeNames_laidOut (sources classpath : List TypeDeclaration) :
    typeNames (laidOut sources classpath).elements.toList =
      qualifiedNames (visible sources classpath) := by
  rw [laidOut, List.toList_toArray, typeNames_layout]
  simp [visible, qualifiedNames, namedTypes]

/-- The elements of a layout are laid out at their positions. -/
theorem getElem?_laidOut_iff {element : Element} :
    (laidOut sources classpath).elements[position]? = some element ↔
      ∃ entry, IsLaidOut (declared sources classpath) position entry element := by
  -- The layout is that of the visible declarations, one behind the other.
  rw [laidOut, List.getElem?_toArray, layout_eq]
  exact getElem?_declaredElements_iff

/-- The supertype of an element is what the reference of its declaration resolves to. -/
theorem extends_link_iff : (link (laidOut sources classpath)).Extends position next ↔
    ∃ declaration element,
      IsLaidOut (declared sources classpath) position (.type declaration) element ∧
        ∃ reference, declaration.superclass = some reference ∧
          (laidOut sources classpath).resolve? element.package
            (TypeExpr.ofText reference).erase = some next := by
  constructor
  · rintro ⟨_, found, supertype⟩
    rw [link_getElem?, Option.map_eq_some_iff] at found
    obtain ⟨element, found, rfl⟩ := found
    obtain ⟨entry, laid⟩ := getElem?_laidOut_iff.1 found
    obtain ⟨expression, superclass, resolved⟩ := Option.bind_eq_some_iff.1 supertype
    -- Only a type has a supertype expression.
    have type : element.kind = .type := by
      refine Decidable.byContradiction fun member => ?_
      rw [laid.superclass_of_member member] at superclass
      cases superclass
    obtain ⟨declaration, rfl⟩ := laid.exists_of_kind type
    rw [laid.superclass_eq rfl, Option.map_eq_some_iff] at superclass
    obtain ⟨reference, superclass, rfl⟩ := superclass
    exact ⟨declaration, element, laid, reference, superclass, resolved⟩
  · rintro ⟨declaration, element, laid, reference, superclass, resolved⟩
    refine ⟨(laidOut sources classpath).linked element, ?_, ?_⟩
    · rw [link_getElem?, getElem?_laidOut_iff.2 ⟨_, laid⟩]
      rfl
    · rw [linked, laid.superclass_eq rfl, superclass]
      exact resolved

/-- The qualified name of the element at a position. -/
def nameAt (model : Model) (position : Nat) : String :=
  model.elements[position]?.elim "" (·.qualifiedName)

/-- A link from element to element is one from name to name. -/
theorem namesSupertype_of_extends
    (step : (link (laidOut sources classpath)).Extends position next) :
    NamesSupertype (visible sources classpath) ((laidOut sources classpath).nameAt position)
      ((laidOut sources classpath).nameAt next) := by
  -- The reference stands for the name of the type that it resolves to.
  obtain ⟨declaration, element, laid, reference, superclass, resolved⟩ := extends_link_iff.1 step
  obtain ⟨full, stands, found⟩ := resolve?_eq_some_iff.1 resolved
  obtain ⟨above, at_next, _, rfl⟩ := exists_of_lookup? found
  obtain ⟨top, listed, package, within⟩ := laid.exists_top
  have named : (element.qualifiedName, declaration) ∈ top.namedTypes top.name := by
    refine within declaration rfl ?_
    rw [declaration.namedTypes_eq]
    exact List.mem_cons_self
  rw [typeNames_laidOut, package] at stands
  rw [nameAt, nameAt, getElem?_laidOut_iff.2 ⟨_, laid⟩, at_next]
  exact ⟨top, mem_visible_iff.2 ⟨_, listed⟩, declaration, named, reference, superclass, stands⟩

/-- If no name is repeated, a link from name to name is one from element to element. -/
theorem extends_of_namesSupertype (distinct : (qualifiedNames (visible sources classpath)).Nodup)
    {name above : String} (step : NamesSupertype (visible sources classpath) name above) :
    (link (laidOut sources classpath)).Extends
      (((laidOut sources classpath).lookup? name).getD 0)
      (((laidOut sources classpath).lookup? above).getD 0) := by
  rw [← typeNames_laidOut] at distinct
  obtain ⟨top, listed, declaration, named, reference, superclass, stands⟩ := step
  -- The type is laid out in the block of the top-level type that declares it.
  obtain ⟨origin, listed⟩ := mem_visible_iff.1 listed
  obtain ⟨start, starts⟩ := exists_mem_declaredPositions_iff.2 listed
  obtain ⟨place, element, laid, rfl, _, package⟩ :=
    top.exists_isLaidOut (.top starts) (name, declaration) named
  have found : (laidOut sources classpath).lookup? element.qualifiedName = some place :=
    (lookup?_eq_some_iff distinct).2
      ⟨element, getElem?_laidOut_iff.2 ⟨_, laid⟩, laid.kind_eq .source, rfl⟩
  -- The name of the supertype is one that there is, and so it is found.
  rw [← typeNames_laidOut] at stands
  obtain ⟨next, at_next⟩ := Option.isSome_iff_exists.1 (isSome_lookup?_iff.2 stands.mem)
  rw [found, at_next]
  refine extends_link_iff.2 ⟨declaration, element, laid, reference, superclass, ?_⟩
  rw [package]
  exact resolve?_eq_some_iff.2 ⟨above, stands, at_next⟩

/-- If no name is repeated, there is a cycle of elements just when there is one of names. -/
theorem acyclic_iff (distinct : (qualifiedNames (visible sources classpath)).Nodup) :
    (∀ position, ¬ Relation.TransGen (link (laidOut sources classpath)).Extends position position) ↔
      ∀ name, ¬ Relation.TransGen (NamesSupertype (visible sources classpath)) name name := by
  -- A cycle on one side is carried over link by link to one on the other side.
  constructor
  · intro acyclic name cycle
    exact acyclic _ (cycle.lift (fun name => ((laidOut sources classpath).lookup? name).getD 0)
      fun _ _ => extends_of_namesSupertype distinct)
  · intro acyclic position cycle
    exact acyclic _ (cycle.lift (laidOut sources classpath).nameAt
      fun _ _ => namesSupertype_of_extends)

/-- If no name is repeated, the search for a cycle finds none just when no type is above itself. -/
theorem firstCyclic?_link_eq_none_iff
    (distinct : (qualifiedNames (visible sources classpath)).Nodup) :
    (link (laidOut sources classpath)).firstCyclic? = none ↔
      ∀ name, ¬ Relation.TransGen (NamesSupertype (visible sources classpath)) name name := by
  rw [← acyclic_iff distinct]
  apply firstCyclic?_eq_none_iff_acyclic
  intro position element found supertype
  obtain ⟨next, supertype⟩ := Option.ne_none_iff_exists'.1 supertype
  -- What has a supertype is laid out for a declaration of a type.
  obtain ⟨declaration, unlinked, laid, _⟩ := extends_link_iff.1 ⟨element, found, supertype⟩
  rw [link_getElem?, getElem?_laidOut_iff.2 ⟨_, laid⟩] at found
  obtain rfl := Option.some.inj found
  exact laid.kind_eq .source

/-- The elements of a layout have types where they need them just when the declared fields do. -/
theorem typed_layout_iff : (∀ element ∈ layout sources classpath,
      element.kind = .field → element.declaredType.isSome) ↔
    ∀ declaration ∈ visible sources classpath, ∀ field,
      .field field ∈ declaration.preorder → field.type.isSome := by
  -- An element needs a type, and has one, by the features of the entry that it was declared as.
  have entries : (∀ element ∈ layout sources classpath,
        element.kind = .field → element.declaredType.isSome) ↔
      ∀ listed ∈ declaredPreorder (declared sources classpath),
        (listed.2.features listed.1).IsTyped := by
    calc (∀ element ∈ layout sources classpath, element.features.IsTyped)
        ↔ ∀ features ∈ (layout sources classpath).map Element.features, features.IsTyped :=
          List.forall_mem_map.symm
      _ ↔ _ := by rw [layout_eq, map_features_declaredElements, List.forall_mem_map]
  rw [entries]
  constructor
  · intro typed declaration visible field inside
    obtain ⟨origin, listed⟩ := mem_visible_iff.1 visible
    have entry := typed (origin, .field field)
      (List.mem_flatMap.2 ⟨_, listed, List.mem_map_of_mem inside⟩)
    exact MemberDeclaration.isTyped_features_iff.1 entry field rfl
  · intro typed listed brought
    obtain ⟨⟨origin, declaration⟩, declares, brought⟩ := List.mem_flatMap.1 brought
    obtain ⟨entry, inside, rfl⟩ := List.mem_map.1 brought
    refine MemberDeclaration.isTyped_features_iff.2 ?_
    rintro field rfl
    exact typed declaration (mem_visible_iff.2 ⟨origin, declares⟩) field inside

/-- A layout passes the checks just when no name is repeated, and each field has a type. -/
theorem exists_checkElements_layout_eq_ok_iff :
    (∃ seen, checkElements [] (layout sources classpath) = .ok seen) ↔
      (qualifiedNames (visible sources classpath)).Nodup ∧
        ∀ declaration ∈ visible sources classpath, ∀ field,
          .field field ∈ declaration.preorder → field.type.isSome := by
  -- The names of a layout are those of the visible types.
  rw [exists_checkElements_eq_ok_iff, typed_layout_iff, ← typeNames_laidOut]
  simp [laidOut]

/-- Declarations form a model just when they are valid. -/
theorem exists_build_eq_ok_iff : (∃ model, build sources classpath = .ok model) ↔
    IsValid sources classpath := by
  -- The search for cycles is done on a layout that has passed all checks.
  simp only [build_eq_ok_iff, exists_checkElements_layout_eq_ok_iff]
  constructor
  · rintro ⟨_, sources_distinct, classpath_distinct, ⟨names_distinct, typed⟩, rfl, acyclic⟩
    exact ⟨sources_distinct, classpath_distinct, names_distinct, typed,
      (firstCyclic?_link_eq_none_iff names_distinct).1 acyclic⟩
  · rintro ⟨sources_distinct, classpath_distinct, names_distinct, typed, acyclic⟩
    exact ⟨_, sources_distinct, classpath_distinct, ⟨names_distinct, typed⟩, rfl,
      (firstCyclic?_link_eq_none_iff names_distinct).2 acyclic⟩

end Links

/-! ### Shadowed declarations -/

section Shadowed

variable {sources classpath : List TypeDeclaration} {change : TypeDeclaration → TypeDeclaration}

/-- Whether a declaration is shadowed depends on its name alone. -/
theorem shadows_congr {declaration other : TypeDeclaration} (same : other.name = declaration.name) :
    shadows sources other = shadows sources declaration := by
  rw [shadows, shadows, same]

/-- Declarations that keep their names are shadowed alike, so that the unshadowed ones stay if none
of those is changed. -/
theorem unshadowed_map
    (kept : ∀ declaration ∈ classpath, (change declaration).name = declaration.name)
    (same : ∀ declaration ∈ unshadowed sources classpath, change declaration = declaration) :
    unshadowed sources (classpath.map change) = unshadowed sources classpath := by
  -- Shadowing asks for the name alone.
  have alike : classpath.filter ((!shadows sources ·) ∘ change) = unshadowed sources classpath := by
    apply List.filter_congr
    intro declaration inside
    exact congrArg (!·) (shadows_congr (kept declaration inside))
  rw [unshadowed, List.filter_map, alike]
  exact (List.map_congr_left same).trans (List.map_id _)

/-- A shadowed declaration is checked by its name alone. -/
theorem checkClasspath_map {declared seen : List String}
    (kept : ∀ declaration ∈ classpath, (change declaration).name = declaration.name)
    (same : ∀ declaration ∈ unshadowed sources classpath, change declaration = declaration) :
    checkClasspath sources declared seen (classpath.map change) =
      checkClasspath sources declared seen classpath := by
  -- The names that were declared before are the same at each declaration.
  induction classpath generalizing declared seen with
  | nil => rfl
  | cons declaration rest ih =>
    obtain ⟨first_kept, rest_kept⟩ := List.forall_mem_cons.1 kept
    have rest_same : ∀ other ∈ unshadowed sources rest, change other = other := by
      intro other inside
      obtain ⟨inside, visible⟩ := List.mem_filter.1 inside
      exact same other (List.mem_filter.2 ⟨List.mem_cons_of_mem _ inside, visible⟩)
    rw [List.map_cons, checkClasspath_cons, checkClasspath_cons, first_kept,
      shadows_congr first_kept]
    cases hidden : shadows sources declaration with
    | true => simp only [if_true, ih rest_kept rest_same]
    | false =>
      -- A declaration that is not shadowed is not changed.
      have visible : declaration ∈ unshadowed sources (declaration :: rest) :=
        List.mem_filter.2 ⟨List.mem_cons_self, by simp [hidden]⟩
      simp only [same declaration visible, ih rest_kept rest_same]

/-- What a shadowed declaration holds makes no difference to a model. -/
theorem build_map_of_shadowed
    (kept : ∀ declaration ∈ classpath, (change declaration).name = declaration.name)
    (same : ∀ declaration ∈ unshadowed sources classpath, change declaration = declaration) :
    build sources (classpath.map change) = build sources classpath := by
  simp only [build, layout, checkClasspath_map kept same, unshadowed_map kept same]

end Shadowed

/-- Declarations form a model just when they are valid, and what shadowed declarations hold makes no
difference to whether they do, or to the model. -/
theorem exists_build_eq_ok_iff_isValid (sources classpath : List TypeDeclaration) :
    ((∃ model, build sources classpath = .ok model) ↔ IsValid sources classpath) ∧
    ∀ change : TypeDeclaration → TypeDeclaration,
      (∀ declaration ∈ classpath, (change declaration).name = declaration.name) →
      (∀ declaration ∈ unshadowed sources classpath, change declaration = declaration) →
        build sources (classpath.map change) = build sources classpath := by
  -- The checks refuse just what is not valid, and never see what is shadowed.
  constructor
  · exact exists_build_eq_ok_iff
  · intro change kept same
    exact build_map_of_shadowed kept same

/-- A nested type under a type of the classpath, by its name inside the package. -/
def sheltered : List TypeDeclaration :=
  [{ name := "p.Outer"
     members := [.field { name := "count", type := some "int" },
      -- The package of this one is `p` as well.
      .type { name := "Inner", superclass := some "Base<String>" }] }]

/-- A classpath with that type, and with a shadowed one that has a field without a type and is above
itself. -/
def shelteredClasspath : List TypeDeclaration :=
  [{ name := "p.Base", superclass := some "Unknown" },
   { name := "p.Outer", superclass := some "Outer", members := [.field { name := "count" }] }]

/-- Leaves nothing of the shadowed type but its name. -/
def emptied (declaration : TypeDeclaration) : TypeDeclaration :=
  if declaration.name = "p.Outer" then { name := "p.Outer" } else declaration

/-- The sources are valid with what they shadow, whatever is in it, and the classpath alone is
not. -/
theorem exists_build_eq_ok_iff_isValid_sheltered :
    IsValid sheltered shelteredClasspath ∧
      (∀ declaration ∈ shelteredClasspath, (emptied declaration).name = declaration.name) ∧
      build sheltered (shelteredClasspath.map emptied) = build sheltered shelteredClasspath ∧
      ¬ IsValid shelteredClasspath [] := by
  have built : ∃ model, build sheltered shelteredClasspath = .ok model :=
    ⟨(build sheltered shelteredClasspath).toOption.getD ⟨#[]⟩, by decide +kernel⟩
  have kept : ∀ declaration ∈ shelteredClasspath,
      (emptied declaration).name = declaration.name := by
    simp [shelteredClasspath, emptied]
  have same : ∀ declaration ∈ unshadowed sheltered shelteredClasspath,
      emptied declaration = declaration := by
    simp [shelteredClasspath, unshadowed, shadows, sheltered, emptied]
  have refused : build shelteredClasspath [] = .error (.missingType "p.Outer.count") := by
    decide +kernel
  refine ⟨(exists_build_eq_ok_iff_isValid sheltered shelteredClasspath).1.1 built, kept,
    (exists_build_eq_ok_iff_isValid sheltered shelteredClasspath).2 emptied kept same, ?_⟩
  -- Alone, the shadowed type is checked, and its field has no type.
  intro valid
  obtain ⟨model, accepted⟩ := (exists_build_eq_ok_iff_isValid shelteredClasspath []).1.2 valid
  rw [refused] at accepted
  cases accepted

end Model

end RuleMetadata

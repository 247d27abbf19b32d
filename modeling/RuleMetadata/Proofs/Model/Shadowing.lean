import Mathlib.Data.List.Flatten
import Mathlib.Data.List.Nodup
import RuleMetadata.Proofs.Model.Forest

/-! Sources shadow the classpath: by the names of top-level types alone, so that a name of a nested
type can still meet one on the other side. -/

namespace RuleMetadata

/-! ### Names of declared types -/

mutual

/-- The types that a declared type declares, itself and those nested in it, by qualified name. -/
def TypeDeclaration.namedTypes (qualifiedName : String) :
    TypeDeclaration → List (String × TypeDeclaration)
  | ⟨name, superclass, interfaces, doc, markers, members⟩ =>
    (qualifiedName, ⟨name, superclass, interfaces, doc, markers, members⟩) ::
      -- The name of a nested type goes on from this one.
      membersNamedTypes qualifiedName members

/-- The types that members declare, by qualified name. -/
def membersNamedTypes (ownerName : String) :
    List MemberDeclaration → List (String × TypeDeclaration)
  | [] => []
  -- Only types are declared by name.
  | .field _ :: rest | .method _ :: rest | .constructor _ :: rest =>
    membersNamedTypes ownerName rest
  | .type declaration :: rest =>
    declaration.namedTypes (qualifiedBy ownerName declaration.name) ++
      membersNamedTypes ownerName rest

end

/-- A declared type declares itself first. -/
theorem TypeDeclaration.namedTypes_eq (qualifiedName : String) (declaration : TypeDeclaration) :
    declaration.namedTypes qualifiedName =
      (qualifiedName, declaration) :: membersNamedTypes qualifiedName declaration.members := by
  -- The recursion takes the declaration apart first.
  obtain ⟨_, _, _, _, _, _⟩ := declaration
  rfl

/-- The types that top-level declarations declare, by qualified name. -/
def namedTypes (declarations : List TypeDeclaration) : List (String × TypeDeclaration) :=
  declarations.flatMap fun declaration => declaration.namedTypes declaration.name

/-- The qualified names of all types that are declared, nested ones included. -/
def qualifiedNames (declarations : List TypeDeclaration) : List String :=
  (namedTypes declarations).map (·.1)

/-- Fewer declarations declare fewer types. -/
theorem qualifiedNames_sublist {some all : List TypeDeclaration} (fewer : some.Sublist all) :
    (qualifiedNames some).Sublist (qualifiedNames all) :=
  (fewer.flatMap _).map _

/-- The names of top-level types are among the qualified names. -/
theorem names_sublist (declarations : List TypeDeclaration) :
    (declarations.map (·.name)).Sublist (qualifiedNames declarations) := by
  induction declarations with
  | nil => exact .slnil
  | cons declaration rest ih =>
    rw [qualifiedNames, namedTypes, List.flatMap_cons, declaration.namedTypes_eq]
    -- The nested types stand between a type and the next top-level one.
    exact (ih.trans ((List.sublist_append_right _ _).map _)).cons_cons _

open Model (typeNames)

mutual

/-- The elements of a declared type have the names of the types that it declares. -/
theorem TypeDeclaration.typeNames_layout {origin : Origin} {package : Option String}
    {owner : Option Nat} {ownerName : Option String} {simpleName qualifiedName : String}
    {position : Nat} : ∀ declaration : TypeDeclaration,
      typeNames (declaration.layout origin package owner ownerName simpleName qualifiedName
        position) = (declaration.namedTypes qualifiedName).map (·.1)
  | ⟨_, _, _, _, _, members⟩ => by
    -- The own name comes first, and then those of the members.
    have below := typeNames_membersLayout ⟨origin, package, position, qualifiedName, simpleName⟩
      (position + 1) members
    simpa [typeNames, TypeDeclaration.layout, TypeDeclaration.namedTypes] using below

/-- The elements of members have the names of the types that these declare. -/
theorem typeNames_membersLayout (scope : Scope) (position : Nat) :
    ∀ members : List MemberDeclaration, typeNames (membersLayout scope position members) =
      (membersNamedTypes scope.ownerName members).map (·.1)
  | [] => rfl
  | .field _ :: rest | .method _ :: rest | .constructor _ :: rest => by
    have behind := typeNames_membersLayout scope (position + 1) rest
    simpa [typeNames, membersLayout, membersNamedTypes] using behind
  | .type declaration :: rest => by
    -- Only a member that is a type adds names, its own one and those inside.
    have inside : typeNames (declaration.layout scope.origin scope.package (some scope.owner)
        (some scope.ownerName) declaration.name (qualifiedBy scope.ownerName declaration.name)
        position) = _ := declaration.typeNames_layout
    have behind := typeNames_membersLayout scope (position + declaration.size) rest
    simp only [typeNames] at inside behind ⊢
    simp [membersLayout, membersNamedTypes, inside, behind]

end

/-- The elements of top-level declarations have the names of the types that these declare. -/
theorem typeNames_declarationsElements (origin : Origin) (position : Nat)
    (declarations : List TypeDeclaration) :
    typeNames (declarationsElements origin position declarations) =
      qualifiedNames declarations := by
  -- Names do not depend on where the elements stand.
  induction declarations generalizing position with
  | nil => rfl
  | cons declaration rest ih =>
    have inside : typeNames (declaration.elements origin position) = _ :=
      declaration.typeNames_layout
    have behind := ih (position + declaration.size)
    simp only [typeNames, qualifiedNames, namedTypes] at inside behind ⊢
    simp [declarationsElements, inside, behind]

namespace Model

/-- A layout has the names of the unshadowed classpath, and then those of the sources. -/
theorem typeNames_layout (sources classpath : List TypeDeclaration) :
    typeNames (layout sources classpath) =
      qualifiedNames (unshadowed sources classpath) ++ qualifiedNames sources := by
  -- Both parts of the layout are declarations of one origin.
  rw [← typeNames_declarationsElements .classpath 0,
    ← typeNames_declarationsElements .source
      (declarationsElements .classpath 0 (unshadowed sources classpath)).length]
  simp [layout, typeNames]

/-! ### Refused declarations -/

/-- A name is refused where it stands a second time. -/
theorem exists_split_of_duplicateType {seen : List String} {elements : List Element}
    {name : String} (failed : checkElements seen elements = .error (.duplicateType name)) :
    ∃ front back, typeNames elements = front ++ name :: back ∧ (name ∈ seen ∨ name ∈ front) := by
  -- Only types bear names that are checked; any other element leads on to what is behind it.
  induction elements generalizing seen with
  | nil => cases failed
  | cons element rest ih =>
    cases kind : element.kind with
    | type =>
      have names : typeNames (element :: rest) = element.qualifiedName :: typeNames rest := by
        simp [typeNames, kind]
      simp only [checkElements, kind] at failed
      split at failed
      · rename_i known
        obtain rfl := ModelError.duplicateType.inj (Except.error.inj failed)
        exact ⟨[], typeNames rest, names, .inl known⟩
      · -- The name of this type is one of those in front of what is behind it.
        obtain ⟨front, back, split, before⟩ := ih failed
        refine ⟨element.qualifiedName :: front, back, by rw [names, split]; rfl, ?_⟩
        rcases before with seen_before | in_front
        · rcases List.mem_cons.1 seen_before with rfl | earlier
          · exact .inr List.mem_cons_self
          · exact .inl earlier
        · exact .inr (List.mem_cons_of_mem _ in_front)
    | field =>
      have names : typeNames (element :: rest) = typeNames rest := by simp [typeNames, kind]
      simp only [checkElements, kind] at failed
      split at failed
      · cases failed
      · rw [names]
        exact ih failed
    | method | constructor =>
      have names : typeNames (element :: rest) = typeNames rest := by simp [typeNames, kind]
      simp only [checkElements, kind] at failed
      rw [names]
      exact ih failed

/-- The elements alone show no cycle. -/
theorem checkElements_ne_cyclicHierarchy {seen : List String} {elements : List Element}
    (name : String) : checkElements seen elements ≠ .error (.cyclicHierarchy name) := by
  -- Elements are refused for a name or for a missing type expression alone.
  induction elements generalizing seen with
  | nil => simp [checkElements]
  | cons element rest ih =>
    unfold checkElements
    split
    · split <;> simp [ih]
    · split <;> simp [ih]
    · exact ih

/-- Classpath declarations with distinct names are checked as what the unshadowed ones are laid out
to. -/
theorem checkClasspath_eq {sources classpath : List TypeDeclaration} {declared seen : List String}
    (position : Nat) (distinct : (classpath.map (·.name)).Nodup)
    (fresh : ∀ name ∈ classpath.map (·.name), name ∉ declared) :
    checkClasspath sources declared seen classpath = checkElements seen
      (declarationsElements .classpath position (unshadowed sources classpath)) := by
  induction classpath generalizing declared seen position with
  | nil => rfl
  | cons declaration rest ih =>
    obtain ⟨first, others⟩ := List.nodup_cons.1 distinct
    have unknown : declaration.name ∉ declared := fresh _ List.mem_cons_self
    -- The name of the first declaration is none of those behind it.
    have still_fresh : ∀ name ∈ rest.map (·.name), name ∉ declaration.name :: declared := by
      intro name behind known
      rcases List.mem_cons.1 known with rfl | known
      · exact first behind
      · exact fresh name (List.mem_cons_of_mem _ behind) known
    rw [checkClasspath_cons, if_neg unknown]
    cases hidden : shadows sources declaration with
    | true =>
      have dropped : unshadowed sources (declaration :: rest) = unshadowed sources rest := by
        simp [unshadowed, hidden]
      rw [dropped]
      exact ih position others still_fresh
    | false =>
      have kept : unshadowed sources (declaration :: rest) =
          declaration :: unshadowed sources rest := by
        simp [unshadowed, hidden]
      have moved : checkElements seen (declaration.elements .classpath position) =
          checkElements seen (declaration.elements .classpath 0) :=
        checkElements_congr declaration.outward_layout seen
      rw [kept, declarationsElements, checkElements_append, moved]
      exact congrArg (Except.bind _) (funext fun seen => ih _ others still_fresh)

/-- If no input declares a top-level name twice, the layout of both decides whether they form a
model. -/
theorem build_eq {sources classpath : List TypeDeclaration}
    (sources_distinct : (sources.map (·.name)).Nodup)
    (classpath_distinct : (classpath.map (·.name)).Nodup) :
    build sources classpath = (checkElements [] (layout sources classpath)).bind fun _ =>
      let model := link ⟨(layout sources classpath).toArray⟩
      match model.firstCyclic? with
      | some element => .error (.cyclicHierarchy element.qualifiedName)
      | none => .ok model := by
  have single : firstRepeated? [] (sources.map (·.name)) = none :=
    (firstRepeated?_eq_none_iff _ _).2 ⟨sources_distinct, by simp⟩
  -- Both are checked one after the other, as the two parts of the layout are.
  rw [build, single, checkClasspath_eq 0 classpath_distinct (by simp), layout, checkElements_append]
  cases checkElements [] (declarationsElements .classpath 0 (unshadowed sources classpath)) with
  | error error => rfl
  | ok seen =>
    show (checkSources seen sources).bind (fun _ => _) = (checkElements seen _).bind fun _ => _
    rw [checkSources_eq]
    rfl

section Distinct

variable {sources classpath : List TypeDeclaration}
  (sources_distinct : (qualifiedNames sources).Nodup)
  (classpath_distinct : (qualifiedNames classpath).Nodup)
include sources_distinct classpath_distinct

/-- If no input declares a name twice, the layout of both decides whether they form a model. -/
theorem build_of_distinct :
    build sources classpath = (checkElements [] (layout sources classpath)).bind fun _ =>
      let model := link ⟨(layout sources classpath).toArray⟩
      match model.firstCyclic? with
      | some element => .error (.cyclicHierarchy element.qualifiedName)
      | none => .ok model :=
  -- The checks on the inputs look at top-level names, which are among all that are declared.
  build_eq (sources_distinct.sublist (names_sublist sources))
    (classpath_distinct.sublist (names_sublist classpath))

/-- A name is refused only if both a source and an unshadowed classpath declaration have it. -/
theorem mem_qualifiedNames_of_duplicateType {name : String}
    (refused : build sources classpath = .error (.duplicateType name)) :
    name ∈ qualifiedNames sources ∧ name ∈ qualifiedNames (unshadowed sources classpath) := by
  rw [build_of_distinct sources_distinct classpath_distinct] at refused
  cases checked : checkElements [] (layout sources classpath) with
  | ok seen =>
    -- Behind the checks, only a cycle is refused.
    simp only [checked, Except.bind] at refused
    split at refused <;> cases refused
  | error error =>
    rw [checked] at refused
    obtain rfl := Except.error.inj refused
    obtain ⟨front, back, split, before⟩ := exists_split_of_duplicateType checked
    have in_front : name ∈ front := before.resolve_left List.not_mem_nil
    have twice : 2 ≤ (typeNames (layout sources classpath)).count name := by
      have once := List.count_pos_iff.2 in_front
      rw [split, List.count_append, List.count_cons_self]
      omega
    rw [typeNames_layout, List.count_append] at twice
    -- Each input has the name once at most, so that both have it.
    have in_sources := List.nodup_iff_count_le_one.1 sources_distinct name
    have in_classpath := List.nodup_iff_count_le_one.1 (classpath_distinct.sublist
      (qualifiedNames_sublist (List.filter_sublist (p := (!shadows sources ·))))) name
    rw [← unshadowed] at in_classpath
    exact ⟨List.count_pos_iff.1 (by omega), List.count_pos_iff.1 (by omega)⟩

/-- If both a source and an unshadowed classpath declaration have a name, there is no model, and not
for a cycle. -/
theorem exists_error_of_shared {name : String} (in_sources : name ∈ qualifiedNames sources)
    (in_classpath : name ∈ qualifiedNames (unshadowed sources classpath)) :
    ∃ error, build sources classpath = .error error ∧
      ∀ cyclic, error ≠ .cyclicHierarchy cyclic := by
  rw [build_of_distinct sources_distinct classpath_distinct]
  cases checked : checkElements [] (layout sources classpath) with
  | ok seen =>
    -- The checks pass only if the names of both are distinct.
    have distinct := (exists_checkElements_eq_ok_iff.1 ⟨seen, checked⟩).1
    rw [typeNames_layout, List.nodup_append] at distinct
    exact absurd rfl (distinct.2.2 name in_classpath name in_sources)
  | error error =>
    refine ⟨error, rfl, ?_⟩
    rintro cyclic rfl
    exact checkElements_ne_cyclicHierarchy cyclic checked

end Distinct

end Model

mutual

/-- Where a declared type is laid out, so are all types that it declares, by their names. -/
theorem TypeDeclaration.exists_isLaidOut {declared : List (Origin × TypeDeclaration)}
    {position : Nat} {element : Element} : ∀ declaration : TypeDeclaration,
      IsLaidOut declared position (.type declaration) element →
      ∀ named ∈ declaration.namedTypes element.qualifiedName, ∃ place inner,
        IsLaidOut declared place (.type named.2) inner ∧ inner.qualifiedName = named.1 ∧
          inner.origin = element.origin ∧ inner.package = element.package
  | ⟨_, _, _, _, _, members⟩ => by
    intro laid named inside
    rw [TypeDeclaration.namedTypes] at inside
    -- The named type is the declared one itself, or one among its members.
    rcases List.mem_cons.1 inside with rfl | below
    · exact ⟨position, element, laid, rfl, rfl, rfl⟩
    · exact exists_isLaidOut_of_members members laid [] rfl named below

/-- Where a type is laid out, so are all types that its members declare, by their names. -/
theorem exists_isLaidOut_of_members {declared : List (Origin × TypeDeclaration)} {outer : Nat}
    {around : MemberDeclaration} {above : Element} : ∀ members : List MemberDeclaration,
      IsLaidOut declared outer around above → ∀ front, around.members = front ++ members →
      ∀ named ∈ membersNamedTypes above.qualifiedName members, ∃ place inner,
        IsLaidOut declared place (.type named.2) inner ∧ inner.qualifiedName = named.1 ∧
          inner.origin = above.origin ∧ inner.package = above.package
  | [] => by simp [membersNamedTypes]
  | .field _ :: rest | .method _ :: rest | .constructor _ :: rest => by
    intro laid front split named inside
    exact exists_isLaidOut_of_members rest laid _ (split.trans (List.append_cons ..)) named inside
  | .type declaration :: rest => by
    intro laid front split named inside
    rw [membersNamedTypes] at inside
    rcases List.mem_append.1 inside with nested | behind
    · -- The nested type is a member, with the scope of the type around it.
      exact declaration.exists_isLaidOut (.member laid split) named nested
    · exact exists_isLaidOut_of_members rest laid _ (split.trans (List.append_cons ..)) named behind

end

namespace Model

/-- In a model, the name of each type that a source declares is that of its element. -/
theorem exists_lookup?_of_mem_namedTypes {sources classpath : List TypeDeclaration} {model : Model}
    (built : build sources classpath = .ok model) {name : String} {declaration : TypeDeclaration}
    (named : (name, declaration) ∈ namedTypes sources) :
    ∃ position element, model.lookup? name = some position ∧
      model.elements[position]? = some element ∧ element.qualifiedName = name ∧
      (listing sources classpath)[position]? = some (.source, .type declaration) ∧
      element.features = (MemberDeclaration.type declaration).features .source := by
  obtain ⟨around, source, inside⟩ := List.mem_flatMap.1 named
  -- The top-level type around it starts somewhere.
  obtain ⟨start, starts⟩ := exists_mem_declaredPositions_iff.2
    (List.mem_append_right ((unshadowed sources classpath).map (.classpath, ·))
      (List.mem_map_of_mem source))
  obtain ⟨position, unlinked, laid, rfl, origin, _⟩ :=
    around.exists_isLaidOut (.top starts) (name, declaration) inside
  have found := (getElem?_eq_some_iff_isLaidOut built).2 ⟨_, _, laid, rfl⟩
  have listed := laid.standsAt.listed
  have features := laid.standsAt.features
  rw [show unlinked.origin = .source from origin] at listed features
  have type : unlinked.kind = .type := laid.kind_eq .source
  exact ⟨position, model.linked unlinked,
    (lookup?_eq_some_iff (typeNames_nodup built)).2 ⟨_, found, type, rfl⟩, found, rfl, listed,
    features⟩

/-- Of inputs that declare no name twice each, a name is refused only if a source and an unshadowed
classpath declaration share it, and then there is no model; in a model, the names that sources
declare are those of their elements. -/
theorem build_shadowing {sources classpath : List TypeDeclaration}
    (sources_distinct : (qualifiedNames sources).Nodup)
    (classpath_distinct : (qualifiedNames classpath).Nodup) :
    (∀ name, build sources classpath = .error (.duplicateType name) →
      name ∈ qualifiedNames sources ∧ name ∈ qualifiedNames (unshadowed sources classpath)) ∧
    (∀ name ∈ qualifiedNames sources, name ∈ qualifiedNames (unshadowed sources classpath) →
      ∃ error, build sources classpath = .error error ∧
        ∀ cyclic, error ≠ .cyclicHierarchy cyclic) ∧
    ∀ model, build sources classpath = .ok model →
      ∀ name declaration, (name, declaration) ∈ namedTypes sources →
        ∃ position element, model.lookup? name = some position ∧
          model.elements[position]? = some element ∧ element.qualifiedName = name ∧
          (listing sources classpath)[position]? = some (.source, .type declaration) ∧
          element.features = (MemberDeclaration.type declaration).features .source :=
  -- Each part is about another outcome of the build: a name that is refused, any failure, and a
  -- model.
  ⟨fun _ => mem_qualifiedNames_of_duplicateType sources_distinct classpath_distinct,
    fun _ => exists_error_of_shared sources_distinct classpath_distinct,
    fun _ built _ _ => exists_lookup?_of_mem_namedTypes built⟩

/-- A type with a nested type. -/
def enclosing : List TypeDeclaration :=
  [{ name := "p.A", members := [.type { name := "B" }] }]

/-- A top-level type that has the name of the nested one. -/
def flattened : List TypeDeclaration :=
  [{ name := "p.A.B" }]

/-- The model of the type alone. -/
def enclosingModel : Model :=
  (build enclosing enclosing).toOption.getD ⟨#[]⟩

/-- The flattened type is refused for its name, which no source hides; on a classpath that is the
sources themselves, the nested type is found. -/
theorem build_shadowing_enclosing :
    (qualifiedNames enclosing).Nodup ∧ (qualifiedNames flattened).Nodup ∧
      build enclosing flattened = .error (.duplicateType "p.A.B") ∧
      "p.A.B" ∈ qualifiedNames (unshadowed enclosing flattened) ∧
      build enclosing enclosing = .ok enclosingModel ∧
      ∃ position, enclosingModel.lookup? "p.A.B" = some position := by
  have refused : build enclosing flattened = .error (.duplicateType "p.A.B") := by decide +kernel
  have built : build enclosing enclosing = .ok enclosingModel := by decide +kernel
  have distinct : (qualifiedNames enclosing).Nodup := by decide +kernel
  have other_distinct : (qualifiedNames flattened).Nodup := by decide +kernel
  have shared := (build_shadowing distinct other_distinct).1 "p.A.B" refused
  -- A type that is compiled again shadows itself, with everything nested in it.
  have resolved := (build_shadowing distinct distinct).2.2 enclosingModel built "p.A.B"
    { name := "B" } (by simp [namedTypes, enclosing, TypeDeclaration.namedTypes, membersNamedTypes,
      qualifiedBy])
  obtain ⟨position, _, found, _⟩ := resolved
  exact ⟨distinct, other_distinct, refused, shared.2, built, position, found⟩

/-- A source and a classpath declaration of one name can be refused, although neither input declares
a name twice: shadowing does not see a nested type. -/
theorem build_not_shadowing :
    ¬ ∀ sources classpath : List TypeDeclaration, (qualifiedNames sources).Nodup →
      (qualifiedNames classpath).Nodup →
        (∀ name, build sources classpath ≠ .error (.duplicateType name)) ∧
        ∀ model, build sources classpath = .ok model →
          ∀ name declaration, (name, declaration) ∈ namedTypes sources →
            ∃ position, model.lookup? name = some position ∧
              (listing sources classpath)[position]? = some (.source, .type declaration) := by
  -- A nested type of the source has the name of a top-level one of the classpath.
  intro claim
  have refused : build enclosing flattened = .error (.duplicateType "p.A.B") := by decide +kernel
  exact (claim enclosing flattened (by decide +kernel) (by decide +kernel)).1 "p.A.B" refused

end Model

end RuleMetadata

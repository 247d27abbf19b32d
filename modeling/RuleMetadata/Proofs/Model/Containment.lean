import RuleMetadata.Proofs.Model.Ancestry
import RuleMetadata.Proofs.Model.Forest
import RuleMetadata.Signature

/-! Containers seen from two sides: a type by its only parent, and a member that is declared with
the same type expression. -/

namespace RuleMetadata.Model

variable {sources classpath : List TypeDeclaration} {model : Model} {containers : List String}
  {position : Nat} {element : Element} {parent : TypeExpr}

/-- Whether a name can stand as a type expression by itself: it has no blanks and no brackets. -/
def IsPlainName (name : String) : Prop :=
  TypeExpr.IsErased name.toList ∧ '[' ∉ name.toList

instance (name : String) : Decidable (IsPlainName name) :=
  inferInstanceAs (Decidable (_ ∧ _))

/-- A plain name is not that of an array. -/
theorem isArrayName_of_isPlainName {name : String} (plain : IsPlainName name) :
    TypeExpr.isArrayName name = false := by
  -- The brackets of an array are no characters of a plain name.
  rw [← Bool.not_eq_true, TypeExpr.isArrayName_iff]
  intro array
  exact plain.2 (array.subset List.mem_cons_self)

/-- An argument holds several values just when its qualified type is a container. -/
theorem argumentType_snd (model : Model) (containers : List String) (member : Element) :
    (model.argumentType containers member).2 =
      model.isContainer containers (model.qualify member.package member.effectiveType) := by
  -- Whether a raw container or one with an item type, it holds several values.
  unfold argumentType
  cases contained :
      model.isContainer containers (model.qualify member.package member.effectiveType) with
  | true => cases argument : member.effectiveType.firstArgument? <;> simp [contained, argument]
  | false => simp [contained]

section Built

variable (built : build sources classpath = .ok model)
include built

/-- A type with a plain name that is no container by name is a container just when it leads to
one. -/
theorem isContainer_ofText_iff (found : model.elements[position]? = some element)
    (type : element.kind = .type) (plain : IsPlainName element.qualifiedName)
    (unlisted : element.qualifiedName ∉ containers) :
    model.isContainer containers (.ofText element.qualifiedName) ↔
      model.LeadsToContainer containers position := by
  -- The name is erased to itself, and is that of this type alone.
  have looked_up : model.lookup? element.qualifiedName = some position :=
    (lookup?_eq_some_iff (typeNames_nodup built)).2 ⟨element, found, type, rfl⟩
  rw [isContainer_iff, TypeExpr.erase_ofText _ plain.1, looked_up]
  simp [isArrayName_of_isPlainName plain, unlisted]

/-- A type with a plain name that is no container by name is a container just when its only parent
counts as one. -/
theorem isContainer_ofText_iff_countsAsContainer
    (found : model.elements[position]? = some element) (type : element.kind = .type)
    (plain : IsPlainName element.qualifiedName) (unlisted : element.qualifiedName ∉ containers)
    (single : element.parents = [parent]) :
    model.isContainer containers (.ofText element.qualifiedName) ↔
      model.CountsAsContainer containers element.package parent := by
  -- The first step to a container is the only parent.
  rw [isContainer_ofText_iff built found type plain unlisted, leadsToContainer_iff found, single]
  simp

/-- A member has the package of its owner. -/
theorem package_eq_of_owner {place : Nat} {member : Element}
    (inside : model.elements[place]? = some member) (owned : member.owner = some position)
    (found : model.elements[position]? = some element) : member.package = element.package := by
  -- The layout hands the package down from the owner.
  obtain ⟨above, _, again, _, _, _, _, _, _, package, _⟩ :=
    (isForest_of_build built).member inside owned
  obtain rfl := Option.some.inj (found.symm.trans again)
  exact package

/-- Take a type with a single parent, and a member of it with the same type expression. The type is
a container just when the parent, as written, is one by name or resolves to a type that leads to
one; the member is treated as one just when the expression, once qualified, is no array, and one by
name or the name of a type that leads to one. Where both find the same type, the two agree just when
the name as written and the qualified one are containers alike, or that type leads to one. -/
theorem isContainer_iff_argumentType (found : model.elements[position]? = some element)
    (type : element.kind = .type) (plain : IsPlainName element.qualifiedName)
    (unlisted : element.qualifiedName ∉ containers) (single : element.parents = [parent])
    {place : Nat} {member : Element} (inside : model.elements[place]? = some member)
    (owned : member.owner = some position) (declares : member.effectiveType = parent) :
    (model.isContainer containers (.ofText element.qualifiedName) ↔
      parent.erase ∈ containers ∨ ∃ next,
        model.resolve? element.package parent.erase = some next ∧
          model.LeadsToContainer containers next) ∧
    ((model.argumentType containers member).2 ↔
      TypeExpr.isArrayName (model.qualify element.package parent).erase = false ∧
        ((model.qualify element.package parent).erase ∈ containers ∨ ∃ next,
          model.lookup? (model.qualify element.package parent).erase = some next ∧
            model.LeadsToContainer containers next)) ∧
    (TypeExpr.isArrayName (model.qualify element.package parent).erase = false →
      model.lookup? (model.qualify element.package parent).erase =
        model.resolve? element.package parent.erase →
      ((model.isContainer containers (.ofText element.qualifiedName) ↔
          (model.argumentType containers member).2) ↔
        (parent.erase ∈ containers ↔
          (model.qualify element.package parent).erase ∈ containers) ∨
        ∃ next, model.resolve? element.package parent.erase = some next ∧
          model.LeadsToContainer containers next)) := by
  -- The two sides are decided by one erased name each, and the names are taken apart alike.
  have above := isContainer_ofText_iff_countsAsContainer built found type plain unlisted single
  have beside : (model.argumentType containers member).2 ↔ _ :=
    (Bool.coe_iff_coe.2 (model.argumentType_snd containers member)).trans isContainer_iff
  rw [declares, package_eq_of_owner built inside owned found] at beside
  refine ⟨above, beside, ?_⟩
  intro single_type same
  rw [above, beside, CountsAsContainer, same]
  simp only [single_type, true_and]
  by_cases leads : ∃ next, model.resolve? element.package parent.erase = some next ∧
      model.LeadsToContainer containers next
  · -- The type that both find leads to a container, whatever the names are.
    simp only [leads, or_true]
  · simp only [leads, or_false]

end Built

/-- A bag, and a sack that extends it and has one as a field. -/
def sacks : List TypeDeclaration :=
  [{ name := "p.Bag" },
   { name := "p.Sack", superclass := some "Bag"
     members := [.field { name := "content", type := some "Bag" }] }]

/-- The model of the two types. -/
def sackModel : Model :=
  (build sacks []).toOption.getD ⟨#[]⟩

/-- The names that are containers where bags are. -/
def bagContainers : List String :=
  containersWith ["p.Bag"]

/-- The element of the sack. -/
def sack : Element where
  kind := .type
  simpleName := "Sack"
  qualifiedName := "p.Sack"
  -- The bag is the only type in front.
  supertype := some 0
  superclass := some (.ofText "Bag")
  enclosed := [2]
  origin := .source
  package := some "p"
  ownerName := some "p"

/-- The element of its field. -/
def sackContent : Element where
  kind := .field
  simpleName := "content"
  qualifiedName := "p.Sack.content"
  declaredType := some (.ofText "Bag")
  owner := some 1
  origin := .source
  package := some "p"
  ownerName := some "p.Sack"

/-- The sack has the bag as its only parent, and a field that is declared like that. -/
theorem sackModel_elements : build sacks [] = .ok sackModel ∧
    sackModel.elements[1]? = some sack ∧ sackModel.elements[2]? = some sackContent := by
  decide +kernel

/-- A field of the bag is a container, and the sack that extends the bag is none. -/
theorem isContainer_iff_argumentType_sack :
    IsPlainName sack.qualifiedName ∧ sack.qualifiedName ∉ bagContainers ∧
      sack.parents = [.ofText "Bag"] ∧ sackContent.effectiveType = .ofText "Bag" ∧
      sackModel.lookup? "p.Bag" = sackModel.resolve? (some "p") "Bag" ∧
      (sackModel.argumentType bagContainers sackContent).2 ∧
      ¬ ∃ next, sackModel.resolve? (some "p") "Bag" = some next ∧
        sackModel.LeadsToContainer bagContainers next := by
  obtain ⟨built, at_sack, at_content⟩ := sackModel_elements
  have plain : IsPlainName sack.qualifiedName := by decide
  have unlisted : sack.qualifiedName ∉ bagContainers := by decide +kernel
  have single : sack.parents = [.ofText "Bag"] := rfl
  have declares : sackContent.effectiveType = .ofText "Bag" := rfl
  obtain ⟨above, beside, -⟩ := isContainer_iff_argumentType built at_sack rfl plain unlisted single
    at_content rfl declares
  have found : sackModel.lookup? "p.Bag" = sackModel.resolve? (some "p") "Bag" := by
    decide +kernel
  -- The bag is a container by its qualified name, and the sack is none.
  have flagged := beside.2 ⟨by decide +kernel, .inl (by decide +kernel)⟩
  refine ⟨plain, unlisted, single, declares, found, flagged, ?_⟩
  intro leads
  have contained := above.2 (.inr leads)
  exact absurd contained (by decide +kernel)

/-- A type need not be a container where a member with the type expression of its only parent is
treated as one: a parent is compared to the container names before its package is known. -/
theorem isContainer_ne_argumentType :
    ¬ ∀ (sources classpath : List TypeDeclaration) (model : Model) (extra : List String)
      (position place : Nat) (element member : Element) (parent : TypeExpr),
        build sources classpath = .ok model → model.elements[position]? = some element →
        element.kind = .type → IsPlainName element.qualifiedName →
        element.qualifiedName ∉ containersWith extra → element.parents = [parent] →
        model.elements[place]? = some member → member.owner = some position →
        member.effectiveType = parent →
          (model.isContainer (containersWith extra) (.ofText element.qualifiedName) ↔
            (model.argumentType (containersWith extra) member).2) := by
  intro agree
  obtain ⟨built, at_sack, at_content⟩ := sackModel_elements
  -- The sack is no container, but its field is.
  have same := agree sacks [] sackModel ["p.Bag"] 1 2 sack sackContent (.ofText "Bag") built
    at_sack rfl (by decide) (by decide +kernel) rfl at_content rfl rfl
  exact absurd same (by decide +kernel)

end RuleMetadata.Model

import RuleMetadata.Proofs.Description.Cache
import RuleMetadata.Proofs.Description.Key

/-! Which elements of a model share a key, so that they overwrite each other's descriptions. -/

namespace RuleMetadata

namespace Model

section Built

variable {sources classpath : List TypeDeclaration} {model : Model}
  (built : Model.build sources classpath = .ok model)
include built

/-- Members of a model have one owner just when they have one owner's name. -/
theorem owner_eq_of_keyOwner {one other : Element} (one_inside : one ∈ model.elements.toList)
    (other_inside : other ∈ model.elements.toList) (one_member : one.kind ≠ .type)
    (other_member : other.kind ≠ .type) :
    one.owner = other.owner ↔ one.keyOwner = other.keyOwner := by
  -- The owner of a member is a type of the model, and the key has the name of that type.
  have one_placed := isPlaced_of_build built one one_inside
  have other_placed := isPlaced_of_build built other other_inside
  cases one_owner : one.owner with
  | none => simp [Element.IsPlaced, one_owner, one_member] at one_placed
  | some position =>
    cases other_owner : other.owner with
    | none => simp [Element.IsPlaced, other_owner, other_member] at other_placed
    | some other_position =>
      simp only [Element.IsPlaced, one_owner] at one_placed
      simp only [Element.IsPlaced, other_owner] at other_placed
      obtain ⟨outer, found, type, named, _⟩ := one_placed
      obtain ⟨other_outer, other_found, other_type, other_named, _⟩ := other_placed
      simp only [Element.keyOwner, named, other_named, Option.getD_some, Option.some.injEq]
      constructor
      · rintro rfl
        rw [found] at other_found
        rw [Option.some.inj other_found]
      · intro same
        -- Two types at different positions would have different qualified names.
        rcases Nat.decEq position other_position with apart | rfl
        · exact absurd same (qualifiedName_ne built apart (by simpa using found)
            (by simpa using other_found) type other_type)
        · rfl

/-- Two types of a model at different positions differ in a part of their names. -/
theorem names_ne_of_types {left right : Nat} {one other : Element} (apart : left ≠ right)
    (at_left : model.elements[left]? = some one) (at_right : model.elements[right]? = some other)
    (one_type : one.kind = .type) (other_type : other.kind = .type) :
    one.simpleName ≠ other.simpleName ∨ one.ownerName ≠ other.ownerName := by
  -- A qualified name is made from the two others, so that they cannot both be equal.
  have differ := qualifiedName_ne built apart at_left at_right one_type other_type
  have one_placed := isPlaced_of_build built one
    (Array.mem_toList_iff.2 (Array.mem_of_getElem? at_left))
  have other_placed := isPlaced_of_build built other
    (Array.mem_toList_iff.2 (Array.mem_of_getElem? at_right))
  rw [one_placed.qualifiedName_eq, other_placed.qualifiedName_eq] at differ
  by_cases simple : one.simpleName = other.simpleName
  · refine .inr fun owner => differ ?_
    rw [simple, owner]
  · exact .inl simple

/-- Two elements of a model have one key just when they are fields or methods of one type whose
names differ at most in outer blanks, or types that differ only in the outer blanks of their
simple names and in whether an empty package is missing; in every other case saving the one leaves
what is read of the other. -/
theorem resourceKey?_eq_iff {left right : Nat} {one other : Element} (apart : left ≠ right)
    (at_left : model.elements[left]? = some one) (at_right : model.elements[right]? = some other)
    (one_keyed : one.resourceKey?.isSome) (other_keyed : other.resourceKey?.isSome) :
    (one.resourceKey? = other.resourceKey? ↔
      Text.trim one.simpleName = Text.trim other.simpleName ∧
        (one.kind = other.kind ∧ (one.kind = .field ∨ one.kind = .method) ∧
            one.owner = other.owner ∨
          one.kind = .type ∧ other.kind = .type ∧
            one.ownerName.getD "" = other.ownerName.getD "" ∧
            (one.simpleName ≠ other.simpleName ∨ one.ownerName ≠ other.ownerName))) ∧
      (one.resourceKey? ≠ other.resourceKey? → ∀ (location : String) (memory : MemoryStore),
        let cache := DescriptionCache.inMemory Unit location
        ((cache.read other).run ((cache.save one).run (memory, ())).2).1 =
          ((cache.read other).run (memory, ())).1) := by
  -- The key tells kind, trimmed name and owner's name; what is left is what the model makes of
  -- them.
  have one_inside := Array.mem_toList_iff.2 (Array.mem_of_getElem? at_left)
  have other_inside := Array.mem_toList_iff.2 (Array.mem_of_getElem? at_right)
  obtain ⟨key, one_key⟩ := Option.isSome_iff_exists.1 one_keyed
  have keyed_kind := (Element.resourceKey?_eq_some_iff.1 one_key).1
  constructor
  · rw [Element.resourceKey?_eq_iff_of_isSome one_keyed other_keyed]
    by_cases type : one.kind = .type
    · -- The names of two types differ in any case, and a type is neither field nor method.
      have differ := names_ne_of_types built apart at_left at_right type
      rw [type, eq_comm]
      constructor
      · rintro ⟨other_type, name, owner⟩
        exact ⟨name, .inr ⟨rfl, other_type, owner, differ other_type⟩⟩
      · rintro ⟨name, ⟨_, member, _⟩ | ⟨_, other_type, owner, _⟩⟩
        · simp at member
        · exact ⟨other_type, name, owner⟩
    · -- Anything else with a key is a field or a method, which has an owner.
      have member : one.kind = .field ∨ one.kind = .method := by
        cases kind : one.kind <;> simp [kind] at type keyed_kind ⊢
      constructor
      · rintro ⟨kind, name, owner⟩
        have owners := owner_eq_of_keyOwner built one_inside other_inside type (kind ▸ type)
        exact ⟨name, .inl ⟨kind, member, owners.2 owner⟩⟩
      · rintro ⟨name, ⟨kind, _, owner⟩ | ⟨one_type, _⟩⟩
        · have owners := owner_eq_of_keyOwner built one_inside other_inside type (kind ▸ type)
          exact ⟨kind, name, owners.1 owner⟩
        · exact absurd one_type type
  · -- Saving changes the text under one key, and the other element is read under another one.
    intro differ location memory
    simp only [DescriptionCache.save_inMemory, DescriptionCache.read_inMemory,
      MemoryStore.description_saved_of_ne differ]

end Built

/-- A type with two methods of one name, of which only the first is documented. -/
def overloads : List TypeDeclaration :=
  [{ name := "p.T"
     members := [.method { name := "m", doc := some "first" }, .method { name := "m" }] }]

/-- The model of the two methods. -/
def overloadsModel : Model :=
  (build overloads []).toOption.getD ⟨#[]⟩

/-- Either of the two methods, by its documentation. -/
def overload (doc : Option String) : Element :=
  { kind := .method, simpleName := "m", qualifiedName := "p.T.m", declaredType := some ⟨"void"⟩
    owner := some 0, doc, origin := .source, package := some "p", ownerName := some "p.T" }

/-- The two methods have one key, since their names and their owners are the same. -/
theorem resourceKey?_eq_iff_overloads :
    build overloads [] = .ok overloadsModel ∧
      overloadsModel.elements[1]? = some (overload (some "first")) ∧
      overloadsModel.elements[2]? = some (overload none) ∧
      (overload (some "first")).resourceKey? = (overload none).resourceKey? := by
  have built : build overloads [] = .ok overloadsModel := by decide +kernel
  have first : overloadsModel.elements[1]? = some (overload (some "first")) := by decide +kernel
  have second : overloadsModel.elements[2]? = some (overload none) := by decide +kernel
  -- Both have keys, and neither is a field or a type.
  have shared := resourceKey?_eq_iff built (by decide : 1 ≠ 2) first second (by decide +kernel)
    (by decide +kernel)
  exact ⟨built, first, second, shared.1.2 ⟨rfl, .inl ⟨rfl, .inr rfl, rfl⟩⟩⟩

/-- The keys of a model need not differ: two methods of one name share one, and the second is
described by what was saved for the first. -/
theorem resourceKey?_not_unique : ¬ ∀ (sources classpath : List TypeDeclaration) (model : Model),
    build sources classpath = .ok model → ∀ (left right : Nat) (one other : Element),
      left ≠ right → model.elements[left]? = some one → model.elements[right]? = some other →
      one.resourceKey?.isSome → other.resourceKey?.isSome →
      one.resourceKey? ≠ other.resourceKey? := by
  -- The two methods differ in nothing that a key is made of.
  intro unique
  have differ := unique overloads [] overloadsModel (by decide +kernel) 1 2
    (overload (some "first")) (overload none) (by decide) (by decide +kernel) (by decide +kernel)
    (by decide +kernel) (by decide +kernel)
  exact absurd differ (by decide +kernel)

end Model

end RuleMetadata

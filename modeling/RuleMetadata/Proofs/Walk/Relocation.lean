import RuleMetadata.Proofs.Model.Rearrangement
import RuleMetadata.Proofs.Walk.Embedding

/-! What is extracted from a model does not depend on where its elements stand, and so neither on
the order of its declarations. -/

namespace RuleMetadata

namespace Model

/-- A model that moves to another one stands in it as a whole. -/
theorem MovesTo.embeds {move : Equiv.Perm Nat} {model other : Model}
    (moved : model.MovesTo move other) : model.Embeds move other :=
  ⟨move.injective, moved⟩

/-- Whether two models tell the same of every type and element, each of which has moved. -/
structure Alike (move : Equiv.Perm Nat) (model other : Model) : Prop where
  moved : model.MovesTo move other
  /-- The types have the same names. -/
  lookup : ∀ name, other.lookup? name = (model.lookup? name).map move
  key : ∀ position, other.elements[move position]?.map Element.resourceKey? =
    model.elements[position]?.map Element.resourceKey?
  ownerName : ∀ position, other.elements[move position]?.map Element.ownerName =
    model.elements[position]?.map Element.ownerName
  package : ∀ position, other.elements[move position]?.map Element.package =
    model.elements[position]?.map Element.package
  /-- Any cache reads the same description, in the same way. -/
  description : ∀ {m : Type → Type} [Monad m] (cache : DescriptionCache m) (position : Nat),
    other.elements[move position]?.map cache.read = model.elements[position]?.map cache.read
  attributes : ∀ root, other.attributes (move root) = model.attributes root
  /-- Any cache and container names give the same signature and notes. -/
  signature : ∀ {m : Type → Type} [Monad m] [LawfulMonad m] (cache : DescriptionCache m)
    (containers : List String) (root : Nat),
    other.signature containers (cache.readAt other) (move root) =
      model.signature containers (cache.readAt model) root

/-- Models of which one moves to the other tell the same, if they name each type once. -/
theorem MovesTo.alike {move : Equiv.Perm Nat} {model other : Model}
    (moved : model.MovesTo move other) (distinct : (typeNames model.elements.toList).Nodup) :
    model.Alike move other where
  moved := moved
  lookup := moved.lookup? distinct
  key := moved.embeds.map_eq (Element.moved_resourceKey? move)
  ownerName := moved.embeds.map_eq (Element.moved_ownerName move)
  package := moved.embeds.map_eq (Element.moved_package move)
  description _ := moved.embeds.map_eq fun _ => rfl
  attributes := moved.embeds.attributes
  signature cache containers root := by
    -- Whatever name is looked up, it is that of the type that has moved.
    have alike (name : String) : NamesAlike move model other name := moved.lookup? distinct name
    rw [← moved.embeds.readAt cache]
    exact moved.embeds.signature (fun _ _ _ name _ => alike name) (fun _ _ _ name _ => alike name)
      containers _ root

/-- What is extracted from declarations does not depend on their order: they form a model in every
order or in none, and two models of the same declarations tell the same of every type and every
element. -/
theorem alike_of_perm {sources others classpath otherClasspath : List TypeDeclaration}
    (sources_perm : sources.Perm others) (classpath_perm : classpath.Perm otherClasspath) :
    ((∃ model, build sources classpath = .ok model) ↔
      ∃ other, build others otherClasspath = .ok other) ∧
    ∀ {model other : Model}, build sources classpath = .ok model →
      build others otherClasspath = .ok other → ∃ move, model.Alike move other := by
  -- Rearranging declarations is undone by rearranging them back.
  refine ⟨⟨?_, ?_⟩, ?_⟩
  · rintro ⟨model, built⟩
    obtain ⟨_, other, built, _⟩ := exists_build_of_perm sources_perm classpath_perm built
    exact ⟨other, built⟩
  · rintro ⟨other, built⟩
    obtain ⟨_, model, built, _⟩ := exists_build_of_perm sources_perm.symm classpath_perm.symm built
    exact ⟨model, built⟩
  · intro model other built other_built
    obtain ⟨move, _, built_again, moved⟩ := exists_build_of_perm sources_perm classpath_perm built
    obtain rfl := Except.ok.inj (built_again.symm.trans other_built)
    exact ⟨move, moved.alike (typeNames_nodup built)⟩

/-- A rule that inherits an argument, the type of which is a container on the classpath. -/
def inheriting : List TypeDeclaration :=
  [{ name := "p.Base"
     members := [.field { name := "names", type := some "Names", markers := [.argument {}] }] },
   -- The name of its supertype is found inside the package.
   { name := "p.Rule", superclass := some "Base"
     members := [.method { name := "run", markers := [.attribute { value := ["now"] }] }] }]

/-- The classpath of the rule. -/
def inheritedClasspath : List TypeDeclaration :=
  [{ name := "p.Names", interfaces := ["java.util.List<String>"] }, { name := "p.Other" }]

/-- The model of the rule and its classpath. -/
def inheritingModel : Model :=
  (build inheriting inheritedClasspath).toOption.getD ⟨#[]⟩

/-- The model of the same declarations the other way round. -/
def inheritingReversed : Model :=
  (build inheriting.reverse inheritedClasspath.reverse).toOption.getD ⟨#[]⟩

/-- The rule has its attributes in the model of the reversed declarations too, where it stands
elsewhere. -/
theorem alike_of_perm_reversed :
    build inheriting inheritedClasspath = .ok inheritingModel ∧
      build inheriting.reverse inheritedClasspath.reverse = .ok inheritingReversed ∧
      inheritingModel.lookup? "p.Rule" = some 4 ∧ inheritingReversed.lookup? "p.Rule" = some 2 ∧
      inheritingModel.attributes 4 = [("run", .single "now")] ∧
      inheritingReversed.attributes 2 = [("run", .single "now")] := by
  have built : build inheriting inheritedClasspath = .ok inheritingModel := by decide +kernel
  have reversed : build inheriting.reverse inheritedClasspath.reverse = .ok inheritingReversed := by
    decide +kernel
  have here : inheritingModel.lookup? "p.Rule" = some 4 := by decide +kernel
  have there : inheritingReversed.lookup? "p.Rule" = some 2 := by decide +kernel
  have declared : inheritingModel.attributes 4 = [("run", .single "now")] := by decide +kernel
  obtain ⟨-, alike⟩ :=
    alike_of_perm inheriting.reverse_perm.symm inheritedClasspath.reverse_perm.symm
  obtain ⟨move, alike⟩ := alike built reversed
  -- The rule has moved from the one position to the other, and its attributes with it.
  have moved : 2 = move 4 := by
    have named := alike.lookup "p.Rule"
    rw [here, there] at named
    exact Option.some.inj named
  refine ⟨built, reversed, here, there, declared, ?_⟩
  rw [moved, alike.attributes, declared]

end Model

end RuleMetadata

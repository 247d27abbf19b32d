import RuleMetadata.Proofs.Model.Shadowing
import RuleMetadata.Proofs.Walk.Embedding

/-! Further types on the classpath: they stand between the classpath and the sources, and change
nothing of what is extracted from the other types unless one of their names is looked up there. -/

namespace RuleMetadata

/-- Positions from a border on make room for some others. -/
def makeRoom (border length position : Nat) : Nat :=
  if position < border then position else position + length

section MakeRoom

variable {border length index : Nat}

/-- What stands in front of the border stays. -/
theorem makeRoom_front (inside : index < border) : makeRoom border length index = index :=
  if_pos inside

/-- What stands behind the border moves by the length of the room. -/
theorem makeRoom_back : makeRoom border length (border + index) = border + length + index := by
  rw [makeRoom, if_neg (by omega)]
  omega

/-- No two positions meet. -/
theorem makeRoom_injective : Function.Injective (makeRoom border length) := by
  intro one other same
  unfold makeRoom at same
  -- A position stays in front of the room, or moves behind it.
  split at same <;> split at same <;> omega

/-- A position that none moves to lies in the room. -/
theorem mem_room_of_ne {target : Nat}
    (free : ∀ position, makeRoom border length position ≠ target) :
    border ≤ target ∧ target < border + length := by
  -- A position in front of the room stays, and one behind it has moved there.
  constructor
  · refine Nat.le_of_not_lt fun front => free target ?_
    rw [makeRoom, if_pos front]
  · refine Nat.lt_of_not_le fun back => free (target - length) ?_
    rw [makeRoom, if_neg (by omega)]
    omega

end MakeRoom

/-- Elements make room for a block. -/
theorem getElem?_makeRoom (front block back : List Element) (position : Nat) :
    (front ++ (block ++ back))[makeRoom front.length block.length position]? =
      (front ++ back)[position]? := by
  -- A position in front of the block stays, and any other one goes beyond the block.
  unfold makeRoom
  simp only [List.getElem?_append]
  grind

/-- The elements of declarations stand among those of more declarations. -/
theorem embeds_declared (front block back : List (Origin × TypeDeclaration)) :
    (Model.mk (declaredElements 0 (front ++ back)).toArray).Embeds
      (makeRoom (declaredSize front) (declaredSize block))
      ⟨(declaredElements 0 (front ++ (block ++ back))).toArray⟩ where
  injective := makeRoom_injective
  stands position := by
    let move := makeRoom (declaredSize front) (declaredSize block)
    -- Each of the two parts moves as a whole.
    have front_stays : (declaredElements 0 front).map (Element.moved move) =
        declaredElements 0 front :=
      declaredElements_moved fun index inside => by
        rw [Nat.zero_add]
        exact makeRoom_front inside
    have back_moves : (declaredElements (declaredSize front) back).map (Element.moved move) =
        declaredElements (declaredSize front + declaredSize block) back :=
      declaredElements_moved fun _ _ => makeRoom_back
    have stands := getElem?_makeRoom (declaredElements 0 front)
      (declaredElements (declaredSize front) block)
      (declaredElements (declaredSize front + declaredSize block) back) position
    simp only [length_declaredElements] at stands
    simp only [List.getElem?_toArray, ← List.getElem?_map, declaredElements_append, List.map_append,
      Nat.zero_add]
    rw [front_stays, back_moves, stands]

namespace Model

variable {move : Nat → Nat} {model other : Model}

/-- The types of a model that stands in one with distinct names have distinct names. -/
theorem Embeds.nodup_typeNames (embeds : model.Embeds move other)
    (distinct : (typeNames other.elements.toList).Nodup) :
    (typeNames model.elements.toList).Nodup := by
  rw [nodup_typeNames_iff]
  -- Two types of one name would both have moved into the other model.
  intro left right one two at_left at_right one_type two_type same
  have moved_left : other.elements[move left]? = some (one.moved move) := by
    rw [embeds.stands, at_left, Option.map_some]
  have moved_right : other.elements[move right]? = some (two.moved move) := by
    rw [embeds.stands, at_right, Option.map_some]
  exact embeds.injective
    (nodup_typeNames_iff.1 distinct moved_left moved_right one_type two_type same)

/-- A name that stands for a type stands for it where it has moved to. -/
theorem Embeds.lookup?_eq_some (embeds : model.Embeds move other)
    (distinct : (typeNames other.elements.toList).Nodup) {name : String} {position : Nat}
    (known : model.lookup? name = some position) : other.lookup? name = some (move position) := by
  obtain ⟨element, found, type, named⟩ :=
    (lookup?_eq_some_iff (embeds.nodup_typeNames distinct)).1 known
  -- Names are distinct, so the one type of the name is where it has moved to.
  refine (lookup?_eq_some_iff distinct).2 ⟨element.moved move, ?_, type, named⟩
  rw [embeds.stands, found, Option.map_some]

/-- A name stands for the same type, unless a type in the room of the other model has it. -/
theorem Embeds.namesAlike (embeds : model.Embeds move other)
    (distinct : (typeNames other.elements.toList).Nodup) {name : String}
    (absent : ∀ target element, other.elements[target]? = some element → element.kind = .type →
      element.qualifiedName = name → ∃ position, move position = target) :
    NamesAlike move model other name := by
  rw [NamesAlike]
  cases known : model.lookup? name with
  | some position => exact embeds.lookup?_eq_some distinct known
  | none =>
    rw [Option.map_none, Option.eq_none_iff_forall_not_mem]
    -- A type of that name would stand in the one model as well.
    intro target there
    obtain ⟨counterpart, found, type, named⟩ := (lookup?_eq_some_iff distinct).1 there
    obtain ⟨position, rfl⟩ := absent target counterpart found type named
    rw [embeds.stands, Option.map_eq_some_iff] at found
    obtain ⟨element, found, rfl⟩ := found
    have here := (lookup?_eq_some_iff (embeds.nodup_typeNames distinct)).2
      ⟨element, found, type, named⟩
    rw [known] at here
    cases here

/-- Supertypes are resolved to where they have moved to, if the names of the parents stand for the
same types. -/
theorem Embeds.link (embeds : model.Embeds move other)
    (parents_alike : ∀ (position : Nat) (element : Element),
      model.elements[position]? = some element →
        ∀ name ∈ element.parentNames, NamesAlike move model other name) :
    (link model).Embeds move (link other) where
  injective := embeds.injective
  stands position := by
    rw [link_getElem?, link_getElem?, embeds.stands, Option.map_map, Option.map_map]
    refine Option.map_congr fun element found => ?_
    -- The supertype is one of the parents.
    have resolved (type) (listed : element.superclass = some type) :
        other.resolve? element.package type.erase =
          (model.resolve? element.package type.erase).map move :=
      resolve?_eq fun spelling mem => parents_alike position element found spelling
        (List.mem_flatMap.2 ⟨type, by simp [Element.parents, listed], mem⟩)
    cases above : element.superclass with
    | none => simp [linked, Element.moved, above]
    | some type => simp [linked, Element.moved, above, resolved type above]

/-! ### Unrelated types -/

/-- The further types of a classpath stand in front of the sources. -/
theorem declared_append (sources classpath added : List TypeDeclaration) :
    declared sources (classpath ++ added) =
      (unshadowed sources classpath).map (.classpath, ·) ++
        ((unshadowed sources added).map (.classpath, ·) ++ sources.map (.source, ·)) := by
  simp [declared, unshadowed]

/-- A name that no further type has stands for the same type with them and without. -/
theorem namesAlike_layout {sources classpath added : List TypeDeclaration}
    (distinct : (typeNames (layout sources (classpath ++ added))).Nodup) {name : String}
    (absent : name ∉ qualifiedNames (unshadowed sources added)) :
    NamesAlike (makeRoom (declaredSize ((unshadowed sources classpath).map (.classpath, ·)))
        (declaredSize ((unshadowed sources added).map (.classpath, ·))))
      ⟨(layout sources classpath).toArray⟩ ⟨(layout sources (classpath ++ added)).toArray⟩
      name := by
  let front := (unshadowed sources classpath).map (Origin.classpath, ·)
  let block := (unshadowed sources added).map (Origin.classpath, ·)
  let back := sources.map (Origin.source, ·)
  rw [layout_eq, declared_append] at distinct
  rw [layout_eq, layout_eq, declared_append]
  refine (embeds_declared front block back).namesAlike (by simpa using distinct) ?_
  intro target element found type named
  by_contra free
  obtain ⟨behind, ends⟩ := mem_room_of_ne (not_exists.1 free)
  -- What stands in the room is a further type, and the name is that of none.
  have listed : element ∈ declaredElements (declaredSize front) block := by
    simp only [declaredElements_append, Nat.zero_add, List.getElem?_toArray] at found
    rw [List.getElem?_append_right (by simpa using behind),
      List.getElem?_append_left (by simp; omega)] at found
    exact List.mem_of_getElem? found
  refine absent (named ▸ ?_)
  rw [← typeNames_declarationsElements .classpath (declaredSize front), ← declaredElements_map]
  exact List.mem_map_of_mem (List.mem_filter.2 ⟨listed, by simpa using type⟩)

/-- Whether a model tells of each type and element of another one, wherever it has moved to, what
that one tells. -/
structure Preserved (move : Nat → Nat) (model other : Model) : Prop where
  embeds : model.Embeds move other
  lookup : ∀ {name : String} {position : Nat}, model.lookup? name = some position →
    other.lookup? name = some (move position)
  attributes : ∀ root, other.attributes (move root) = model.attributes root
  /-- Any cache reads the same description, in the same way. -/
  description : ∀ {m : Type → Type} [Monad m] (cache : DescriptionCache m) (position : Nat),
    other.elements[move position]?.map cache.read = model.elements[position]?.map cache.read
  /-- Any container names take the type of an element for a container in both models or in
  neither. -/
  container : ∀ (containers : List String) (position : Nat),
    other.elements[move position]?.map (other.argumentType containers) =
      model.elements[position]?.map (model.argumentType containers)
  /-- Any cache and container names give the same signature and notes. -/
  signature : ∀ {m : Type → Type} [Monad m] [LawfulMonad m] (cache : DescriptionCache m)
    (containers : List String) (root : Nat),
    other.signature containers (cache.readAt other) (move root) =
      model.signature containers (cache.readAt model) root

/-- A model that stands in another one is preserved there, if the names that its elements look up
stand for the same types. -/
theorem Embeds.preserved (embeds : model.Embeds move other)
    (distinct : (typeNames other.elements.toList).Nodup)
    (alike : ∀ (position : Nat) (element : Element), model.elements[position]? = some element →
      ∀ name ∈ element.parentNames ++ element.containerNames, NamesAlike move model other name) :
    model.Preserved move other := by
  -- Attributes and descriptions depend on no names, and the rest depends on both kinds.
  have parents_alike (position : Nat) (element : Element)
      (found : model.elements[position]? = some element) (name : String)
      (listed : name ∈ element.parentNames) : NamesAlike move model other name :=
    alike position element found name (List.mem_append_left _ listed)
  have types_alike (position : Nat) (element : Element)
      (found : model.elements[position]? = some element) (name : String)
      (listed : name ∈ element.containerNames) : NamesAlike move model other name :=
    alike position element found name (List.mem_append_right _ listed)
  exact {
    embeds
    lookup := embeds.lookup?_eq_some distinct
    attributes := embeds.attributes
    description := fun _ => embeds.map_eq fun _ => rfl
    container := fun containers position => by
      rw [embeds.stands, Option.map_map]
      refine Option.map_congr fun element found => ?_
      rw [Function.comp_apply, embeds.argumentType parents_alike types_alike containers found]
    signature := fun cache containers root => by
      rw [← embeds.readAt cache]
      exact embeds.signature parents_alike types_alike containers _ root }

/-- Further types on the classpath change nothing of the other types, if none of them has a name
that is looked up there: for the type above an element, or to tell whether the type of an element is
a container. -/
theorem preserved_of_unrelated {sources classpath added : List TypeDeclaration}
    (built : build sources classpath = .ok model)
    (extended : build sources (classpath ++ added) = .ok other)
    (unrelated : ∀ element ∈ model.elements.toList,
      ∀ name ∈ element.parentNames ++ element.containerNames,
        name ∉ qualifiedNames (unshadowed sources added)) :
    ∃ move, model.Preserved move other := by
  have distinct := typeNames_nodup extended
  obtain ⟨_, _, ⟨_, passed⟩, rfl, _⟩ := build_eq_ok_iff.1 extended
  obtain ⟨_, _, _, rfl, _⟩ := build_eq_ok_iff.1 built
  have layout_distinct := (exists_checkElements_eq_ok_iff.1 ⟨_, passed⟩).1
  have alike (position : Nat) (element : Element)
      (found : (link ⟨(layout sources classpath).toArray⟩).elements[position]? = some element)
      (name : String) (listed : name ∈ element.parentNames ++ element.containerNames) :=
    namesAlike_layout layout_distinct
      (unrelated element (List.mem_of_getElem? (Array.getElem?_toList ▸ found)) name listed)
  -- Neither the names that are looked up nor what they stand for depends on the links.
  have embeds := embeds_declared ((unshadowed sources classpath).map (.classpath, ·))
    ((unshadowed sources added).map (.classpath, ·)) (sources.map (.source, ·))
  rw [← declared_append, ← layout_eq, ← declared, ← layout_eq] at embeds
  refine ⟨_, (embeds.link fun position element found name listed => ?_).preserved distinct
    fun position element found name listed => ?_⟩
  · refine alike position (linked ⟨(layout sources classpath).toArray⟩ element) ?_ name
      (List.mem_append_left _ listed)
    rw [link_getElem?, found, Option.map_some]
  · rw [NamesAlike, lookup?_link, lookup?_link]
    exact alike position element found name listed

/-- A rule that inherits an argument, the type of which is a container on the classpath. -/
def collecting : List TypeDeclaration :=
  [{ name := "p.Base"
     members := [.field { name := "names", type := some "Names", markers := [.argument {}] }] },
   { name := "p.Rule", superclass := some "Base"
     -- The constructor is here because it has no type of its own.
     members := [.constructor {},
      .method { name := "run", markers := [.attribute { value := ["now"] }] }] }]

/-- The classpath of the rule. -/
def collectingClasspath : List TypeDeclaration :=
  [{ name := "p.Names", interfaces := ["java.util.List<String>"] }]

/-- Further types, one of which extends the rule, and another one is hidden by it. -/
def collectingAdded : List TypeDeclaration :=
  [{ name := "q.Names", superclass := some "p.Rule", members := [.type { name := "Base" }] },
   { name := "p.Rule", members := [.type { name := "List" }] }]

/-- The model of the rule and its classpath. -/
def collectingModel : Model :=
  (build collecting collectingClasspath).toOption.getD ⟨#[]⟩

/-- The model of the rule and a longer classpath. -/
def collectingExtended : Model :=
  (build collecting (collectingClasspath ++ collectingAdded)).toOption.getD ⟨#[]⟩

/-- The rule keeps its attributes on the longer classpath, which hides none of its names. -/
theorem preserved_of_unrelated_collecting :
    build collecting collectingClasspath = .ok collectingModel ∧
      build collecting (collectingClasspath ++ collectingAdded) = .ok collectingExtended ∧
      collectingModel.lookup? "p.Rule" = some 3 ∧ collectingExtended.lookup? "p.Rule" = some 5 ∧
      collectingModel.attributes 3 = [("run", .single "now")] ∧
      collectingExtended.attributes 5 = [("run", .single "now")] := by
  have built : build collecting collectingClasspath = .ok collectingModel := by decide +kernel
  have extended :
      build collecting (collectingClasspath ++ collectingAdded) = .ok collectingExtended := by
    decide +kernel
  have unrelated : ∀ element ∈ collectingModel.elements.toList,
      ∀ name ∈ element.parentNames ++ element.containerNames,
        name ∉ qualifiedNames (unshadowed collecting collectingAdded) := by decide +kernel
  have here : collectingModel.lookup? "p.Rule" = some 3 := by decide +kernel
  have there : collectingExtended.lookup? "p.Rule" = some 5 := by decide +kernel
  have declared : collectingModel.attributes 3 = [("run", .single "now")] := by decide +kernel
  obtain ⟨move, preserved⟩ := preserved_of_unrelated built extended unrelated
  -- The rule has moved behind the further types, and its attributes with it.
  have moved : 5 = move 3 := Option.some.inj (there.symm.trans (preserved.lookup here))
  refine ⟨built, extended, here, there, declared, ?_⟩
  rw [moved, preserved.attributes, declared]

/-- A type without any type expression: its one member is a constructor, marked as an argument. -/
def creating : List TypeDeclaration :=
  [{ name := "p.Rule", members := [.constructor { markers := [.argument {}] }] }]

/-- A further type, named as what stands for the type of a constructor. -/
def voidContainer : List TypeDeclaration :=
  [{ name := "void", interfaces := ["java.util.List"] }]

/-- A constructor counts as `void`, and this name is looked up as well: without any type expression
in the sources, a further type of that name makes a container of the constructor's type. -/
theorem signature_voidContainer :
    ∃ model other, build creating [] = .ok model ∧
      build creating ([] ++ voidContainer) = .ok other ∧
      (∀ element ∈ model.elements.toList, element.parents = [] ∧ element.declaredType = none) ∧
      model.lookup? "p.Rule" = some 0 ∧ other.lookup? "p.Rule" = some 1 ∧
      (model.signature (m := Id) defaultContainers (fun _ => none) 0).1.arguments =
        [{ name := "Rule", type := "void" }] ∧
      (other.signature (m := Id) defaultContainers (fun _ => none) 1).1.arguments =
        [{ name := "Rule", type := "void", multiValued := true }] := by
  -- The constructor is an argument of the type that constructors are given.
  refine ⟨(build creating []).toOption.getD ⟨#[]⟩,
    (build creating ([] ++ voidContainer)).toOption.getD ⟨#[]⟩, ?_, ?_, ?_, ?_, ?_, ?_, ?_⟩
  all_goals decide +kernel

end Model

end RuleMetadata

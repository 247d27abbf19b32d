import RuleMetadata.Model.Build
import RuleMetadata.Proofs.Model.Layout
import RuleMetadata.Proofs.State

/-! When declarations form a model, and what holds of every model that they form. -/

namespace RuleMetadata

namespace Model

/-- The qualified names of the types among some elements. -/
def typeNames (elements : List Element) : List String :=
  (elements.filter (·.kind = .type)).map (·.qualifiedName)

/-- The names of types are distinct just when two types of one name stand at one position. -/
theorem nodup_typeNames_iff {elements : Array Element} :
    (typeNames elements.toList).Nodup ↔ ∀ {left right : Nat} {one other : Element},
      elements[left]? = some one → elements[right]? = some other → one.kind = .type →
        other.kind = .type → one.qualifiedName = other.qualifiedName → left = right := by
  rw [typeNames, List.Nodup, List.pairwise_map, List.pairwise_filter, List.pairwise_iff_getElem]
  simp only [Array.length_toList, Array.getElem_toList, decide_eq_true_eq]
  constructor
  · intro pairwise left right one other at_left at_right one_type other_type same
    obtain ⟨left_inside, rfl⟩ := Array.getElem?_eq_some_iff.1 at_left
    obtain ⟨right_inside, rfl⟩ := Array.getElem?_eq_some_iff.1 at_right
    -- The names of a list are compared from the front, so the two positions are put in order.
    rcases Nat.lt_trichotomy left right with before | equal | behind
    · exact absurd same (pairwise left right left_inside right_inside before one_type other_type)
    · exact equal
    · exact absurd same.symm
        (pairwise right left right_inside left_inside behind other_type one_type)
  · intro single left right left_inside right_inside before one_type other_type same
    exact Nat.ne_of_lt before (single (Array.getElem?_eq_getElem left_inside)
      (Array.getElem?_eq_getElem right_inside) one_type other_type same)

/-- A condition picks out the positions of the elements that satisfy it. -/
theorem mem_positions_iff {model : Model} {condition : Element → Bool} {position : Nat} :
    position ∈ model.positions condition ↔
      ∃ element, model.elements[position]? = some element ∧ condition element := by
  -- An element at a position shows that the position is one of the model's.
  simp only [positions, List.mem_filter, List.mem_range, Option.any_eq_true, size]
  constructor
  · exact fun picked => picked.2
  · rintro ⟨element, found, satisfied⟩
    exact ⟨(Array.getElem?_eq_some_iff.1 found).1, element, found, satisfied⟩

/-- What a name is looked up to is a type of that name. -/
theorem exists_of_lookup? {model : Model} {name : String} {position : Nat}
    (found : model.lookup? name = some position) :
    ∃ element, model.elements[position]? = some element ∧ element.kind = .type ∧
      element.qualifiedName = name := by
  -- A name is looked up by testing the kind and the name of each element.
  rw [lookup?, Array.findIdx?_eq_some_iff_getElem] at found
  obtain ⟨inside, here, _⟩ := found
  rw [Bool.and_eq_true, decide_eq_true_eq, decide_eq_true_eq] at here
  exact ⟨_, Array.getElem?_eq_getElem inside, here⟩

/-- Just the names of types are found. -/
theorem isSome_lookup?_iff {model : Model} {name : String} :
    (model.lookup? name).isSome ↔ name ∈ typeNames model.elements.toList := by
  -- Looking up a name finds an element just when there is one of that kind and name.
  rw [lookup?, Array.findIdx?_isSome, ← Array.any_toList, List.any_eq_true, typeNames, List.mem_map]
  simp only [List.mem_filter, Bool.and_eq_true, decide_eq_true_eq, and_assoc]

/-- If the names of types are distinct, a name is that of the one type that has it. -/
theorem lookup?_eq_some_iff {model : Model} (distinct : (typeNames model.elements.toList).Nodup)
    {name : String} {position : Nat} : model.lookup? name = some position ↔
      ∃ element, model.elements[position]? = some element ∧ element.kind = .type ∧
        element.qualifiedName = name := by
  constructor
  · exact exists_of_lookup?
  · rintro ⟨element, found, type, named⟩
    obtain ⟨inside, rfl⟩ := Array.getElem?_eq_some_iff.1 found
    rw [lookup?, Array.findIdx?_eq_some_iff_getElem]
    simp only [Bool.and_eq_true, decide_eq_true_eq]
    refine ⟨inside, ⟨type, named⟩, fun before closer same => ?_⟩
    -- A type of the same name further in front would be another one.
    have single := nodup_typeNames_iff.1 distinct
      (Array.getElem?_eq_getElem (Nat.lt_trans closer inside)) found same.1 type
      (same.2.trans named.symm)
    omega

/-- No chain of supertypes is cyclic just when that of every type ends. -/
theorem firstCyclic?_eq_none_iff {model : Model} : model.firstCyclic? = none ↔
    ∀ {position : Nat} {element : Element}, model.elements[position]? = some element →
      element.kind = .type → model.chainEnds (model.size + 1) position := by
  constructor
  · intro acyclic position element found type
    refine Decidable.byContradiction fun endless => ?_
    -- The search comes to some type whose chain does not end, and there is an element there.
    have listed : position ∈ model.positions (·.kind = .type) :=
      mem_positions_iff.2 ⟨element, found, by simpa using type⟩
    have searched : ((model.positions (·.kind = .type)).find?
        (!model.chainEnds (model.size + 1) ·)).isSome :=
      List.find?_isSome.2 ⟨position, listed, by simpa using endless⟩
    obtain ⟨cyclic, searched⟩ := Option.isSome_iff_exists.1 searched
    obtain ⟨_, at_cyclic, _⟩ := mem_positions_iff.1 (List.mem_of_find?_eq_some searched)
    rw [firstCyclic?, searched, Option.bind_some, at_cyclic] at acyclic
    cases acyclic
  · intro ends
    rw [firstCyclic?, List.find?_eq_none.2, Option.bind_none]
    intro position inside
    obtain ⟨element, found, type⟩ := mem_positions_iff.1 inside
    simp [ends found (by simpa using type)]

/-! ### The checks of a build -/

/-- A list has no repeated name just when its names are distinct, and new to those before them. -/
theorem firstRepeated?_eq_none_iff (seen names : List String) :
    firstRepeated? seen names = none ↔ names.Nodup ∧ ∀ name ∈ names, name ∉ seen := by
  -- Each name that is passed joins the seen ones, so that those behind it must differ from it.
  induction names generalizing seen with
  | nil => simp [firstRepeated?]
  | cons name rest ih =>
    by_cases known : name ∈ seen
    · simp [firstRepeated?, known]
    · simp only [firstRepeated?, known, if_false, ih, List.nodup_cons, List.mem_cons, not_or]
      grind

/-- The checks of elements read only what is outward of them. -/
theorem checkElements_congr {elements others : List Element}
    (same : elements.map Element.outward = others.map Element.outward) (seen : List String) :
    checkElements seen elements = checkElements seen others := by
  -- The two lists are checked side by side, with the same names seen before.
  induction elements generalizing others seen with
  | nil =>
    obtain rfl : others = [] := by simpa using same.symm
    rfl
  | cons element rest ih =>
    cases others with
    | nil => simp at same
    | cons other otherRest =>
      simp only [List.map_cons, List.cons.injEq, Element.outward, Prod.mk.injEq] at same
      obtain ⟨⟨kind, name, typed⟩, rest_same⟩ := same
      have untyped : element.declaredType.isNone = other.declaredType.isNone := by
        rw [← Option.not_isSome, ← Option.not_isSome, typed]
      simp only [checkElements, kind, name, untyped, ih rest_same]

/-- Elements in two parts are checked one part after the other. -/
theorem checkElements_append (seen : List String) (front back : List Element) :
    checkElements seen (front ++ back) =
      (checkElements seen front).bind fun seen => checkElements seen back := by
  -- The names that were seen in front are handed on.
  induction front generalizing seen with
  | nil => rfl
  | cons element rest ih =>
    simp only [List.cons_append, checkElements]
    split <;> try split
    all_goals first | rfl | exact ih _

/-- Elements pass the checks just when the names of their types are distinct, and new to those
before, and each field has a type. -/
theorem exists_checkElements_eq_ok_iff {seen : List String} {elements : List Element} :
    (∃ out, checkElements seen elements = .ok out) ↔
      (typeNames elements).Nodup ∧ (∀ name ∈ typeNames elements, name ∉ seen) ∧
        ∀ element ∈ elements, element.kind = .field → element.declaredType.isSome := by
  -- Only a type adds a name, and every name behind it is checked against that one too.
  induction elements generalizing seen with
  | nil => simp [typeNames, checkElements]
  | cons element rest ih =>
    rw [List.forall_mem_cons]
    cases kind : element.kind with
    | type =>
      have names : typeNames (element :: rest) = element.qualifiedName :: typeNames rest := by
        simp [typeNames, kind]
      simp only [checkElements, kind, names]
      by_cases known : element.qualifiedName ∈ seen
      · simp [known]
      · rw [if_neg known, ih]
        grind
    | field =>
      have names : typeNames (element :: rest) = typeNames rest := by simp [typeNames, kind]
      simp only [checkElements, kind, names]
      cases typed : element.declaredType with
      | none => simp
      | some type => simpa using ih
    | method | constructor =>
      have names : typeNames (element :: rest) = typeNames rest := by simp [typeNames, kind]
      simpa [checkElements, kind, names] using ih

/-- The source declarations are checked as the elements that they are laid out to. -/
theorem checkSources_eq (seen : List String) (position : Nat) (sources : List TypeDeclaration) :
    checkSources seen sources =
      checkElements seen (declarationsElements .source position sources) := by
  -- The declarations are laid out at other positions, which the checks do not see.
  induction sources generalizing seen position with
  | nil => rfl
  | cons declaration rest ih =>
    have moved : checkElements seen (declaration.elements .source position) =
        checkElements seen (declaration.elements .source 0) :=
      checkElements_congr declaration.outward_layout seen
    simp only [checkSources, declarationsElements, checkElements_append, moved]
    exact congrArg _ (funext fun seen => ih seen _)

/-- A classpath declaration is refused if its name was declared before, passed over if a source has
its name, and else checked like a source. -/
theorem checkClasspath_cons (sources : List TypeDeclaration) (declared seen : List String)
    (declaration : TypeDeclaration) (rest : List TypeDeclaration) :
    checkClasspath sources declared seen (declaration :: rest) =
      if declaration.name ∈ declared then .error (.duplicateType declaration.name)
      else if shadows sources declaration then
        checkClasspath sources (declaration.name :: declared) seen rest
      else (checkElements seen (declaration.elements .classpath 0)).bind fun seen =>
        checkClasspath sources (declaration.name :: declared) seen rest := by
  rw [checkClasspath]
  -- The name is checked before it is asked whether a source has it.
  by_cases known : declaration.name ∈ declared
  · simp only [known, if_true]
    rfl
  · cases shadows sources declaration <;> simp only [known, if_false, if_true] <;> rfl

/-- The classpath declarations pass just when their names are distinct and the elements that the
unshadowed ones are laid out to pass. -/
theorem checkClasspath_eq_ok_iff {sources classpath : List TypeDeclaration}
    {declared seen out : List String} (position : Nat) :
    checkClasspath sources declared seen classpath = .ok out ↔
      (classpath.map (·.name)).Nodup ∧ (∀ name ∈ classpath.map (·.name), name ∉ declared) ∧
        checkElements seen
          (declarationsElements .classpath position (unshadowed sources classpath)) = .ok out := by
  -- The declarations are passed in order, and the names of those that were passed are known.
  induction classpath generalizing declared seen position with
  | nil => simp [checkClasspath, unshadowed, declarationsElements, checkElements]
  | cons declaration rest ih =>
    rw [checkClasspath_cons]
    by_cases known : declaration.name ∈ declared
    · simp [known]
    · -- A new name joins the declared ones, so the names behind it must differ from it.
      have names : ∀ tail : List String, (tail.Nodup ∧ ∀ name ∈ tail,
          name ∉ declaration.name :: declared) ↔ (declaration.name :: tail).Nodup ∧
            ∀ name ∈ declaration.name :: tail, name ∉ declared := by
        intro tail
        grind
      rw [if_neg known, List.map_cons, ← and_assoc, ← names, and_assoc]
      cases hidden : shadows sources declaration with
      | true =>
        -- A declaration that a source shadows counts by its name alone.
        have dropped : unshadowed sources (declaration :: rest) = unshadowed sources rest := by
          simp [unshadowed, hidden]
        rw [dropped]
        exact ih position
      | false =>
        -- Any other declaration is laid out and checked before those behind it.
        have kept : unshadowed sources (declaration :: rest) =
            declaration :: unshadowed sources rest := by
          simp [unshadowed, hidden]
        have moved : checkElements seen (declaration.elements .classpath position) =
            checkElements seen (declaration.elements .classpath 0) :=
          checkElements_congr declaration.outward_layout seen
        rw [kept, declarationsElements, checkElements_append, moved]
        cases checked : checkElements seen (declaration.elements .classpath 0) with
        | error error => simp [Except.bind]
        | ok next => exact ih _

/-! ### Builds -/

/-- An element with its supertype resolved in a model. -/
def linked (model : Model) (element : Element) : Element :=
  { element with
    supertype := element.superclass.bind fun type => model.resolve? element.package type.erase }

/-- The elements of a linked model are those that it was linked from, with their supertypes. -/
theorem link_getElem? (model : Model) (position : Nat) :
    (link model).elements[position]? = model.elements[position]?.map model.linked := by
  rw [link, Array.getElem?_map]
  rfl

/-- Linking a model changes no name. -/
theorem lookup?_link (model : Model) (name : String) :
    (link model).lookup? name = model.lookup? name := by
  -- Neither the kind nor the name of an element is changed.
  simp only [lookup?, link, Array.findIdx?_map]
  rfl

/-- The whole layout passes the checks just when the unshadowed classpath does, and the sources do
behind it. -/
theorem checkElements_layout_eq_ok_iff {sources classpath : List TypeDeclaration}
    {seen : List String} : checkElements [] (layout sources classpath) = .ok seen ↔
      ∃ middle, checkElements []
          (declarationsElements .classpath 0 (unshadowed sources classpath)) = .ok middle ∧
        checkSources middle sources = .ok seen := by
  -- The sources are checked at the positions that they have behind the classpath.
  simp only [layout, checkElements_append, checkSources_eq _
    (declarationsElements .classpath 0 (unshadowed sources classpath)).length]
  exact bind_eq_ok_iff

/-- Declarations form a model just when no name is declared twice, every field has a type, and no
chain of supertypes is cyclic; the model is their layout with its supertypes resolved. -/
theorem build_eq_ok_iff {sources classpath : List TypeDeclaration} {model : Model} :
    build sources classpath = .ok model ↔
      (sources.map (·.name)).Nodup ∧ (classpath.map (·.name)).Nodup ∧
        (∃ seen, checkElements [] (layout sources classpath) = .ok seen) ∧
        model = link ⟨(layout sources classpath).toArray⟩ ∧ model.firstCyclic? = none := by
  -- In front of everything else, no name is known yet.
  have front_checks (middle : List String) : checkClasspath sources [] [] classpath = .ok middle ↔
      (classpath.map (·.name)).Nodup ∧ checkElements []
        (declarationsElements .classpath 0 (unshadowed sources classpath)) = .ok middle := by
    rw [checkClasspath_eq_ok_iff 0]
    simp
  have source_checks : firstRepeated? [] (sources.map (·.name)) = none ↔
      (sources.map (·.name)).Nodup := by
    simp [firstRepeated?_eq_none_iff]
  unfold build
  cases repeated : firstRepeated? [] (sources.map (·.name)) with
  | some name =>
    -- A source that is declared twice is refused before anything else is checked.
    have twice : ¬ (sources.map (·.name)).Nodup := by
      rw [← source_checks, repeated]
      exact Option.some_ne_none name
    simp [twice, bind, Except.bind, throw, throwThe, MonadExceptOf.throw]
  | none =>
    simp only [source_checks.1 repeated, true_and, checkElements_layout_eq_ok_iff]
    constructor
    · -- A build that succeeds has passed one check after the other.
      intro built
      obtain ⟨middle, front, built⟩ := bind_eq_ok_iff.1 built
      obtain ⟨seen, back, built⟩ := bind_eq_ok_iff.1 built
      obtain ⟨distinct, front⟩ := (front_checks middle).1 front
      split at built
      · simp [throw, throwThe, MonadExceptOf.throw] at built
      · rename_i acyclic
        obtain rfl := Except.ok.inj built
        exact ⟨distinct, ⟨seen, middle, front, back⟩, rfl, acyclic⟩
    · -- Every check passes, so that the next one is reached.
      rintro ⟨distinct, ⟨seen, middle, front, back⟩, rfl, acyclic⟩
      refine bind_eq_ok_iff.2 ⟨middle, (front_checks middle).2 ⟨distinct, front⟩, ?_⟩
      refine bind_eq_ok_iff.2 ⟨seen, back, ?_⟩
      simp [acyclic, pure, Except.pure]

section Built

variable {sources classpath : List TypeDeclaration} {model : Model}
  (built : build sources classpath = .ok model)
include built

/-- The elements of a model are the layout of its declarations with their supertypes resolved. -/
theorem elements_of_build : model.elements.toList =
    (layout sources classpath).map (linked ⟨(layout sources classpath).toArray⟩) := by
  -- Linking changes every element in its place.
  obtain ⟨_, _, _, rfl, _⟩ := build_eq_ok_iff.1 built
  simp only [link, List.map_toArray]
  rfl

/-- No two types of a model have one qualified name. -/
theorem typeNames_nodup : (typeNames model.elements.toList).Nodup := by
  obtain ⟨_, _, ⟨seen, passed⟩, _, _⟩ := build_eq_ok_iff.1 built
  -- Resolving supertypes changes neither the kind nor the name of an element.
  have names : typeNames model.elements.toList = typeNames (layout sources classpath) := by
    rw [elements_of_build built]
    simp only [typeNames, List.filter_map, List.map_map]
    rfl
  rw [names]
  exact (exists_checkElements_eq_ok_iff.1 ⟨seen, passed⟩).1

/-- Of two types of a model at different positions, one has another qualified name. -/
theorem qualifiedName_ne {left right : Nat} {one other : Element} (apart : left ≠ right)
    (at_left : model.elements[left]? = some one) (at_right : model.elements[right]? = some other)
    (one_type : one.kind = .type) (other_type : other.kind = .type) :
    one.qualifiedName ≠ other.qualifiedName :=
  -- No name of a type is there twice, so one name means one position.
  fun same => apart
    (nodup_typeNames_iff.1 (typeNames_nodup built) at_left at_right one_type other_type same)

/-- Every element of a model stands where its names say. -/
theorem isPlaced_of_build : ∀ element ∈ model.elements.toList,
    element.IsPlaced model.elements.toList := by
  rw [elements_of_build built, List.forall_mem_map]
  intro element member
  -- The layout has the unshadowed classpath in front of the sources.
  have placed : element.IsPlaced (layout sources classpath) := by
    rcases List.mem_append.1 member with front | back
    · exact isPlaced_declarationsElements ⟨_, rfl⟩ element front
    · exact isPlaced_declarationsElements (by simp [layout]) element back
  -- Resolving supertypes changes no name, kind or owner.
  cases owner : element.owner with
  | none => simpa [Element.IsPlaced, linked, owner] using placed
  | some position =>
    simp only [Element.IsPlaced, owner] at placed
    obtain ⟨outer, found, placed⟩ := placed
    simp only [Element.IsPlaced, linked, owner]
    exact ⟨linked ⟨(layout sources classpath).toArray⟩ outer,
      by rw [List.getElem?_map, found]; rfl, placed⟩

end Built

end Model

end RuleMetadata

import RuleMetadata.Attributes
import RuleMetadata.Description.Key
import RuleMetadata.Proofs.Model.Build
import RuleMetadata.Signature

/-! What is extracted from a model does not depend on where its elements come from, nor, apart
from descriptions, on whether their documentation is live. -/

namespace RuleMetadata

namespace Element

variable (element : Element)

/-- An outline has the kind of its element. -/
@[simp] theorem outline_kind : element.outline.kind = element.kind := rfl

/-- An outline has the simple name of its element. -/
@[simp] theorem outline_simpleName : element.outline.simpleName = element.simpleName := rfl

/-- An outline has the qualified name of its element. -/
@[simp] theorem outline_qualifiedName : element.outline.qualifiedName = element.qualifiedName := rfl

/-- An outline has the resolved supertype of its element. -/
@[simp] theorem outline_supertype : element.outline.supertype = element.supertype := rfl

/-- An outline has the superclass of its element as it is written. -/
@[simp] theorem outline_superclass : element.outline.superclass = element.superclass := rfl

/-- An outline has the members of its element. -/
@[simp] theorem outline_enclosed : element.outline.enclosed = element.enclosed := rfl

/-- An outline lies in the package of its element. -/
@[simp] theorem outline_package : element.outline.package = element.package := rfl

/-- An outline has the parents of its element as they are written. -/
@[simp] theorem outline_parents : element.outline.parents = element.parents := rfl

/-- An outline has the markers of its element. -/
@[simp] theorem outline_marker? (kind : MarkerKind) :
    element.outline.marker? kind = element.marker? kind := rfl

/-- An outline carries the markers that its element carries. -/
@[simp] theorem outline_carries (kind : MarkerKind) :
    element.outline.carries kind = element.carries kind := rfl

/-- An outline has the effective type of its element. -/
@[simp] theorem outline_effectiveType : element.outline.effectiveType = element.effectiveType := rfl

/-- An outline has the key of its element, under which its description was saved. -/
@[simp] theorem outline_resourceKey? : element.outline.resourceKey? = element.resourceKey? := rfl

/-- No documentation of an outline is live. -/
@[simp] theorem outline_liveText? : element.outline.liveText? = none := rfl

/-- An outline is its own outline. -/
@[simp] theorem outline_outline : element.outline.outline = element.outline := rfl

end Element

namespace Model

/-- A model as a later round sees it. -/
def outline (model : Model) : Model :=
  ⟨model.elements.map Element.outline⟩

/-- Models with the same elements at all positions are equal. -/
theorem ext_getElem? {left right : Model}
    (same : ∀ position : Nat, left.elements[position]? = right.elements[position]?) :
    left = right :=
  congrArg Model.mk (Array.ext_getElem? same)

variable (model : Model)

/-- An outline has as many elements as the model. -/
@[simp] theorem outline_size : model.outline.size = model.size := by
  simp [outline, size]

/-- Every element of an outline is the outline of the element there. -/
@[simp] theorem outline_getElem? (position : Nat) :
    model.outline.elements[position]? = model.elements[position]?.map Element.outline := by
  simp [outline]

/-! ### Names -/

/-- A name is found at the same position in an outline. -/
@[simp] theorem outline_lookup? (name : String) :
    model.outline.lookup? name = model.lookup? name := by
  -- A name is looked up by kinds and names, which an outline keeps.
  simp only [lookup?, outline, Array.findIdx?_map]
  rfl

/-- A name is resolved to the same position in an outline. -/
@[simp] theorem outline_resolve? (package : Option String) (name : String) :
    model.outline.resolve? package name = model.resolve? package name := by
  simp [resolve?]

/-- A type expression is qualified in the same way in an outline. -/
@[simp] theorem outline_qualify (package : Option String) (type : TypeExpr) :
    model.outline.qualify package type = model.qualify package type := by
  simp [qualify]

/-- The supertype of an element is resolved whether or not its documentation is there. -/
theorem linked_outline (element : Element) :
    model.linked element.outline = (model.linked element).outline := rfl

/-! ### Hierarchies -/

/-- A guarded walk visits the same positions in an outline. -/
@[simp] theorem outline_visitsFrom (kind : MarkerKind) (fuel : Nat) (free : List Nat)
    (position : Nat) :
    model.outline.visitsFrom kind fuel free position =
      model.visitsFrom kind fuel free position := by
  -- By induction on the fuel, every walk that starts above or below is the same.
  induction fuel generalizing free position with
  | zero => rfl
  | succ fuel ih =>
    cases found : model.elements[position]? with
    | none => simp [visitsFrom, found]
    | some element =>
      have below (free : List Nat) : model.outline.visitsFrom kind fuel free =
          model.visitsFrom kind fuel free := funext (ih free)
      simp only [visitsFrom, outline_getElem?, found, Option.map_some, below]
      rfl

/-- A walk from a root visits the same positions in an outline. -/
@[simp] theorem outline_visits (kind : MarkerKind) (root : Nat) :
    model.outline.visits kind root = model.visits kind root := by
  simp [visits]

/-- A chain of supertypes ends in an outline if it does in the model. -/
@[simp] theorem outline_chainEnds (fuel position : Nat) :
    model.outline.chainEnds fuel position = model.chainEnds fuel position := by
  -- The chain is followed along the supertypes, which an outline keeps.
  induction fuel generalizing position with
  | zero => rfl
  | succ fuel ih =>
    cases found : model.elements[position]? with
    | none => simp [chainEnds, found]
    | some element => simp [chainEnds, found, ih]

/-- The positions that a condition picks out do not change if it does not see documentation. -/
theorem outline_positions {condition : Element → Bool}
    (blind : ∀ element : Element, condition element.outline = condition element) :
    model.outline.positions condition = model.positions condition := by
  -- The condition is asked of an outline where it was asked of the element.
  simp [positions, Option.any_map, blind]

/-- The first type with a cyclic chain of supertypes is the same one. -/
theorem outline_firstCyclic? :
    model.outline.firstCyclic? = model.firstCyclic?.map Element.outline := by
  -- Whether a chain ends does not depend on documentation, so the same position is found.
  rw [firstCyclic?, firstCyclic?, outline_positions model (fun _ => rfl)]
  simp only [outline_chainEnds, outline_size, outline_getElem?]
  cases (model.positions (·.kind = .type)).find? (!model.chainEnds (model.size + 1) ·) <;> rfl

/-- The search for a container goes the same way in an outline. -/
@[simp] theorem outline_searchAncestors (containers : List String) (fuel : Nat) (free : List Nat)
    (position : Nat) : model.outline.searchAncestors containers fuel free position =
      model.searchAncestors containers fuel free position := by
  -- The search goes along supertypes and names, which an outline keeps.
  induction fuel generalizing free position with
  | zero => rfl
  | succ fuel ih =>
    cases found : model.elements[position]? with
    | none => simp [searchAncestors, found]
    | some element => simp [searchAncestors, found, ih]

/-- A type expression is a container in an outline if it is one in the model. -/
@[simp] theorem outline_isContainer (containers : List String) (type : TypeExpr) :
    model.outline.isContainer containers type = model.isContainer containers type := by
  simp [isContainer]

/-! ### Extraction -/

/-- An argument with its description is the same in an outline. -/
@[simp] theorem outline_argumentVisit? (containers : List String) (position : Nat)
    (description : Option String) :
    model.outline.argumentVisit? containers position description =
      model.argumentVisit? containers position description := by
  -- An outline has the type and the marker of its element.
  cases found : model.elements[position]? with
  | none => simp [argumentVisit?, found]
  | some element => simp [argumentVisit?, argumentType, found]

/-- The signature of a type depends on documentation through the descriptions alone. -/
@[simp] theorem outline_signature {m : Type → Type} [Monad m] (containers : List String)
    (describe : Nat → m (Option String)) (root : Nat) :
    model.outline.signature containers describe root =
      model.signature containers describe root := by
  -- Every argument is visited alike, and described by what is given.
  simp only [signature, argumentVisits, contributions, outline_visits, outline_argumentVisit?]

/-- The attributes of a type do not depend on documentation. -/
@[simp] theorem outline_attributes (root : Nat) :
    model.outline.attributes root = model.attributes root := by
  -- An attribute comes from a marker and a name, which an outline keeps.
  have each : model.outline.attribute? = model.attribute? := by
    funext position
    cases found : model.elements[position]? <;> simp [attribute?, found]
  simp [attributes, each]

/-! ### Rounds after one another -/

/-- A model in which the elements in front of a position were compiled in an earlier round. -/
def compiledUpTo (border : Nat) : Model :=
  ⟨model.elements.mapIdx fun position element =>
    if position < border then element.outline else element⟩

/-- An element compiled earlier is there as its outline, and any other one as it is. -/
theorem compiledUpTo_getElem? (border position : Nat) :
    (model.compiledUpTo border).elements[position]? = model.elements[position]?.map fun element =>
      if position < border then element.outline else element := by
  simp [compiledUpTo]

/-- Elements compiled earlier are still there. -/
@[simp] theorem compiledUpTo_size (border : Nat) :
    (model.compiledUpTo border).size = model.size := by
  simp [compiledUpTo, size]

/-- Which elements were compiled earlier cannot be told from the outlines. -/
@[simp] theorem outline_compiledUpTo (border : Nat) :
    (model.compiledUpTo border).outline = model.outline := by
  -- The outline of an outline is that outline.
  refine ext_getElem? fun position => ?_
  rw [outline_getElem?, outline_getElem?, compiledUpTo_getElem?, Option.map_map]
  congr 1
  funext element
  by_cases before : position < border <;> simp [before]

/-- Resolving the supertypes of an element takes nothing but the outline of the model. -/
theorem linked_congr {other : Model} (same : model.outline = other.outline) :
    model.linked = other.linked := by
  -- A name is resolved among the names of types, which outlines keep.
  funext element
  simp only [linked, ← outline_resolve? model, ← outline_resolve? other, same]

end Model

section Recompiled

/-- Without a source of one of their names, all declarations of the classpath take their place. -/
theorem unshadowed_of_apart {sources classpath : List TypeDeclaration}
    (apart : ∀ compiled ∈ classpath, ∀ source ∈ sources, source.name ≠ compiled.name) :
    Model.unshadowed sources classpath = classpath := by
  -- No declaration is passed over, since no source has its name.
  refine List.filter_eq_self.2 fun compiled member => ?_
  simpa [Model.shadows] using apart compiled member

variable {first second classpath : List TypeDeclaration}
  (apart : ∀ compiled ∈ classpath, ∀ source ∈ first ++ second, source.name ≠ compiled.name)
include apart

/-- The layout of sources in two parts has the second part behind the layout of the first. -/
theorem layout_append : Model.layout (first ++ second) classpath =
    Model.layout first classpath ++
      declarationsElements .source (Model.layout first classpath).length second := by
  -- The classpath is laid out in front in both cases, for none of it is passed over.
  have apart_first : ∀ compiled ∈ classpath, ∀ source ∈ first, source.name ≠ compiled.name :=
    fun compiled member source inside =>
      apart compiled member source (List.mem_append_left _ inside)
  simp only [Model.layout, unshadowed_of_apart apart, unshadowed_of_apart apart_first,
    declarationsElements_append, List.append_assoc, List.length_append]

/-- In a later round, what was compiled before is laid out as it was, but for its documentation. -/
theorem layout_recompiled (distinct : ((first ++ second).map (·.name)).Nodup) :
    Model.layout second (classpath ++ first) =
      (Model.layout first classpath).map Element.outline ++
        declarationsElements .source (Model.layout first classpath).length second := by
  have apart_first : ∀ compiled ∈ classpath, ∀ source ∈ first, source.name ≠ compiled.name :=
    fun compiled member source inside =>
      apart compiled member source (List.mem_append_left _ inside)
  -- What moves to the classpath has other names than the sources that stay.
  have apart_second : ∀ compiled ∈ classpath ++ first, ∀ source ∈ second,
      source.name ≠ compiled.name := by
    intro compiled member source inside
    rcases List.mem_append.1 member with before | before
    · exact apart compiled before source (List.mem_append_right _ inside)
    · rw [List.map_append, List.nodup_append] at distinct
      exact (distinct.2.2 _ (List.mem_map_of_mem before) _ (List.mem_map_of_mem inside)).symm
  -- Where sources and classpath meet, the positions are the same, as outlines count alike.
  have lengths : (declarationsElements .classpath (declarationsElements .classpath 0
      classpath).length first).length = (declarationsElements .source (declarationsElements
        .classpath 0 classpath).length first).length := by
    rw [declarationsElements_classpath .source, List.length_map]
  simp only [Model.layout, unshadowed_of_apart apart_first, unshadowed_of_apart apart_second,
    declarationsElements_append, List.map_append, List.length_append,
    ← declarationsElements_classpath, Nat.zero_add, lengths]

/-- The layouts of both rounds have one outline. -/
theorem layout_recompiled_outline (distinct : ((first ++ second).map (·.name)).Nodup) :
    (Model.layout second (classpath ++ first)).map Element.outline =
      (Model.layout (first ++ second) classpath).map Element.outline := by
  -- In front there are outlines already, and the outline of an outline is that outline.
  simp [layout_append apart, layout_recompiled apart distinct]

/-- The later model resolves supertypes as the earlier one does. -/
theorem link_recompiled (distinct : ((first ++ second).map (·.name)).Nodup) :
    Model.link ⟨(Model.layout second (classpath ++ first)).toArray⟩ =
      (Model.link ⟨(Model.layout (first ++ second) classpath).toArray⟩).compiledUpTo
        (Model.layout first classpath).length := by
  have same : (⟨(Model.layout second (classpath ++ first)).toArray⟩ : Model).outline =
      (⟨(Model.layout (first ++ second) classpath).toArray⟩ : Model).outline := by
    simp [Model.outline, layout_recompiled_outline apart distinct]
  -- Element by element, either an outline is linked on both sides, or the element itself.
  refine Model.ext_getElem? fun position => ?_
  rw [Model.compiledUpTo_getElem?, Model.link_getElem?, Model.link_getElem?,
    Model.linked_congr _ same, List.getElem?_toArray, List.getElem?_toArray, layout_append apart,
    layout_recompiled apart distinct]
  by_cases compiled : position < (Model.layout first classpath).length
  · rw [List.getElem?_append_left (by simpa using compiled), List.getElem?_append_left compiled,
      List.getElem?_map, Option.map_map, Option.map_map]
    simp only [compiled, if_true, Function.comp_def, Model.linked_outline]
  · rw [List.getElem?_append_right (by simpa using compiled),
      List.getElem?_append_right (by simpa using compiled), List.length_map, Option.map_map]
    simp only [compiled, if_false, Function.comp_def]

/-- Declarations that form a model still do when some of the sources move to the classpath. -/
theorem build_recompiled {full : Model}
    (built : Model.build (first ++ second) classpath = .ok full) :
    Model.build second (classpath ++ first) =
      .ok (full.compiledUpTo (Model.layout first classpath).length) := by
  -- The checks see no more of an element than its outline shows, so each passes again.
  obtain ⟨sources_distinct, classpath_distinct, ⟨seen, passed⟩, rfl, acyclic⟩ :=
    Model.build_eq_ok_iff.1 built
  have parts := sources_distinct
  rw [List.map_append, List.nodup_append] at parts
  refine Model.build_eq_ok_iff.2
    ⟨parts.2.1, ?_, ⟨seen, ?_⟩, (link_recompiled apart sources_distinct).symm, ?_⟩
  · -- The names of the sources that moved differ from those of the classpath.
    rw [List.map_append, List.nodup_append]
    refine ⟨classpath_distinct, parts.1, ?_⟩
    intro name compiled other source same_name
    obtain ⟨one, one_inside, rfl⟩ := List.mem_map.1 compiled
    obtain ⟨two, two_inside, rfl⟩ := List.mem_map.1 source
    exact apart one one_inside two (List.mem_append_left _ two_inside) same_name.symm
  · rw [← passed]
    refine Model.checkElements_congr ?_ []
    -- An outline shows the checks what the element itself shows them.
    have blind : Element.outward ∘ Element.outline = Element.outward := rfl
    simpa [blind] using
      congrArg (List.map Element.outward) (layout_recompiled_outline apart sources_distinct)
  · -- A chain of supertypes ends where it ended before.
    have cyclic := Model.outline_firstCyclic?
      ((Model.link ⟨(Model.layout (first ++ second) classpath).toArray⟩).compiledUpTo
        (Model.layout first classpath).length)
    rw [Model.outline_compiledUpTo, Model.outline_firstCyclic?, acyclic] at cyclic
    exact Option.map_eq_none_iff.1 cyclic.symm

end Recompiled

end RuleMetadata

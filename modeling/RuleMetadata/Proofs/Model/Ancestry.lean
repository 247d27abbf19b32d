import Mathlib.Logic.Relation
import RuleMetadata.Proofs.Model.Container
import RuleMetadata.Proofs.Model.Resolution

/-! Containers among ancestors: the search that enters no type twice finds one exactly if some chain
of parents leads to it. -/

namespace RuleMetadata.Model

variable {model : Model} {containers : List String} {position next : Nat} {element : Element}

/-! ### Chains of parents -/

/-- Whether a type has another one as a parent: a supertype or interface of it, by its erased form,
resolves to that one. -/
def HasParent (model : Model) (position next : Nat) : Prop :=
  ∃ element, model.elements[position]? = some element ∧
    ∃ parent ∈ element.parents, model.resolve? element.package parent.erase = some next

/-- Whether a type names a container as a parent. -/
def NamesContainer (model : Model) (containers : List String) (position : Nat) : Prop :=
  ∃ element, model.elements[position]? = some element ∧
    ∃ parent ∈ element.parents, parent.erase ∈ containers

/-- Whether a finite chain of parents leads from a type to one that names a container. -/
def LeadsToContainer (model : Model) (containers : List String) (position : Nat) : Prop :=
  ∃ top, Relation.ReflTransGen model.HasParent position top ∧ model.NamesContainer containers top

/-- Whether a parent counts as a container: by its erased name, or because it resolves to a type
that leads to one. -/
def CountsAsContainer (model : Model) (containers : List String) (package : Option String)
    (parent : TypeExpr) : Prop :=
  -- The name is compared as it is written, without the package.
  parent.erase ∈ containers ∨ ∃ next, model.resolve? package parent.erase = some next ∧
    model.LeadsToContainer containers next

/-- Only an element of the model has parents. -/
theorem HasParent.lt_size (step : model.HasParent position next) : position < model.size := by
  -- A parent is one of an element that is there.
  obtain ⟨element, found, _⟩ := step
  exact (Array.getElem?_eq_some_iff.1 found).1

/-- Only an element of the model names anything. -/
theorem NamesContainer.lt_size (names : model.NamesContainer containers position) :
    position < model.size := by
  -- A name is given by an element that is there.
  obtain ⟨element, found, _⟩ := names
  exact (Array.getElem?_eq_some_iff.1 found).1

/-- A type leads to a container just when one of its parents counts as one. -/
theorem leadsToContainer_iff (found : model.elements[position]? = some element) :
    model.LeadsToContainer containers position ↔ ∃ parent ∈ element.parents,
      model.CountsAsContainer containers element.package parent := by
  constructor
  · rintro ⟨top, chain, names⟩
    -- The chain is empty, or its first step goes to a parent that leads on.
    rcases Relation.ReflTransGen.cases_head chain with rfl | ⟨next, step, rest⟩
    · obtain ⟨_, again, parent, listed, named⟩ := names
      obtain rfl := Option.some.inj (found.symm.trans again)
      exact ⟨parent, listed, .inl named⟩
    · obtain ⟨_, again, parent, listed, resolved⟩ := step
      obtain rfl := Option.some.inj (found.symm.trans again)
      exact ⟨parent, listed, .inr ⟨next, resolved, top, rest, names⟩⟩
  · rintro ⟨parent, listed, named | ⟨next, resolved, top, rest, names⟩⟩
    · exact ⟨position, .refl, element, found, parent, listed, named⟩
    · exact ⟨top, .head ⟨element, found, parent, listed, resolved⟩ rest, names⟩

/-! ### The search without a bound -/

/-- Whether the search of parents, each with all of its ancestors before the next one, comes to an
end with an outcome: none if it finds a container, else the types that are still free. -/
inductive SearchEnds (model : Model) (containers : List String) :
    Option String → List TypeExpr → List Nat → Option (List Nat) → Prop where
  /-- All parents were passed. -/
  | done {package : Option String} {free : List Nat} :
    SearchEnds model containers package [] free (some free)
  /-- A parent is a container by name. -/
  | named {package : Option String} {parent : TypeExpr} {rest : List TypeExpr} {free : List Nat} :
    parent.erase ∈ containers → SearchEnds model containers package (parent :: rest) free none
  /-- A parent is no type of the model. -/
  | unresolved {package : Option String} {parent : TypeExpr} {rest : List TypeExpr}
      {free : List Nat} {outcome : Option (List Nat)} :
    parent.erase ∉ containers → model.resolve? package parent.erase = none →
      SearchEnds model containers package rest free outcome →
      SearchEnds model containers package (parent :: rest) free outcome
  /-- A parent was entered before. -/
  | taken {package : Option String} {parent : TypeExpr} {rest : List TypeExpr} {next : Nat}
      {free : List Nat} {outcome : Option (List Nat)} :
    parent.erase ∉ containers → model.resolve? package parent.erase = some next → next ∉ free →
      SearchEnds model containers package rest free outcome →
      SearchEnds model containers package (parent :: rest) free outcome
  /-- A container is found behind a parent. -/
  | found {package : Option String} {parent : TypeExpr} {rest : List TypeExpr} {next : Nat}
      {element : Element} {free : List Nat} :
    parent.erase ∉ containers → model.resolve? package parent.erase = some next → next ∈ free →
      model.elements[next]? = some element →
      SearchEnds model containers element.package element.parents (free.erase next) none →
      SearchEnds model containers package (parent :: rest) free none
  /-- Nothing is found behind a parent, so that those after it are searched. -/
  | passed {package : Option String} {parent : TypeExpr} {rest : List TypeExpr} {next : Nat}
      {element : Element} {free middle : List Nat} {outcome : Option (List Nat)} :
    parent.erase ∉ containers → model.resolve? package parent.erase = some next → next ∈ free →
      model.elements[next]? = some element →
      SearchEnds model containers element.package element.parents (free.erase next)
        (some middle) →
      SearchEnds model containers package rest middle outcome →
      SearchEnds model containers package (parent :: rest) free outcome

variable {fuel : Nat} {free left : List Nat} {package : Option String} {parents : List TypeExpr}

/-- With as much fuel as there are free types, the search comes to its end. -/
theorem searchEnds_foldlM (enough : free.length ≤ fuel) :
    model.SearchEnds containers package parents free
      (parents.foldlM (model.searchParent containers fuel package) free) := by
  -- The parents of one type are passed in order, and each type that is entered pays for a step.
  induction fuel using Nat.strongRecOn generalizing package parents free with
  | ind fuel above =>
    induction parents generalizing free with
    | nil => exact .done
    | cons parent rest behind =>
      rw [List.foldlM_cons, searchParent]
      by_cases named : parent.erase ∈ containers
      · rw [if_pos named]
        exact .named named
      rw [if_neg named]
      cases resolved : model.resolve? package parent.erase with
      | none => exact .unresolved named resolved (behind enough)
      | some next =>
        by_cases isFree : next ∈ free
        · have shorter := List.length_erase_of_mem isFree
          have filled := List.length_pos_of_mem isFree
          obtain ⟨less, rfl⟩ : ∃ less, fuel = less + 1 := ⟨fuel - 1, by omega⟩
          obtain ⟨element, found⟩ := exists_getElem?_of_resolve? resolved
          have inner := @above less (by omega) (free.erase next) element.package element.parents
            (by omega)
          rw [← searchAncestors_of_mem found isFree] at inner
          show model.SearchEnds containers package (parent :: rest) free
            ((model.searchAncestors containers (less + 1) free next).bind _)
          cases searched : model.searchAncestors containers (less + 1) free next with
          | none =>
            rw [searched] at inner
            exact .found named resolved isFree found inner
          | some middle =>
            rw [searched] at inner
            -- The search of the ancestors gives nothing back for the parents behind.
            have fewer := (searchAncestors_sublist searched).length_le
            exact .passed named resolved isFree found inner (behind (by omega))
        · show model.SearchEnds containers package (parent :: rest) free
            ((model.searchAncestors containers fuel free next).bind _)
          rw [searchAncestors_of_not_mem isFree]
          exact .taken named resolved isFree (behind enough)

/-- The search comes to one outcome only. -/
theorem SearchEnds.unique {outcome other : Option (List Nat)}
    (ends : model.SearchEnds containers package parents free outcome)
    (again : model.SearchEnds containers package parents free other) : outcome = other := by
  -- The cases exclude each other by what the first parent is, and whether it is free.
  induction ends generalizing other with
  | done =>
    cases again
    rfl
  | named | unresolved | taken | found | passed => cases again <;> grind

/-! ### What is found -/

/-- Where the search finds a container, one of the parents counts as one. -/
theorem SearchEnds.exists_countsAsContainer {outcome : Option (List Nat)}
    (ends : model.SearchEnds containers package parents free outcome) (hit : outcome = none) :
    ∃ parent ∈ parents, model.CountsAsContainer containers package parent := by
  -- A parent among those behind is one among all of them.
  have further {parent : TypeExpr} {rest : List TypeExpr} {package : Option String}
      (behind : ∃ other ∈ rest, model.CountsAsContainer containers package other) :
      ∃ other ∈ parent :: rest, model.CountsAsContainer containers package other := by
    obtain ⟨other, listed, counts⟩ := behind
    exact ⟨other, List.mem_cons_of_mem _ listed, counts⟩
  -- The induction is on the search; it hits at one parent, or among those behind.
  induction ends with
  | done => cases hit
  | named named => exact ⟨_, List.mem_cons_self, .inl named⟩
  | unresolved _ _ _ ih => exact further (ih hit)
  | taken _ _ _ _ ih => exact further (ih hit)
  | found _ resolved _ found _ ih =>
    exact ⟨_, List.mem_cons_self, .inr ⟨_, resolved, (leadsToContainer_iff found).2 (ih hit)⟩⟩
  | passed _ _ _ _ _ _ _ ih => exact further (ih hit)

/-! ### What is left out -/

/-- Whether every type that a search has taken is done with: it names no container, and none of its
parents is left. -/
structure Clears (model : Model) (containers : List String) (free left : List Nat) : Prop where
  fewer : left.Sublist free
  unnamed : ∀ position ∈ free, position ∉ left → ¬ model.NamesContainer containers position
  -- So no way leads from a type that is done with to one that is left.
  closed : ∀ position ∈ free, position ∉ left → ∀ next, model.HasParent position next → next ∉ left

namespace Clears

/-- A search that takes nothing has nothing to be done with. -/
theorem refl (free : List Nat) : model.Clears containers free free where
  -- No type is both free before and not free after.
  fewer := .refl free
  unnamed _ inside taken := absurd inside taken
  closed _ inside taken := absurd inside taken

/-- What one search has taken is done with after a further one, too. -/
theorem trans {middle : List Nat} (first : model.Clears containers free middle)
    (second : model.Clears containers middle left) : model.Clears containers free left where
  fewer := second.fewer.trans first.fewer
  unnamed position inside taken := by
    by_cases later : position ∈ middle
    · exact second.unnamed position later taken
    · exact first.unnamed position inside later
  closed position inside taken next step := by
    by_cases later : position ∈ middle
    · exact second.closed position later taken next step
    · -- The parent was taken by the first search, and the second one gives nothing back.
      intro remains
      exact first.closed position inside later next step (second.fewer.subset remains)

end Clears

/-- Whether parents are passed without a container: none of them is one by name, and none of the
types that they resolve to is left. -/
def Passes (model : Model) (containers : List String) (package : Option String)
    (parents : List TypeExpr) (left : List Nat) : Prop :=
  -- A parent that resolves to nothing is passed by its name alone.
  ∀ parent ∈ parents, parent.erase ∉ containers ∧
    ∀ next, model.resolve? package parent.erase = some next → next ∉ left

/-- A type whose parents were passed is done with. -/
theorem Clears.enter (found : model.elements[position]? = some element) (distinct : free.Nodup)
    (cleared : model.Clears containers (free.erase position) left)
    (passes : model.Passes containers element.package element.parents left) :
    model.Clears containers free left ∧ position ∉ left := by
  have taken : position ∉ left := fun remains =>
    distinct.not_mem_erase (cleared.fewer.subset remains)
  refine ⟨⟨cleared.fewer.trans List.erase_sublist, ?_, ?_⟩, taken⟩
  · intro other listed missing
    by_cases same : other = position
    · -- The type itself names no container, because its parents were passed.
      subst other
      rintro ⟨_, again, parent, listed, named⟩
      obtain rfl := Option.some.inj (found.symm.trans again)
      exact (passes parent listed).1 named
    · exact cleared.unnamed other ((List.mem_erase_of_ne same).2 listed) missing
  · intro other listed missing next step
    by_cases same : other = position
    · subst other
      obtain ⟨_, again, parent, listed, resolved⟩ := step
      obtain rfl := Option.some.inj (found.symm.trans again)
      exact (passes parent listed).2 next resolved
    · exact cleared.closed other ((List.mem_erase_of_ne same).2 listed) missing next step

/-- A search that finds no container is done with all types that it takes, and passes all
parents. -/
theorem SearchEnds.clears {outcome : Option (List Nat)}
    (ends : model.SearchEnds containers package parents free outcome) (distinct : free.Nodup)
    (missed : outcome = some left) :
    model.Clears containers free left ∧ model.Passes containers package parents left := by
  -- Each case puts one parent in front of those that the hypothesis says are passed.
  induction ends generalizing left with
  | done =>
    obtain rfl := Option.some.inj missed
    exact ⟨.refl _, nofun⟩
  | named => cases missed
  | found => cases missed
  | unresolved unnamed unresolved _ ih =>
    obtain ⟨cleared, passes⟩ := ih distinct missed
    refine ⟨cleared, List.forall_mem_cons.2 ⟨⟨unnamed, fun next resolved => ?_⟩, passes⟩⟩
    rw [unresolved] at resolved
    cases resolved
  | taken unnamed resolved taken _ ih =>
    obtain ⟨cleared, passes⟩ := ih distinct missed
    refine ⟨cleared, List.forall_mem_cons.2 ⟨⟨unnamed, fun next again => ?_⟩, passes⟩⟩
    -- The parent was taken before, and is not given back.
    obtain rfl := Option.some.inj (resolved.symm.trans again)
    exact fun remains => taken (cleared.fewer.subset remains)
  | passed unnamed resolved isFree found _ _ above_ih behind_ih =>
    obtain ⟨above, above_passes⟩ := above_ih (distinct.erase _) rfl
    obtain ⟨entered, taken⟩ := above.enter found distinct above_passes
    obtain ⟨cleared, passes⟩ := behind_ih (distinct.sublist entered.fewer) missed
    refine ⟨entered.trans cleared,
      List.forall_mem_cons.2 ⟨⟨unnamed, fun next again => ?_⟩, passes⟩⟩
    obtain rfl := Option.some.inj (resolved.symm.trans again)
    exact fun remains => taken (cleared.fewer.subset remains)

/-! ### Containers -/

/-- The search of all ancestors of a type comes to its end, with the outcome that the bounded search
has. -/
theorem searchEnds_iff (found : model.elements[position]? = some element)
    {outcome : Option (List Nat)} :
    model.SearchEnds containers element.package element.parents
        ((List.range model.size).erase position) outcome ↔
      outcome =
        model.searchAncestors containers model.size (List.range model.size) position := by
  have inside : position < model.size := (Array.getElem?_eq_some_iff.1 found).1
  have isFree : position ∈ List.range model.size := List.mem_range.2 inside
  obtain ⟨fuel, size⟩ : ∃ fuel, model.size = fuel + 1 := ⟨model.size - 1, by omega⟩
  -- The type itself takes one step, and leaves as many types as there are steps left.
  have shorter : ((List.range model.size).erase position).length ≤ fuel := by
    rw [List.length_erase_of_mem isFree, List.length_range]
    omega
  have ends : model.SearchEnds containers element.package element.parents _ _ :=
    searchEnds_foldlM shorter
  rw [← searchAncestors_of_mem found isFree, ← size] at ends
  constructor
  · intro other
    exact other.unique ends
  · rintro rfl
    exact ends

/-- The search of all ancestors of a type finds a container just when a chain of parents leads to
one. -/
theorem searchAncestors_eq_none_iff (found : model.elements[position]? = some element) :
    model.searchAncestors containers model.size (List.range model.size) position = none ↔
      model.LeadsToContainer containers position := by
  -- A hit shows a chain; without one, no chain leaves what the search has taken.
  have ends : model.SearchEnds containers _ _ _ _ := (searchEnds_iff found).2 rfl
  constructor
  · intro hit
    exact (leadsToContainer_iff found).2 (ends.exists_countsAsContainer hit)
  · rintro ⟨top, chain, names⟩
    cases missed : model.searchAncestors containers model.size (List.range model.size)
      position with
    | none => rfl
    | some left =>
      have distinct : (List.range model.size).Nodup := List.nodup_range
      obtain ⟨cleared, passes⟩ := ends.clears (distinct.erase position) missed
      obtain ⟨cleared, taken⟩ := cleared.enter found distinct passes
      -- Along the chain, every type was taken, and so was the one that names a container.
      have reached : top ∉ left := by
        clear names
        induction chain with
        | refl => exact taken
        | tail _ step ih => exact cleared.closed _ (List.mem_range.2 step.lt_size) ih _ step
      exact absurd names (cleared.unnamed top (List.mem_range.2 names.lt_size) reached)

/-- A type expression denotes a container just when it is no array, and a container by name or the
name of a type that leads to one. -/
theorem isContainer_iff {type : TypeExpr} : model.isContainer containers type ↔
    TypeExpr.isArrayName type.erase = false ∧ (type.erase ∈ containers ∨
      ∃ position, model.lookup? type.erase = some position ∧
        model.LeadsToContainer containers position) := by
  -- The three tests are made in turn: for an array, for the name, and for the ancestors.
  unfold isContainer
  cases array : TypeExpr.isArrayName type.erase with
  | true => simp [array]
  | false =>
    by_cases named : type.erase ∈ containers
    · simp [array, named]
    cases found : model.lookup? type.erase with
    | none => simp [array, named, found]
    | some position =>
      obtain ⟨element, stands, _⟩ := exists_of_lookup? found
      simp [array, named, found, searchAncestors_eq_none_iff stands]

/-- For every type expression, the search of the ancestors of the type that it names comes to its
end, even where interfaces form a circle or share ancestors, and comes to the outcome that is
computed; and the expression denotes a container just when it is no array, and a container by name
or the name of a type from which a chain of parents leads to one. -/
theorem isContainer_iff_leadsToContainer (model : Model) (containers : List String)
    (type : TypeExpr) :
    (∀ position, model.lookup? type.erase = some position →
      ∃ element, model.elements[position]? = some element ∧ ∀ outcome,
        model.SearchEnds containers element.package element.parents
            ((List.range model.size).erase position) outcome ↔
          outcome =
            model.searchAncestors containers model.size (List.range model.size) position) ∧
    (model.isContainer containers type ↔ ¬ ['[', ']'] <:+ type.erase.toList ∧
      (type.erase ∈ containers ∨ ∃ position, model.lookup? type.erase = some position ∧
        model.LeadsToContainer containers position)) := by
  -- The search is followed parent by parent, and its outcome read off the chains it has passed.
  constructor
  · intro position found
    obtain ⟨element, stands, _⟩ := exists_of_lookup? found
    exact ⟨element, stands, fun outcome => searchEnds_iff stands⟩
  · rw [isContainer_iff, ← TypeExpr.isArrayName_iff, Bool.not_eq_true]

/-- Interfaces in circles that share ancestors: only one of them is a list by itself, and the search
from the first one comes to it last. -/
def circle : List TypeDeclaration :=
  [{ name := "p.Ring", interfaces := ["Left", "Right"] },
   { name := "p.Left", interfaces := ["Ring", "Shared"] },
   { name := "p.Right", interfaces := ["Shared", "Last"] },
   { name := "p.Shared", interfaces := ["Left", "unknown.Type"] },
   -- Its parent is a container by name once the arguments are erased.
   { name := "p.Last", interfaces := ["java.util.List<T>"] },
   { name := "p.Echo", interfaces := ["p.Echo<T>"] }]

/-- The model of the interfaces. -/
def circleModel : Model :=
  (build circle []).toOption.getD ⟨#[]⟩

/-- In the circles, the search from the shared interface ends and finds the list, and the interface
that extends only itself leads nowhere. -/
theorem isContainer_iff_leadsToContainer_circle :
    build circle [] = .ok circleModel ∧
      circleModel.lookup? "p.Shared" = some 3 ∧
      (∃ element, circleModel.elements[3]? = some element ∧
        circleModel.SearchEnds defaultContainers element.package element.parents [0, 1, 2, 4, 5]
          none) ∧
      circleModel.LeadsToContainer defaultContainers 3 ∧
      ¬ circleModel.LeadsToContainer defaultContainers 5 := by
  have built : build circle [] = .ok circleModel := by decide +kernel
  have shared : circleModel.lookup? "p.Shared" = some 3 := by decide +kernel
  have echo : circleModel.lookup? "p.Echo" = some 5 := by decide +kernel
  have shared_search := (isContainer_iff_leadsToContainer circleModel defaultContainers
    (.ofText "p.Shared")).1 3 shared
  have shared_contains := (isContainer_iff_leadsToContainer circleModel defaultContainers
    (.ofText "p.Shared")).2
  have echo_contains := (isContainer_iff_leadsToContainer circleModel defaultContainers
    (.ofText "p.Echo")).2
  have hit : circleModel.searchAncestors defaultContainers circleModel.size
      (List.range circleModel.size) 3 = none := by decide +kernel
  have others : (List.range circleModel.size).erase 3 = [0, 1, 2, 4, 5] := by decide +kernel
  rw [hit, others] at shared_search
  obtain ⟨element, stands, search⟩ := shared_search
  refine ⟨built, shared, ⟨element, stands, (search none).2 rfl⟩, ?_, ?_⟩
  · -- The type is no container by its own name, so a chain of parents leads to one.
    obtain ⟨_, named | ⟨position, found, leads⟩⟩ := shared_contains.1 (by decide +kernel)
    · exact absurd named (by decide +kernel)
    · obtain rfl := Option.some.inj (shared.symm.trans found)
      exact leads
  · intro leads
    -- A chain from the last interface would make a container of it.
    have contained := echo_contains.2 ⟨by decide +kernel, .inr ⟨5, echo, leads⟩⟩
    exact absurd contained (by decide +kernel)

end RuleMetadata.Model

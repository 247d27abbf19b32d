import Mathlib.Data.Finset.Card
import Mathlib.Data.List.Nodup
import RuleMetadata.Proofs.Model.Enclosure
import RuleMetadata.Walk

/-! Ways through a hierarchy: the walk from an element takes every way that enters no element twice,
and visits the element at the end of it. -/

namespace RuleMetadata

namespace Model

/-- A step through a hierarchy: up to the supertype of an element, or into one of its members. -/
inductive Step where
  | up (target : Nat)
  | into (target : Nat)
  deriving DecidableEq, Repr

/-- The position that a step leads to. -/
def Step.target : Step → Nat
  | .up target => target
  | .into target => target

end Model

open Model (Step)

/-- The steps from an element, in the order of the walk. -/
def Element.steps (element : Element) : List Step :=
  element.supertype.toList.map .up ++ element.enclosed.map .into

namespace Model

/-- The steps from a position. -/
def steps (model : Model) (position : Nat) : List Step :=
  match model.elements[position]? with
  | none => []
  | some element => element.steps

/-- Whether steps can be taken one after the other from a position on. -/
def IsWay (model : Model) : Nat → List Step → Prop
  | _, [] => True
  | start, step :: rest => step ∈ model.steps start ∧ IsWay model step.target rest

/-- The position at the end of a way. -/
def ending : Nat → List Step → Nat
  | start, [] => start
  | _, step :: rest => ending step.target rest

/-- The positions on a way, with its start and its end. -/
def stations (start : Nat) (way : List Step) : List Nat :=
  start :: way.map Step.target

/-- Whether steps are a way between two positions that comes to no position twice. -/
structure IsSimpleWay (model : Model) (start : Nat) (way : List Step) (position : Nat) :
    Prop where
  isWay : model.IsWay start way
  -- The start is one of the stations, so no way comes back to it.
  simple : (stations start way).Nodup
  ends : ending start way = position

/-- Whether some way leads from one position to another. -/
def Reaches (model : Model) (start position : Nat) : Prop :=
  ∃ way, model.IsWay start way ∧ ending start way = position

/-- Whether an element at a position carries a marker of a kind. -/
def IsMarked (model : Model) (kind : MarkerKind) (position : Nat) : Bool :=
  model.elements[position]?.any (·.carries kind)

/-- A position on a way is where it starts, or one on the rest of it. -/
@[simp] theorem mem_stations_cons {start position : Nat} {step : Step} {rest : List Step} :
    position ∈ stations start (step :: rest) ↔
      position = start ∨ position ∈ stations step.target rest := by
  simp [stations]

/-- A way comes to no position twice if its rest does not, and does not come back to the start. -/
@[simp] theorem nodup_stations_cons {start : Nat} {step : Step} {rest : List Step} :
    (stations start (step :: rest)).Nodup ↔
      start ∉ stations step.target rest ∧ (stations step.target rest).Nodup := by
  simp [stations]

/-- A way starts at one of its positions. -/
theorem start_mem_stations (start : Nat) (way : List Step) : start ∈ stations start way :=
  List.mem_cons_self

/-- A way ends at one of its positions. -/
theorem ending_mem_stations (start : Nat) (way : List Step) :
    ending start way ∈ stations start way := by
  -- The induction is on the way, whose last step has the end as its target.
  induction way generalizing start with
  | nil => exact List.mem_singleton_self start
  | cons step rest ih => exact mem_stations_cons.2 (.inr (ih step.target))

/-- The positions on a way in two parts are those of the first part and the targets of the
second. -/
theorem stations_append (start : Nat) (front rest : List Step) :
    stations start (front ++ rest) = stations start front ++ rest.map Step.target := by
  simp [stations]

variable {model : Model}

/-- A step is taken from an element of the model. -/
theorem lt_size_of_mem_steps {position : Nat} {step : Step} (inside : step ∈ model.steps position) :
    position < model.size := by
  -- There are no steps from a position without an element.
  unfold steps at inside
  split at inside
  · cases inside
  · rename_i found
    exact (Array.getElem?_eq_some_iff.1 found).1

/-- The positions on a way are those of elements, if the last one is. -/
theorem lt_size_of_mem_stations {start : Nat} {way : List Step} (isWay : model.IsWay start way)
    (ends : ending start way < model.size) :
    ∀ position ∈ stations start way, position < model.size := by
  -- Every position but the last has a step that is taken from it.
  induction way generalizing start with
  | nil => simpa [stations, ending] using ends
  | cons step rest ih =>
    intro position inside
    rcases mem_stations_cons.1 inside with rfl | behind
    · exact lt_size_of_mem_steps isWay.1
    · exact ih isWay.2 ends position behind

/-! ### Leaving out detours -/

/-- The rest of a simple way, from one of its positions on, is a simple way. -/
theorem IsSimpleWay.drop {start position middle : Nat} {way : List Step}
    (whole : model.IsSimpleWay start way position) (inside : middle ∈ stations start way) :
    ∃ rest, model.IsSimpleWay middle rest position := by
  induction way generalizing start with
  | nil =>
    obtain rfl : middle = start := by simpa [stations] using inside
    exact ⟨[], whole⟩
  | cons step rest ih =>
    -- Either the whole way starts at the position, or the position lies behind the first step.
    rcases mem_stations_cons.1 inside with rfl | behind
    · exact ⟨step :: rest, whole⟩
    · exact ih ⟨whole.isWay.2, (nodup_stations_cons.1 whole.simple).2, whole.ends⟩ behind

/-- Whatever can be reached can be reached on a way that comes to no position twice. -/
theorem Reaches.exists_isSimpleWay {start position : Nat} (reaches : model.Reaches start position) :
    ∃ way, model.IsSimpleWay start way position := by
  obtain ⟨way, isWay, ends⟩ := reaches
  induction way generalizing start with
  | nil => exact ⟨[], trivial, List.nodup_singleton start, ends⟩
  | cons step rest ih =>
    obtain ⟨simple, behind⟩ := ih isWay.2 ends
    -- A way that comes back to the start is cut off in front of that point.
    by_cases back : start ∈ stations step.target simple
    · exact behind.drop back
    · exact ⟨step :: simple, ⟨isWay.1, behind.isWay⟩,
        nodup_stations_cons.2 ⟨back, behind.simple⟩, behind.ends⟩

/-! ### The ways that a walk takes -/

/-- The ways from a position over free positions that come to none of them twice, in the order of
the walk: those that begin with each step, and then the one that stays. -/
def waysFrom (model : Model) : Nat → List Nat → Nat → List (List Step)
  | 0, _, _ => []
  | fuel + 1, free, position =>
    match model.elements[position]? with
    | none => []
    | some element =>
      -- A position that has been taken is no station again.
      if position ∈ free then
        (element.steps.flatMap fun step =>
          (waysFrom model fuel (free.erase position) step.target).map (step :: ·)) ++ [[]]
      else []

/-- The walk visits the marked ones among the ends of its ways. -/
theorem visitsFrom_eq (kind : MarkerKind) (fuel : Nat) (free : List Nat) (position : Nat) :
    model.visitsFrom kind fuel free position =
      ((model.waysFrom fuel free position).map (ending position)).filter (model.IsMarked kind) := by
  -- The walk branches where the ways do, so the two lists grow alike.
  induction fuel generalizing free position with
  | zero => rfl
  | succ fuel ih =>
    cases found : model.elements[position]? with
    | none => simp [visitsFrom, waysFrom, found]
    | some element =>
      by_cases isFree : position ∈ free
      · have own : ([position].filter (model.IsMarked kind)) =
            if element.carries kind then [position] else [] := by
          simp [List.filter_cons, IsMarked, found]
        simp only [visitsFrom, waysFrom, found, isFree, if_true, List.map_append, List.map_cons,
          List.map_nil, List.filter_append, own, ending]
        congr 1
        have below := funext (ih (free.erase position))
        simp only [Element.steps, List.flatMap_append, List.flatMap_map, List.map_append,
          List.map_flatMap, List.filter_append, List.filter_flatMap, List.map_map,
          Function.comp_def, ending, Step.target, below]
      · simp [visitsFrom, waysFrom, found, isFree]

/-- A walk visits none but marked elements. -/
theorem isMarked_of_mem_visitsFrom {kind : MarkerKind} {fuel : Nat} {free : List Nat}
    {start position : Nat} (visited : position ∈ model.visitsFrom kind fuel free start) :
    model.IsMarked kind position := by
  -- A walk lists the marked ends of its ways.
  rw [visitsFrom_eq] at visited
  exact (List.mem_filter.1 visited).2

/-- The ways that a walk takes are the ways over free positions that come to none of them twice. -/
theorem mem_waysFrom_iff {fuel : Nat} {free : List Nat} (distinct : free.Nodup)
    (enough : free.length ≤ fuel) {position : Nat} {way : List Step} :
    way ∈ model.waysFrom fuel free position ↔
      model.IsWay position way ∧ (stations position way).Nodup ∧
        ∀ station ∈ stations position way, station ∈ free ∧ station < model.size := by
  induction fuel generalizing free position way with
  | zero =>
    -- Without a free position, there is no way, not even the one that stays.
    obtain rfl : free = [] := List.length_eq_zero_iff.1 (Nat.le_zero.1 enough)
    refine iff_of_false List.not_mem_nil fun ⟨_, _, all⟩ => ?_
    exact List.not_mem_nil (all position (start_mem_stations position way)).1
  | succ fuel ih =>
    by_cases enters : position ∈ free ∧ position < model.size
    · obtain ⟨isFree, inside⟩ := enters
      have found : model.elements[position]? = some model.elements[position] :=
        Array.getElem?_eq_getElem inside
      -- Behind the position, one position less is free.
      have shorter : (free.erase position).length ≤ fuel := by
        rw [List.length_erase_of_mem isFree]
        omega
      have behind (step : Step) (rest : List Step) := @ih (free.erase position)
        (distinct.erase position) shorter step.target rest
      simp only [waysFrom, found, isFree, if_true, List.mem_append, List.mem_flatMap, List.mem_map,
        List.mem_singleton]
      cases way with
      | nil => simp [IsWay, stations, isFree, inside]
      | cons step rest =>
        simp only [List.cons.injEq, List.cons_ne_nil, or_false, exists_eq_right_right, behind,
          distinct.mem_erase_iff, nodup_stations_cons, mem_stations_cons, forall_eq_or_imp, IsWay,
          steps, found, isFree, inside, and_self, true_and]
        grind
    · -- A way to nowhere starts from a position that is not free, or has no element.
      have no_way : model.waysFrom (fuel + 1) free position = [] := by
        unfold waysFrom
        split
        · rfl
        · rename_i found
          exact if_neg fun isFree =>
            enters ⟨isFree, (Array.getElem?_eq_some_iff.1 found).1⟩
      simp only [no_way, List.not_mem_nil, false_iff, not_and]
      exact fun _ _ all => enters (all position (start_mem_stations position way))

/-- A walk takes no way twice, if no step can be taken in two ways. -/
theorem nodup_waysFrom (apart : ∀ position, (model.steps position).Nodup) (fuel : Nat)
    (free : List Nat) (position : Nat) : (model.waysFrom fuel free position).Nodup := by
  induction fuel generalizing free position with
  | zero => exact List.nodup_nil
  | succ fuel ih =>
    cases found : model.elements[position]? with
    | none => simp [waysFrom, found]
    | some element =>
      have steps_apart : element.steps.Nodup := by simpa [steps, found] using apart position
      simp only [waysFrom, found]
      split
      · -- Ways differ in their first step, or behind it; the last way has no step.
        refine List.nodup_append.2 ⟨List.nodup_flatMap.2 ⟨fun step _ => ?_, ?_⟩,
          List.nodup_singleton _, ?_⟩
        · exact (ih _ _).map fun _ _ same => (List.cons.inj same).2
        · refine steps_apart.imp fun {one other} differ way first second => ?_
          obtain ⟨_, _, rfl⟩ := List.mem_map.1 first
          obtain ⟨_, _, same⟩ := List.mem_map.1 second
          exact differ (List.cons.inj same).1.symm
        · intro way branching other stays same
          obtain ⟨_, _, inside⟩ := List.mem_flatMap.1 branching
          obtain ⟨_, _, rfl⟩ := List.mem_map.1 inside
          rw [List.mem_singleton.1 stays] at same
          cases same
      · exact List.nodup_nil

/-- From as much fuel as there are free positions on, a walk does not depend on its fuel: it comes
to its end by itself. -/
theorem visitsFrom_of_le (kind : MarkerKind) {fuel more : Nat} {free : List Nat}
    (enough : free.length ≤ fuel) (further : fuel ≤ more) (position : Nat) :
    model.visitsFrom kind more free position = model.visitsFrom kind fuel free position := by
  induction fuel generalizing more free position with
  | zero =>
    -- Without a free position, no element is entered, whatever the fuel.
    obtain rfl : free = [] := List.length_eq_zero_iff.1 (Nat.le_zero.1 enough)
    cases more with
    | zero => rfl
    | succ more => cases found : model.elements[position]? <;> simp [visitsFrom, found]
  | succ fuel ih =>
    obtain ⟨more, rfl⟩ : ∃ less, more = less + 1 := ⟨more - 1, by omega⟩
    cases found : model.elements[position]? with
    | none => simp [visitsFrom, found]
    | some element =>
      by_cases isFree : position ∈ free
      · have shorter : (free.erase position).length ≤ fuel := by
          rw [List.length_erase_of_mem isFree]
          omega
        have below : model.visitsFrom kind more (free.erase position) =
            model.visitsFrom kind fuel (free.erase position) :=
          funext fun next => ih shorter (by omega) next
        simp only [visitsFrom, found, isFree, if_true, below]
      · simp [visitsFrom, found, isFree]

/-! ### Counting visits -/

/-- A walk from a root takes the ways from it that come to no position twice. -/
theorem mem_ways_iff {root position : Nat} (inside : position < model.size) {way : List Step} :
    way ∈ (model.waysFrom model.size (List.range model.size) root).filter
        (ending root · = position) ↔ model.IsSimpleWay root way position := by
  -- All positions are free at the start, so that a way has to pass over elements only.
  rw [List.mem_filter, mem_waysFrom_iff List.nodup_range (by simp), decide_eq_true_eq]
  constructor
  · rintro ⟨⟨isWay, simple, _⟩, ends⟩
    exact ⟨isWay, simple, ends⟩
  · rintro ⟨isWay, simple, ends⟩
    have within := lt_size_of_mem_stations isWay (ends ▸ inside)
    exact ⟨⟨isWay, simple, fun station on_way =>
      ⟨List.mem_range.2 (within station on_way), within station on_way⟩⟩, ends⟩

/-- A marked element is one of the model's. -/
theorem lt_size_of_isMarked {kind : MarkerKind} {position : Nat}
    (marked : model.IsMarked kind position) : position < model.size := by
  obtain ⟨element, found, _⟩ := (Option.any_eq_true _ _).1 marked
  exact (Array.getElem?_eq_some_iff.1 found).1

/-- In a model that was built, the steps from an element are distinct. -/
theorem nodup_steps_of_build {sources classpath : List TypeDeclaration}
    (built : build sources classpath = .ok model) (position : Nat) :
    (model.steps position).Nodup := by
  unfold steps
  split
  · exact List.nodup_nil
  · rename_i element found
    -- There is one supertype at most, and the positions of members increase.
    have follow := (List.pairwise_cons.1 (membersFollow_of_build built found)).2
    have members : element.enclosed.Nodup := follow.imp Nat.ne_of_lt
    rw [Element.steps, List.nodup_append]
    refine ⟨?_, members.map fun _ _ same => Step.into.inj same, ?_⟩
    · cases element.supertype <;> simp
    · intro one above other below same
      obtain ⟨_, _, rfl⟩ := List.mem_map.1 above
      obtain ⟨_, _, rfl⟩ := List.mem_map.1 below
      cases same

/-- The walk through a hierarchy comes to an end by itself. It visits each marked element as often
as there are ways to it that come to no element twice, so that it visits everything that is marked
and can be reached, and nothing else. -/
theorem count_visits {sources classpath : List TypeDeclaration}
    (built : build sources classpath = .ok model) (kind : MarkerKind) (root position : Nat) :
    (∀ fuel, model.size ≤ fuel →
      model.visitsFrom kind fuel (List.range model.size) root = model.visits kind root) ∧
    (model.IsMarked kind position → ∃ ways : Finset (List Step),
      (∀ way, way ∈ ways ↔ model.IsSimpleWay root way position) ∧
        (model.visits kind root).count position = ways.card) ∧
    (position ∈ model.visits kind root ↔
      model.IsMarked kind position ∧ model.Reaches root position) := by
  have counted (marked : model.IsMarked kind position) : ∃ ways : Finset (List Step),
      (∀ way, way ∈ ways ↔ model.IsSimpleWay root way position) ∧
        (model.visits kind root).count position = ways.card := by
    -- The ways that the walk takes to the element are all the simple ones, and none comes twice.
    let ways := (model.waysFrom model.size (List.range model.size) root).filter
      (ending root · = position)
    have distinct : ways.Nodup := (nodup_waysFrom (nodup_steps_of_build built) _ _ _).filter _
    refine ⟨ways.toFinset, fun way => ?_, ?_⟩
    · rw [List.mem_toFinset]
      exact mem_ways_iff (lt_size_of_isMarked marked)
    · rw [List.toFinset_card_of_nodup distinct, visits, visitsFrom_eq, List.count_filter marked,
        List.count, List.countP_map, List.countP_eq_length_filter]
      rfl
  refine ⟨fun fuel enough => visitsFrom_of_le kind (by simp) enough root, counted, ?_⟩
  constructor
  · -- What is visited is marked, and stands at the end of a way.
    intro visited
    rw [visits, visitsFrom_eq, List.mem_filter, List.mem_map] at visited
    obtain ⟨⟨way, taken, ends⟩, marked⟩ := visited
    have simple := (mem_waysFrom_iff List.nodup_range (by simp)).1 taken
    exact ⟨marked, way, simple.1, ends⟩
  · -- There is a simple way to what can be reached, so its visits are not none.
    rintro ⟨marked, reaches⟩
    obtain ⟨way, simple⟩ := reaches.exists_isSimpleWay
    obtain ⟨ways, all, count⟩ := counted marked
    rw [← List.count_pos_iff, count, Finset.card_pos]
    exact ⟨way, (all way).2 simple⟩

/-- A type with an argument, which two nested types of another one inherit; a third one extends the
type around it. -/
def crossing : List TypeDeclaration :=
  [{ name := "p.Base"
     members := [.field { name := "shared", type := some "int", markers := [.argument {}] }] },
   { name := "p.Outer"
     members := [.type { name := "One", superclass := some "p.Base" },
      .type { name := "Two", superclass := some "p.Base" },
      -- This one leads back to where the walk is already, so it adds nothing.
      .type { name := "Again", superclass := some "p.Outer" }] }]

/-- The model of the two types. -/
def crossingModel : Model :=
  (build crossing []).toOption.getD ⟨#[]⟩

/-- The argument is visited twice, once through either of the nested types that extend its owner. -/
theorem count_visits_crossing :
    build crossing [] = .ok crossingModel ∧ crossingModel.IsMarked .argument 1 ∧
      crossingModel.visits .argument 2 = [1, 1] ∧
      ∃ ways : Finset (List Step),
        (∀ way, way ∈ ways ↔ crossingModel.IsSimpleWay 2 way 1) ∧ ways.card = 2 := by
  have built : build crossing [] = .ok crossingModel := by decide +kernel
  have marked : crossingModel.IsMarked .argument 1 := by decide +kernel
  have visited : crossingModel.visits .argument 2 = [1, 1] := by decide +kernel
  -- The visits are as many as the ways, which are counted by running the walk.
  obtain ⟨-, counted, -⟩ := count_visits built .argument 2 1
  obtain ⟨ways, all, count⟩ := counted marked
  refine ⟨built, marked, visited, ways, all, ?_⟩
  rw [← count, visited]
  rfl

end Model

end RuleMetadata

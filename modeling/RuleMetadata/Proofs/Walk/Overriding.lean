import RuleMetadata.Proofs.Attributes
import RuleMetadata.Proofs.Walk.Ways

/-! Which of several declarations of one attribute counts: one inside the type itself, unless a type
nested in it inherits another one. -/

namespace RuleMetadata.Model

/-- Whether a step leads into a member. -/
def Step.isInto : Step → Bool
  | .up _ => false
  | .into _ => true

/-- Whether an element stands inside another one, at whatever depth; each stands inside itself. -/
def Encloses (model : Model) (outer inner : Nat) : Prop :=
  ∃ way, model.IsWay outer way ∧ (∀ step ∈ way, step.isInto) ∧ ending outer way = inner

/-- Whether an element declares an attribute of a name. -/
def Declares (model : Model) (position : Nat) (name : String) : Prop :=
  ∃ value, model.attribute? position = some (name, value)

variable {model : Model}

/-- An element that declares an attribute is marked for it. -/
theorem isMarked_of_attribute? {position : Nat} {entry : String × AttributeValue}
    (declared : model.attribute? position = some entry) : model.IsMarked .attribute position := by
  unfold attribute? at declared
  -- Without an element or its marker, no attribute is declared.
  split at declared
  · cases declared
  · rename_i element found
    split at declared
    · rename_i marker carried
      simp [IsMarked, found, Element.carries, carried]
    · cases declared

/-- The last declaration of a name on the walk is the one that counts. -/
theorem get?_attributes_of_last {root winner : Nat} {before behind : List Nat} {name : String}
    {value : AttributeValue} (visited : model.visits .attribute root = before ++ winner :: behind)
    (declared : model.attribute? winner = some (name, value))
    (last : ∀ other ∈ behind, ¬ model.Declares other name) :
    (model.attributes root).get? name = some value := by
  rw [attributes, visited, List.filterMap_append, List.filterMap_cons_some declared]
  refine AttributeMap.get?_foldl_insert _ value ?_ []
  -- An entry behind the declaration comes from an element that declares another name.
  rintro ⟨_, found⟩ inside rfl
  obtain ⟨other, behind_it, entry⟩ := List.mem_filterMap.1 inside
  exact last other behind_it ⟨found, entry⟩

/-- The ways from an element that go up first come before all others on the walk. -/
theorem waysFrom_eq_append (fuel : Nat) (free : List Nat) (position : Nat) :
    ∃ above below, model.waysFrom fuel free position = above ++ below ∧
      (∀ way ∈ above, ∃ supertype rest, way = .up supertype :: rest) ∧
      ∀ way ∈ below, way.head?.all Step.isInto := by
  cases fuel with
  | zero => exact ⟨[], [], rfl, by simp, by simp⟩
  | succ fuel =>
    unfold waysFrom
    split
    · exact ⟨[], [], rfl, by simp, by simp⟩
    · split
      · -- The steps from an element have its supertype in front, and its members behind it.
        rw [Element.steps, List.flatMap_append, List.append_assoc]
        refine ⟨_, _, rfl, fun way inside => ?_, fun way inside => ?_⟩
        · obtain ⟨step, steps, taken⟩ := List.mem_flatMap.1 inside
          obtain ⟨supertype, _, rfl⟩ := List.mem_map.1 steps
          obtain ⟨rest, _, rfl⟩ := List.mem_map.1 taken
          exact ⟨supertype, rest, rfl⟩
        · rcases List.mem_append.1 inside with enters | stays
          · obtain ⟨step, steps, taken⟩ := List.mem_flatMap.1 enters
            obtain ⟨member, _, rfl⟩ := List.mem_map.1 steps
            obtain ⟨rest, _, rfl⟩ := List.mem_map.1 taken
            rfl
          · rw [List.mem_singleton.1 stays]
            rfl
      · exact ⟨[], [], rfl, by simp, by simp⟩

/-- If some way that does not go up first leads to a declaration of a name, then the last such way
leads to the last declaration of the name on the walk. -/
theorem exists_last_declaration {root : Nat} {name : String} {way : List Step}
    (taken : way ∈ model.waysFrom model.size (List.range model.size) root)
    (stays : way.head?.all Step.isInto) (declared : model.Declares (ending root way) name) :
    ∃ last ∈ model.waysFrom model.size (List.range model.size) root,
      last.head?.all Step.isInto ∧ model.Declares (ending root last) name ∧
      ∃ before behind, model.visits .attribute root = before ++ ending root last :: behind ∧
        ∀ other ∈ behind, ¬ model.Declares other name := by
  classical
  obtain ⟨above, below, split, up, into⟩ :=
    @waysFrom_eq_append model model.size (List.range model.size) root
  -- The way is among those behind the supertype, where the last one of its kind is looked for.
  have inside : way ∈ below := by
    rcases List.mem_append.1 (split ▸ taken) with goes_up | stays_below
    · obtain ⟨supertype, rest, rfl⟩ := up way goes_up
      cases stays
    · exact stays_below
  obtain ⟨last, found⟩ := Option.isSome_iff_exists.1 (List.find?_isSome
    (p := fun way => decide (model.Declares (ending root way) name)).2
      ⟨way, List.mem_reverse.2 inside, decide_eq_true declared⟩)
  obtain ⟨declares, after, front, turned, others⟩ := List.find?_eq_some_iff_append.1 found
  have parts : below = front.reverse ++ last :: after.reverse := by
    rw [← below.reverse_reverse, turned]
    simp
  have last_declares := of_decide_eq_true declares
  have ⟨_, entry⟩ := last_declares
  refine ⟨last, by simp [split, parts], into last (by simp [parts]), last_declares,
    ((above ++ front.reverse).map (ending root)).filter (model.IsMarked .attribute),
    (after.reverse.map (ending root)).filter (model.IsMarked .attribute), ?_, ?_⟩
  · rw [visits, visitsFrom_eq, split, parts]
    simp [isMarked_of_attribute? entry]
  · -- What is visited behind it stands at the end of a way behind it.
    intro other visited
    obtain ⟨later, behind_it, rfl⟩ := List.mem_map.1 (List.mem_of_mem_filter visited)
    simpa using others later (List.mem_reverse.1 behind_it)

/-! ### Inside and outside of a type -/

section Built

variable {sources classpath : List TypeDeclaration} (built : build sources classpath = .ok model)
include built

/-- A member stands behind the type that it is a member of. -/
theorem lt_target_of_isInto {position : Nat} {step : Step} (inside : step ∈ model.steps position)
    (into : step.isInto) : position < step.target := by
  unfold steps at inside
  split at inside
  · cases inside
  · rename_i element found
    rw [Element.steps, List.mem_append] at inside
    -- A step into a member is not the one to the supertype.
    rcases inside with above | below
    · obtain ⟨_, _, rfl⟩ := List.mem_map.1 above
      cases into
    · obtain ⟨member, enclosed, rfl⟩ := List.mem_map.1 below
      exact (List.pairwise_cons.1 (membersFollow_of_build built found)).1 member enclosed

/-- A way into members leads further behind with every step. -/
theorem pairwise_stations {start : Nat} {way : List Step} (isWay : model.IsWay start way)
    (into : ∀ step ∈ way, step.isInto) : (stations start way).Pairwise (· < ·) := by
  induction way generalizing start with
  | nil => exact List.pairwise_singleton _ _
  | cons step rest ih =>
    obtain ⟨first, others⟩ := List.forall_mem_cons.1 into
    have behind := ih isWay.2 others
    have further := lt_target_of_isInto built isWay.1 first
    refine List.pairwise_cons.2 ⟨fun station on_way => ?_, behind⟩
    -- All positions behind the first step lie behind the one that it leads to.
    rcases List.mem_cons.1 (show station ∈ stations step.target rest from on_way) with rfl | later
    · exact further
    · exact Nat.lt_trans further ((List.pairwise_cons.1 behind).1 station later)

/-- What stands inside an element does not stand in front of it. -/
theorem le_of_encloses {outer inner : Nat} (inside : model.Encloses outer inner) :
    outer ≤ inner := by
  obtain ⟨way, isWay, into, rfl⟩ := inside
  -- Steps into members only go forward.
  rcases List.mem_cons.1 (ending_mem_stations outer way) with stays | behind
  · exact Nat.le_of_eq stays.symm
  · exact Nat.le_of_lt ((List.pairwise_cons.1 (pairwise_stations built isWay into)).1 _ behind)

/-- The walk from an element takes the way to everything that stands inside it. -/
theorem mem_waysFrom_of_isInto {root : Nat} {way : List Step} (isWay : model.IsWay root way)
    (into : ∀ step ∈ way, step.isInto) (ends : ending root way < model.size) :
    way ∈ model.waysFrom model.size (List.range model.size) root := by
  -- Such a way leads further behind with every step, so that it meets no position twice.
  have within := lt_size_of_mem_stations isWay ends
  refine (mem_waysFrom_iff List.nodup_range (by simp)).2
    ⟨isWay, (pairwise_stations built isWay into).imp Nat.ne_of_lt, fun station on_way => ?_⟩
  exact ⟨List.mem_range.2 (within station on_way), within station on_way⟩

end Built

/-- A way stays inside the element where it starts, or goes up from something inside it. -/
theorem encloses_or_goes_up {start : Nat} {way : List Step} (isWay : model.IsWay start way) :
    model.Encloses start (ending start way) ∨
      ∃ front supertype rest, way = front ++ .up supertype :: rest ∧
        model.IsWay start front ∧ (∀ step ∈ front, step.isInto) ∧
        .up supertype ∈ model.steps (ending start front) ∧ model.IsWay supertype rest ∧
        ending supertype rest = ending start way := by
  -- The first step up is looked for along the way.
  induction way generalizing start with
  | nil => exact .inl ⟨[], trivial, by simp, rfl⟩
  | cons step rest ih =>
    obtain ⟨first, others⟩ := isWay
    cases step with
    | up supertype => exact .inr ⟨[], supertype, rest, rfl, trivial, by simp, first, others, rfl⟩
    | into member =>
      -- What is inside a member is inside the element.
      rcases ih others with ⟨inner, isWay, into, ends⟩ |
        ⟨front, supertype, behind, rfl, isWay, into, goes_up, further, ends⟩
      · exact .inl ⟨.into member :: inner, ⟨first, isWay⟩, List.forall_mem_cons.2 ⟨rfl, into⟩, ends⟩
      · exact .inr ⟨.into member :: front, supertype, behind, rfl, ⟨first, isWay⟩,
          List.forall_mem_cons.2 ⟨rfl, into⟩, goes_up, further, ends⟩

/-- If an attribute is declared inside a type, then the declaration that counts is the last one on
the walk; it stands inside the type as well, or a type that is nested in it inherits it from its own
supertype, past the type itself. -/
theorem get?_attributes_of_encloses {sources classpath : List TypeDeclaration}
    (built : build sources classpath = .ok model) {root position : Nat} {name : String}
    (inside : model.Encloses root position) (declared : model.Declares position name) :
    ∃ winner value, model.attribute? winner = some (name, value) ∧
      (model.attributes root).get? name = some value ∧
      (∃ before behind, model.visits .attribute root = before ++ winner :: behind ∧
        ∀ other ∈ behind, ¬ model.Declares other name) ∧
      (model.Encloses root winner ∨
        ∃ nested supertype way, model.Encloses root nested ∧ nested ≠ root ∧
          .up supertype ∈ model.steps nested ∧ model.IsSimpleWay supertype way winner ∧
          root ∉ stations supertype way) := by
  -- The way to what is inside does not go up first, so the last declaration is on such a way.
  obtain ⟨way, isWay, into, rfl⟩ := inside
  have ⟨_, entry⟩ := declared
  have taken := mem_waysFrom_of_isInto built isWay into
    (lt_size_of_isMarked (isMarked_of_attribute? entry))
  have stays : way.head?.all Step.isInto := by
    cases way with
    | nil => rfl
    | cons step rest => exact into step List.mem_cons_self
  obtain ⟨last, last_taken, last_stays, ⟨value, counts⟩, before, behind, visited, none_behind⟩ :=
    exists_last_declaration taken stays declared
  refine ⟨ending root last, value, counts,
    get?_attributes_of_last visited counts none_behind, ⟨before, behind, visited, none_behind⟩, ?_⟩
  obtain ⟨last_way, simple, _⟩ :=
    (mem_waysFrom_iff List.nodup_range (by simp)).1 last_taken
  rcases encloses_or_goes_up last_way with encloses |
    ⟨front, supertype, rest, rfl, front_way, front_into, goes_up, further, ends⟩
  · exact .inl encloses
  · -- The type that it goes up from is not the root, and the way does not come back to that.
    rw [stations_append, List.map_cons, List.nodup_append] at simple
    have root_first := start_mem_stations root front
    refine .inr ⟨ending root front, supertype, rest, ⟨front, front_way, front_into, rfl⟩, ?_,
      goes_up, ⟨further, simple.2.1, ends⟩, fun back => simple.2.2 root root_first root back rfl⟩
    cases front with
    | nil => cases last_stays
    | cons step others =>
      have increase := List.pairwise_cons.1 (pairwise_stations built front_way front_into)
      exact Nat.ne_of_gt (increase.1 _ (ending_mem_stations step.target others))

/-- A type that declares an attribute over the one of its supertype, and has a nested type that
inherits the supertype's once more. -/
def overridden : List TypeDeclaration :=
  [{ name := "p.Base"
     members := [.field { name := "x", type := some "String"
                          markers := [.attribute { value := ["base"] }] }] },
   { name := "p.Derived", superclass := some "p.Base"
     members := [.field { name := "x", type := some "String"
                          markers := [.attribute { value := ["own"] }] },
      -- Members are walked last, so the inherited declaration is met again behind the own one.
      .type { name := "Nested", superclass := some "p.Base" }] }]

/-- The model of the two types. -/
def overriddenModel : Model :=
  (build overridden []).toOption.getD ⟨#[]⟩

/-- The derived type's own declaration stands inside it. -/
theorem encloses_overridden : overriddenModel.Encloses 2 3 :=
  ⟨[.into 3], ⟨by decide +kernel, trivial⟩, by simp [Step.isInto], rfl⟩

/-- One declaration counts for the attribute of the derived type, which declares it inside. -/
theorem get?_attributes_of_encloses_overridden :
    build overridden [] = .ok overriddenModel ∧ overriddenModel.Encloses 2 3 ∧
      overriddenModel.Declares 3 "x" ∧
      ∃ winner value, overriddenModel.attribute? winner = some ("x", value) ∧
        (overriddenModel.attributes 2).get? "x" = some value := by
  have built : build overridden [] = .ok overriddenModel := by decide +kernel
  have declared : overriddenModel.Declares 3 "x" := ⟨.single "own", by decide +kernel⟩
  -- The declaration is inside of the type, which is all that is asked.
  obtain ⟨winner, value, counts, found, -⟩ :=
    get?_attributes_of_encloses built encloses_overridden declared
  exact ⟨built, encloses_overridden, declared, winner, value, counts, found⟩

/-- The declaration that counts need not stand inside the type, even if one there has the name: a
nested type inherits the supertype's declaration behind it. -/
theorem get?_attributes_not_derived :
    ¬ ∀ (sources classpath : List TypeDeclaration) (model : Model),
      build sources classpath = .ok model → ∀ (root : Nat) (element : Element),
        model.elements[root]? = some element → element.kind = .type →
        ∀ name, (∃ position, model.Encloses root position ∧ model.Declares position name) →
          ∃ winner value, model.Encloses root winner ∧
            model.attribute? winner = some (name, value) ∧
            (model.attributes root).get? name = some value := by
  intro claim
  have built : build overridden [] = .ok overriddenModel := by decide +kernel
  have declared : overriddenModel.Declares 3 "x" := ⟨.single "own", by decide +kernel⟩
  have type : overriddenModel.elements[2]?.map (·.kind) = some .type := by decide +kernel
  obtain ⟨derived, there, kind⟩ := Option.map_eq_some_iff.1 type
  obtain ⟨winner, value, inside, counts, found⟩ := claim overridden [] overriddenModel built 2
    derived there kind "x" ⟨3, encloses_overridden, declared⟩
  -- The value is that of the supertype, whose declaration stands in front of the type.
  have base : (overriddenModel.attributes 2).get? "x" = some (.single "base") := by decide +kernel
  obtain rfl := Option.some.inj (base.symm.trans found)
  have front : ∀ position < overriddenModel.size,
      overriddenModel.attribute? position = some ("x", .single "base") → position < 2 := by
    decide +kernel
  have before := front winner (lt_size_of_isMarked (isMarked_of_attribute? counts)) counts
  have behind := le_of_encloses built inside
  omega

end RuleMetadata.Model

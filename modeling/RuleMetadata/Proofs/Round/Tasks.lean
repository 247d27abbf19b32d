import Mathlib.Data.List.Basic
import RuleMetadata.Proofs.Lists
import RuleMetadata.Proofs.Model.Outline
import RuleMetadata.Round.Run

/-! The tasks of a round: on which elements they work, and which of them a later round repeats. -/

namespace RuleMetadata

namespace Round

variable {model : Model} {options : BuildOptions}

/-- The descriptions that are kept are those of the marked elements of the sources. -/
theorem mem_descriptionTasks_iff (kept : options.skipDescriptions = false) {task : Task} :
    task ∈ descriptionTasks model options ↔
      model.elements[task.position]? = some task.element ∧ keepsDescription task.element ∧
        task.job = .keepDescription := by
  -- A task has the element of its position, which is the one that was picked out.
  obtain ⟨position, element, job⟩ := task
  simp only [descriptionTasks, kept, Bool.false_eq_true, if_false, List.mem_filterMap,
    Model.mem_positions_iff, Option.map_eq_some_iff, Task.mk.injEq]
  constructor
  · rintro ⟨_, ⟨picked, found, marked⟩, _, again, rfl, rfl, rfl⟩
    obtain rfl := Option.some.inj (found.symm.trans again)
    exact ⟨found, marked, rfl⟩
  · rintro ⟨found, marked, rfl⟩
    exact ⟨position, ⟨element, found, marked⟩, element, found, rfl, rfl, rfl⟩

/-- The tasks that write the artifacts of the element at a position. -/
def artifactTasksAt (model : Model) (options : BuildOptions) (position : Nat) : List Task :=
  match model.elements[position]? with
  -- An element may have several: a rule and a named object.
  | some element => (artifactJobs options element).map fun job => ⟨position, element, job⟩
  | none => []

/-- The artifacts are written element by element. -/
theorem artifactTasks_eq : artifactTasks model options =
    (model.positions emitsArtifacts).flatMap (artifactTasksAt model options) := rfl

/-- The artifacts of an element are those that it calls for. -/
theorem mem_artifactTasksAt_iff {position : Nat} {task : Task} :
    task ∈ artifactTasksAt model options position ↔
      task.position = position ∧ model.elements[position]? = some task.element ∧
        task.job ∈ artifactJobs options task.element := by
  obtain ⟨_, element, job⟩ := task
  unfold artifactTasksAt
  -- Where there is no element, there are no tasks.
  cases model.elements[position]? with
  | none => simp
  | some found =>
    simp only [List.mem_map, Task.mk.injEq, Option.some.injEq]
    constructor
    · rintro ⟨_, called, rfl, rfl, rfl⟩
      exact ⟨rfl, rfl, called⟩
    · rintro ⟨rfl, rfl, called⟩
      exact ⟨job, called, rfl, rfl, rfl⟩

/-- The artifacts that are emitted are those that the elements of the sources call for. -/
theorem mem_artifactTasks_iff {task : Task} : task ∈ artifactTasks model options ↔
    model.elements[task.position]? = some task.element ∧ emitsArtifacts task.element ∧
      task.job ∈ artifactJobs options task.element := by
  -- The position of a task is that of its element, which calls for the job.
  simp only [artifactTasks_eq, List.mem_flatMap, Model.mem_positions_iff, mem_artifactTasksAt_iff]
  constructor
  · rintro ⟨_, ⟨picked, found, emits⟩, rfl, again, called⟩
    obtain rfl := Option.some.inj (found.symm.trans again)
    exact ⟨found, emits, called⟩
  · rintro ⟨found, emits, called⟩
    exact ⟨task.position, ⟨task.element, found, emits⟩, rfl, found, called⟩

/-- A job that an element calls for is that of its first marker of a kind. -/
theorem marker?_of_mem_artifactJobs {element : Element} {job : Job}
    (called : job ∈ artifactJobs options element) :
    match job with
    | .keepDescription => False
    | .emitRule marker => element.marker? .rule = some (.rule marker)
    | .emitNamedObject marker => element.marker? .namedObject = some (.namedObject marker) := by
  -- A job that the options skip is not called for, even if there is a marker.
  rcases List.mem_append.1 called with rule | object
  · split at rule
    · rename_i marker found
      split at rule
      · simp at rule
      · obtain rfl := List.mem_singleton.1 rule
        exact found
    · simp at rule
  · split at object
    · rename_i marker found
      split at object
      · simp at object
      · obtain rfl := List.mem_singleton.1 object
        exact found
    · simp at object

/-- An element that calls for an artifact is marked, and its job is not to keep a description. -/
theorem of_mem_artifactJobs {element : Element} {job : Job}
    (called : job ∈ artifactJobs options element) :
    element.markers ≠ [] ∧ job ≠ .keepDescription := by
  have marked {kind : MarkerKind} {marker : Marker} (found : element.marker? kind = some marker) :
      element.markers ≠ [] := by
    intro empty
    simp [Element.marker?, empty] at found
  -- Either kind of job comes from a marker that is found.
  have found := marker?_of_mem_artifactJobs called
  cases job with
  | keepDescription => exact found.elim
  | emitRule marker => exact ⟨marked found, by simp⟩
  | emitNamedObject marker => exact ⟨marked found, by simp⟩

/-- A description is kept for a marked element of the sources. -/
theorem of_mem_descriptionTasks {task : Task} (inside : task ∈ descriptionTasks model options) :
    model.elements[task.position]? = some task.element ∧ keepsDescription task.element ∧
      task.job = .keepDescription := by
  -- If descriptions are skipped, there are no such tasks.
  cases kept : options.skipDescriptions with
  | true => simp [descriptionTasks, kept] at inside
  | false => exact (mem_descriptionTasks_iff kept).1 inside

/-- The tasks that come first in a round keep descriptions. -/
theorem job_of_mem_descriptionTasks {task : Task} (inside : task ∈ descriptionTasks model options) :
    task.job = .keepDescription :=
  (of_mem_descriptionTasks inside).2.2

/-- The tasks that come behind them write artifacts. -/
theorem job_of_mem_artifactTasks {task : Task} (inside : task ∈ artifactTasks model options) :
    task.job ≠ .keepDescription :=
  (of_mem_artifactJobs (mem_artifactTasks_iff.1 inside).2.2).2

/-- In a later round, the elements that may get artifacts are those that were not compiled yet. -/
theorem positions_compiledUpTo (border : Nat) :
    (model.compiledUpTo border).positions emitsArtifacts =
      (List.range model.size).filter fun position =>
        border ≤ position && model.elements[position]?.any emitsArtifacts := by
  -- In front of the border there are outlines, which are not from the sources.
  rw [Model.positions, Model.compiledUpTo_size]
  congr 1
  funext position
  rw [Model.compiledUpTo_getElem?]
  rcases Nat.lt_or_ge position border with before | behind
  · -- What was compiled before comes from the classpath.
    have compiled (element : Element) : emitsArtifacts element.outline = false := rfl
    have not_behind : ¬ border ≤ position := by omega
    cases model.elements[position]? <;> simp [before, not_behind, compiled]
  · -- From the border on, the elements are those of the model itself.
    have not_before : ¬ position < border := by omega
    cases model.elements[position]? <;> simp [not_before, behind]

/-- The tasks on a model are those on what was compiled earlier, and behind them those that a
later round has. -/
theorem artifactTasks_compiledUpTo (border : Nat) : ∃ earlier,
    artifactTasks model options = earlier ++ artifactTasks (model.compiledUpTo border) options ∧
      ∀ task ∈ earlier, task.position < border := by
  -- The tasks on what was compiled earlier are those on the positions in front of the border.
  refine ⟨((List.range model.size).filter fun position =>
    position < border && model.elements[position]?.any emitsArtifacts).flatMap
      (artifactTasksAt model options), ?_, ?_⟩
  · rw [artifactTasks_eq, artifactTasks_eq, positions_compiledUpTo, Model.positions,
      filter_range_split _ border, List.flatMap_append]
    congr 1
    refine List.flatMap_congr fun position inside => ?_
    -- From the border on, the elements are those of the whole model.
    have behind : ¬ position < border := by
      have picked := (List.mem_filter.1 inside).2
      simp only [Bool.and_eq_true, decide_eq_true_eq] at picked
      omega
    rw [artifactTasksAt, artifactTasksAt, Model.compiledUpTo_getElem?]
    cases model.elements[position]? <;> simp [behind]
  · -- Each of the earlier tasks works on a position in front of the border.
    intro task inside
    obtain ⟨position, picked, inside⟩ := List.mem_flatMap.1 inside
    have before := (List.mem_filter.1 picked).2
    simp only [Bool.and_eq_true, decide_eq_true_eq] at before
    obtain ⟨rfl, _, _⟩ := mem_artifactTasksAt_iff.1 inside
    exact before.1

end Round

end RuleMetadata

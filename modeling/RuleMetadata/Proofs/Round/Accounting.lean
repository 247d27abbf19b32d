import RuleMetadata.Command.Run
import RuleMetadata.Files.Tree
import RuleMetadata.Proofs.Round.Delivery
import RuleMetadata.Proofs.Round.Halting

/-! How a report accounts for the work of a round: every artifact and every description that is due
ends as a success or as a failure, once and in order. -/

namespace RuleMetadata

/-- The kind of marker by which a type calls for an artifact of a kind. -/
def ArtifactKind.markerKind : ArtifactKind → MarkerKind
  | .rule => .rule
  | .namedObject => .namedObject

/-- Whether the options leave out the artifacts of a kind. -/
def BuildOptions.skips (options : BuildOptions) : ArtifactKind → Bool
  | .rule => options.skipRules
  | .namedObject => options.skipNamedObjects

/-- The name that a marker gives to the object of its type. -/
def Marker.objectName? : Marker → Option String
  | .rule marker => marker.nameOverride
  | .namedObject marker => marker.nameOverride
  -- The markers of members name no object.
  | .argument _ => none
  | .attribute _ => none

/-- The object name of a type as an artifact of a kind. -/
def Element.objectName (element : Element) (kind : ArtifactKind) : String :=
  ((element.marker? kind.markerKind).bind Marker.objectName?).getD element.simpleName

/-- Whether there is a description of an element to keep, and a key to keep it under. -/
def Element.isDocumented (element : Element) : Bool :=
  element.resourceKey?.isSome && element.liveText?.isSome

/-- A marker that is found by its kind is of that kind. -/
theorem Element.kind_of_marker? {element : Element} {kind : MarkerKind} {marker : Marker}
    (found : element.marker? kind = some marker) : marker.kind = kind := by
  simpa using List.find?_some found

namespace Model

/-- The elements at the positions of a condition are those that satisfy it, in order. -/
theorem filterMap_positions (model : Model) (condition : Element → Bool) :
    (model.positions condition).filterMap (model.elements[·]?) =
      model.elements.toList.filter condition := by
  -- The induction is on the elements; behind the first one, each position is one further.
  have listed (elements : List Element) :
      ((List.range elements.length).filter fun position =>
        elements[position]?.any condition).filterMap (elements[·]?) =
          elements.filter condition := by
    induction elements with
    | nil => rfl
    | cons first rest ih =>
      have behind : ((List.range rest.length).map Nat.succ |>.filter fun position =>
          (first :: rest)[position]?.any condition).filterMap ((first :: rest)[·]?) =
            rest.filter condition := by
        rw [List.filter_map, List.filterMap_map]
        exact ih
      rw [List.length_cons, List.range_succ_eq_map, List.filter_cons, List.filter_cons]
      by_cases holds : condition first <;> simp [holds, behind]
  simpa [positions, size] using listed model.elements.toList

end Model

/-- An object name that is accepted is the one that the marker gives, or else the simple name. -/
theorem Extraction.name_of_objectName {element : Element} {override : Option String}
    {name : String} (accepted : objectName element override = .ok name) :
    name = override.getD element.simpleName := by
  simp only [objectName] at accepted
  -- A name that is refused is not accepted.
  split at accepted
  · exact (Except.ok.inj accepted).symm
  · cases accepted

namespace Round

/-- The artifacts that are due in a round: for every top-level type of the sources, in the order of
the model, those of the kinds that it is marked for and that are not skipped, rules first. -/
def dueArtifacts (model : Model) (options : BuildOptions) : List (Element × ArtifactKind) :=
  -- One type may be due twice, as a rule first and then as a named object.
  (model.elements.toList.filter fun element =>
    element.origin = .source && element.owner.isNone).flatMap fun element =>
      ([ArtifactKind.rule, .namedObject].filter fun kind =>
        element.carries kind.markerKind && !options.skips kind).map fun kind => (element, kind)

/-- The elements whose descriptions are due in a round: the marked ones of the sources that have a
key and documentation that is not blank, in the order of the model. -/
def dueDescriptions (model : Model) (options : BuildOptions) : List Element :=
  if options.skipDescriptions then []
  -- Members count as well as types, unlike for artifacts.
  else model.elements.toList.filter fun element =>
    element.origin = .source && !element.markers.isEmpty && element.isDocumented

/-- Whether an outcome is one of an artifact that is due: an emission of its kind under its object
name, or a failure of its kind at its type. -/
def Answers (due : Element × ArtifactKind) : Except Failure Emission → Prop
  | .ok emission => emission.kind = due.2 ∧ emission.object = due.1.objectName due.2
  -- A failure may come before there is an object name, so the type is named instead.
  | .error failure => failure.kind = some due.2 ∧ failure.element = due.1.qualifiedName

/-- The emission of an outcome, if it is one. -/
def emission? : Except Failure Emission → Option Emission
  | .ok emission => some emission
  | .error _ => none

/-- The failure of an outcome, if it is one. -/
def failure? : Except Failure Emission → Option Failure
  | .ok _ => none
  | .error failure => some failure

/-- Whether a report accounts for the work of a round, by the descriptions that could not be saved
and by one outcome for each artifact that is due. -/
structure Accounts (model : Model) (options : BuildOptions) (report : Report)
    (unsaved : List (Element × Failure)) (outcomes : List (Except Failure Emission)) : Prop where
  emitted : report.emitted = outcomes.filterMap emission?
  /-- The descriptions that were not saved come first. -/
  failures : report.failures = unsaved.map (·.2) ++ outcomes.filterMap failure?
  answers : List.Forall₂ Answers (dueArtifacts model options) outcomes
  named (pair : Element × Failure) (inside : pair ∈ unsaved) :
    pair.2.kind = none ∧ pair.2.element = pair.1.qualifiedName
  inOrder : (unsaved.map (·.1)).Sublist (dueDescriptions model options)
  counted : unsaved.length + report.descriptionsSaved = (dueDescriptions model options).length

variable {model : Model} {options : BuildOptions}

/-! ### What is due -/

/-- The jobs of an element make the artifacts of its kinds. -/
theorem map_artifactJobs (element : Element) :
    (artifactJobs options element).map Job.artifactKind? =
      ([ArtifactKind.rule, .namedObject].filter fun kind =>
        element.carries kind.markerKind && !options.skips kind).map some := by
  -- A marker that is found by its kind is one of that kind, so each kind has one job or none.
  have rule : element.marker? .rule = none ∨ ∃ own, element.marker? .rule = some (.rule own) := by
    cases found : element.marker? .rule with
    | none => exact .inl rfl
    | some marker =>
      have kind := Element.kind_of_marker? found
      cases marker <;> simp_all [Marker.kind]
  have object : element.marker? .namedObject = none ∨
      ∃ own, element.marker? .namedObject = some (.namedObject own) := by
    cases found : element.marker? .namedObject with
    | none => exact .inl rfl
    | some marker =>
      have kind := Element.kind_of_marker? found
      cases marker <;> simp_all [Marker.kind]
  rcases rule with rule | ⟨own, rule⟩ <;> rcases object with object | ⟨other, object⟩ <;>
    cases no_rules : options.skipRules <;> cases no_objects : options.skipNamedObjects <;>
    simp [artifactJobs, rule, object, no_rules, no_objects, Element.carries, BuildOptions.skips,
      ArtifactKind.markerKind, Job.artifactKind?]

/-- The tasks that write artifacts are those that are due, in the same order. -/
theorem map_artifactTasks :
    (artifactTasks model options).map (fun task => (task.element, task.job.artifactKind?)) =
      (dueArtifacts model options).map fun due => (due.1, some due.2) := by
  have each (position : Nat) :
      (artifactTasksAt model options position).map
          (fun task => (task.element, task.job.artifactKind?)) =
        model.elements[position]?.toList.flatMap fun element =>
          ((artifactJobs options element).map Job.artifactKind?).map (element, ·) := by
    unfold artifactTasksAt
    cases model.elements[position]? <;> simp
  -- Both go through the same elements, with the same kinds for each.
  have elements := model.filterMap_positions emitsArtifacts
  rw [artifactTasks_eq, List.map_flatMap, dueArtifacts, List.map_flatMap]
  simp only [each, map_artifactJobs]
  rw [← List.flatMap_assoc, ← List.filterMap_eq_flatMap_toList, elements]
  simp only [List.map_map]
  rfl

/-- The elements whose descriptions are tried are marked, and those with documentation are due. -/
theorem filter_descriptionTasks :
    ((descriptionTasks model options).map (·.element)).filter Element.isDocumented =
      dueDescriptions model options := by
  unfold descriptionTasks dueDescriptions
  split
  · rfl
  · -- Each task works on the element of its position.
    rw [List.map_filterMap]
    have each : (fun position => (model.elements[position]?.map fun element =>
        (⟨position, element, .keepDescription⟩ : Task)).map (·.element)) =
          (model.elements[·]?) := by
      funext position
      cases model.elements[position]? <;> rfl
    rw [each, model.filterMap_positions, List.filter_filter]
    congr 1
    funext element
    simp [keepsDescription, Bool.and_comm]

/-! ### One task -/

variable {σ : Type} (round : Round (StateM σ))

/-- A task that keeps a description saves it if there is one to keep, and fails only then. -/
theorem perform_description {task : Task} (job : task.job = .keepDescription) (state : σ) :
    match ((round.perform task).run state).1 with
    | .ok result => result = .description task.element.isDocumented
    | .error _ => task.element.isDocumented := by
  simp only [perform, job, DescriptionCache.save, Element.isDocumented]
  cases keyed : task.element.resourceKey? with
  | none => rfl
  | some key =>
    cases live : task.element.liveText? with
    | none => rfl
    | some text =>
      -- With a key and a text, all depends on whether the store takes it.
      dsimp only
      rcases ended : (round.descriptions.output.write key text).run state with
        ⟨cause | _, next⟩ <;> rw [bind_assoc, run_bind_of_ended ended] <;> rfl

/-- An artifact is reported under the object name that its type has by its marker. -/
theorem answers_of_assemble {task : Task}
    (called : task.job ∈ artifactJobs round.options task.element) {state : σ}
    {artifact : Artifact} {warnings : List Warning}
    (assembled : ((round.assemble task).run state).1 = some (.ok (artifact, warnings))) :
    task.job.artifactKind? = some artifact.kind ∧
      artifact.name = task.element.objectName artifact.kind := by
  -- The marker of the job is the first of its kind, and has the name if it gives one.
  rcases Task.assemble_cases assembled with
    ⟨marker, rule, job, rfl, made⟩ | ⟨marker, object, job, rfl, made⟩ <;> rw [job] at called
  · have first : task.element.marker? .rule = some (.rule marker) :=
      marker?_of_mem_artifactJobs called
    have named := Extraction.name_of_objectName (Extraction.objectName_of_rule made)
    simp [job, Job.artifactKind?, Artifact.kind, Artifact.name, Element.objectName,
      ArtifactKind.markerKind, first, Marker.objectName?, named]
  · have first : task.element.marker? .namedObject = some (.namedObject marker) :=
      marker?_of_mem_artifactJobs called
    have named := Extraction.name_of_objectName (Extraction.objectName_of_namedObject made)
    simp [job, Job.artifactKind?, Artifact.kind, Artifact.name, Element.objectName,
      ArtifactKind.markerKind, first, Marker.objectName?, named]

/-- A task that writes an artifact ends with an outcome of what is due. -/
theorem exists_outcome {task : Task}
    (inside : task ∈ artifactTasks round.model round.options) (state : σ) :
    ∃ kind, task.job.artifactKind? = some kind ∧
      match ((round.perform task).run state).1 with
      | .ok result => ∃ emission, result = .artifact emission ∧
        Answers (task.element, kind) (.ok emission)
      | .error error => Answers (task.element, kind) (.error (failure task error)) := by
  have called := (mem_artifactTasks_iff.1 inside).2.2
  have job := job_of_mem_artifactTasks inside
  obtain ⟨kind, made⟩ : ∃ kind, task.job.artifactKind? = some kind := by
    cases same : task.job with
    | keepDescription => exact absurd same job
    | emitRule marker => exact ⟨.rule, rfl⟩
    | emitNamedObject marker => exact ⟨.namedObject, rfl⟩
  refine ⟨kind, made, ?_⟩
  rcases ended : (round.perform task).run state with ⟨error | result, next⟩
  · exact ⟨made, rfl⟩
  · -- What is reported was emitted from what the task assembled.
    obtain ⟨assembled, same⟩ := Option.isSome_iff_exists.1 (Task.isSome_assemble_iff.2 job)
    have assemble_run : (round.assemble task).run state =
        (some assembled, ((round.assemble task).run state).2) := Prod.ext same rfl
    have completed := (round.perform_of_assembled assemble_run).symm.trans ended
    cases assembled with
    | error invalid => cases completed
    | ok pair =>
      obtain ⟨artifact, warnings⟩ := pair
      obtain ⟨emission, rfl, emitted⟩ := round.exists_emission_of_complete completed
      obtain ⟨own, named⟩ := round.answers_of_assemble called same
      obtain rfl : kind = artifact.kind := Option.some.inj (made.symm.trans own)
      rw [round.of_emit_eq_ok emitted]
      exact ⟨_, rfl, rfl, named⟩

/-! ### A run -/

/-- Keeping descriptions ends with a report in which every description that is due is saved or
stands among the failures, in order. -/
theorem performAll_descriptions (tasks : List Task)
    (keep : ∀ task ∈ tasks, task.job = .keepDescription) (report : Report) (state : σ) :
    ∃ last final, ∃ unsaved : List (Element × Failure),
      (round.performAll false report tasks).run state = (.ok last, final) ∧
      last.emitted = report.emitted ∧
      last.failures = report.failures ++ unsaved.map (·.2) ∧
      (∀ pair ∈ unsaved, pair.2.kind = none ∧ pair.2.element = pair.1.qualifiedName) ∧
      (unsaved.map (·.1)).Sublist ((tasks.map (·.element)).filter Element.isDocumented) ∧
      unsaved.length + last.descriptionsSaved = report.descriptionsSaved +
        ((tasks.map (·.element)).filter Element.isDocumented).length := by
  -- The induction is on the tasks; each adds one to the failures or to the number of those saved,
  -- unless there is no description to keep.
  induction tasks generalizing report state with
  | nil => exact ⟨report, state, [], rfl, rfl, by simp, by simp, by simp, by simp⟩
  | cons task rest ih =>
    obtain ⟨first, others⟩ := List.forall_mem_cons.1 keep
    have step := round.perform_description first state
    rw [performAll_cons_run]
    rcases performed : (round.perform task).run state with ⟨error | result, next⟩ <;>
      rw [performed] at step <;> dsimp only at step ⊢
    · obtain ⟨last, final, unsaved, ended, emitted, failures, named, among, count⟩ :=
        ih others (report.addFailure (failure task error)) next
      refine ⟨last, final, (task.element, failure task error) :: unsaved, ended, emitted, ?_, ?_,
        ?_, ?_⟩
      · simpa [Report.addFailure] using failures
      · exact List.forall_mem_cons.2 ⟨⟨by simp [failure, first, Job.artifactKind?], rfl⟩, named⟩
      · simpa [step] using among
      · simp only [Report.addFailure] at count
        simp only [List.map_cons, List.filter_cons, step, if_true, List.length_cons]
        omega
    · subst step
      obtain ⟨last, final, unsaved, ended, emitted, failures, named, among, count⟩ :=
        ih others (report.add (.description task.element.isDocumented)) next
      -- A description is counted if there was one.
      cases due : task.element.isDocumented <;> rw [due] at emitted failures count
      · exact ⟨last, final, unsaved, due ▸ ended, emitted, failures, named,
          by simpa [due] using among, by simpa [due, Report.add] using count⟩
      · refine ⟨last, final, unsaved, due ▸ ended, emitted, failures, named, ?_, ?_⟩
        · simpa [due] using among.cons task.element
        · simp only [Report.add] at count
          simp only [List.map_cons, List.filter_cons, due, if_true, List.length_cons]
          omega

/-- Writing artifacts ends with a report in which every artifact that is due has its outcome, in
order. -/
theorem performAll_artifacts (tasks : List Task)
    (among : ∀ task ∈ tasks, task ∈ artifactTasks round.model round.options) (report : Report)
    (state : σ) :
    ∃ last final outcomes, (round.performAll false report tasks).run state = (.ok last, final) ∧
      List.Forall₂ (fun task outcome =>
        ∃ kind, task.job.artifactKind? = some kind ∧ Answers (task.element, kind) outcome)
          tasks outcomes ∧
      last.emitted = report.emitted ++ outcomes.filterMap emission? ∧
      last.failures = report.failures ++ outcomes.filterMap failure? ∧
      last.descriptionsSaved = report.descriptionsSaved := by
  -- The induction is on the tasks: each adds its outcome to the report, and the others go on with
  -- that.
  induction tasks generalizing report state with
  | nil => exact ⟨report, state, [], rfl, .nil, by simp, by simp, rfl⟩
  | cons task rest ih =>
    obtain ⟨first, others⟩ := List.forall_mem_cons.1 among
    obtain ⟨kind, made, step⟩ := round.exists_outcome first state
    rw [performAll_cons_run]
    rcases performed : (round.perform task).run state with ⟨error | result, next⟩ <;>
      rw [performed] at step <;> dsimp only at step ⊢
    · obtain ⟨last, final, outcomes, ended, answered, emitted, failures, saved⟩ :=
        ih others (report.addFailure (failure task error)) next
      refine ⟨last, final, .error (failure task error) :: outcomes, ended,
        .cons ⟨kind, made, step⟩ answered, ?_, ?_, saved⟩
      · simpa [List.filterMap_cons, emission?, Report.addFailure] using emitted
      · simpa [failure?] using failures
    · obtain ⟨emission, rfl, answers⟩ := step
      obtain ⟨last, final, outcomes, ended, answered, emitted, failures, saved⟩ :=
        ih others (report.add (.artifact emission)) next
      refine ⟨last, final, .ok emission :: outcomes, ended, .cons ⟨kind, made, answers⟩ answered,
        ?_, ?_, saved⟩
      · simpa [List.filterMap_cons, emission?, Report.add] using emitted
      · simpa [List.filterMap_cons, failure?] using failures

/-- A round that records its failures ends with a report that accounts for all of its work, whatever
the stores and the files do. -/
theorem run_accounts (goes_on : round.options.failFast = false) (state : σ) :
    ∃ report final unsaved outcomes, round.run.run state = (.ok report, final) ∧
      Accounts round.model round.options report unsaved outcomes := by
  -- Descriptions come first, and add nothing but failures and the number of those saved.
  obtain ⟨kept, between, unsaved, described, none_emitted, unsaved_failures, named, in_order,
    counted⟩ := round.performAll_descriptions (descriptionTasks round.model round.options)
      (fun _ inside => job_of_mem_descriptionTasks inside) {} state
  obtain ⟨report, final, outcomes, ended, answered, emitted, failures, saved⟩ :=
    round.performAll_artifacts (artifactTasks round.model round.options)
      (fun _ inside => inside) kept between
  rw [filter_descriptionTasks] at in_order counted
  have performed : round.run.run state = (.ok report, final) := by
    rw [run, goes_on, tasks, performAll_append]
    exact (run_bind_of_ended described).trans ended
  -- The tasks that write artifacts are those that are due, one by one.
  have answers : List.Forall₂ (fun due outcome => ∃ kind, due.2 = some kind ∧
      Answers (due.1, kind) outcome) ((dueArtifacts round.model round.options).map
        fun due => (due.1, some due.2)) outcomes := by
    rw [← map_artifactTasks, List.forall₂_map_left_iff]
    exact answered
  refine ⟨report, final, unsaved, outcomes, performed, by simp [emitted, none_emitted],
    by simp [failures, unsaved_failures], ?_, named, in_order, by simpa [saved] using counted⟩
  refine (List.forall₂_map_left_iff.1 answers).imp ?_
  rintro ⟨element, kind⟩ outcome ⟨_, same, answer⟩
  obtain rfl := Option.some.inj same
  exact answer

/-- Two documented types: one that is marked in both ways, and a rule with a name that would lead
out of its directory. -/
def assorted : List TypeDeclaration :=
  [{ name := "p.Both", markers := [.namedObject {}, .rule {}], doc := some "Text." },
    { name := "p.Out", markers := [.rule { value := some "../out" }], doc := some " " }]

/-- The model of the two types, beside a rule from the classpath. -/
def assortedModel : Model :=
  (Model.build assorted [{ name := "q.Rule", markers := [.rule {}] }]).toOption.getD ⟨#[]⟩

/-- The round on the two types has three artifacts and one description to account for. -/
theorem run_accounts_assorted :
    ({} : BuildOptions).failFast = false ∧
      (dueArtifacts assortedModel {}).map (fun due => (due.1.qualifiedName, due.2)) =
        [("p.Both", .rule), ("p.Both", .namedObject), ("p.Out", .rule)] ∧
      (dueDescriptions assortedModel {}).map (·.qualifiedName) = ["p.Both"] ∧
      ∃ report final unsaved outcomes,
        (Command.roundInFiles FileTree.system assortedModel {}).run.run (.empty ["home"]) =
          (.ok report, final) ∧
        Accounts assortedModel {} report unsaved outcomes :=
  -- The round goes on behind failures by default, which is all that is asked of it.
  ⟨rfl, by decide +kernel, by decide +kernel,
    run_accounts (Command.roundInFiles FileTree.system assortedModel {}) rfl (.empty ["home"])⟩

end Round

end RuleMetadata

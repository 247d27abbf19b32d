import RuleMetadata.Proofs.Artifact.Assembly
import RuleMetadata.Proofs.Round.Tasks
import RuleMetadata.Proofs.Round.Turns
import RuleMetadata.Proofs.Round.Writing

/-! The artifacts that a round delivers: what was assembled, for which task, and where it went. -/

namespace RuleMetadata

/-- What a task assembles has a plain name and distinct attributes, and is of the kind that the
task asks for; a rule names the type that the task works on. -/
theorem Task.of_assemble_eq_some {σ : Type} {task : Task} {options : BuildOptions}
    {extraction : Extraction (StateM σ)} {state : σ} {artifact : Artifact}
    {warnings : List Warning} (assembled : ((task.assemble options extraction).run state).1 =
      some (.ok (artifact, warnings))) :
    Text.isPlainSegment artifact.name ∧ artifact.attributes.IsDistinct ∧
      (∀ rule, artifact = .rule rule → rule.attributes.get? options.implementationAttribute =
        some (.single task.element.qualifiedName)) ∧
      task.job.artifactKind? = some artifact.kind := by
  -- The kind of the artifact is that of the task, which decides how it is assembled.
  rcases Task.assemble_cases assembled with
    ⟨marker, rule, job, rfl, made⟩ | ⟨marker, object, job, rfl, made⟩
  · obtain ⟨plain, distinct, implementation⟩ := Extraction.of_rule_eq_ok made
    refine ⟨plain, distinct, ?_, by rw [job]; rfl⟩
    -- The artifact is the rule that was made, and no other rule.
    rintro other same
    obtain rfl := Artifact.rule.inj same
    exact implementation
  · obtain ⟨plain, distinct⟩ := Extraction.of_namedObject_eq_ok made
    refine ⟨plain, distinct, fun rule same => ?_, by rw [job]; rfl⟩
    cases same

/-- An artifact that was written: the task that it was assembled for, and how it is reported. -/
structure Delivery where
  task : Task
  artifact : Artifact
  emission : Emission
  deriving DecidableEq, Repr

/-- Whether a delivery is reported as what it is, at the path that its name has in the directory of
its kind, and whether a rule names the type that it was assembled for. -/
structure Delivery.IsFaithful (options : BuildOptions) (format : DocumentFormat)
    (delivery : Delivery) : Prop where
  kind : delivery.emission.kind = delivery.artifact.kind
  object : delivery.emission.object = delivery.artifact.name
  path : delivery.emission.path =
    format.path (Round.directory options delivery.artifact.kind) delivery.artifact.name
  -- The name cannot lead out of the directory.
  plain : Text.isPlainSegment delivery.artifact.name
  distinct : delivery.artifact.attributes.IsDistinct
  implementation (rule : RuleArtifact) (isRule : delivery.artifact = .rule rule) :
    rule.attributes.get? options.implementationAttribute =
      some (.single delivery.task.element.qualifiedName)

namespace Round

variable {σ : Type} (round : Round (StateM σ))

/-- What a turn delivers, if it assembles an artifact and can write it. -/
def delivery? (turn : Task × σ) : Option Delivery :=
  match ((round.assemble turn.1).run turn.2).1, ((round.perform turn.1).run turn.2).1 with
  | some (.ok (artifact, _)), .ok (.artifact emission) => some ⟨turn.1, artifact, emission⟩
  -- A task that keeps a description, or that fails, delivers nothing.
  | _, _ => none

/-- What some tasks deliver from a state on, in order. -/
def deliveriesOf (tasks : List Task) (state : σ) : List Delivery :=
  (round.turns tasks state).filterMap round.delivery?

/-- What a round delivers from a state on, in order. -/
def deliveries (state : σ) : List Delivery :=
  round.deliveriesOf (tasks round.model round.options) state

/-- A task that keeps a description delivers nothing. -/
theorem delivery?_of_keepDescription {task : Task} (job : task.job = .keepDescription)
    (state : σ) : round.delivery? (task, state) = none := by
  -- Nothing is assembled for such a task.
  have silent : ((round.assemble task).run state).1 = none := by
    simp only [assemble, Task.assemble, job]
    rfl
  rw [delivery?, silent]

/-- A task that fails delivers nothing. -/
theorem delivery?_of_error {task : Task} {state : σ} {error : EmitError} {next : σ}
    (failed : (round.perform task).run state = (.error error, next)) :
    round.delivery? (task, state) = none := by
  -- A delivery needs an emission that is reported.
  simp only [delivery?, failed]
  split
  · rename_i impossible
    cases impossible
  · rfl

/-- A task that keeps a description reports no artifact. -/
theorem exists_saved_of_perform {task : Task} (job : task.job = .keepDescription) {state next : σ}
    {result : TaskResult} (ended : (round.perform task).run state = (.ok result, next)) :
    ∃ saved, result = .description saved := by
  -- The task ends with what saving the description has ended with.
  simp only [perform, job] at ended
  rcases kept : (round.descriptions.save task.element).run state with ⟨error | saved, next⟩ <;>
    rw [run_bind_of_ended kept] at ended <;> cases ended
  exact ⟨saved, rfl⟩

/-- A task that ends with an artifact and succeeds reports what was emitted. -/
theorem exists_emission_of_complete {artifact : Artifact} {warnings : List Warning}
    {state next : σ} {result : TaskResult}
    (ended : (round.complete (.ok (artifact, warnings))).run state = (.ok result, next)) :
    ∃ emission, result = .artifact emission ∧
      ((round.emit artifact warnings).run state).1 = .ok emission := by
  -- The task ends with what emitting the artifact has ended with.
  simp only [complete] at ended
  rcases emitted : (round.emit artifact warnings).run state with ⟨error | emission, next⟩ <;>
    rw [run_bind_of_ended emitted] at ended <;> cases ended
  exact ⟨emission, rfl, rfl⟩

/-- A task that succeeds delivers the artifact that it reports, if it reports any. -/
theorem delivery?_of_ok {task : Task} {state : σ} {result : TaskResult} {next : σ}
    (ended : (round.perform task).run state = (.ok result, next)) :
    (round.delivery? (task, state)).map (·.emission) =
      match result with
      | .description _ => none
      | .artifact emission => some emission := by
  by_cases job : task.job = .keepDescription
  · obtain ⟨saved, rfl⟩ := exists_saved_of_perform round job ended
    rw [delivery?_of_keepDescription round job]
    rfl
  · -- Any other task ends with what it has assembled, so it reports what it could write.
    obtain ⟨assembled, made⟩ := Option.isSome_iff_exists.1 (Task.isSome_assemble_iff.2 job)
    have assemble_run : (round.assemble task).run state =
        (some assembled, ((round.assemble task).run state).2) := Prod.ext made rfl
    have completed := (perform_of_assembled round assemble_run).symm.trans ended
    cases assembled with
    | error invalid => cases completed
    | ok pair =>
      obtain ⟨artifact, warnings⟩ := pair
      obtain ⟨emission, rfl, _⟩ := exists_emission_of_complete round completed
      have assembled : ((round.assemble task).run state).1 = some (.ok (artifact, warnings)) := made
      simp [delivery?, assembled, ended]

/-- The first task delivers before the others, which go on from where it ends. -/
theorem deliveriesOf_cons (task : Task) (rest : List Task) (state : σ) :
    round.deliveriesOf (task :: rest) state =
      (round.delivery? (task, state)).toList ++
        match (round.perform task).run state with
        | (.ok _, next) => round.deliveriesOf rest next
        | (.error _, next) =>
          if round.options.failFast then [] else round.deliveriesOf rest next := by
  -- There are as many turns behind the first one as the tasks go on.
  rw [deliveriesOf, turns, List.filterMap_cons]
  rcases (round.perform task).run state with ⟨error | result, next⟩
  · cases round.delivery? (task, state) <;> cases round.options.failFast <;> simp [deliveriesOf]
  · cases round.delivery? (task, state) <;> simp [deliveriesOf]

/-- What a run adds to the emissions of a report is what its tasks deliver. -/
theorem emitted_of_performAll {tasks : List Task} {report final_report : Report} {state final : σ}
    (ended : (round.performAll round.options.failFast report tasks).run state =
      (.ok final_report, final)) :
    final_report.emitted =
      report.emitted ++ (round.deliveriesOf tasks state).map (·.emission) := by
  -- The first task adds its own delivery, and the others add theirs behind it.
  induction tasks generalizing report state with
  | nil =>
    cases ended
    simp [deliveriesOf, turns]
  | cons task rest ih =>
    rw [performAll_cons_run] at ended
    rw [deliveriesOf_cons]
    rcases performed : (round.perform task).run state with ⟨error | result, next⟩ <;>
      rw [performed] at ended <;> dsimp only at ended ⊢
    · rw [delivery?_of_error round performed]
      -- A run that ends with a report goes on behind a failure.
      cases halts : round.options.failFast with
      | true =>
        simp only [halts, if_true] at ended
        cases ended
      | false =>
        simp only [halts, Bool.false_eq_true, if_false] at ended
        rw [← halts] at ended
        simpa [Report.addFailure] using ih ended
    · have reported := delivery?_of_ok round performed
      rw [ih ended]
      -- A description is only counted, while an artifact joins the emissions.
      cases result with
      | description saved =>
        rw [Option.map_eq_none_iff] at reported
        cases saved <;> simp [Report.add, reported]
      | artifact emission =>
        obtain ⟨delivery, delivered, rfl⟩ := Option.map_eq_some_iff.1 reported
        simp [Report.add, delivered]

/-- Keeping descriptions comes to an end without a delivery, and the other tasks go on from
there. -/
theorem exists_performAll_of_descriptions {front back : List Task} {report final_report : Report}
    {state final : σ} (keep : ∀ task ∈ front, task.job = .keepDescription)
    (ended : (round.performAll round.options.failFast report (front ++ back)).run state =
      (.ok final_report, final)) :
    ∃ middle between, (round.performAll round.options.failFast middle back).run between =
        (.ok final_report, final) ∧
      round.deliveriesOf (front ++ back) state = round.deliveriesOf back between := by
  -- The induction passes the descriptions one by one, whether each of them is kept or fails.
  induction front generalizing report state with
  | nil => exact ⟨report, state, ended, rfl⟩
  | cons task rest ih =>
    obtain ⟨keeps, others⟩ := List.forall_mem_cons.1 keep
    rw [List.cons_append, performAll_cons_run] at ended
    rw [List.cons_append, deliveriesOf_cons, delivery?_of_keepDescription round keeps]
    rcases performed : (round.perform task).run state with ⟨error | result, next⟩ <;>
      rw [performed] at ended <;> dsimp only at ended ⊢
    -- The run has ended with a report, so no failure has ended it.
    · cases halts : round.options.failFast with
      | true =>
        simp only [halts, if_true] at ended
        cases ended
      | false =>
        simp only [halts, Bool.false_eq_true, if_false] at ended
        rw [← halts] at ended
        simpa [halts] using ih others ended
    · simpa using ih others ended

/-- Deliveries come in the order of the tasks, and each task has one at most. -/
theorem deliveriesOf_sublist (tasks : List Task) (state : σ) :
    ((round.deliveriesOf tasks state).map (·.task)).Sublist tasks := by
  -- Every turn adds its own task or nothing.
  induction tasks generalizing state with
  | nil => exact .slnil
  | cons task rest ih =>
    have own : ((round.delivery? (task, state)).toList.map (·.task)).Sublist [task] := by
      simp only [delivery?]
      split <;> simp
    rw [deliveriesOf_cons, List.map_append]
    refine own.append ?_
    rcases (round.perform task).run state with ⟨error | result, next⟩
    · -- There is nothing more behind a failure that ends the round.
      dsimp only
      split
      · exact List.nil_sublist rest
      · exact ih next
    · exact ih next

/-- A delivery is what its task assembled, and it was emitted. -/
theorem of_delivery?_eq_some {task : Task} {state : σ} {delivery : Delivery}
    (delivered : round.delivery? (task, state) = some delivery) :
    delivery.task = task ∧ ∃ warnings between,
      (round.assemble task).run state = (some (.ok (delivery.artifact, warnings)), between) ∧
      ((round.emit delivery.artifact warnings).run between).1 = .ok delivery.emission := by
  -- The task ends with what it has assembled, so that what it reports was emitted from that.
  simp only [delivery?] at delivered
  split at delivered
  · rename_i artifact warnings emission assembled performed
    obtain rfl := Option.some.inj delivered
    have made : (round.assemble task).run state =
        (some (.ok (artifact, warnings)), ((round.assemble task).run state).2) :=
      Prod.ext assembled rfl
    refine ⟨rfl, warnings, _, made, ?_⟩
    have completed : (round.complete (.ok (artifact, warnings))).run
        ((round.assemble task).run state).2 =
        (.ok (.artifact emission), ((round.perform task).run state).2) :=
      (perform_of_assembled round made).symm.trans (Prod.ext performed rfl)
    obtain ⟨reported, same, written⟩ := exists_emission_of_complete round completed
    rw [written, TaskResult.artifact.inj same]
  · cases delivered

/-- An artifact that is emitted is reported under its own name, at the path of that name. -/
theorem of_emit_eq_ok {artifact : Artifact} {warnings : List Warning} {state : σ}
    {emission : Emission}
    (emitted : ((round.emit artifact warnings).run state).1 = .ok emission) :
    emission = {
      kind := artifact.kind, object := artifact.name, warnings
      path := round.format.path (directory round.options artifact.kind) artifact.name } := by
  -- What is reported is the path at which the artifact was written.
  rcases written : (writeArtifact round.system round.format artifact
    (directory round.options artifact.kind)).run state with ⟨error | path, next⟩ <;>
    rw [emit, run_bind_of_ended written] at emitted <;> cases emitted
  rw [FileSystem.path_of_writeArtifact _ written]

/-- A delivery is what was assembled for its own task, in the turn of that task. -/
theorem exists_turn_of_mem_deliveriesOf {tasks : List Task} {state : σ} {delivery : Delivery}
    (delivered : delivery ∈ round.deliveriesOf tasks state) :
    ∃ turn, (delivery.task, turn) ∈ round.turns tasks state ∧
      ((round.assemble delivery.task).run turn).1 =
        some (.ok (delivery.artifact, delivery.emission.warnings)) := by
  -- The turn of the task is the one in which it was delivered.
  obtain ⟨⟨task, turn⟩, inside, made⟩ := List.mem_filterMap.1 delivered
  obtain ⟨rfl, warnings, between, assembled, emitted⟩ := round.of_delivery?_eq_some made
  refine ⟨turn, inside, ?_⟩
  rw [assembled, round.of_emit_eq_ok emitted]

/-- Every delivery of a round is faithful, and comes from one of the tasks that write artifacts. -/
theorem isFaithful_of_mem_deliveriesOf {tasks : List Task} {state : σ} {delivery : Delivery}
    (delivered : delivery ∈ round.deliveriesOf tasks state) :
    delivery.IsFaithful round.options round.format ∧ delivery.task.job ≠ .keepDescription := by
  -- What is reported follows from the emission, and the rest from the assembly.
  obtain ⟨⟨task, turn⟩, -, made⟩ := List.mem_filterMap.1 delivered
  obtain ⟨rfl, warnings, between, assembled, emitted⟩ := round.of_delivery?_eq_some made
  have reported := round.of_emit_eq_ok emitted
  obtain ⟨plain, distinct, implementation, kind⟩ :=
    Task.of_assemble_eq_some (congrArg Prod.fst assembled)
  refine ⟨⟨by rw [reported], by rw [reported], by rw [reported], plain, distinct, implementation⟩,
    fun keeps => ?_⟩
  -- A task that keeps a description makes no kind of artifact.
  simp [keeps, Job.artifactKind?] at kind

/-- The deliveries of a round come from its tasks that write artifacts, in their order. -/
theorem deliveries_sublist (state : σ) : ((round.deliveries state).map (·.task)).Sublist
    (artifactTasks round.model round.options) := by
  -- Without the descriptions, the tasks of a round are those that write artifacts.
  have among := (round.deliveriesOf_sublist (tasks round.model round.options) state).filter
    fun task => task.job ≠ .keepDescription
  -- None of the deliveries is lost by leaving the descriptions out.
  have delivered : ((round.deliveries state).map (·.task)).filter
      (fun task => task.job ≠ .keepDescription) = (round.deliveries state).map (·.task) := by
    refine List.filter_eq_self.2 fun task inside => ?_
    obtain ⟨delivery, made, rfl⟩ := List.mem_map.1 inside
    simpa using (round.isFaithful_of_mem_deliveriesOf made).2
  -- The tasks in front of them only keep descriptions.
  have keep : (descriptionTasks round.model round.options).filter
      (fun task => task.job ≠ .keepDescription) = [] :=
    List.filter_eq_nil_iff.2 fun task inside => by simp [job_of_mem_descriptionTasks inside]
  have write : (artifactTasks round.model round.options).filter
      (fun task => task.job ≠ .keepDescription) = artifactTasks round.model round.options :=
    List.filter_eq_self.2 fun task inside => by simpa using job_of_mem_artifactTasks inside
  rw [tasks, List.filter_append, keep, write, List.nil_append] at among
  rwa [← delivered]

end Round

end RuleMetadata

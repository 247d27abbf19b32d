import RuleMetadata.Proofs.Artifact.Assembly
import RuleMetadata.Round.Run

/-! The turns of a round: the states in which its tasks are carried out, and what they assemble. -/

namespace RuleMetadata

/-- What a task makes of the type that it works on: an artifact with its warnings, or the name that
cannot be used. Keeping a description makes none. -/
def Task.assemble {m : Type → Type} [Monad m] (task : Task) (options : BuildOptions)
    (extraction : Extraction m) :
    m (Option (Except InvalidObjectName (Artifact × List Warning))) := do
  match task.job with
  | .keepDescription => return none
  | .emitRule marker =>
    let made ←
      extraction.rule options.implementationAttribute task.position task.element marker
    return some (made.map fun (artifact, warnings) => (.rule artifact, warnings))
  | .emitNamedObject marker =>
    let made ← extraction.namedObject task.position task.element marker
    -- Nothing about a named object is a reason for a warning.
    return some (made.map fun artifact => (.namedObject artifact, []))

section Assembly

variable {σ : Type} {task : Task} {options : BuildOptions} {extraction : Extraction (StateM σ)}
  {state : σ}

/-- Every task but that of keeping a description makes something of its type. -/
theorem Task.isSome_assemble_iff :
    ((task.assemble options extraction).run state).1.isSome ↔ task.job ≠ .keepDescription := by
  -- Which of the two an artifact or a refusal is does not matter here.
  obtain ⟨position, element, job⟩ := task
  cases job with
  | keepDescription => exact iff_of_false Bool.false_ne_true (fun other => other rfl)
  | emitRule marker =>
    exact iff_of_true rfl (fun same => by cases same)
  | emitNamedObject marker =>
    exact iff_of_true rfl (fun same => by cases same)

/-- What a task makes of its type is the rule or the named object that its marker calls for. -/
theorem Task.assemble_cases {artifact : Artifact} {warnings : List Warning}
    (assembled : ((task.assemble options extraction).run state).1 =
      some (.ok (artifact, warnings))) :
    (∃ marker rule, task.job = .emitRule marker ∧ artifact = .rule rule ∧
      ((extraction.rule options.implementationAttribute task.position task.element
        marker).run state).1 = .ok (rule, warnings)) ∨
    (∃ marker object, task.job = .emitNamedObject marker ∧ artifact = .namedObject object ∧
      ((extraction.namedObject task.position task.element marker).run state).1 = .ok object) := by
  obtain ⟨position, element, job⟩ := task
  -- Each job assembles one kind of artifact, and keeping a description none.
  cases job with
  | keepDescription => cases assembled
  | emitRule marker =>
    rcases made : (extraction.rule options.implementationAttribute position element marker).run
      state with ⟨invalid | ⟨rule, noted⟩, next⟩ <;>
      simp only [Task.assemble, run_bind_of_ended made] at assembled <;> cases assembled
    exact .inl ⟨marker, rule, rfl, rfl, congrArg Prod.fst made⟩
  | emitNamedObject marker =>
    rcases made : (extraction.namedObject position element marker).run state with
      ⟨invalid | object, next⟩ <;>
      simp only [Task.assemble, run_bind_of_ended made] at assembled <;> cases assembled
    exact .inr ⟨marker, object, rfl, rfl, congrArg Prod.fst made⟩

/-- Assembling only reads if looking up descriptions does. -/
theorem Task.readsAlike_assemble {one other : σ}
    (reads : ∀ position, ReadsAlike (extraction.describe position) one other) :
    ReadsAlike (task.assemble options extraction) one other := by
  -- A signature looks up one description after the other, and the own one comes last.
  have signature (root : Nat) : ReadsAlike
      (extraction.model.signature extraction.containers extraction.describe root) one other :=
    .bind (.bind (readsAlike_mapM fun position _ => reads position) fun _ => readsAlike_pure _)
      fun _ => readsAlike_pure _
  obtain ⟨position, element, job⟩ := task
  cases job with
  | keepDescription => exact readsAlike_pure _
  | emitRule marker =>
    refine .bind ?_ fun _ => readsAlike_pure _
    unfold Extraction.rule
    -- Nothing is looked up for a name that cannot be used.
    split
    · exact readsAlike_pure _
    · exact .bind (signature position) fun _ => .bind (reads position) fun _ => readsAlike_pure _
  | emitNamedObject marker =>
    refine .bind ?_ fun _ => readsAlike_pure _
    unfold Extraction.namedObject
    split
    · exact readsAlike_pure _
    · exact .bind (reads position) fun _ => readsAlike_pure _

/-- What is assembled is determined by the texts that are found, and the state is left alone. -/
theorem Task.assemble_run {texts : Descriptions}
    (shows : extraction.Shows texts task.position state) :
    (task.assemble options extraction).run state =
      (task.assemble options (extraction.withTexts texts), state) := by
  obtain ⟨position, element, job⟩ := task
  -- Each job reads what it assembles from, and nothing else.
  cases job with
  | keepDescription => rfl
  | emitRule marker =>
    exact run_bind_of_ended (shows.rule_run options.implementationAttribute element marker)
  | emitNamedObject marker =>
    exact run_bind_of_ended (shows.namedObject_run element marker)

end Assembly

namespace Round

/-- The directory of the documents of a kind. -/
def directory (options : BuildOptions) : ArtifactKind → String
  | .rule => options.rulesRoot
  | .namedObject => namedObjectsDirectory options

variable {σ : Type} (round : Round (StateM σ))

/-- What a task makes of its type in a round. -/
def assemble (task : Task) :
    StateM σ (Option (Except InvalidObjectName (Artifact × List Warning))) :=
  task.assemble round.options round.extraction

/-- Writes an artifact into the directory of its kind. -/
def emit (artifact : Artifact) (warnings : List Warning) :
    StateM σ (Except EmitError Emission) := do
  let written ← writeArtifact round.system round.format artifact
    (directory round.options artifact.kind)
  -- The warnings are reported only if the document could be written.
  return written.map fun path => { kind := artifact.kind, object := artifact.name, path, warnings }

/-- Ends a task with what it has assembled: the artifact is written, and an unusable name is a
failure. -/
def complete : Except InvalidObjectName (Artifact × List Warning) →
    StateM σ (Except EmitError TaskResult)
  -- Nothing has been written by then.
  | .error invalid => pure (.error (.invalidName invalid))
  | .ok (artifact, warnings) => return (← round.emit artifact warnings).map .artifact

/-- The tasks of a list that are carried out, each with the state in which its turn comes; there is
no turn behind a failure that ends the round. -/
def turns : List Task → σ → List (Task × σ)
  | [], _ => []
  | task :: rest, state =>
    (task, state) ::
      match (round.perform task).run state with
      | (.ok _, next) => turns rest next
      -- A failure has its turn, whatever comes behind it.
      | (.error _, next) => if round.options.failFast then [] else turns rest next

/-- A task that emits an artifact assembles it, and ends with what it has assembled. -/
theorem perform_of_assembled {task : Task} {state next : σ}
    {result : Except InvalidObjectName (Artifact × List Warning)}
    (assembled : (round.assemble task).run state = (some result, next)) :
    (round.perform task).run state = (round.complete result).run next := by
  obtain ⟨position, element, job⟩ := task
  -- The two kinds of artifact differ in what is assembled and in the directory alone.
  cases job with
  | keepDescription => cases assembled
  | emitRule marker =>
    rcases made : (round.extraction.rule round.options.implementationAttribute position element
      marker).run state with ⟨invalid | ⟨rule, warnings⟩, between⟩ <;>
      simp only [assemble, Task.assemble, run_bind_of_ended made] at assembled <;>
      cases assembled <;>
      simp only [perform, emitRule, bind_assoc, run_bind_of_ended made] <;> rfl
  | emitNamedObject marker =>
    rcases made : (round.extraction.namedObject position element marker).run state with
      ⟨invalid | object, between⟩ <;>
      simp only [assemble, Task.assemble, run_bind_of_ended made] at assembled <;>
      cases assembled <;>
      simp only [perform, emitNamedObject, bind_assoc, run_bind_of_ended made] <;> rfl

/-- Ending a task keeps every part of the state that writing artifacts keeps. -/
theorem keeps_complete {τ : Type} {part : σ → τ}
    (writes : ∀ artifact directory,
      Keeps part (writeArtifact round.system round.format artifact directory))
    (result : Except InvalidObjectName (Artifact × List Warning)) :
    Keeps part (round.complete result) := by
  -- Nothing is written for a name that cannot be used.
  rcases result with invalid | ⟨artifact, warnings⟩
  · exact keeps_pure _
  · exact .bind (.bind (writes _ _) fun _ => keeps_pure _) fun _ => keeps_pure _

/-- Tasks are carried out one after the other, each from where the one before it ends. -/
theorem performAll_cons_run (failFast : Bool) (report : Report) (task : Task) (rest : List Task)
    (state : σ) : (round.performAll failFast report (task :: rest)).run state =
      match (round.perform task).run state with
      | (.ok result, next) => (round.performAll failFast (report.add result) rest).run next
      | (.error error, next) =>
        if failFast then (.error ⟨task.element.qualifiedName, error⟩, next)
        else
          (round.performAll failFast (report.addFailure (failure task error)) rest).run next := by
  -- What the first task does decides how the run goes on.
  rcases ended : (round.perform task).run state with ⟨error | result, next⟩ <;>
    rw [performAll, run_bind_of_ended ended]
  cases failFast <;> rfl

/-- Behind a task that succeeds, the turns go on from where it ends. -/
theorem turns_cons_of_ok {task : Task} {result : TaskResult} {state : σ} (rest : List Task)
    (succeeds : ((round.perform task).run state).1 = .ok result) :
    round.turns (task :: rest) state =
      (task, state) :: round.turns rest ((round.perform task).run state).2 := by
  -- A task that succeeds is never the end of a round.
  rcases ended : (round.perform task).run state with ⟨error | result, next⟩
  · rw [ended] at succeeds
    cases succeeds
  · simp only [turns, ended]

/-- Behind a task that succeeds, a run goes on from where it ends. -/
theorem performAll_cons_of_ok (failFast : Bool) (report : Report) {task : Task}
    {result : TaskResult} {state : σ} (rest : List Task)
    (succeeds : ((round.perform task).run state).1 = .ok result) :
    (round.performAll failFast report (task :: rest)).run state =
      (round.performAll failFast (report.add result) rest).run
        ((round.perform task).run state).2 := by
  -- Whether failures end the round does not matter here.
  rw [performAll_cons_run]
  rcases ended : (round.perform task).run state with ⟨error | other, next⟩
  · rw [ended] at succeeds
    cases succeeds
  · rw [ended] at succeeds
    obtain rfl := Except.ok.inj succeeds
    rfl

/-- Some tasks are carried out behind others if those come to an end. -/
theorem performAll_append (failFast : Bool) (report : Report) (front back : List Task) :
    round.performAll failFast report (front ++ back) = (do
      match ← round.performAll failFast report front with
      | .ok middle => round.performAll failFast middle back
      | .error halt => return .error halt) := by
  -- Each task of the front hands on its report, or is where the run ends.
  funext state
  induction front generalizing report state with
  | nil => rfl
  | cons task rest ih =>
    have behind := round.performAll_cons_run failFast report task (rest ++ back) state
    have alone := round.performAll_cons_run failFast report task rest state
    rw [List.cons_append]
    refine behind.trans ?_
    show _ = StateT.run (_ >>= _) state
    rw [StateT.run_bind, alone]
    rcases (round.perform task).run state with ⟨error | result, next⟩
    · cases failFast
      · exact ih _ next
      · rfl
    · exact ih _ next

section Invariant

variable {holds : σ → Prop} {tasks : List Task}
  (step : ∀ task ∈ tasks, ∀ state, holds state → holds ((round.perform task).run state).2)
include step

/-- What every task preserves holds at every turn, if it holds at the first one. -/
theorem turns_invariant {state : σ} (start : holds state) :
    ∀ turn ∈ round.turns tasks state, holds turn.2 := by
  -- Each turn starts from the state that the one before it has left.
  induction tasks generalizing state with
  | nil => simp [turns]
  | cons task rest ih =>
    obtain ⟨first, others⟩ := List.forall_mem_cons.1 step
    have next_holds := first state start
    rw [turns, List.forall_mem_cons]
    refine ⟨start, ?_⟩
    -- A failure may be the end of all turns; else they go on.
    rcases ended : (round.perform task).run state with ⟨error | result, next⟩ <;>
      rw [ended] at next_holds
    · dsimp only
      split
      · simp
      · exact ih others next_holds
    · exact ih others next_holds

/-- What every task preserves holds at the end of a run, if it holds at the start. -/
theorem performAll_invariant (failFast : Bool) (report : Report) {state : σ}
    (start : holds state) : holds ((round.performAll failFast report tasks).run state).2 := by
  -- As with the turns, what holds behind the first task holds behind all others.
  induction tasks generalizing report state with
  | nil => exact start
  | cons task rest ih =>
    obtain ⟨first, others⟩ := List.forall_mem_cons.1 step
    have next_holds := first state start
    rw [performAll_cons_run]
    rcases ended : (round.perform task).run state with ⟨error | result, next⟩ <;>
      rw [ended] at next_holds
    · dsimp only
      split
      · exact next_holds
      · exact ih others _ next_holds
    · exact ih others _ next_holds

end Invariant

/-- Unless a failure ends the round, every task has its turn, in order. -/
theorem turns_map_fst (goes_on : round.options.failFast = false) (tasks : List Task) (state : σ) :
    (round.turns tasks state).map (·.1) = tasks := by
  -- Both branches of a turn go on with the tasks behind it.
  induction tasks generalizing state with
  | nil => rfl
  | cons task rest ih =>
    rw [turns, List.map_cons]
    rcases (round.perform task).run state with ⟨error | result, next⟩
    · simp [goes_on, ih]
    · simp [ih]

/-- Whether two rounds assemble the same for each of some tasks, whenever both of them carry it
out: the artifact with its warnings, or the same unusable name. -/
def AssembleAlike {τ : Type} (one : Round (StateM σ)) (other : Round (StateM τ)) (start : σ)
    (otherStart : τ) (common : List Task) : Prop :=
  -- The states need not be equal, only what is assembled in them.
  ∀ task ∈ common, ∀ state otherState,
    (task, state) ∈ one.turns (tasks one.model one.options) start →
    (task, otherState) ∈ other.turns (tasks other.model other.options) otherStart →
    ((one.assemble task).run state).1 = ((other.assemble task).run otherState).1

end Round

end RuleMetadata

import RuleMetadata.Proofs.Round.Turns

/-! Rounds that halt at their first failure, beside those that record failures and go on. -/

namespace RuleMetadata

/-- A task's result adds no failure to a report. -/
@[simp] theorem Report.failures_add (report : Report) (result : TaskResult) :
    (report.add result).failures = report.failures := by
  rcases result with (_ | _) | _ <;> rfl

/-- A failure that is added stands behind those before it. -/
@[simp] theorem Report.failures_addFailure (report : Report) (failure : Failure) :
    (report.addFailure failure).failures = report.failures ++ [failure] := rfl

namespace Round

variable {σ : Type} (round : Round (StateM σ))

/-- The round that halts at its first failure, or the one that records every failure. -/
def withFailFast (failFast : Bool) : Round (StateM σ) :=
  { round with options := { round.options with failFast } }

/-- Whether a round halts at a failure does not show in what it does for a task. -/
@[simp] theorem perform_withFailFast (failFast : Bool) (task : Task) :
    (round.withFailFast failFast).perform task = round.perform task := rfl

/-- Whether a round halts at a failure is all that its tasks see of the option. -/
@[simp] theorem performAll_withFailFast (option failFast : Bool) (report : Report)
    (tasks : List Task) :
    (round.withFailFast option).performAll failFast report tasks =
      round.performAll failFast report tasks := by
  -- Each task is performed alike, and the tasks behind it are by induction.
  induction tasks generalizing report with
  | nil => rfl
  | cons task rest ih => simp only [performAll, perform_withFailFast, ih]

/-- A round carries out the same tasks whether or not it halts at a failure. -/
theorem run_withFailFast (failFast : Bool) : (round.withFailFast failFast).run =
    round.performAll failFast {} (tasks round.model round.options) :=
  round.performAll_withFailFast failFast failFast {} _

/-- A run that ends with a report has lost none of the failures from before. -/
theorem failures_prefix_of_performAll {failFast : Bool} {report last : Report} {tasks : List Task}
    {state final : σ}
    (ended : (round.performAll failFast report tasks).run state = (.ok last, final)) :
    report.failures <+: last.failures := by
  -- Every task hands on a report, with at most one failure more.
  induction tasks generalizing report state with
  | nil =>
    cases ended
    exact List.prefix_refl _
  | cons task rest ih =>
    rw [performAll_cons_run] at ended
    rcases performed : (round.perform task).run state with ⟨error | result, next⟩ <;>
      rw [performed] at ended
    · -- A failure that ends the run leaves no report.
      cases failFast with
      | true => cases ended
      | false => exact (List.prefix_append _ _).trans (ih ended)
    · simpa using ih ended

/-- A run that records failures ends with a report, which has the failures from before in front. -/
theorem exists_report_of_recording (report : Report) (tasks : List Task) (state : σ) :
    ∃ last final, (round.performAll false report tasks).run state = (.ok last, final) ∧
      report.failures <+: last.failures := by
  -- Only a failure that is not recorded could keep the run from its end.
  have ends : ∃ last final,
      (round.performAll false report tasks).run state = (.ok last, final) := by
    induction tasks generalizing report state with
    | nil => exact ⟨report, state, rfl⟩
    | cons task rest ih =>
      rw [performAll_cons_run]
      rcases (round.perform task).run state with ⟨error | result, next⟩
      · exact ih _ next
      · exact ih _ next
  obtain ⟨last, final, ended⟩ := ends
  exact ⟨last, final, ended, round.failures_prefix_of_performAll ended⟩

/-- Whether a run that records failures records its first one, and has then reached a state: the
tasks in front of the failing one leave a report without failures, and the tasks behind it are
carried out from that state on. -/
def RecordsFirst (report : Report) (tasks : List Task) (start : σ) (first : Failure)
    (reached : σ) : Prop :=
  ∃ done task left before midway, tasks = done ++ task :: left ∧
    (round.performAll false report done).run start = (.ok before, midway) ∧
    -- This is what makes the failure the first one.
    before.failures = [] ∧
    (round.performAll false report (done ++ [task])).run start =
      (.ok (before.addFailure first), reached) ∧
    -- The tasks behind the failure are still carried out.
    (round.performAll false (before.addFailure first) left).run reached =
      (round.performAll false report tasks).run start

/-- A task that succeeds may be put in front of those up to the first failure. -/
theorem RecordsFirst.cons {report : Report} {task : Task} {tasks : List Task} {state next : σ}
    {result : TaskResult} {first : Failure} {reached : σ}
    (done : (round.perform task).run state = (.ok result, next))
    (records : round.RecordsFirst (report.add result) tasks next first reached) :
    round.RecordsFirst report (task :: tasks) state first reached := by
  obtain ⟨front, failing, left, before, midway, rfl, passed, clean, recorded, goes_on⟩ := records
  -- Each of the runs starts with the task, and goes on from where that ends.
  have starts (others : List Task) : (round.performAll false report (task :: others)).run state =
      (round.performAll false (report.add result) others).run next := by
    rw [performAll_cons_run, done]
  refine ⟨task :: front, failing, left, before, midway, rfl, ?_, clean, ?_, ?_⟩
  · rw [starts, passed]
  · rw [List.cons_append, starts, recorded]
  · rw [starts, goes_on]

/-- From a report without failures, halting and recording runs are the same up to the first failure:
without one they end alike, and else the halting run ends with it where it is recorded. -/
theorem performAll_failFast (report : Report) (clean : report.failures = []) (tasks : List Task)
    (state : σ) :
    ∃ last final, (round.performAll false report tasks).run state = (.ok last, final) ∧
      match last.failures with
      | [] => (round.performAll true report tasks).run state = (.ok last, final)
      | first :: _ => ∃ reached,
        (round.performAll true report tasks).run state =
          (.error ⟨first.element, first.error⟩, reached) ∧
        round.RecordsFirst report tasks state first reached := by
  induction tasks generalizing report state with
  | nil =>
    refine ⟨report, state, rfl, ?_⟩
    rw [clean]
    rfl
  | cons task rest ih =>
    rw [performAll_cons_run, performAll_cons_run]
    rcases ended : (round.perform task).run state with ⟨error | result, next⟩
    · -- The first failure is this one: it halts the one run, and stays the other's first.
      let recorded := report.addFailure (failure task error)
      obtain ⟨last, final, goes_on, others, failures⟩ :=
        round.exists_report_of_recording recorded rest next
      refine ⟨last, final, goes_on, ?_⟩
      rw [← failures, Report.failures_addFailure, clean]
      have alone : (round.performAll false report [task]).run state = (.ok recorded, next) := by
        rw [performAll_cons_run, ended]
        rfl
      refine ⟨next, rfl, [], task, rest, report, state, rfl, rfl, clean, alone, ?_⟩
      rw [performAll_cons_run, ended]
      rfl
    · -- A success is reported by both runs, which go on alike.
      obtain ⟨last, final, goes_on, alike⟩ := ih (report.add result) (by simp [clean]) next
      refine ⟨last, final, goes_on, ?_⟩
      cases failures : last.failures with
      | nil => simpa only [failures] using alike
      | cons first others =>
        rw [failures] at alike
        obtain ⟨reached, halts, records⟩ := alike
        exact ⟨reached, halts, records.cons round ended⟩

/-- A round that halts at its first failure is the prefix of the same round with failures recorded,
whatever the stores and files do: without a failure both have one report and one final state; else
the halting round ends with the element and the error of the first recorded failure, in the state
that the recording round has reached when it records that failure. -/
theorem run_failFast (state : σ) :
    ∃ report final, (round.withFailFast false).run.run state = (.ok report, final) ∧
      match report.failures with
      | [] => (round.withFailFast true).run.run state = (.ok report, final)
      | first :: _ => ∃ reached,
        (round.withFailFast true).run.run state =
          (.error ⟨first.element, first.error⟩, reached) ∧
        (round.withFailFast false).RecordsFirst {} (tasks round.model round.options) state first
          reached := by
  -- Both rounds have the same tasks, which are carried out in the same way up to a failure.
  simp only [run_withFailFast, RecordsFirst, performAll_withFailFast]
  exact round.performAll_failFast {} rfl (tasks round.model round.options) state

end Round

end RuleMetadata

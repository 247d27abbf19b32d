import RuleMetadata.Proofs.State
import RuleMetadata.Round.Writing

/-! What writing an artifact does to the files, one operation after the other. -/

namespace RuleMetadata.FileSystem

variable {σ : Type} (system : FileSystem (StateM σ))

/-- A temporary file is filled, synced and moved, until one of the three fails. -/
theorem fillAndMove_run (temporary : TemporaryFile) (path text : String) (state : σ) :
    (system.fillAndMove temporary path text).run.run state =
      match (system.fill temporary text).run state with
      | (.error cause, next) => (.error cause, next)
      | (.ok _, next) =>
        match (system.sync temporary).run next with
        | (.error cause, next) => (.error cause, next)
        | (.ok _, next) => (system.persist temporary path).run next := by
  -- Each operation is carried out only if those before it succeed.
  simp only [fillAndMove, run_bindExcept, ExceptT.run_mk]
  rcases (system.fill temporary text).run state with ⟨cause | _, filled⟩
  · rfl
  · dsimp only
    rcases (system.sync temporary).run filled with ⟨cause | _, synced⟩ <;> rfl

/-- A text is put at a path by way of a temporary file, which is removed again after a failure. -/
theorem replace_run (directory path text : String) (state : σ) :
    (system.replace directory path text).run.run state =
      match (system.createDirectories directory).run state with
      | (.error cause, next) => (.error cause, next)
      | (.ok _, next) =>
        match (system.createTemporary directory).run next with
        | (.error cause, next) => (.error cause, next)
        | (.ok temporary, next) =>
          match (system.fillAndMove temporary path text).run.run next with
          | (.ok _, next) => (.ok (), next)
          | (.error cause, next) => (.error cause, ((system.discard temporary).run next).2) := by
  -- The file is removed in the last branch alone, where filling or moving it has failed.
  simp only [replace, run_bindExcept, run_tryCatchExcept, ExceptT.run_mk]
  rcases (system.createDirectories directory).run state with ⟨cause | _, created⟩
  · rfl
  · dsimp only
    rcases (system.createTemporary directory).run created with ⟨cause | temporary, opened⟩
    · rfl
    · dsimp only
      rcases (system.fillAndMove temporary path text).run.run opened with ⟨cause | _, ended⟩
      · rfl
      · rfl

/-- An artifact is rendered first, and then its text is put at its path. -/
theorem writeArtifact_run (format : DocumentFormat) (artifact : Artifact) (directory : String)
    (state : σ) : (writeArtifact system format artifact directory).run state =
      match format.render artifact with
      | .error reason => (.error (.notRendered artifact.name reason), state)
      | .ok text =>
        let path := format.path directory artifact.name
        match (system.replace directory path text).run.run state with
        | (.ok _, next) => (.ok path, next)
        | (.error cause, next) => (.error (.notWritten artifact.name path cause), next) := by
  -- A document that cannot be rendered is not written at all.
  unfold writeArtifact
  cases format.render artifact with
  | error reason => rfl
  | ok text =>
    show ((system.replace directory (format.path directory artifact.name) text).run >>= _).run
      state = _
    -- The two ends of the replacement are told apart, and neither does more to the state.
    dsimp only
    rcases ended : (system.replace directory (format.path directory artifact.name) text).run.run
      state with ⟨cause | _, next⟩ <;> rw [run_bind_of_ended ended] <;> rfl

/-- An artifact that was written stands at the path of its name. -/
theorem path_of_writeArtifact {format : DocumentFormat} {artifact : Artifact}
    {directory path : String} {state next : σ}
    (written : (writeArtifact system format artifact directory).run state = (.ok path, next)) :
    path = format.path directory artifact.name := by
  -- Only a document that was rendered and put at its path is reported.
  rw [writeArtifact_run] at written
  cases rendered : format.render artifact with
  | error reason => rw [rendered] at written; cases written
  | ok text =>
    simp only [rendered] at written
    rcases ended : (system.replace directory (format.path directory artifact.name) text).run.run
      state with ⟨cause | _, last⟩ <;> rw [ended] at written <;> cases written
    rfl

/-- Writing an artifact keeps every part of the state that all operations on files keep. -/
theorem keeps_writeArtifact {τ : Type} {part : σ → τ}
    (directories : ∀ path, Keeps part (system.createDirectories path))
    (temporary : ∀ path, Keeps part (system.createTemporary path))
    (fill : ∀ temporary text, Keeps part (system.fill temporary text))
    (sync : ∀ temporary, Keeps part (system.sync temporary))
    (persist : ∀ temporary path, Keeps part (system.persist temporary path))
    (discard : ∀ temporary, Keeps part (system.discard temporary))
    (format : DocumentFormat) (artifact : Artifact) (directory : String) :
    Keeps part (writeArtifact system format artifact directory) := by
  -- The operations are taken in the order in which they are carried out, the removal last.
  have moved (temporary : TemporaryFile) (path content : String) :
      Keeps part (system.fillAndMove temporary path content).run :=
    .bindExcept (fill _ _) fun _ => .bindExcept (sync _) fun _ => persist _ _
  have discard_and_fail (temporary : TemporaryFile) (cause : FileError) :
      Keeps part (do
        let _ ← ExceptT.lift (system.discard temporary)
        throw cause : ExceptT FileError (StateM σ) Unit).run :=
    .bindExcept (.bind (discard _) fun _ => keeps_pure _) fun _ => keeps_pure _
  have replaced (path content : String) : Keeps part (system.replace directory path content).run :=
    .bindExcept (directories _) fun _ => .bindExcept (temporary _) fun _ =>
      .tryCatchExcept (moved _ _ _) fun _ => discard_and_fail _ _
  unfold writeArtifact
  -- A document that cannot be rendered is not written, and nothing has changed.
  split
  · exact keeps_pure _
  · refine .bind (replaced _ _) fun result => ?_
    cases result <;> exact keeps_pure _

end RuleMetadata.FileSystem

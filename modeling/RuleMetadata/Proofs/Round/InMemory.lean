import RuleMetadata.Proofs.Description.Cache
import RuleMetadata.Proofs.Round.Turns
import RuleMetadata.Proofs.Round.Writing

/-! Rounds that keep their descriptions in memory: what each turn finds there. -/

namespace RuleMetadata

section Beside

variable {Other : Type}

/-- Work on one part of a state, beside a memory. -/
def besideMemory {α : Type} (work : StateM Other α) : StateM (MemoryStore × Other) α :=
  fun (memory, other) => ((work.run other).1, (memory, (work.run other).2))

/-- Operations on files, beside a memory. -/
def FileSystem.besideMemory (system : FileSystem (StateM Other)) :
    FileSystem (StateM (MemoryStore × Other)) where
  -- None of these looks at the memory.
  readText path := RuleMetadata.besideMemory (system.readText path)
  writeText path text := RuleMetadata.besideMemory (system.writeText path text)
  createDirectories path := RuleMetadata.besideMemory (system.createDirectories path)
  createTemporary path := RuleMetadata.besideMemory (system.createTemporary path)
  fill temporary text := RuleMetadata.besideMemory (system.fill temporary text)
  sync temporary := RuleMetadata.besideMemory (system.sync temporary)
  persist temporary path := RuleMetadata.besideMemory (system.persist temporary path)
  discard temporary := RuleMetadata.besideMemory (system.discard temporary)
  kind? path := RuleMetadata.besideMemory (system.kind? path)
  names path := RuleMetadata.besideMemory (system.names path)

/-- A round that keeps its descriptions in memory, whatever it writes its documents to. -/
def Round.inMemory (model : Model) (options : BuildOptions) (system : FileSystem (StateM Other))
    (format : DocumentFormat) (location : String) : Round (StateM (MemoryStore × Other)) :=
  { model, options, format, system := system.besideMemory
    descriptions := .inMemory Other location }

namespace Round

variable {model : Model} {options : BuildOptions} {system : FileSystem (StateM Other)}
  {format : DocumentFormat} {location : String} {memory : MemoryStore} {other : Other}

/-- What a task assembles in memory is determined by the texts that its element and those on the
walk from there are described by. -/
theorem assemble_inMemory {task : Task} (texts : Descriptions)
    (described : ∀ position ∈ model.visits .argument task.position ++ [task.position],
      memory.describe model position = texts position) :
    ((inMemory model options system format location).assemble task).run (memory, other) =
      (task.assemble options
        (⟨model, containersWith options.containerTypes, texts⟩ : Extraction),
        (memory, other)) :=
  -- An artifact depends on the memory through the descriptions that it shows.
  Task.assemble_run fun position inside => by
    rw [← described position inside]
    exact DescriptionCache.readAt_inMemory model position memory other

/-- Emitting an artifact leaves the memory alone. -/
theorem keeps_perform_inMemory {task : Task} (job : task.job ≠ .keepDescription) :
    Keeps Prod.fst ((inMemory model options system format location).perform task) := by
  -- The descriptions are read, and the files are beside the memory.
  rintro ⟨memory, other⟩
  have reads := @assemble_inMemory _ model options system format location memory other task
    (memory.describe model) fun _ _ => rfl
  obtain ⟨result, made⟩ := Option.isSome_iff_exists.1 (Task.isSome_assemble_iff.2 job)
  have writes (artifact : Artifact) (directory : String) : Keeps Prod.fst
      (writeArtifact (inMemory model options system format location).system format artifact
        directory) :=
    FileSystem.keeps_writeArtifact _ (fun _ _ => rfl) (fun _ _ => rfl) (fun _ _ _ => rfl)
      (fun _ _ => rfl) (fun _ _ _ => rfl) (fun _ _ => rfl) _ _ _
  -- What was assembled is written to the files, and to nothing else.
  have assembled : ((inMemory model options system format location).assemble task).run
      (memory, other) = (some result, (memory, other)) :=
    Prod.ext made (by rw [reads])
  rw [perform_of_assembled _ assembled]
  exact keeps_complete _ writes result (memory, other)

/-- Keeping a description saves it in the memory. -/
theorem perform_inMemory_description {task : Task} (job : task.job = .keepDescription) :
    (((inMemory model options system format location).perform task).run (memory, other)).2 =
      (memory.saved task.element, other) := by
  -- Saving is all that the task does to the state.
  simp only [perform, job]
  rw [StateT.run_bind]
  exact DescriptionCache.save_inMemory task.element memory other

/-- Keeping a description succeeds in a working memory. -/
theorem perform_inMemory_succeeds {task : Task} (job : task.job = .keepDescription)
    (working : memory.IsWorking) : ∃ result,
      (((inMemory model options system format location).perform task).run (memory, other)).1 =
        .ok result := by
  -- The memory takes every text, so that saving cannot fail.
  obtain ⟨kept, saved⟩ :=
    DescriptionCache.save_inMemory_succeeds location task.element other working
  refine ⟨.description kept, ?_⟩
  simp only [perform, job]
  rcases ended : ((inMemory model options system format location).descriptions.save
    task.element).run (memory, other) with ⟨saved_again, next⟩
  obtain rfl : saved_again = .ok kept := (congrArg Prod.fst ended).symm.trans saved
  rw [run_bind_of_ended ended]
  rfl

/-- The memory after some descriptions were kept. -/
def memoryAfter (memory : MemoryStore) (tasks : List Task) : MemoryStore :=
  (tasks.map (·.element)).foldl MemoryStore.saved memory

/-- Keeping descriptions in a working memory leaves it working. -/
theorem isWorking_memoryAfter {memory : MemoryStore} (working : memory.IsWorking)
    (tasks : List Task) : (memoryAfter memory tasks).IsWorking := by
  -- Saving leaves a memory working, one element after the other.
  rw [memoryAfter]
  generalize tasks.map (·.element) = elements
  induction elements generalizing memory with
  | nil => exact working
  | cons element rest ih => exact ih (working.saved element)

section Phases

variable {descriptions artifacts : List Task}
  (keeps : ∀ task ∈ descriptions, task.job = .keepDescription)
  (emits : ∀ task ∈ artifacts, task.job ≠ .keepDescription) (working : memory.IsWorking)
include keeps emits working

/-- Every artifact is emitted from the memory as it is after all descriptions were kept. -/
theorem turns_inMemory : ∀ turn ∈
    (inMemory model options system format location).turns (descriptions ++ artifacts)
      (memory, other),
    turn.1.job ≠ .keepDescription → turn.2.1 = memoryAfter memory descriptions := by
  -- The descriptions come first, and every turn behind them keeps the memory.
  induction descriptions generalizing memory with
  | nil =>
    -- Behind the descriptions there is no task left that changes the memory.
    exact fun turn inside _ => turns_invariant _
      (fun task member state same => (keeps_perform_inMemory (emits task member) state).trans same)
      rfl turn inside
  | cons task rest ih =>
    obtain ⟨first, others⟩ := List.forall_mem_cons.1 keeps
    -- The first description is kept, so that the round goes on with one text more.
    obtain ⟨result, succeeds⟩ := perform_inMemory_succeeds first working
    rw [List.cons_append, turns_cons_of_ok _ _ succeeds, perform_inMemory_description first,
      List.forall_mem_cons]
    exact ⟨fun emitted => absurd first emitted, ih others (working.saved _)⟩

/-- A round ends with the memory as it is after all descriptions were kept. -/
theorem performAll_inMemory (failFast : Bool) (report : Report) :
    (((inMemory model options system format location).performAll failFast report
      (descriptions ++ artifacts)).run (memory, other)).2.1 = memoryAfter memory descriptions := by
  -- The run passes the descriptions in the same way, and then keeps the memory.
  induction descriptions generalizing memory report with
  | nil =>
    exact performAll_invariant _
      (fun task member state same => (keeps_perform_inMemory (emits task member) state).trans same)
      failFast report (rfl : (memory, other).1 = memory)
  | cons task rest ih =>
    obtain ⟨first, others⟩ := List.forall_mem_cons.1 keeps
    obtain ⟨result, succeeds⟩ := perform_inMemory_succeeds first working
    rw [List.cons_append, performAll_cons_of_ok _ _ _ _ succeeds,
      perform_inMemory_description first]
    exact ih others (working.saved _) _

end Phases

end Round

end Beside

end RuleMetadata

import RuleMetadata.Proofs.Description.Key
import RuleMetadata.Proofs.Files.Repetition
import RuleMetadata.Proofs.Options
import RuleMetadata.Proofs.Round.Emission
import RuleMetadata.Proofs.Round.Halting

/-! Rounds in files that are carried out again: a round without failures finds its own descriptions
and documents in place, and puts every file back as it is. -/

namespace RuleMetadata

namespace FileTree

/-- Whether a location has another name than files of descriptions have. -/
def BesideDescriptions (location : Location) : Prop :=
  ∀ (directory : Location) (element : Element), location ≠ directory ++ [element.keyFile]

/-- A document never stands where a description could be. -/
theorem besideDescriptions_of_locate {tree : FileTree} {directory object : String}
    {location : Location} (plain : Text.isPlainSegment object)
    (located : tree.locate (DocumentFormat.xml.path directory object) = .ok location) :
    BesideDescriptions location := by
  obtain ⟨reached, -, rfl⟩ :=
    locate_join_eq_ok (DocumentFormat.isPlainSegment_fileName plain) located
  intro other element same
  -- The endings of the two names differ in their last character.
  have names := (List.append_inj' same (by simp)).2
  have last := element.getLast?_keyFile
  rw [← List.singleton_inj.1 names] at last
  simp [DocumentFormat.xml, String.toList_append] at last

/-- The file of a key stands where a description can be. -/
theorem not_besideDescriptions_of_locate {tree : FileTree} {element : Element} {key root : String}
    {location : Location} (keyed : element.resourceKey? = some key)
    (located : tree.locate (Path.join root key) = .ok location) :
    ¬ BesideDescriptions location := by
  -- The last name of the path is that of the file of the key.
  obtain ⟨-, plain, directory, joined⟩ := Element.keyPath_resourceKey? keyed root
  rw [joined] at located
  obtain ⟨reached, -, rfl⟩ := locate_join_eq_ok plain located
  exact fun beside => beside reached element rfl

variable {changed free : Location → Prop} {before after : FileTree}

/-- Putting a text at a path by way of a temporary file can be done again. -/
theorem settles_replace {directory path text : String} (closed : before.IsClosed)
    (ended : (system.replace directory path text).run.run before = (.ok (), after))
    (allowed : ∀ location, after.locate path = .ok location → changed location) :
    Settles changed free (system.replace directory path text).run before (.ok ()) after := by
  have spec := FileSystem.isFallible_system.replace_spec directory path text before
  rw [ended] at spec
  obtain ⟨made, target, created, isOpen, isPut⟩ := spec
  have settles_made : Settles (fun _ => False) free (system.createDirectories directory) before
      (.ok ()) made := settles_createDirectories closed created
  obtain ⟨located, above⟩ := locateNew_eq_ok_iff.1 isOpen.located
  have grown := isPut.grown isOpen.free
  have made_closed := settles_made.closed
  refine .of_isPut ended (made_closed.of_isPut isPut above isOpen.free)
    (settles_made.grown.of_none.trans grown) isPut.stands
    (allowed target (grown.toKeepsDirectories.locate located)) fun tree tree_closed keeps free => ?_
  -- The directories are there, and what was possible behind making them is still possible.
  have kept := grown.toKeepsDirectories.trans keeps
  have there := (createFrom_spec (directory.length + 1) closed directory).2
  rw [show createFrom _ before directory = _ from created] at there
  have created_again := createDirectories_of_isDirectory tree_closed
    ((there rfl).imp_right kept.isDirectory)
  obtain ⟨place, temporaries⟩ := isOpen.temporaries
  exact exists_replace created_again
    ⟨⟨place, kept.locateTemporaries temporaries⟩, kept.locateNew isOpen.located, free⟩ text

end FileTree

open FileTree

/-! ### Keeping descriptions -/

/-- Keeping a text under a key can be done again. -/
theorem Store.settles_write_inFiles {root key text : String} {before after : FileTree}
    (closed : before.IsClosed)
    (ended : ((inFiles FileTree.system root).write key text).run before = (.ok (), after)) :
    Settles (fun _ => True) (fun _ => True) ((inFiles FileTree.system root).write key text)
      before (.ok ()) after := by
  cases led : keyPath root key with
  | error cause =>
    simp only [inFiles, led] at ended
    cases ended
  | ok path =>
    simp only [inFiles, led] at ended ⊢
    cases above : Path.parent? path with
    | none =>
      simp only [above] at ended ⊢
      exact settles_writeText closed ended fun _ _ => trivial
    | some parent =>
      simp only [above] at ended ⊢
      rcases created : (FileTree.system.createDirectories parent).run before with
        ⟨cause | _, made⟩ <;> rw [run_bind_of_ended created] at ended
      · cases ended
      · -- Both steps can be done again, and what the second writes does not matter to the first.
        have settles_made : Settles (fun _ => True) (fun _ => True)
            (FileTree.system.createDirectories parent) before (.ok ()) made :=
          settles_createDirectories closed created
        have settles_written : Settles (fun _ => True) (fun _ => True)
            (FileTree.system.writeText path text) made (.ok ()) after :=
          settles_writeText settles_made.closed ended fun _ _ => trivial
        exact settles_made.bind settles_written (fun _ _ => trivial) fun _ _ => trivial

/-- Saving the description of an element can be done again. -/
theorem DescriptionCache.settles_save {cache : DescriptionCache (StateM FileTree)} {root : String}
    (output : cache.output = .inFiles FileTree.system root) {element : Element} {saved : Bool}
    {before after : FileTree} (closed : before.IsClosed)
    (ended : (cache.save element).run before = (.ok saved, after)) :
    Settles (fun _ => True) (fun _ => True) (cache.save element) before (.ok saved) after := by
  unfold save at ended ⊢
  split at ended
  · rw [output] at ended ⊢
    rename_i key text _ _
    rcases written : ((Store.inFiles FileTree.system root).write key text).run before with
      ⟨cause | _, next⟩ <;> rw [run_bind_of_ended written] at ended <;> cases ended
    exact (Store.settles_write_inFiles closed written).bind_pure rfl
  · -- Without a key or a text, nothing is written.
    cases ended
    exact .pure closed _

namespace Round

variable {round : Round (StateM FileTree)}

/-- A task that keeps a description can be carried out again. -/
theorem settles_perform_description {root : String}
    (output : round.descriptions.output = .inFiles FileTree.system root) {task : Task}
    (job : task.job = .keepDescription) {result : TaskResult} {before after : FileTree}
    (closed : before.IsClosed) (ended : (round.perform task).run before = (.ok result, after)) :
    Settles (fun _ => True) (fun _ => True) (round.perform task) before (.ok result) after := by
  -- Nothing happens behind saving the description but that its result is noted.
  simp only [perform, job] at ended ⊢
  rcases saving : (round.descriptions.save task.element).run before with ⟨cause | saved, next⟩ <;>
    rw [run_bind_of_ended saving] at ended <;> cases ended
  exact (DescriptionCache.settles_save output closed saving).bind_pure rfl

/-! ### Writing artifacts -/

/-- Writing an artifact can be done again, as long as descriptions stay as they are. -/
theorem settles_writeArtifact {artifact : Artifact} {directory path : String}
    (plain : Text.isPlainSegment artifact.name) {before after : FileTree} (closed : before.IsClosed)
    (ended : (writeArtifact FileTree.system .xml artifact directory).run before =
      (.ok path, after)) :
    Settles BesideDescriptions BesideDescriptions
      (writeArtifact FileTree.system .xml artifact directory) before (.ok path) after := by
  -- Rendering never fails, and the document is put at its path.
  have rendered : DocumentFormat.xml.render artifact = .ok (Document.render artifact) := rfl
  rw [FileSystem.writeArtifact_run, rendered] at ended
  dsimp only at ended
  rcases replaced : (FileTree.system.replace directory (DocumentFormat.xml.path directory
      artifact.name) (Document.render artifact)).run.run before with ⟨cause | _, next⟩ <;>
    rw [replaced] at ended <;> cases ended
  have settles : Settles BesideDescriptions BesideDescriptions _ before _ after :=
    settles_replace closed replaced fun _ located => besideDescriptions_of_locate plain located
  exact settles.bind_pure rfl

/-- Emitting an artifact can be done again. -/
theorem settles_emit (writes : round.WritesDocuments) {artifact : Artifact}
    {warnings : List Warning} (plain : Text.isPlainSegment artifact.name) {emission : Emission}
    {before after : FileTree} (closed : before.IsClosed)
    (ended : (round.emit artifact warnings).run before = (.ok emission, after)) :
    Settles BesideDescriptions BesideDescriptions (round.emit artifact warnings) before
      (.ok emission) after := by
  simp only [emit, writes.system, writes.format] at ended ⊢
  -- Only writing the artifact does something, and it has not failed.
  rcases written : (writeArtifact FileTree.system .xml artifact
      (directory round.options artifact.kind)).run before with ⟨cause | path, next⟩ <;>
    rw [run_bind_of_ended written] at ended <;> cases ended
  exact (settles_writeArtifact plain closed written).bind_pure rfl

/-- Ending a task with an artifact can be done again. -/
theorem settles_complete (writes : round.WritesDocuments) {artifact : Artifact}
    {warnings : List Warning} (plain : Text.isPlainSegment artifact.name) {result : TaskResult}
    {before after : FileTree} (closed : before.IsClosed)
    (ended : (round.complete (.ok (artifact, warnings))).run before = (.ok result, after)) :
    Settles BesideDescriptions BesideDescriptions (round.complete (.ok (artifact, warnings))) before
      (.ok result) after := by
  simp only [complete] at ended ⊢
  -- Only emitting the artifact does something, and it has not failed.
  rcases emitted : (round.emit artifact warnings).run before with ⟨cause | emission, next⟩ <;>
    rw [run_bind_of_ended emitted] at ended <;> cases ended
  exact (settles_emit writes plain closed emitted).bind_pure rfl

/-- Whether what is assembled in a round depends on the files of descriptions alone. -/
def AssemblesAlike (round : Round (StateM FileTree)) : Prop :=
  ∀ (task : Task) (one other : FileTree), one.IsClosed → Grown BesideDescriptions one other →
    ReadsAlike (round.assemble task) one other

/-- A task that writes an artifact can be carried out again: it assembles the same artifact from the
same descriptions, and the document does not stand in their place. -/
theorem settles_perform_artifact (writes : round.WritesDocuments) (alike : round.AssemblesAlike)
    {task : Task} (job : task.job ≠ .keepDescription) {result : TaskResult}
    {before after : FileTree} (closed : before.IsClosed)
    (ended : (round.perform task).run before = (.ok result, after)) :
    Settles BesideDescriptions BesideDescriptions (round.perform task) before (.ok result)
      after := by
  obtain ⟨result, made⟩ := Option.isSome_iff_exists.1 (Task.isSome_assemble_iff.2 job)
  have assembled : (round.assemble task).run before = (some result, before) :=
    Prod.ext made (assemble_run writes task before)
  have completes (tree : FileTree) (grown : Grown BesideDescriptions before tree) :
      (round.perform task).run tree = (round.complete result).run tree := by
    obtain ⟨value, before_run, tree_run⟩ := alike task before tree closed grown
    obtain ⟨rfl, -⟩ := Prod.mk.inj (assembled.symm.trans before_run)
    exact perform_of_assembled round tree_run
  rw [completes before (.refl before)] at ended
  cases result with
  | error invalid => cases ended
  | ok pair =>
    obtain ⟨artifact, warnings⟩ := pair
    have plain : Text.isPlainSegment artifact.name := (Task.of_assemble_eq_some made).1
    obtain ⟨done, after_closed, grown, again⟩ := settles_complete writes plain closed ended
    refine ⟨?_, after_closed, grown, fun {tree} tree_closed tree_grown => ?_⟩
    · rw [completes before (.refl before), done]
    · -- Wherever the task is carried out again, it ends with the same artifact.
      obtain ⟨next, ended_again, back⟩ := again tree_closed tree_grown
      exact ⟨next, by rw [completes tree (grown.trans tree_grown), ended_again], back⟩

/-! ### Whole rounds -/

/-- Tasks that all succeed can be carried out again one after the other, if each of them can, and if
none changes what is not free to differ. -/
theorem settles_performAll {changed free : Location → Prop} {tasks : List Task}
    (step : ∀ task ∈ tasks, ∀ {result : TaskResult} {before after : FileTree}, before.IsClosed →
      (round.perform task).run before = (.ok result, after) →
        Settles changed free (round.perform task) before (.ok result) after)
    (within : ∀ location, changed location → free location) {failFast : Bool}
    {report last : Report} {before after : FileTree} (closed : before.IsClosed)
    (ended : (round.performAll failFast report tasks).run before = (.ok last, after))
    (clean : last.failures = []) :
    Settles changed free (round.performAll failFast report tasks) before (.ok last) after := by
  -- The first task has succeeded, since otherwise its failure would stand in the report.
  induction tasks generalizing report before with
  | nil =>
    cases ended
    exact .pure closed _
  | cons task rest ih =>
    obtain ⟨first, others⟩ := List.forall_mem_cons.1 step
    rw [performAll_cons_run] at ended
    rcases performed : (round.perform task).run before with ⟨error | result, next⟩ <;>
      rw [performed] at ended
    · cases failFast with
      | true => cases ended
      | false =>
        have kept := round.failures_prefix_of_performAll ended
        rw [clean] at kept
        simp at kept
    · have settles := first closed performed
      exact settles.bind (ih others settles.closed ended) (fun _ inside => inside) within

/-- A round without failures can be carried out again. -/
theorem settles_run (writes : round.WritesDocuments) (alike : round.AssemblesAlike) {root : String}
    (output : round.descriptions.output = .inFiles FileTree.system root) {report : Report}
    {before after : FileTree} (closed : before.IsClosed)
    (ended : round.run.run before = (.ok report, after)) (clean : report.failures = []) :
    Settles (fun _ => True) BesideDescriptions round.run before (.ok report) after := by
  -- All descriptions are kept before the first artifact is assembled.
  rw [run, tasks, performAll_append] at ended ⊢
  rcases kept : (round.performAll round.options.failFast {}
      (descriptionTasks round.model round.options)).run before with ⟨halt | middle, between⟩ <;>
    rw [run_bind_of_ended kept] at ended
  · cases ended
  · have middle_clean : middle.failures = [] := by
      have first := round.failures_prefix_of_performAll ended
      rwa [clean, List.prefix_nil] at first
    have descriptions := settles_performAll (fun _ inside _ _ _ closed ended =>
      settles_perform_description output (job_of_mem_descriptionTasks inside) closed ended)
      (fun _ _ => trivial) closed kept middle_clean
    have artifacts := settles_performAll (fun _ inside _ _ _ closed ended =>
      settles_perform_artifact writes alike (job_of_mem_artifactTasks inside) closed ended)
      (fun _ beside => beside) descriptions.closed ended clean
    exact (descriptions.mono (fun _ _ => trivial) fun _ _ => trivial).bind artifacts
      (fun _ _ => trivial) fun _ beside => beside

end Round

namespace Command

variable {model : Model} {options : BuildOptions}

/-- What a command assembles depends on the files of descriptions alone, if the paths to them lead
down. -/
theorem assemblesAlike_roundInFiles (valid : options.validate = .ok ())
    (output : LeadsDown options.resourceOutput)
    (input : ∀ path ∈ options.resourceInput, LeadsDown path) :
    (roundInFiles FileTree.system model options).AssemblesAlike := by
  intro task one other closed grown
  refine Task.readsAlike_assemble fun position =>
    DescriptionCache.readsAlike_readAt ?_ model position
  intro element key keyed store among
  obtain ⟨root, listed, rfl⟩ := exists_root_of_mem_stores among
  have down := BuildOptions.leadsDown_of_validate valid output input root listed
  refine Store.findsAlike_inFiles fun path led => ?_
  -- The path of the key leads down to a file that has not changed.
  obtain ⟨accepted, -, -⟩ := Element.keyPath_resourceKey? keyed root
  obtain rfl := Except.ok.inj (accepted.symm.trans led)
  exact (closed.readText grown (Element.leadsDown_resourceKey? keyed down) fun _ located =>
    not_besideDescriptions_of_locate keyed located).symm

/-- A round in files that ends without failures can be repeated: starting from where it has ended,
it gives the same report, with the same artifacts, warnings and number of descriptions, and leaves
every file and every directory as it is. The paths of artifacts may lead anywhere, also to the
descriptions. -/
theorem roundInFiles_repeated {start final : FileTree} {report : Report}
    (closed : start.IsClosed) (valid : options.validate = .ok ())
    (output : LeadsDown options.resourceOutput)
    (input : ∀ path ∈ options.resourceInput, LeadsDown path)
    (ended : (roundInFiles FileTree.system model options).run.run start = (.ok report, final))
    (success : report.isSuccess) :
    ∃ again, (roundInFiles FileTree.system model options).run.run final = (.ok report, again) ∧
      again.home = final.home ∧ ∀ location, again.at? location = final.at? location := by
  have clean : report.failures = [] := List.isEmpty_iff.1 success
  -- The store that descriptions are kept in is one of files.
  obtain ⟨root, -, same⟩ := @exists_root_of_mem_stores options _
    (List.mem_append_right _ (List.mem_singleton_self _))
  have alike := @assemblesAlike_roundInFiles model options valid output input
  exact (Round.settles_run writesDocuments_roundInFiles alike same closed ended clean).repeated

/-- A documented rule, and a named object that shows no description. -/
def documented : List TypeDeclaration :=
  [{ name := "p.A", markers := [.rule {}], doc := some "Text." },
    { name := "p.B", markers := [.namedObject {}] }]

/-- The model of the two types. -/
def documentedModel : Model :=
  (Model.build documented []).toOption.getD ⟨#[]⟩

/-- The round on the two types keeps one description and writes two documents. -/
theorem exists_report_documented : ∃ report final,
    (roundInFiles FileTree.system documentedModel {}).run.run (.empty ["home"]) =
        (.ok report, final) ∧
      report.isSuccess ∧ report.descriptionsSaved = 1 ∧
        report.emitted.map (·.path) =
          ["target/metadata/A.xml", "target/metadata/named-objects/B.xml"] := by
  -- The round is small enough to be carried out.
  have outcome : ((roundInFiles FileTree.system documentedModel {}).run.run
      (.empty ["home"])).1.toOption.any fun report =>
        report.isSuccess && report.descriptionsSaved = 1 &&
          report.emitted.map (·.path) =
            ["target/metadata/A.xml", "target/metadata/named-objects/B.xml"] := by decide +kernel
  rcases ended : (roundInFiles FileTree.system documentedModel {}).run.run (.empty ["home"]) with
    ⟨halt | report, final⟩ <;> rw [ended] at outcome
  · cases outcome
  · simp only [Except.toOption, Option.any_some, Bool.and_eq_true, decide_eq_true_eq] at outcome
    obtain ⟨⟨success, saved⟩, paths⟩ := outcome
    exact ⟨report, final, rfl, success, saved, paths⟩

/-- The round on the two types can be repeated. -/
theorem roundInFiles_repeated_documented : ∃ report final again,
    (FileTree.empty ["home"]).IsClosed ∧
      (roundInFiles FileTree.system documentedModel {}).run.run (.empty ["home"]) =
        (.ok report, final) ∧
      report.descriptionsSaved = 1 ∧ report.emitted.map (·.path) =
        ["target/metadata/A.xml", "target/metadata/named-objects/B.xml"] ∧
      (roundInFiles FileTree.system documentedModel {}).run.run final = (.ok report, again) ∧
      again.home = final.home ∧ ∀ location, again.at? location = final.at? location := by
  obtain ⟨report, final, ended, success, saved, paths⟩ := exists_report_documented
  have closed := isClosed_empty ["home"]
  have valid : ({} : BuildOptions).validate = .ok () := by decide +kernel
  have output : LeadsDown ({} : BuildOptions).resourceOutput := by decide +kernel
  -- The resources are written below the home, and none of them outside of it.
  obtain ⟨again, ended_again, home, same⟩ := roundInFiles_repeated closed valid output
    (fun _ impossible => nomatch impossible) ended success
  exact ⟨report, final, again, closed, ended, saved, paths, ended_again, home, same⟩

end Command

end RuleMetadata

import RuleMetadata.Command.Run
import RuleMetadata.Proofs.Artifact.RoundTrip
import RuleMetadata.Proofs.Description.Reading
import RuleMetadata.Proofs.Round.Delivery
import RuleMetadata.Proofs.Round.Placement
import RuleMetadata.Proofs.Round.Tasks

/-! Rounds in files: every path holds the document that was delivered to it last. -/

namespace RuleMetadata

namespace FileTree

/-- The last of some deliveries whose path leads to the same place as another path. -/
def lastDelivery? (tree : FileTree) (deliveries : List Delivery) (path : String) :
    Option Delivery :=
  (deliveries.filter fun delivery =>
    -- Two paths may be spelled differently and lead to the same place.
    tree.locate delivery.emission.path = tree.locate path).getLast?

/-- A delivery in front of the last one to a place does not count. -/
theorem lastDelivery?_cons_of_eq_some {tree : FileTree} {rest : List Delivery} {path : String}
    {last : Delivery} (delivery : Delivery) (behind : tree.lastDelivery? rest path = some last) :
    tree.lastDelivery? (delivery :: rest) path = some last := by
  -- Whether the delivery leads there or not, there is one behind it that does.
  rw [lastDelivery?] at behind
  rw [lastDelivery?, List.filter_cons]
  split
  · rw [List.getLast?_cons, behind, Option.getD_some]
  · exact behind

/-- A delivery is the last one to its place if no other one behind it leads there. -/
theorem lastDelivery?_cons_self {tree : FileTree} {rest : List Delivery} {delivery : Delivery}
    (alone : ∀ other ∈ rest, tree.locate other.emission.path ≠ tree.locate delivery.emission.path) :
    tree.lastDelivery? (delivery :: rest) delivery.emission.path = some delivery := by
  -- No delivery behind it leads to the same location, so it is the last of one.
  have none_behind : rest.filter (fun other =>
      tree.locate other.emission.path = tree.locate delivery.emission.path) = [] :=
    List.filter_eq_nil_iff.2 fun other inside same => alone other inside (of_decide_eq_true same)
  rw [lastDelivery?, List.filter_cons, none_behind]
  simp

/-- Whether a path leads to a file that holds the document of an artifact. -/
def Holds (tree : FileTree) (path : String) (artifact : Artifact) : Prop :=
  ∃ location, tree.locate path = .ok location ∧
    tree.at? location = some (.file (.text (Document.render artifact)))

/-- A document that a path holds is read there, and parses to its artifact. -/
theorem Holds.parse_readText {tree : FileTree} {path : String} {artifact : Artifact}
    (holds : tree.Holds path artifact) (open_end : endsInSlash path = false)
    (distinct : artifact.attributes.IsDistinct) :
    ∃ text, tree.readText path = .ok text ∧ Document.parse text = .ok artifact := by
  -- What stands where the path leads is the written document, and that parses to its artifact.
  obtain ⟨location, located, stands⟩ := holds
  exact ⟨_, readText_eq_ok_iff.2 ⟨location, located, stands, open_end⟩,
    Document.parse_render distinct⟩

/-- Whether some deliveries lead from one tree to another one: the paths of all of them hold what
was delivered to them last, and no other file has changed. -/
structure Delivers (before final : FileTree) (deliveries : List Delivery) : Prop where
  grown : Grown (fun location => ∃ delivery ∈ deliveries,
    final.locate delivery.emission.path = .ok location) before final
  -- If several have the same place, it is the last one that is found there.
  holds : ∀ delivery ∈ deliveries, ∃ last,
    final.lastDelivery? deliveries delivery.emission.path = some last ∧
      final.Holds delivery.emission.path last.artifact

namespace Delivers

variable {before between final : FileTree} {rest : List Delivery}

/-- Without a delivery, the tree may stay as it is. -/
theorem refl (tree : FileTree) : Delivers tree tree [] :=
  ⟨.refl tree, by simp⟩

/-- Work that changes no file may come before the deliveries. -/
theorem skip (grown : Grown (fun _ => False) before between)
    (others : Delivers between final rest) : Delivers before final rest :=
  ⟨grown.of_none.trans others.grown, others.holds⟩

/-- A delivery stands unless another one is made to its place later. -/
theorem cons {delivery : Delivery} {target : Location}
    (grown : Grown (· = target) before between)
    (reached : between.locate delivery.emission.path = .ok target)
    (stands : between.at? target = some (.file (.text (Document.render delivery.artifact))))
    (others : Delivers between final rest) : Delivers before final (delivery :: rest) := by
  -- The first delivery can be changed only by one to its own place, and the last of those is known.
  have reached_final := others.grown.locate reached
  refine ⟨?_, List.forall_mem_cons.2 ⟨?_, fun other inside => ?_⟩⟩
  · -- What has changed is the place of this delivery, or that of one behind it.
    refine (grown.mono ?_).trans (others.grown.mono ?_)
    · rintro _ rfl
      exact ⟨delivery, List.mem_cons_self, reached_final⟩
    · rintro location ⟨other, inside, led⟩
      exact ⟨other, List.mem_cons_of_mem _ inside, led⟩
  · by_cases again : ∃ other ∈ rest, final.locate other.emission.path = .ok target
    · -- A later delivery to the same place has a last one, which is also the last to this path.
      obtain ⟨other, inside, led⟩ := again
      have same : final.locate delivery.emission.path = final.locate other.emission.path :=
        reached_final.trans led.symm
      obtain ⟨last, found, holds⟩ := others.holds other inside
      rw [Holds, ← same] at holds
      rw [lastDelivery?, ← same] at found
      exact ⟨last, lastDelivery?_cons_of_eq_some delivery found, holds⟩
    · -- No other delivery leads there, so this one is the last of its path and still stands.
      refine ⟨delivery, lastDelivery?_cons_self fun other inside same => ?_,
        target, reached_final, others.grown.stands stands again⟩
      exact again ⟨other, inside, same.trans reached_final⟩
  · -- A delivery in front of the others is never the last one to one of their places.
    obtain ⟨last, found, holds⟩ := others.holds other inside
    exact ⟨last, lastDelivery?_cons_of_eq_some delivery found, holds⟩

end Delivers

end FileTree

namespace Round

/-- Whether a round writes XML documents to a tree of files, and leaves the tree alone when it
reads descriptions. -/
structure WritesDocuments (round : Round (StateM FileTree)) : Prop where
  system : round.system = FileTree.system
  format : round.format = .xml
  -- A read that creates or changes files would count as work of the round.
  reads (position : Nat) (tree : FileTree) :
    ReadsAlike (round.descriptions.readAt round.model position) tree tree

variable {round : Round (StateM FileTree)} (writes : round.WritesDocuments)
include writes

/-- Assembling an artifact leaves the tree alone. -/
theorem assemble_run (task : Task) (tree : FileTree) :
    ((round.assemble task).run tree).2 = tree :=
  -- All it does to the tree is to read descriptions from it.
  keeps_of_readsAlike (fun tree => Task.readsAlike_assemble fun position =>
    writes.reads position tree) tree

/-- Emitting an artifact puts its document at the path that is reported. -/
theorem emit_run (artifact : Artifact) (warnings : List Warning) (tree : FileTree) :
    match (round.emit artifact warnings).run tree with
    | (.error _, failed) => FileTree.Grown (fun _ => False) tree failed
    | (.ok emission, final) => ∃ target, final.locate emission.path = .ok target ∧
        final.at? target = some (.file (.text (Document.render artifact))) ∧
        FileTree.Grown (· = target) tree final := by
  -- The round renders every artifact, so the text that is put at the path is its document.
  have rendered : round.format.render artifact = .ok (Document.render artifact) := by
    rw [writes.format]
    rfl
  have puts := FileSystem.isFallible_system.puts_replace (directory round.options artifact.kind)
    (round.format.path (directory round.options artifact.kind) artifact.name)
    (Document.render artifact) tree
  have written := FileSystem.writeArtifact_run FileTree.system round.format artifact
    (directory round.options artifact.kind) tree
  simp only [rendered] at written
  rw [emit, writes.system]
  rcases ended : (FileTree.system.replace (directory round.options artifact.kind)
      (round.format.path (directory round.options artifact.kind) artifact.name)
      (Document.render artifact)).run.run tree with ⟨cause | _, final⟩ <;>
    rw [ended] at puts written <;> rw [run_bind_of_ended written] <;> exact puts

/-- A task that writes an artifact either delivers it or changes no file. -/
theorem perform_delivers {task : Task} (job : task.job ≠ .keepDescription) {final : FileTree}
    {rest : List Delivery} {tree : FileTree}
    (others : FileTree.Delivers ((round.perform task).run tree).2 final rest) :
    FileTree.Delivers tree final ((round.delivery? (task, tree)).toList ++ rest) := by
  -- The task ends with what it has assembled: a name that is unusable, or a document to write.
  obtain ⟨result, made⟩ := Option.isSome_iff_exists.1 (Task.isSome_assemble_iff.2 job)
  have assembled : (round.assemble task).run tree = (some result, tree) :=
    Prod.ext made (assemble_run writes task tree)
  have performed := perform_of_assembled round assembled
  cases result with
  | error invalid =>
    have failed : (round.perform task).run tree = (.error (.invalidName invalid), tree) := performed
    rw [failed] at others
    rw [delivery?_of_error round failed]
    exact others
  | ok pair =>
    obtain ⟨artifact, warnings⟩ := pair
    have puts := emit_run writes artifact warnings tree
    rcases emitted : (round.emit artifact warnings).run tree with ⟨error | emission, next⟩ <;>
      rw [emitted] at puts
    · -- A failure to write has changed no file.
      have failed : (round.perform task).run tree = (.error error, next) := by
        rw [performed, complete, run_bind_of_ended emitted]
        rfl
      rw [failed] at others
      rw [delivery?_of_error round failed]
      exact .skip puts others
    · -- The document stands at its path, as long as no other one is delivered there.
      have succeeded : (round.perform task).run tree = (.ok (.artifact emission), next) := by
        rw [performed, complete, run_bind_of_ended emitted]
        rfl
      rw [succeeded] at others
      have delivered : round.delivery? (task, tree) = some ⟨task, artifact, emission⟩ := by
        simp [delivery?, assembled, succeeded]
      rw [delivered]
      obtain ⟨target, reached, stands, grown⟩ := puts
      exact .cons grown reached stands others

/-- Tasks that write artifacts leave behind what they deliver, whether they all succeed or not. -/
theorem performAll_delivers {tasks : List Task} (jobs : ∀ task ∈ tasks, task.job ≠ .keepDescription)
    (report : Report) (tree : FileTree) :
    FileTree.Delivers tree ((round.performAll round.options.failFast report tasks).run tree).2
      (round.deliveriesOf tasks tree) := by
  -- What a task has delivered may be replaced behind it, so the tasks behind it come first.
  induction tasks generalizing report tree with
  | nil => exact .refl tree
  | cons task rest ih =>
    obtain ⟨job, others⟩ := List.forall_mem_cons.1 jobs
    rw [deliveriesOf_cons]
    refine perform_delivers writes job ?_
    rw [performAll_cons_run]
    rcases (round.perform task).run tree with ⟨error | result, next⟩
    · dsimp only
      -- Nothing comes behind a failure that ends the round.
      split
      · exact .refl next
      · exact ih others _ next
    · exact ih others _ next

/-- A round that ends with a report leaves behind what it delivers. -/
theorem run_delivers {start final : FileTree} {report : Report}
    (ended : round.run.run start = (.ok report, final)) :
    ∃ tree, FileTree.Delivers tree final (round.deliveries start) := by
  -- The descriptions are kept first, so none of them can replace what is delivered.
  obtain ⟨middle, tree, rest, behind⟩ := round.exists_performAll_of_descriptions
    (fun _ inside => job_of_mem_descriptionTasks inside) ended
  have jobs : ∀ task ∈ artifactTasks round.model round.options, task.job ≠ .keepDescription :=
    fun _ inside => job_of_mem_artifactTasks inside
  have delivers := performAll_delivers writes jobs middle tree
  rw [rest, ← behind] at delivers
  exact ⟨tree, delivers⟩

end Round

/-- The name of a plain object's document is plain. -/
theorem DocumentFormat.isPlainSegment_fileName {object : String}
    (plain : Text.isPlainSegment object) :
    Text.isPlainSegment (object ++ "." ++ DocumentFormat.xml.extension) := by
  -- The extension has no characters that a name may not have.
  rw [String.append_assoc]
  exact Text.isPlainSegment_append plain (by decide)

/-- The path of a plain object's document does not end in a slash. -/
theorem DocumentFormat.endsInSlash_path {directory object : String}
    (plain : Text.isPlainSegment object) :
    FileTree.endsInSlash (DocumentFormat.xml.path directory object) = false :=
  -- The name of the file comes last, and it is a plain one.
  FileTree.endsInSlash_join (isPlainSegment_fileName plain) directory

/-- Documents of plain names have one path exactly if the names are equal and the directories are
the same, however their ends are spelled. -/
theorem DocumentFormat.path_eq_path_iff {directory other_directory object other : String}
    (plain : Text.isPlainSegment object) (other_plain : Text.isPlainSegment other) :
    DocumentFormat.xml.path directory object = DocumentFormat.xml.path other_directory other ↔
      Path.join directory "" = Path.join other_directory "" ∧ object = other := by
  -- The ending is the same for both, so that it can be taken away.
  rw [DocumentFormat.path, DocumentFormat.path,
    Path.join_eq_join_iff (Text.slash_not_mem_of_isPlainSegment (isPlainSegment_fileName plain))
      (Text.slash_not_mem_of_isPlainSegment (isPlainSegment_fileName other_plain))]
  simp

namespace Delivery.IsFaithful

variable {options : BuildOptions} {one other : Delivery}

/-- The path of a faithful delivery leads to a file. -/
theorem endsInSlash_path (faithful : one.IsFaithful options .xml) :
    FileTree.endsInSlash one.emission.path = false := by
  -- The path ends in the extension.
  rw [faithful.path]
  exact DocumentFormat.endsInSlash_path faithful.plain

/-- Faithful deliveries have one path exactly if their objects have one name and their directories
are the same. -/
theorem path_eq_path_iff (faithful : one.IsFaithful options .xml)
    (other_faithful : other.IsFaithful options .xml) :
    one.emission.path = other.emission.path ↔
      Path.join (Round.directory options one.emission.kind) "" =
          Path.join (Round.directory options other.emission.kind) "" ∧
        one.emission.object = other.emission.object := by
  -- The path of either one is its directory with the name of its object in it.
  rw [faithful.path, other_faithful.path,
    DocumentFormat.path_eq_path_iff faithful.plain other_faithful.plain, faithful.kind,
    other_faithful.kind, faithful.object, other_faithful.object]

end Delivery.IsFaithful

namespace Command

variable {model : Model} {options : BuildOptions}

/-- The stores of a command are in files, below the directories of descriptions. -/
theorem exists_root_of_mem_stores {store : Store (StateM FileTree)}
    (among : store ∈ (descriptionFiles FileTree.system options).input.toList ++
      [(descriptionFiles FileTree.system options).output]) :
    ∃ root ∈ [options.descriptionOutput, options.descriptionInput],
      store = .inFiles FileTree.system root := by
  simp only [descriptionFiles, DescriptionCache.ofStores] at among
  -- Two stores of one directory count as one.
  split at among
  · simp only [Option.toList_none, List.nil_append, List.mem_singleton] at among
    exact ⟨_, by simp, among⟩
  · simp only [Option.toList_some, List.cons_append, List.nil_append, List.mem_cons,
      List.not_mem_nil, or_false] at among
    rcases among with among | among <;> exact ⟨_, by simp, among⟩

/-- The round that a command runs writes XML documents, and only reads the files of descriptions
when it assembles artifacts. -/
theorem writesDocuments_roundInFiles :
    (roundInFiles FileTree.system model options).WritesDocuments where
  system := rfl
  format := rfl
  reads position := by
    -- In one tree, the stores find the same as they do there.
    refine fun tree => DescriptionCache.readsAlike_readAt ?_ model position
    intro _ _ _ store among
    obtain ⟨root, -, rfl⟩ := exists_root_of_mem_stores among
    exact Store.findsAlike_inFiles fun _ _ => rfl

/-- The emissions of a round in files are its deliveries in the order of the tasks. Each holds what
was assembled for its own type, and two of them have one path exactly if their objects have one
name and their directories are the same. At the end, the file at a path holds the artifact that was
the last one to be delivered to its place; an earlier one has been replaced. -/
theorem roundInFiles_delivers {start final : FileTree} {report : Report}
    (ended : (roundInFiles FileTree.system model options).run.run start = (.ok report, final)) :
    let round := roundInFiles FileTree.system model options
    let deliveries := round.deliveries start
    report.emitted = deliveries.map (·.emission) ∧
    (deliveries.map (·.task)).Sublist (Round.artifactTasks model options) ∧
    (∀ delivery ∈ deliveries, delivery.IsFaithful options .xml ∧ ∃ tree,
      (delivery.task, tree) ∈ round.turns (Round.tasks model options) start ∧
      ((round.assemble delivery.task).run tree).1 =
        some (.ok (delivery.artifact, delivery.emission.warnings))) ∧
    (∀ one ∈ deliveries, ∀ other ∈ deliveries, one.emission.path = other.emission.path ↔
      Path.join (Round.directory options one.emission.kind) "" =
          Path.join (Round.directory options other.emission.kind) "" ∧
        one.emission.object = other.emission.object) ∧
    ∀ delivery ∈ deliveries, ∃ last ∈ deliveries,
      final.lastDelivery? deliveries delivery.emission.path = some last ∧
        ∃ text, final.readText delivery.emission.path = .ok text ∧
          Document.parse text = .ok last.artifact := by
  intro round deliveries
  have writes : round.WritesDocuments := writesDocuments_roundInFiles
  -- What each delivery is does not depend on what is delivered behind it.
  have faithful (delivery : Delivery) (inside : delivery ∈ deliveries) :
      delivery.IsFaithful options .xml ∧ delivery.task.job ≠ .keepDescription :=
    round.isFaithful_of_mem_deliveriesOf inside
  obtain ⟨tree, delivers⟩ := Round.run_delivers writes ended
  refine ⟨round.emitted_of_performAll ended, round.deliveries_sublist start, fun delivery inside =>
    ⟨(faithful delivery inside).1, round.exists_turn_of_mem_deliveriesOf inside⟩, ?_, ?_⟩
  · -- A path is made from a directory and a plain name, and can be taken apart again.
    intro one one_inside other other_inside
    exact (faithful one one_inside).1.path_eq_path_iff (faithful other other_inside).1
  · -- What was delivered last is found by the path, and its document parses to its artifact.
    intro delivery inside
    obtain ⟨last, found, holds⟩ := delivers.holds delivery inside
    have last_inside : last ∈ deliveries :=
      List.mem_of_mem_filter (List.mem_of_getLast? found)
    exact ⟨last, last_inside, found, holds.parse_readText
      (faithful delivery inside).1.endsInSlash_path (faithful last last_inside).1.distinct⟩

/-- Two rules that have one simple name in different packages. -/
def namesakes : List TypeDeclaration :=
  [{ name := "p.A", markers := [.rule {}] }, { name := "q.A", markers := [.rule {}] }]

/-- The model of the two rules. -/
def namesakesModel : Model :=
  (Model.build namesakes []).toOption.getD ⟨#[]⟩

/-- The two rules are both written to one path. -/
theorem exists_report_namesakes : ∃ report final,
    (roundInFiles FileTree.system namesakesModel {}).run.run (.empty ["home"]) =
        (.ok report, final) ∧
      report.emitted.map (·.path) = ["target/metadata/A.xml", "target/metadata/A.xml"] := by
  -- The round is small enough to be carried out.
  have paths : (((roundInFiles FileTree.system namesakesModel {}).run.run
      (.empty ["home"])).1.toOption.map fun report => report.emitted.map (·.path)) =
        some ["target/metadata/A.xml", "target/metadata/A.xml"] := by decide +kernel
  rcases ended : (roundInFiles FileTree.system namesakesModel {}).run.run (.empty ["home"]) with
    ⟨halt | report, final⟩ <;> rw [ended] at paths
  · cases paths
  · exact ⟨report, final, rfl, Option.some.inj paths⟩

/-- The round of the two rules reports both of them, and what stands at their path in the end is one
of those written there. -/
theorem roundInFiles_delivers_namesakes : ∃ report final,
    (roundInFiles FileTree.system namesakesModel {}).run.run (.empty ["home"]) =
        (.ok report, final) ∧
      let round := roundInFiles FileTree.system namesakesModel {}
      let deliveries := round.deliveries (.empty ["home"])
      report.emitted = deliveries.map (·.emission) ∧
      ∀ delivery ∈ deliveries, ∃ last ∈ deliveries,
        final.lastDelivery? deliveries delivery.emission.path = some last ∧
          ∃ text, final.readText delivery.emission.path = .ok text ∧
            Document.parse text = .ok last.artifact := by
  -- Nothing is asked of the round but that it ends with a report.
  obtain ⟨report, final, ended, -⟩ := exists_report_namesakes
  obtain ⟨emitted, -, -, -, stand⟩ := roundInFiles_delivers ended
  exact ⟨report, final, ended, emitted, stand⟩

/-- The paths of a round's emissions may coincide, since an object name need not be unique. -/
theorem emittedPaths_not_distinct : ¬ ∀ (sources classpath : List TypeDeclaration) (model : Model)
    (options : BuildOptions) (start final : FileTree) (report : Report),
    Model.build sources classpath = .ok model → options.validate = .ok () →
    (roundInFiles FileTree.system model options).run.run start = (.ok report, final) →
    (report.emitted.map (·.path)).Nodup := by
  -- The two rules have the same name, and so the same path.
  intro distinct
  have built : Model.build namesakes [] = .ok namesakesModel := by decide +kernel
  obtain ⟨report, final, ended, paths⟩ := exists_report_namesakes
  have valid : ({} : BuildOptions).validate = .ok () := by decide +kernel
  have nodup := distinct namesakes [] namesakesModel {} _ final report built valid ended
  rw [paths] at nodup
  simp at nodup

end Command

end RuleMetadata

import RuleMetadata.Proofs.Description.Key
import RuleMetadata.Proofs.Round.Emission

/-! The footprint of a round in files: it creates and overwrites documents and descriptions of its
own elements, loses no file, and leaves no temporary file behind. -/

namespace RuleMetadata

namespace FileTree

/-- Whether work on a tree has changed no file but those that some paths lead to in the end. -/
def Touches (paths : String → Prop) (before after : FileTree) : Prop :=
  Grown (fun location => ∃ path, paths path ∧ after.locate path = .ok location) before after

namespace Touches

variable {paths : String → Prop} {before between after : FileTree}

/-- Work that changes no file touches none. -/
theorem of_grown (grown : Grown (fun _ => False) before after) : Touches paths before after :=
  grown.of_none

/-- Nothing is touched by doing nothing. -/
theorem refl (tree : FileTree) : Touches paths tree tree :=
  .of_grown (.refl tree)

/-- What two pieces of work touch is touched by doing one after the other. -/
theorem trans (first : Touches paths before between) (second : Touches paths between after) :
    Touches paths before after := by
  -- A path that led to a file that was touched still leads there in the end.
  refine (Grown.mono first ?_).trans second
  rintro location ⟨path, own, led⟩
  exact ⟨path, own, second.toKeepsDirectories.locate led⟩

/-- Work that changes the file at one path touches no other one. -/
theorem of_target {path : String} {location : Location} (own : paths path)
    (led : after.locate path = .ok location) (grown : Grown (· = location) before after) :
    Touches paths before after :=
  Grown.mono grown fun _ here => ⟨path, own, here ▸ led⟩

/-- A file that has changed stands where one of the paths leads. -/
theorem exists_path (touches : Touches paths before after) {location : Location}
    (differs : after.file? location ≠ before.file? location) :
    ∃ path, paths path ∧ after.locate path = .ok location := by
  -- What is touched by no path has not changed.
  by_contra untouched
  exact differs (touches.file untouched)

end Touches

/-- Writing a text to a file touches no file but that one. -/
theorem touches_writeText {paths : String → Prop} {path : String} (own : paths path) (text : String)
    (tree : FileTree) : Touches paths tree ((system.writeText path text).run tree).2 := by
  rw [writeText_run]
  -- Either nothing is written, or a file is put where the path leads.
  cases written : tree.write path (.text text) with
  | error cause => exact .refl tree
  | ok next =>
    obtain ⟨location, led, free, -, rfl⟩ := write_eq_ok_iff.1 written
    have located := (locateNew_eq_ok_iff.1 led).1
    have grown := (isPut_put (ne_nil_of_at?_ne free) (.text text) tree).grown free
    exact .of_target own (grown.toKeepsDirectories.locate located) grown

end FileTree

open FileTree

/-- Keeping a text under a key touches no file but that of the key. -/
theorem Store.touches_write_inFiles {paths : String → Prop} {root key path : String}
    (led : keyPath root key = .ok path) (own : paths path) (text : String) (tree : FileTree) :
    Touches paths tree (((inFiles FileTree.system root).write key text).run tree).2 := by
  have written (made : FileTree) := touches_writeText own text made
  simp only [inFiles, led]
  cases Path.parent? path with
  | none => exact written tree
  | some parent =>
    -- Directories are made first, and that touches no file.
    have grown : Touches paths tree ((FileTree.system.createDirectories parent).run tree).2 :=
      .of_grown (grown_createFrom _ _ _)
    dsimp only
    rcases made : (FileTree.system.createDirectories parent).run tree with ⟨cause | _, next⟩ <;>
      rw [made] at grown <;> rw [run_bind_of_ended made]
    · exact grown
    · exact grown.trans (written next)

/-- Saving the description of an element touches no file but that of its key. -/
theorem DescriptionCache.touches_save {paths : String → Prop}
    {cache : DescriptionCache (StateM FileTree)} {root : String}
    (output : cache.output = .inFiles FileTree.system root) {element : Element}
    (own : ∀ key, element.resourceKey? = some key → paths (Path.join root key)) (tree : FileTree) :
    Touches paths tree ((cache.save element).run tree).2 := by
  -- Without a key or a text, nothing is written.
  cases keyed : element.resourceKey? with
  | none =>
    simp only [save, keyed]
    exact .refl tree
  | some key =>
    cases live : element.liveText? with
    | none =>
      simp only [save, keyed, live]
      exact .refl tree
    | some text =>
      have accepted := (Element.keyPath_resourceKey? keyed root).1
      have written := Store.touches_write_inFiles accepted (own key keyed) text tree
      simp only [save, keyed, live, output]
      rcases ended : ((Store.inFiles FileTree.system root).write key text).run tree with
        ⟨cause | _, next⟩ <;> rw [ended] at written <;> rw [run_bind_of_ended ended] <;>
        exact written

namespace Round

/-- The paths of a round's own files: those of the documents of the top-level types of the sources,
by the object names that their markers give them, and those of the descriptions of the marked
elements of the sources, by their keys. -/
inductive IsOwnPath (model : Model) (options : BuildOptions) : String → Prop
  | rule {element : Element} {marker : RuleMarker} {object : String}
      (inside : element ∈ model.elements) (emits : emitsArtifacts element)
      (marked : element.marker? .rule = some (.rule marker))
      (named : Extraction.objectName element marker.nameOverride = .ok object) :
      IsOwnPath model options (Path.join options.rulesRoot (object ++ ".xml"))
  -- Named objects have a directory of their own below their root.
  | namedObject {element : Element} {marker : NamedObjectMarker} {object : String}
      (inside : element ∈ model.elements) (emits : emitsArtifacts element)
      (marked : element.marker? .namedObject = some (.namedObject marker))
      (named : Extraction.objectName element marker.nameOverride = .ok object) :
      IsOwnPath model options
        (Path.join (Path.join options.namedObjectsRoot "named-objects") (object ++ ".xml"))
  -- A description may be kept for any element, not for types alone.
  | description {element : Element} {key : String}
      (inside : element ∈ model.elements) (kept : keepsDescription element)
      (keyed : element.resourceKey? = some key) :
      IsOwnPath model options (Path.join options.descriptionOutput key)

variable {model : Model} {options : BuildOptions} {path : String}

/-- Every path of a round's own is that of a directory with a plain name behind it, which is not
the name of a temporary file. -/
theorem IsOwnPath.exists_join (own : IsOwnPath model options path) : ∃ directory name,
    path = Path.join directory name ∧ Text.isPlainSegment name ∧
      ∀ index, name ≠ temporaryName index := by
  -- Whatever the name is, its ending is one that no temporary file has.
  have document {object : String} (plain : Text.isPlainSegment object) :
      Text.isPlainSegment (object ++ ".xml") ∧ ∀ index, object ++ ".xml" ≠ temporaryName index := by
    have ends : (object ++ ".xml").toList.getLast? = some 'l' := by
      simp [String.toList_append]
    exact ⟨Text.isPlainSegment_append plain (by decide), ne_temporaryName ends (by decide)⟩
  cases own with
  | rule inside emits marked named =>
    exact ⟨_, _, rfl, document (Extraction.isPlainSegment_of_objectName named)⟩
  | namedObject inside emits marked named =>
    exact ⟨_, _, rfl, document (Extraction.isPlainSegment_of_objectName named)⟩
  | @description element key inside kept keyed =>
    obtain ⟨-, plain, directory, joined⟩ := Element.keyPath_resourceKey? keyed
      options.descriptionOutput
    exact ⟨directory, _, joined, plain, ne_temporaryName element.getLast?_keyFile (by decide)⟩

/-- A path of a round's own never leads to where a temporary file could be. -/
theorem IsOwnPath.locate_ne {tree : FileTree} {location : Location}
    (own : IsOwnPath model options path) (located : tree.locate path = .ok location)
    (directory : Location) (index : Nat) : location ≠ directory ++ [temporaryName index] := by
  obtain ⟨base, name, rfl, plain, other⟩ := own.exists_join
  -- The path leads to a location that has its last name.
  obtain ⟨reached, -, rfl⟩ := locate_join_eq_ok plain located
  intro same
  have names := (List.append_inj' same rfl).2
  exact other index (List.cons.inj names).1

/-- The document of what a task assembles has a path of the round's own. -/
theorem isOwnPath_of_assemble {σ : Type} {task : Task}
    (inside : task ∈ artifactTasks model options) {extraction : Extraction (StateM σ)} {state : σ}
    {artifact : Artifact} {warnings : List Warning}
    (assembled : ((task.assemble options extraction).run state).1 =
      some (.ok (artifact, warnings))) :
    IsOwnPath model options
      (DocumentFormat.xml.path (directory options artifact.kind) artifact.name) := by
  obtain ⟨found, emits, called⟩ := mem_artifactTasks_iff.1 inside
  have listed := Array.mem_of_getElem? found
  have spelled (directory object : String) :
      DocumentFormat.xml.path directory object = Path.join directory (object ++ ".xml") := by
    rw [DocumentFormat.path, String.append_assoc]
    rfl
  rw [spelled]
  -- The marker of the job is the one that names the object.
  rcases Task.assemble_cases assembled with
    ⟨marker, rule, job, rfl, made⟩ | ⟨marker, object, job, rfl, made⟩
  · rw [job] at called
    exact .rule listed emits (marker?_of_mem_artifactJobs called)
      (Extraction.objectName_of_rule made)
  · rw [job] at called
    exact .namedObject listed emits (marker?_of_mem_artifactJobs called)
      (Extraction.objectName_of_namedObject made)

variable {round : Round (StateM FileTree)}

/-- Emitting an artifact touches no file but its document. -/
theorem touches_emit (writes : round.WritesDocuments) {paths : String → Prop} {artifact : Artifact}
    (own : paths (DocumentFormat.xml.path (directory round.options artifact.kind) artifact.name))
    (warnings : List Warning) (tree : FileTree) :
    Touches paths tree ((round.emit artifact warnings).run tree).2 := by
  have puts := emit_run writes artifact warnings tree
  rcases emitted : (round.emit artifact warnings).run tree with ⟨error | emission, next⟩ <;>
    rw [emitted] at puts
  · exact .of_grown puts
  · -- The document stands at the path that is reported, which is that of its name.
    obtain ⟨target, led, -, grown⟩ := puts
    have reported := of_emit_eq_ok round (congrArg Prod.fst emitted)
    rw [reported, writes.format] at led
    exact .of_target own led grown

/-- Each task of a round touches files of the round's own alone, whether it succeeds or not. -/
theorem touches_perform (writes : round.WritesDocuments)
    (output : round.descriptions.output = .inFiles FileTree.system round.options.descriptionOutput)
    {task : Task} (inside : task ∈ tasks round.model round.options) (tree : FileTree) :
    Touches (IsOwnPath round.model round.options) tree ((round.perform task).run tree).2 := by
  rcases List.mem_append.1 inside with keeps | emits
  · -- A description is saved for a marked element of the sources.
    obtain ⟨found, kept, job⟩ := of_mem_descriptionTasks keeps
    have own (key : String) (keyed : task.element.resourceKey? = some key) :
        IsOwnPath round.model round.options (Path.join round.options.descriptionOutput key) :=
      .description (Array.mem_of_getElem? found) kept keyed
    simp only [perform, job, StateT.run_bind]
    exact DescriptionCache.touches_save output own tree
  · -- Any other task ends with what it has assembled, a name that is unusable or a document.
    have job := job_of_mem_artifactTasks emits
    obtain ⟨result, made⟩ := Option.isSome_iff_exists.1 (Task.isSome_assemble_iff.2 job)
    have assembled : (round.assemble task).run tree = (some result, tree) :=
      Prod.ext made (assemble_run writes task tree)
    rw [perform_of_assembled round assembled]
    rcases result with invalid | ⟨artifact, warnings⟩
    · exact .refl tree
    · have own := isOwnPath_of_assemble emits made
      exact touches_emit writes own warnings tree

/-- A round touches files of its own alone, however far it goes. -/
theorem touches_run (writes : round.WritesDocuments)
    (output : round.descriptions.output = .inFiles FileTree.system round.options.descriptionOutput)
    (tree : FileTree) :
    Touches (IsOwnPath round.model round.options) tree (round.run.run tree).2 :=
  -- What has been touched since the start is the invariant of the run.
  performAll_invariant round
    (fun _ inside between touched => touched.trans (touches_perform writes output inside between))
    round.options.failFast {} (.refl tree)

end Round

namespace Command

/-- A round in files touches its own files alone, whether it ends with a report or is halted. Every
file that is there in the end and was not at the start, or has another content, is the document of a
marked top-level type of the sources or the description of a marked element of them. No file is
lost, and where temporary files could be, everything is as it was. -/
theorem roundInFiles_footprint (model : Model) (options : BuildOptions) (start : FileTree) :
    let final := ((roundInFiles FileTree.system model options).run.run start).2
    (∀ location, final.file? location ≠ start.file? location →
      ∃ path, Round.IsOwnPath model options path ∧ final.locate path = .ok location) ∧
    (∀ location, start.file? location ≠ none → final.file? location ≠ none) ∧
    ∀ directory index, final.file? (directory ++ [temporaryName index]) =
      start.file? (directory ++ [temporaryName index]) := by
  intro final
  have output : (roundInFiles FileTree.system model options).descriptions.output =
      .inFiles FileTree.system options.descriptionOutput := by
    simp only [roundInFiles, descriptionFiles, DescriptionCache.ofStores]
    split <;> rfl
  have touches : Touches (Round.IsOwnPath model options) start final :=
    Round.touches_run writesDocuments_roundInFiles output start
  refine ⟨fun location differs => touches.exists_path differs, fun location standing =>
    touches.kept standing, fun directory index => ?_⟩
  -- A temporary file that was left behind would stand where one of the paths leads.
  by_contra differs
  obtain ⟨path, own, located⟩ := touches.exists_path differs
  exact own.locate_ne located directory index rfl

/-- A documented rule, and a named object with a name that would lead out of its directory. -/
def escaping : List TypeDeclaration :=
  [{ name := "p.A", markers := [.rule {}], doc := some "Text." },
    { name := "p.B", markers := [.namedObject { value := some "../B" }] }]

/-- The model of the two types. -/
def escapingModel : Model :=
  (Model.build escaping []).toOption.getD ⟨#[]⟩

/-- Options under which the first failure ends the round. -/
def escapingOptions : BuildOptions :=
  { rulesOutput := some "out", resourceOutput := "kept", failFast := true }

/-- The round is halted at the named object, when the files of the rule have been written. -/
theorem exists_halt_escaping : ∃ halt final,
    (roundInFiles FileTree.system escapingModel escapingOptions).run.run (.empty []) =
        (.error halt, final) ∧
      ∀ location ∈ [["out", "A.xml"], ["kept", "descriptions", "p", "A.type.txt"]],
        final.file? location ≠ none := by
  -- The round is small enough to be carried out.
  have outcome :
      let ended := (roundInFiles FileTree.system escapingModel escapingOptions).run.run (.empty [])
      ended.1.toOption.isNone ∧
        ∀ location ∈ [["out", "A.xml"], ["kept", "descriptions", "p", "A.type.txt"]],
          ended.2.file? location ≠ none := by decide +kernel
  rcases ended : (roundInFiles FileTree.system escapingModel escapingOptions).run.run
      (.empty []) with ⟨halt | report, final⟩ <;> rw [ended] at outcome
  · exact ⟨halt, final, rfl, outcome.2⟩
  · cases outcome.1

/-- The files that the halted round has written lie where own paths lead. -/
theorem roundInFiles_footprint_escaping : ∃ halt final,
    (roundInFiles FileTree.system escapingModel escapingOptions).run.run (.empty []) =
        (.error halt, final) ∧
      ∀ location ∈ [["out", "A.xml"], ["kept", "descriptions", "p", "A.type.txt"]],
        ∃ path, Round.IsOwnPath escapingModel escapingOptions path ∧
          final.locate path = .ok location := by
  obtain ⟨halt, final, ended, standing⟩ := exists_halt_escaping
  have footprint := roundInFiles_footprint escapingModel escapingOptions (.empty [])
  rw [ended] at footprint
  -- There were no files at the start, so whatever stands in the end has been touched.
  have bare (location : Location) : (FileTree.empty []).file? location = none := by
    by_cases root : location = [] <;> simp [FileTree.empty, file?, at?, root, Entry.content?]
  refine ⟨halt, final, ended, fun location among => footprint.1 location ?_⟩
  rw [bare]
  exact standing location among

end Command

end RuleMetadata

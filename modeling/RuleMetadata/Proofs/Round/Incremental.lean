import Mathlib.Data.List.Pairwise
import RuleMetadata.Files.Tree
import RuleMetadata.Proofs.Model.Outline
import RuleMetadata.Proofs.Round.InMemory
import RuleMetadata.Proofs.Round.Tasks
import RuleMetadata.Proofs.Text.Blank
import RuleMetadata.Proofs.Walk.Ways

/-! Rounds after one another: what was compiled before shows the same descriptions as ever. -/

namespace RuleMetadata

namespace Model

/-- Whether no two elements of a model have one key. -/
def KeysDistinct (model : Model) : Prop :=
  (model.elements.toList.filterMap (·.resourceKey?)).Nodup

/-- Whether every marked element that is documented has a key. -/
def MarkedKeyed (model : Model) : Prop :=
  ∀ element ∈ model.elements.toList, element.markers ≠ [] → element.liveText?.isSome →
    element.resourceKey?.isSome

instance (model : Model) : Decidable model.KeysDistinct :=
  inferInstanceAs (Decidable (List.Nodup _))

instance (model : Model) : Decidable model.MarkedKeyed :=
  inferInstanceAs (Decidable (∀ _ ∈ _, _))

/-- A key belongs to one element of a model at most. -/
theorem KeysDistinct.eq_of_resourceKey? {model : Model} (distinct : model.KeysDistinct)
    {one other : Element} (one_inside : one ∈ model.elements.toList)
    (other_inside : other ∈ model.elements.toList) {key : String}
    (one_keyed : one.resourceKey? = some key) (other_keyed : other.resourceKey? = some key) :
    one = other := by
  -- Distinct keys hold pairwise, in whichever order the two elements stand.
  rw [KeysDistinct, List.Nodup, List.pairwise_filterMap] at distinct
  have symmetric : Std.Symm fun left right : Element => ∀ key, left.resourceKey? = some key →
      ∀ other, right.resourceKey? = some other → key ≠ other :=
    ⟨fun _ _ apart _ right _ left => (apart _ left _ right).symm⟩
  by_contra differ
  exact distinct.forall one_inside other_inside differ key one_keyed key other_keyed rfl

/-- Only elements of the sources have live documentation. -/
theorem origin_of_liveText? {sources classpath : List TypeDeclaration} {model : Model}
    (built : build sources classpath = .ok model) {element : Element}
    (inside : element ∈ model.elements.toList) (live : element.liveText?.isSome) :
    element.origin = .source := by
  -- The elements are laid out from the classpath in front and from the sources behind.
  rw [elements_of_build built, List.mem_map] at inside
  obtain ⟨unlinked, inside, rfl⟩ := inside
  rcases List.mem_append.1 inside with front | back
  · -- What comes from the classpath is an outline, and has no documentation.
    rw [declarationsElements_classpath .source, List.mem_map] at front
    obtain ⟨_, _, rfl⟩ := front
    simp [linked, Element.liveText?, Element.outline] at live
  · exact origin_declarationsElements _ _ _ unlinked back

end Model

namespace Round

section Bridge

variable {sources classpath : List TypeDeclaration} {model : Model} {options : BuildOptions}
  (built : Model.build sources classpath = .ok model) (distinct : model.KeysDistinct)
  (keyed : model.MarkedKeyed) (kept : options.skipDescriptions = false)

/-- The elements whose descriptions are kept in a later round are some of those before. -/
theorem mem_descriptionTasks_of_compiledUpTo (border : Nat) {task : Task}
    (kept : options.skipDescriptions = false)
    (inside : task ∈ descriptionTasks (model.compiledUpTo border) options) :
    task ∈ descriptionTasks model options := by
  -- An element that is not an outline stands at the same position as before.
  rw [mem_descriptionTasks_iff kept, Model.compiledUpTo_getElem?, Option.map_eq_some_iff] at inside
  obtain ⟨⟨element, found, same⟩, keeps, job⟩ := inside
  rw [mem_descriptionTasks_iff kept]
  split at same
  · -- What was compiled before is not from the sources.
    rw [← same] at keeps
    simp [keepsDescription, Element.outline] at keeps
  · exact ⟨same ▸ found, keeps, job⟩

include distinct kept

/-- After the descriptions were kept, each of them stands under its key. -/
theorem text?_memoryAfter {memory : MemoryStore} (working : memory.IsWorking) {tasks : List Task}
    (among : ∀ task ∈ tasks, task ∈ descriptionTasks model options) {task : Task}
    (inside : task ∈ tasks) {key text : String} (task_keyed : task.element.resourceKey? = some key)
    (live : task.element.liveText? = some text) :
    (memoryAfter memory tasks).text? key = some text := by
  -- No other task has the key, since the keys of a model are distinct.
  have member (other : Task) (other_inside : other ∈ tasks) :
      other.element ∈ model.elements.toList :=
    Array.mem_toList_iff.2
      (Array.mem_of_getElem? ((mem_descriptionTasks_iff kept).1 (among other other_inside)).1)
  refine MemoryStore.text?_foldl_saved working (List.mem_map_of_mem inside) task_keyed live ?_
  refine List.forall_mem_map.2 fun other other_inside other_keyed => ?_
  exact distinct.eq_of_resourceKey? (member other other_inside) (member task inside) other_keyed
    task_keyed

/-- Keeping some of the descriptions once more changes no text. -/
theorem text?_memoryAfter_again {memory : MemoryStore} (working : memory.IsWorking)
    {tasks : List Task} (among : ∀ task ∈ tasks, task ∈ descriptionTasks model options)
    (key : String) :
    (memoryAfter (memoryAfter memory (descriptionTasks model options)) tasks).text? key =
      (memoryAfter memory (descriptionTasks model options)).text? key := by
  -- Either none of the tasks writes under the key, or one of them does.
  have still := isWorking_memoryAfter working (descriptionTasks model options)
  by_cases silent : ∀ element ∈ tasks.map (·.element),
      element.resourceKey? = some key → element.liveText? = none
  · exact MemoryStore.text?_foldl_saved_of_silent silent
  · -- A task that writes under the key has written the same text there before.
    simp only [List.forall_mem_map, not_forall] at silent
    obtain ⟨task, inside, task_keyed, spoken⟩ := silent
    obtain ⟨text, live⟩ := Option.ne_none_iff_exists'.1 spoken
    rw [text?_memoryAfter distinct kept still among inside task_keyed live,
      text?_memoryAfter distinct kept working (fun _ => id) (among task inside) task_keyed live]

include built keyed

/-- A marked element shows the description in a later round that it showed before. -/
theorem description_memoryAfter {memory : MemoryStore} (working : memory.IsWorking) (border : Nat)
    {position : Nat} {element : Element} (found : model.elements[position]? = some element)
    (marked : element.markers ≠ []) :
    (memoryAfter (memoryAfter memory (descriptionTasks model options))
        (descriptionTasks (model.compiledUpTo border) options)).description
          (if position < border then element.outline else element) =
      (memoryAfter memory (descriptionTasks model options)).description element := by
  have inside : element ∈ model.elements.toList :=
    Array.mem_toList_iff.2 (Array.mem_of_getElem? found)
  -- What the later round saves is in the memory already.
  have again (key : String) := text?_memoryAfter_again distinct kept working
    (fun _ => mem_descriptionTasks_of_compiledUpTo border kept) key
  cases live : element.liveText? with
  | none =>
    -- Without live documentation both rounds ask the memory, under the same key.
    have later : (if position < border then element.outline else element).liveText? = none := by
      split <;> simp [live]
    have same_key : (if position < border then element.outline else element).resourceKey? =
        element.resourceKey? := by
      split <;> rfl
    simp only [MemoryStore.description, live, later, same_key, again]
  | some text =>
    -- Live documentation was saved in the first round, under a key that no other element has.
    have source := Model.origin_of_liveText? built inside (by simp [live])
    have task : ⟨position, element, .keepDescription⟩ ∈ descriptionTasks model options :=
      (mem_descriptionTasks_iff kept).2 ⟨found, by simp [keepsDescription, source, marked], rfl⟩
    obtain ⟨key, element_key⟩ :=
      Option.isSome_iff_exists.1 (keyed element inside marked (by simp [live]))
    have there := text?_memoryAfter distinct kept working (fun _ => id) task element_key live
    split
    · -- What was live is read back from the memory, and trimming it again changes nothing.
      have trimmed : Text.nonBlank? text = some text := by
        obtain ⟨doc, _, found⟩ := Option.bind_eq_some_iff.1 live
        exact Text.nonBlank?_of_nonBlank? found
      simp only [MemoryStore.description, Element.outline_liveText?, Element.outline_resourceKey?,
        live, element_key, again, there, trimmed, Option.bind_some]
    · simp only [MemoryStore.description, live]

/-- A later round describes a marked type and what its artifact shows as they were described
before. -/
theorem describe_memoryAfter {memory : MemoryStore} (working : memory.IsWorking) (border : Nat)
    {root : Nat} {element : Element} (found : model.elements[root]? = some element)
    (marked : element.markers ≠ []) {position : Nat}
    (shown : position ∈ (model.compiledUpTo border).visits .argument root ++ [root]) :
    (memoryAfter (memoryAfter memory (descriptionTasks model options))
        (descriptionTasks (model.compiledUpTo border) options)).describe
          (model.compiledUpTo border) position =
      (memoryAfter memory (descriptionTasks model options)).describe model position := by
  -- The walk does not see documentation, so it visits the same elements in both rounds.
  have visits : (model.compiledUpTo border).visits .argument root =
      model.visits .argument root := by
    rw [← Model.outline_visits, Model.outline_compiledUpTo, Model.outline_visits]
  rw [visits] at shown
  -- Every element that is shown carries a marker.
  obtain ⟨other, there, other_marked⟩ : ∃ other, model.elements[position]? = some other ∧
      other.markers ≠ [] := by
    rcases List.mem_append.1 shown with visited | own
    · obtain ⟨other, there, carries⟩ :=
        (Option.any_eq_true _ _).1 (Model.isMarked_of_mem_visitsFrom visited)
      refine ⟨other, there, fun empty => ?_⟩
      simp [Element.carries, Element.marker?, empty] at carries
    · exact ⟨element, List.mem_singleton.1 own ▸ found, marked⟩
  simp only [MemoryStore.describe, Model.compiledUpTo_getElem?, there, Option.map_some,
    Option.bind_some]
  exact description_memoryAfter built distinct keyed kept working border there other_marked

end Bridge

/-- A task assembles the same from two models of one outline and equal descriptions. -/
theorem assemble_congr {task : Task} {options : BuildOptions} {containers : List String}
    {one other : Model} {texts : Descriptions} (same : one.outline = other.outline) :
    task.assemble options (⟨one, containers, texts⟩ : Extraction) =
      task.assemble options (⟨other, containers, texts⟩ : Extraction) := by
  -- Signature and attributes are all that is taken from the model.
  have signature (root : Nat) : one.signature (m := Id) containers texts root =
      other.signature (m := Id) containers texts root := by
    rw [← Model.outline_signature, same, Model.outline_signature]
  have attributes (root : Nat) : one.attributes root = other.attributes root := by
    rw [← Model.outline_attributes, same, Model.outline_attributes]
  obtain ⟨position, element, job⟩ := task
  cases job <;>
    simp only [Task.assemble, Extraction.rule, Extraction.namedObject, signature, attributes]

/-- The artifacts of a later round are those on what was not compiled yet. -/
theorem le_position_of_mem_artifactTasks_compiledUpTo {model : Model} {options : BuildOptions}
    {border : Nat} {task : Task}
    (inside : task ∈ artifactTasks (model.compiledUpTo border) options) :
    border ≤ task.position := by
  obtain ⟨found, source, _⟩ := mem_artifactTasks_iff.1 inside
  rw [Model.compiledUpTo_getElem?, Option.map_eq_some_iff] at found
  obtain ⟨element, _, same⟩ := found
  -- In front of the border there are outlines only, and those are not from the sources.
  by_contra before
  rw [if_pos (Nat.lt_of_not_le before)] at same
  rw [← same] at source
  simp [emitsArtifacts, Element.outline] at source

section Rounds

variable {Other : Type} {options : BuildOptions} {sources classpath : List TypeDeclaration}
  {model : Model} (built : Model.build sources classpath = .ok model)
  (distinct : model.KeysDistinct) (keyed : model.MarkedKeyed)
  (kept : options.skipDescriptions = false)
  (system laterSystem : FileSystem (StateM Other)) (format laterFormat : DocumentFormat)
  (location : String)
include built distinct keyed kept

/-- A round and a later one over the same memory, in which what is in front of a border was compiled
before, assemble the same for every task of the later one. -/
theorem assembleAlike_compiledUpTo (border : Nat) (files laterFiles : Other) :
    let before := inMemory model options system format location
    let after := inMemory (model.compiledUpTo border) options laterSystem laterFormat location
    AssembleAlike before after ({}, files) ((before.run.run ({}, files)).2.1, laterFiles)
      (artifactTasks (model.compiledUpTo border) options) := by
  have working : ({} : MemoryStore).IsWorking := ⟨rfl, rfl⟩
  have keeps (model : Model) : ∀ task ∈ descriptionTasks model options,
      task.job = .keepDescription := fun _ => job_of_mem_descriptionTasks
  have emits (model : Model) : ∀ task ∈ artifactTasks model options,
      task.job ≠ .keepDescription := fun _ => job_of_mem_artifactTasks
  rintro before after task inside ⟨memory, state⟩ ⟨laterMemory, laterState⟩ turn laterTurn
  obtain ⟨earlier, split, _⟩ := @artifactTasks_compiledUpTo model options border
  have among : task ∈ artifactTasks model options := split ▸ List.mem_append_right _ inside
  obtain ⟨found, _, called⟩ := mem_artifactTasks_iff.1 among
  obtain ⟨marked, job⟩ := of_mem_artifactJobs called
  -- Both rounds assemble from the memory as it is once all descriptions were kept.
  have first_memory : memory = memoryAfter {} (descriptionTasks model options) :=
    turns_inMemory (keeps model) (emits model) working _ turn job
  have second_memory : laterMemory = memoryAfter (memoryAfter {} (descriptionTasks model options))
      (descriptionTasks (model.compiledUpTo border) options) :=
    turns_inMemory (keeps _) (emits _)
      (isWorking_memoryAfter working (descriptionTasks model options)) _
      (performAll_inMemory (keeps model) (emits model) working options.failFast {} ▸ laterTurn) job
  -- What is shown is described in the later round as in the first one.
  rw [assemble_inMemory (memory.describe model) fun _ _ => rfl,
    assemble_inMemory (memory.describe model) fun position shown => by
      rw [first_memory, second_memory]
      exact describe_memoryAfter built distinct keyed kept working border found marked shown]
  exact (assemble_congr (Model.outline_compiledUpTo model _)).symm

end Rounds

/-- A second round, in which some sources of the first are compiled already and have lost their
documentation, assembles for the others what the first round assembled for them, as long as
descriptions are kept and each has a key of its own. -/
theorem assemble_incremental {Other : Type} {first second classpath : List TypeDeclaration}
    {full : Model} {options : BuildOptions}
    (apart : ∀ compiled ∈ classpath, ∀ source ∈ first ++ second, source.name ≠ compiled.name)
    (built : Model.build (first ++ second) classpath = .ok full) (distinct : full.KeysDistinct)
    (keyed : full.MarkedKeyed) (kept : options.skipDescriptions = false)
    (system laterSystem : FileSystem (StateM Other)) (format laterFormat : DocumentFormat)
    (location : String) (files laterFiles : Other) :
    ∃ part, Model.build second (classpath ++ first) = .ok part ∧
      (∃ earlier, artifactTasks full options = earlier ++ artifactTasks part options ∧
        (∀ task ∈ earlier, task.position < (Model.layout first classpath).length) ∧
        ∀ task ∈ artifactTasks part options,
          (Model.layout first classpath).length ≤ task.position) ∧
      let before := inMemory full options system format location
      let after := inMemory part options laterSystem laterFormat location
      let later := ((before.run.run ({}, files)).2.1, laterFiles)
      AssembleAlike before after ({}, files) later (artifactTasks part options) ∧
        (options.failFast = false → ∀ task ∈ artifactTasks part options,
          task ∈ (before.turns (tasks full options) ({}, files)).map (·.1) ∧
            task ∈ (after.turns (tasks part options) later).map (·.1)) := by
  -- The tasks of the later round stand at the end of those of the first one.
  obtain ⟨earlier, split, compiled⟩ :=
    @artifactTasks_compiledUpTo full options (Model.layout first classpath).length
  have alike := assembleAlike_compiledUpTo built distinct keyed kept system laterSystem format
    laterFormat location (Model.layout first classpath).length files laterFiles
  refine ⟨_, build_recompiled apart built, ⟨earlier, split, compiled, fun _ inside =>
    le_position_of_mem_artifactTasks_compiledUpTo inside⟩, alike, ?_⟩
  -- Unless a failure ends a round, every task has its turn.
  intro goes_on task inside
  rw [turns_map_fst _ goes_on, turns_map_fst _ goes_on]
  have among : task ∈ artifactTasks full options := split ▸ List.mem_append_right _ inside
  exact ⟨List.mem_append_right _ among, List.mem_append_right _ inside⟩

/-- A type with a documented argument, which another type inherits. -/
def parent : List TypeDeclaration :=
  [{ name := "p.Parent"
     -- The description of the field is the one that has to outlive the first build.
     members := [.field
      { name := "amount", type := some "int", doc := some " How much. "
        markers := [.argument {}] }] }]

/-- A rule that inherits an argument. -/
def child : List TypeDeclaration :=
  [{ name := "p.Child", superclass := some "Parent", doc := some "Applies."
     markers := [.rule {}] }]

/-- A type that is compiled before either of them. -/
def library : List TypeDeclaration :=
  [{ name := "lib.Base", doc := some "lost" }]

/-- The model of the three types. -/
def family : Model :=
  (Model.build (parent ++ child) library).toOption.getD ⟨#[]⟩

/-- The rule is assembled alike when the type that it extends was compiled before. -/
theorem assemble_incremental_child :
    Model.build (parent ++ child) library = .ok family ∧ family.KeysDistinct ∧
      family.MarkedKeyed ∧ ∃ part, Model.build child (library ++ parent) = .ok part ∧
        let before := inMemory family {} FileTree.system .xml "memory"
        let after := inMemory part {} FileTree.system .xml "memory"
        let later := ((before.run.run ({}, .empty [])).2.1, .empty [])
        AssembleAlike before after ({}, .empty []) later (artifactTasks part {}) := by
  -- Compiled together, all keys are distinct, and what is marked has one.
  have built : Model.build (parent ++ child) library = .ok family := by decide +kernel
  have distinct : family.KeysDistinct := by decide +kernel
  have keyed : family.MarkedKeyed := by decide +kernel
  have kept : ({} : BuildOptions).skipDescriptions = false := rfl
  obtain ⟨part, again, _, alike, _⟩ := assemble_incremental (by decide) built distinct keyed kept
    FileTree.system FileTree.system .xml .xml "memory" (.empty []) (.empty [])
  exact ⟨built, distinct, keyed, part, again, alike⟩

end Round

end RuleMetadata

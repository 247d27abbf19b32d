import RuleMetadata.Proofs.Files.Tree

/-! Trees that grow: directories stay where they are, no file is lost, and files change or appear at
known locations alone. -/

namespace RuleMetadata

/-- The content of an entry, if it is a file. -/
def Entry.content? : Entry → Option Content
  | .file content => some content
  | .directory => none

namespace FileTree

/-- The content of the file at a location, if there is one. -/
def file? (tree : FileTree) (location : Location) : Option Content :=
  (tree.at? location).bind Entry.content?

/-- A file at a location is an entry there. -/
theorem file?_eq_some_iff {tree : FileTree} {location : Location} {content : Content} :
    tree.file? location = some content ↔ tree.at? location = some (.file content) := by
  rw [file?]
  -- A directory has no content.
  cases tree.at? location with
  | none => simp
  | some entry => cases entry <;> simp [Entry.content?]

/-- Where there is no entry, there is no file. -/
theorem file?_of_at? {tree : FileTree} {location : Location} (free : tree.at? location = none) :
    tree.file? location = none := by
  rw [file?, free, Option.bind_none]

/-! ### Directories -/

/-- Whether work on a tree has kept all directories. -/
structure KeepsDirectories (before after : FileTree) : Prop where
  -- Relative paths go on leading to where they did.
  home : after.home = before.home
  directory {location : Location} (standing : before.at? location = some .directory) :
    after.at? location = some .directory

namespace KeepsDirectories

variable {before between after : FileTree} {location : Location}

/-- A tree that nothing is done to has kept its directories. -/
theorem refl (tree : FileTree) : KeepsDirectories tree tree :=
  ⟨rfl, fun standing => standing⟩

/-- What two pieces of work keep is kept by doing one after the other. -/
theorem trans (first : KeepsDirectories before between)
    (second : KeepsDirectories between after) : KeepsDirectories before after :=
  ⟨second.home.trans first.home, fun standing => second.directory (first.directory standing)⟩

/-- Work may go on at a location that is not the one of a directory. -/
theorem elsewhere (keeps : KeepsDirectories before after) {next : FileTree}
    (home : next.home = after.home)
    (same : ∀ other, other ≠ location → next.at? other = after.at? other)
    (free : before.at? location ≠ some .directory) : KeepsDirectories before next := by
  refine ⟨home.trans keeps.home, fun {other} standing => ?_⟩
  -- A directory is somewhere else, since the location is not that of one.
  have apart : other ≠ location := fun here => free (here ▸ standing)
  rw [same other apart, keeps.directory standing]

/-- Putting an entry where no directory was keeps the directories. -/
theorem put (keeps : KeepsDirectories before after) (entry : Entry)
    (free : before.at? location ≠ some .directory) :
    KeepsDirectories before (after.put location entry) := by
  -- The root is a directory, so the entry is put below it.
  have below := ne_nil_of_at?_ne free
  exact keeps.elsewhere rfl (fun other apart => by rw [at?_put below, if_neg apart]) free

/-- A step through a directory leads on as before. -/
theorem step (keeps : KeepsDirectories before after) {name : String} {target : Location}
    (stepped : before.step location name = .ok target) : after.step location name = .ok target := by
  -- What decides a step is the entry that it starts from, a directory that is still there.
  have standing := step_eq_ok stepped
  rw [← stepped, FileTree.step, FileTree.step, standing, keeps.directory standing]

/-- Names that were followed lead to the same location as before. -/
theorem follow (keeps : KeepsDirectories before after) {names : List String} {target : Location}
    (followed : before.follow location names = .ok target) :
    after.follow location names = .ok target := by
  -- Each step leads on from where it led before.
  induction names generalizing location with
  | nil => exact followed
  | cons name rest ih =>
    obtain ⟨reached, stepped, goes_on⟩ := bind_eq_ok_iff.1 followed
    exact bind_eq_ok_iff.2 ⟨reached, keeps.step stepped, ih goes_on⟩

/-- A path that led to a location leads there still. -/
theorem locate (keeps : KeepsDirectories before after) {path : String}
    (located : before.locate path = .ok location) : after.locate path = .ok location := by
  -- The conditions on the path itself do not depend on the tree.
  obtain ⟨possible, followed⟩ := locate_eq_ok_iff.1 located
  rw [← keeps.home] at followed
  exact locate_eq_ok_iff.2 ⟨possible, keeps.follow followed⟩

/-- A place for a new entry is still one. -/
theorem locateNew (keeps : KeepsDirectories before after) {path : String}
    (located : before.locateNew path = .ok location) : after.locateNew path = .ok location := by
  -- A new entry is located by its path, in a directory.
  obtain ⟨led, above⟩ := locateNew_eq_ok_iff.1 located
  exact locateNew_eq_ok_iff.2 ⟨keeps.locate led, keeps.directory above⟩

/-- A directory for temporary files is still one. -/
theorem locateTemporaries (keeps : KeepsDirectories before after) {directory : String}
    (located : before.locateTemporaries directory = .ok location) :
    after.locateTemporaries directory = .ok location := by
  -- Temporary files are located by a pattern, as a new entry would be.
  obtain ⟨pattern, found, rfl⟩ := locateTemporaries_eq_ok_iff.1 located
  exact locateTemporaries_eq_ok_iff.2 ⟨pattern, keeps.locateNew found, rfl⟩

end KeepsDirectories

/-! ### Files -/

/-- Whether work on a tree has kept all directories, has lost no file, and has left everything as it
was that is not a file at one of the locations that it may change. -/
structure Grown (changed : Location → Prop) (before after : FileTree) : Prop
    extends KeepsDirectories before after where
  file {location : Location} (unchanged : ¬ changed location) :
    after.file? location = before.file? location
  -- A file may be changed at those locations, but it may not vanish.
  kept {location : Location} (standing : before.file? location ≠ none) :
    after.file? location ≠ none

namespace Grown

variable {changed : Location → Prop} {before between after : FileTree} {location : Location}

/-- A tree that nothing is done to has kept everything. -/
theorem refl (tree : FileTree) : Grown changed tree tree :=
  ⟨.refl tree, fun _ => rfl, fun standing => standing⟩

/-- What two pieces of work keep is kept by doing one after the other. -/
theorem trans (first : Grown changed before between) (second : Grown changed between after) :
    Grown changed before after where
  -- What the second part leaves alone is as the first part has left it.
  toKeepsDirectories := first.toKeepsDirectories.trans second.toKeepsDirectories
  file unchanged := (second.file unchanged).trans (first.file unchanged)
  kept standing := second.kept (first.kept standing)

/-- More locations may be changed than are. -/
theorem mono {more : Location → Prop} (grown : Grown changed before after)
    (included : ∀ location, changed location → more location) : Grown more before after where
  -- A location that more does not include was not changed.
  toKeepsDirectories := grown.toKeepsDirectories
  file unchanged := grown.file fun inside => unchanged (included _ inside)
  kept := grown.kept

/-- Work that changes no file keeps everything that any other work keeps. -/
theorem of_none (grown : Grown (fun _ => False) before after) : Grown changed before after :=
  grown.mono fun _ impossible => impossible.elim

/-- A location where in the end everything is as it was does not count as changed. -/
theorem forget (grown : Grown (fun other => changed other ∨ other = location) before after)
    (same : ¬ changed location → after.file? location = before.file? location) :
    Grown changed before after where
  -- At the location itself it is given, and anywhere else it was not changed.
  toKeepsDirectories := grown.toKeepsDirectories
  file {other} unchanged := by
    by_cases here : other = location
    · subst here
      exact same unchanged
    · exact grown.file fun inside => inside.elim unchanged here
  kept := grown.kept

/-- A file that may not be changed stands as it did. -/
theorem stands (grown : Grown changed before after) {content : Content}
    (standing : before.at? location = some (.file content)) (unchanged : ¬ changed location) :
    after.at? location = some (.file content) := by
  -- As a file, it is the one that stood there before.
  rw [← file?_eq_some_iff, grown.file unchanged, file?_eq_some_iff]
  exact standing

/-- Work may go on at one location, if no directory stands there, and if a file appears, stays or
changes there only as far as it may. -/
theorem elsewhere (grown : Grown changed before after) {next : FileTree}
    (home : next.home = after.home)
    (same : ∀ other, other ≠ location → next.at? other = after.at? other)
    (free : before.at? location ≠ some .directory)
    (allowed : ¬ changed location → next.file? location = before.file? location)
    (still : before.file? location ≠ none → next.file? location ≠ none) :
    Grown changed before next := by
  -- At every other location, the files are those from before this step.
  have others (other : Location) (apart : other ≠ location) :
      next.file? other = after.file? other := by
    rw [file?, file?, same other apart]
  refine ⟨grown.toKeepsDirectories.elsewhere home same free, fun {other} unchanged => ?_,
    fun {other} standing => ?_⟩
  · by_cases here : other = location
    · subst here
      exact allowed unchanged
    · rw [others other here, grown.file unchanged]
  · by_cases here : other = location
    · subst here
      exact still standing
    · rw [others other here]
      exact grown.kept standing

/-- Making a directory where nothing was changes no file. -/
theorem put_directory (grown : Grown changed before after)
    (fresh : before.at? location = none) :
    Grown changed before (after.put location .directory) := by
  -- No file was at the location, and a directory is none.
  have free : before.at? location ≠ some .directory := by simp [fresh]
  have below := ne_nil_of_at?_ne free
  have no_file : before.file? location = none := file?_of_at? fresh
  have none_put : (after.put location .directory).file? location = none := by
    rw [file?, at?_put below, if_pos rfl]
    rfl
  exact grown.elsewhere rfl (fun other apart => by rw [at?_put below, if_neg apart])
    free (fun _ => none_put.trans no_file.symm) fun standing =>
      absurd no_file standing

/-- Taking away what was not there before loses no file. -/
theorem erase (grown : Grown changed before after) (fresh : before.at? location = none) :
    Grown changed before (after.erase location) := by
  -- No file was at the location, and none is there in the end.
  have free : before.at? location ≠ some .directory := by simp [fresh]
  have below := ne_nil_of_at?_ne free
  have no_file : before.file? location = none := file?_of_at? fresh
  have none_left : (after.erase location).file? location = none :=
    file?_of_at? (by rw [at?_erase below, if_pos rfl])
  exact grown.elsewhere rfl (fun other apart => by rw [at?_erase below, if_neg apart])
    free (fun _ => none_left.trans no_file.symm) fun standing =>
      absurd no_file standing

end Grown

/-! ### Files that are put -/

/-- Whether a tree is another one with a file put at a location, and with nothing else changed. -/
structure IsPut (location : Location) (content : Content) (before after : FileTree) : Prop where
  home : after.home = before.home
  -- All locations are looked at, so nothing else can have come or gone.
  entry (other : Location) :
    after.at? other = if other = location then some (.file content) else before.at? other

/-- A file that is put below the root stands there. -/
theorem isPut_put {location : Location} (below : location ≠ []) (content : Content)
    (tree : FileTree) : IsPut location content tree (tree.put location (.file content)) :=
  ⟨rfl, at?_put below _⟩

namespace IsPut

variable {before after : FileTree} {location : Location} {content : Content}
  (isPut : IsPut location content before after)
include isPut

/-- The file stands where it is put. -/
theorem stands : after.at? location = some (.file content) := by
  rw [isPut.entry, if_pos rfl]

/-- Anywhere else, everything is as it was. -/
theorem elsewhere {other : Location} (apart : other ≠ location) :
    after.at? other = before.at? other := by
  rw [isPut.entry, if_neg apart]

/-- A file may be put in the same place again. -/
theorem again {next : FileTree} {last : Content} (second : IsPut location last after next) :
    IsPut location last before next := by
  refine ⟨second.home.trans isPut.home, fun other => ?_⟩
  rw [second.entry]
  -- At the location stands what was put last, and anywhere else nothing has changed.
  by_cases here : other = location
  · rw [if_pos here, if_pos here]
  · rw [if_neg here, if_neg here, isPut.elsewhere here]

/-- Putting a file where no directory is changes its location alone. -/
theorem grown (free : before.at? location ≠ some .directory) :
    Grown (· = location) before after := by
  -- The file that is put keeps the location from being one that was lost.
  have standing : after.file? location ≠ none := by
    rw [file?_eq_some_iff.2 isPut.stands]
    exact Option.some_ne_none content
  exact (Grown.refl before).elsewhere isPut.home (fun _ apart => isPut.elsewhere apart) free
    (fun unchanged => absurd rfl unchanged) fun _ => standing

end IsPut

section Operations

variable {changed : Location → Prop}

/-- Making a directory keeps everything. -/
theorem grown_createDirectory {tree next : FileTree} {path : String}
    (created : tree.createDirectory path = .ok next) : Grown changed tree next := by
  -- A directory is made only where nothing was.
  obtain ⟨location, -, fresh, rfl⟩ := createDirectory_eq_ok_iff.1 created
  exact (Grown.refl tree).put_directory fresh

/-- Making directories upward keeps everything, whether it succeeds or not. -/
theorem grown_createFrom (fuel : Nat) (tree : FileTree) (path : String) :
    Grown changed tree (createFrom fuel tree path).2 := by
  -- The induction is on the fuel, by which the path above is made first.
  induction fuel generalizing path with
  | zero => exact .refl tree
  | succ fuel ih =>
    rw [createFrom]
    split
    · exact .refl tree
    · split
      · rename_i created
        exact grown_createDirectory created
      · split
        · exact .refl tree
        · rename_i parent _
          -- The directories above are there, whatever becomes of the last one.
          have above := ih parent
          split <;> rename_i ended <;> rw [ended] at above
          · exact above
          · split
            · rename_i created
              exact above.trans (grown_createDirectory created)
            · split <;> exact above
      · split <;> exact .refl tree

end Operations

/-! ### Runs of the operations -/

variable (tree : FileTree)

/-- A changing operation puts the new tree in place of the old one only if it succeeds. -/
theorem change_run (operation : FileTree → Except FileError FileTree) :
    (change operation).run tree =
      match operation tree with
      | .ok next => (.ok (), next)
      | .error cause => (.error cause, tree) := by
  -- The tree is replaced in one of the two branches alone.
  rw [change, run_bind_of_ended (StateT.run_get tree)]
  cases operation tree <;> rfl

/-- Writing a text puts the written tree in place of the old one only if it succeeds. -/
theorem writeText_run (path text : String) : (system.writeText path text).run tree =
    match tree.write path (.text text) with
    | .ok next => (.ok (), next)
    | .error cause => (.error cause, tree) := change_run tree _

/-- Filling a temporary file puts the filled tree in place of the old one only if it succeeds. -/
theorem fill_run (temporary : TemporaryFile) (text : String) :
    (system.fill temporary text).run tree =
      match tree.fill temporary text with
      | .ok next => (.ok (), next)
      | .error cause => (.error cause, tree) := change_run tree _

/-- Renaming a temporary file puts the new tree in place of the old one only if it succeeds. -/
theorem persist_run (temporary : TemporaryFile) (path : String) :
    (system.persist temporary path).run tree =
      match tree.persist temporary path with
      | .ok next => (.ok (), next)
      | .error cause => (.error cause, tree) := change_run tree _

/-- Removing a temporary file puts the new tree in place of the old one only if it succeeds. -/
theorem discard_run (temporary : TemporaryFile) : (system.discard temporary).run tree =
    match tree.discard temporary with
    | .ok next => (.ok (), next)
    | .error cause => (.error cause, tree) := change_run tree _

/-- Making a temporary file puts the new tree in place of the old one only if it succeeds. -/
theorem createTemporary_run (path : String) : (system.createTemporary path).run tree =
    match tree.createTemporary path with
    | .ok (temporary, next) => (.ok temporary, next)
    | .error cause => (.error cause, tree) := by
  -- How the file is made does not matter here, so it is left open.
  have opened (operation : FileTree → Except FileError (TemporaryFile × FileTree)) :
      (do
        match operation (← get) with
        | .ok (temporary, next) => set next; return .ok temporary
        | .error cause => return .error cause :
          StateM FileTree (Except FileError TemporaryFile)).run tree =
        match operation tree with
        | .ok (temporary, next) => (.ok temporary, next)
        | .error cause => (.error cause, tree) := by
    rw [run_bind_of_ended (StateT.run_get tree)]
    rcases operation tree with cause | ⟨temporary, next⟩ <;> rfl
  exact opened fun tree => tree.createTemporary path

/-- Syncing a file leaves the tree alone. -/
theorem sync_run (temporary : TemporaryFile) : (system.sync temporary).run tree =
    ((tree.findTemporary temporary).map fun _ => (), tree) := rfl

end FileTree

end RuleMetadata

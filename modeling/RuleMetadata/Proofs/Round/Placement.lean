import RuleMetadata.Proofs.Files.Faults
import RuleMetadata.Proofs.Round.Writing

/-! Artifacts in a tree of files: each is put at its path, no other file changes or appears, and
none is lost. -/

namespace RuleMetadata

namespace FileTree

/-- Whether a temporary file, made where nothing was before, is found where it was made, and
everything else is as it was. -/
structure HoldsTemporary (before : FileTree) (temporary : TemporaryFile) (location : Location)
    (content : Content) (tree : FileTree) : Prop where
  -- So removing it brings back what was there before.
  fresh : before.at? location = none
  isPut : IsPut location content before tree
  found : tree.findTemporary temporary = .ok (location, content)

/-- Where temporary files can be made, a new one is made where nothing was before. -/
theorem exists_createTemporary {tree : FileTree} {directory : String} {place : Location}
    (located : tree.locateTemporaries directory = .ok place) : ∃ temporary location next,
      tree.createTemporary directory = .ok (temporary, next) ∧
        HoldsTemporary tree temporary location (.text "") next := by
  have fresh := at?_freshName tree place
  -- No directory is lost by making the file, so the way to it is the same in the new tree.
  have free : tree.at? (place ++ [tree.freshName place]) ≠ some .directory := by simp [fresh]
  have isPut := isPut_put (ne_nil_of_at?_ne free) (.text "") tree
  have keeps := (isPut.grown free).toKeepsDirectories
  exact ⟨_, _, _, createTemporary_eq_ok_iff.2 ⟨place, located, rfl, rfl⟩, fresh, isPut,
    findTemporary_eq_ok_iff.2 ⟨place, keeps.locateTemporaries located, rfl, isPut.stands⟩⟩

namespace HoldsTemporary

variable {before tree next : FileTree} {location target : Location} {content : Content}
  {temporary : TemporaryFile} {path text : String}
  (holds : HoldsTemporary before temporary location content tree)
include holds

/-- There was no directory where a temporary file is made. -/
theorem free : before.at? location ≠ some .directory := by
  simp [holds.fresh]

/-- A temporary file is below the root. -/
theorem below : location ≠ [] :=
  ne_nil_of_at?_ne holds.free

/-- Making a temporary file keeps the directories. -/
theorem keepsDirectories : KeepsDirectories before tree :=
  (holds.isPut.grown holds.free).toKeepsDirectories

/-- Beside the temporary file, there are no more directories than before. -/
theorem keepsDirectories_back : KeepsDirectories tree before := by
  refine ⟨holds.isPut.home.symm, fun {other} standing => ?_⟩
  -- A file stands at the location, so that no directory does.
  have apart : other ≠ location := by
    rintro rfl
    simp [holds.isPut.stands] at standing
  rw [← holds.isPut.elsewhere apart, standing]

/-- A temporary file whose content changes is still found, with its new content. -/
theorem rewritten {last : Content} (isPut : IsPut location last tree next) :
    HoldsTemporary before temporary location last next := by
  have isPut_before := holds.isPut.again isPut
  -- No directory is lost, so that the file is found in the same way.
  obtain ⟨directory, located, named, -⟩ := findTemporary_eq_ok_iff.1 holds.found
  have led := holds.keepsDirectories_back.locateTemporaries located
  have keeps := (isPut_before.grown holds.free).toKeepsDirectories
  exact ⟨holds.fresh, isPut_before,
    findTemporary_eq_ok_iff.2 ⟨directory, keeps.locateTemporaries led, named, isPut.stands⟩⟩

/-- A temporary file can be filled, and then holds its text. -/
theorem fill (text : String) : ∃ filled, tree.fill temporary text = .ok filled ∧
    HoldsTemporary before temporary location (.text text) filled := by
  exact ⟨_, fill_eq_ok_iff.2 ⟨location, content, holds.found, rfl⟩,
    holds.rewritten (isPut_put holds.below (.text text) tree)⟩

/-- A temporary file that is moved stands at its new location, and everything else is as it was
before the file was made. -/
theorem isPut_move (target_below : target ≠ []) :
    IsPut target content before ((tree.erase location).put target (.file content)) := by
  refine ⟨holds.isPut.home, fun other => ?_⟩
  rw [at?_put target_below, at?_erase holds.below]
  by_cases there : other = target
  · rw [if_pos there, if_pos there]
  · rw [if_neg there, if_neg there]
    -- Where the temporary file was, there is nothing again.
    by_cases here : other = location
    · rw [if_pos here, here, holds.fresh]
    · rw [if_neg here, holds.isPut.elsewhere here]

/-- A temporary file can be moved to where its path led before it was made, unless a directory is
in the way. -/
theorem persist_eq_ok_iff : tree.persist temporary path = .ok next ↔
    ∃ target, before.locateNew path = .ok target ∧ before.at? target ≠ some .directory ∧
      next = (tree.erase location).put target (.file content) := by
  -- Neither the way to the path nor a directory at its end depends on the temporary file.
  have led (target : Location) :
      tree.locateNew path = .ok target ↔ before.locateNew path = .ok target :=
    ⟨holds.keepsDirectories_back.locateNew, holds.keepsDirectories.locateNew⟩
  have blocked (target : Location) :
      tree.at? target = some .directory ↔ before.at? target = some .directory :=
    ⟨holds.keepsDirectories_back.directory, holds.keepsDirectories.directory⟩
  simp only [FileTree.persist_eq_ok_iff, holds.found, led, blocked, Except.ok.injEq, Prod.mk.injEq,
    ne_eq]
  constructor
  · rintro ⟨_, _, target, ⟨rfl, rfl⟩, located, free, moved⟩
    exact ⟨target, located, free, moved⟩
  · rintro ⟨target, located, free, moved⟩
    exact ⟨location, content, target, ⟨rfl, rfl⟩, located, free, moved⟩

/-- A temporary file can be removed, and then everything is as it was. -/
theorem discard : ∃ removed, tree.discard temporary = .ok removed ∧
    Grown (fun _ => False) before removed := by
  -- Its location is the only one that differs, and there is nothing there again.
  have grown : Grown (fun other => False ∨ other = location) before (tree.erase location) :=
    ((holds.isPut.grown holds.free).erase holds.fresh).mono fun _ => .inr
  refine ⟨_, by simp [FileTree.discard, holds.found, bind, Except.bind, pure, Except.pure],
    grown.forget fun _ => ?_⟩
  rw [file?_of_at? holds.fresh, file?_of_at?]
  rw [at?_erase holds.below, if_pos rfl]

/-- A file is filled and moved wherever its path leads, unless a directory is in the way. -/
theorem exists_fillAndMove (led : before.locateNew path = .ok target)
    (free : before.at? target ≠ some .directory) (text : String) : ∃ final,
      (system.fillAndMove temporary path text).run.run tree = (.ok (), final) ∧
        IsPut target (.text text) before final := by
  obtain ⟨filled, written, holds_text⟩ := holds.fill text
  have moved := holds_text.persist_eq_ok_iff.2 ⟨target, led, free, rfl⟩
  -- The steps are carried out one after the other, and none of them fails.
  refine ⟨_, ?_, holds_text.isPut_move (ne_nil_of_at?_ne free)⟩
  rw [FileSystem.fillAndMove_run, fill_run, written]
  dsimp only
  rw [sync_run, holds_text.found]
  dsimp only [Except.map]
  rw [persist_run, moved]

end HoldsTemporary

/-- Whether a text can be put at a path by way of a temporary file in a directory: one can be made
there, and the path leads to a location where no directory is in the way. -/
structure IsOpen (tree : FileTree) (directory path : String) (target : Location) : Prop where
  temporaries : ∃ place, tree.locateTemporaries directory = .ok place
  located : tree.locateNew path = .ok target
  -- A file may be in the way, for it is replaced.
  free : tree.at? target ≠ some .directory

/-- A text is put at a path whenever this is possible behind making the directory. -/
theorem exists_replace {before made : FileTree} {directory path : String} {target : Location}
    (created : before.createDirectories directory = (.ok (), made))
    (isOpen : made.IsOpen directory path target) (text : String) : ∃ final,
      (system.replace directory path text).run.run before = (.ok (), final) ∧
        IsPut target (.text text) made final := by
  obtain ⟨place, located⟩ := isOpen.temporaries
  obtain ⟨temporary, location, opened, opening, holds⟩ := exists_createTemporary located
  -- None of the steps behind making the directory can fail.
  obtain ⟨final, ended, isPut⟩ := holds.exists_fillAndMove isOpen.located isOpen.free text
  have making : (system.createDirectories directory).run before = (.ok (), made) := created
  refine ⟨final, ?_, isPut⟩
  rw [FileSystem.replace_run, making]
  dsimp only
  rw [createTemporary_run, opening]
  dsimp only
  rw [ended]

end FileTree

/-- What is left of a tree by work that puts a text at a path: a failure changes no file, and
otherwise the text stands at the path and no other file has changed. -/
def FileTree.Puts (path text : String) (before : FileTree) : Except FileError Unit × FileTree → Prop
  -- Directories may have been made before the failure.
  | (.error _, failed) => Grown (fun _ => False) before failed
  | (.ok (), final) => ∃ target, final.locate path = .ok target ∧
      final.at? target = some (.file (.text text)) ∧ Grown (· = target) before final

/-! ### Whatever fails -/

/-- Filling a temporary file leaves one there, however much of the text it has got. -/
theorem FileTree.HoldsTemporary.of_leavesInside {before tree next : FileTree}
    {temporary : TemporaryFile} {location : Location} {content : Content}
    (holds : HoldsTemporary before temporary location content tree)
    (leaves : FileSystem.LeavesInside temporary tree next) :
    ∃ left, HoldsTemporary before temporary location left next := by
  -- Either nothing was written, or something to the one file of that name.
  rcases leaves with rfl | ⟨other, old, left, found, isPut⟩
  · exact ⟨content, holds⟩
  · obtain ⟨rfl, rfl⟩ := Prod.mk.inj (Except.ok.inj (holds.found.symm.trans found))
    exact ⟨left, holds.rewritten isPut⟩

namespace FileSystem.IsFallible

open FileTree

variable {σ : Type} {system : FileSystem (StateM σ)} {tree : σ → FileTree}
  (fallible : system.IsFallible tree)
include fallible

/-- Syncing a temporary file changes nothing. -/
theorem tree_sync (temporary : TemporaryFile) (state : σ) :
    tree ((system.sync temporary).run state).2 = tree state := by
  -- Syncing on the tree changes nothing either.
  rcases fallible.sync temporary state with onTree | ⟨_, -, kept⟩
  · exact (Prod.mk.inj onTree).2
  · exact kept

section

variable {before : FileTree} {temporary : TemporaryFile} {location : Location} {content : Content}
  {state : σ} (holds : HoldsTemporary before temporary location content (tree state))
include holds

/-- A temporary file that is filled stays where it was made, with the text unless that fails. -/
theorem fill_spec (text : String) :
    match (system.fill temporary text).run state with
    | (.error _, failed) => ∃ left, HoldsTemporary before temporary location left (tree failed)
    | (.ok _, filled) => HoldsTemporary before temporary location (.text text) (tree filled) := by
  -- On the tree, filling the file does not fail.
  obtain ⟨written, filling, holds_text⟩ := holds.fill text
  have onTree : (FileTree.system.fill temporary text).run (tree state) = (.ok (), written) := by
    rw [fill_run, filling]
  rcases ended : (system.fill temporary text).run state with ⟨cause | _, next⟩
  · have leaves := (fallible.fill temporary text).of_error ended fun _ failing => by
      cases onTree.symm.trans failing
    exact holds.of_leavesInside leaves
  · obtain ⟨-, rfl⟩ := Prod.mk.inj (onTree.symm.trans ((fallible.fill _ _).of_ok ended))
    exact holds_text

/-- A temporary file that is moved stands where the path led; after a failure it is still where it
was made. -/
theorem persist_spec (path : String) :
    match (system.persist temporary path).run state with
    | (.error _, failed) => HoldsTemporary before temporary location content (tree failed)
    | (.ok _, final) => ∃ target, before.locateNew path = .ok target ∧
      before.at? target ≠ some .directory ∧ IsPut target content before (tree final) := by
  have onTree := persist_run (tree state) temporary path
  rcases ended : (system.persist temporary path).run state with ⟨cause | _, next⟩
  · -- A failure leaves the tree as it was, whether it is one of the tree or not.
    have kept : tree next = tree state := (fallible.persist _ _).of_error ended fun _ failing => by
      rw [onTree] at failing
      split at failing <;> cases failing
      rfl
    dsimp only
    exact kept ▸ holds
  · rw [(fallible.persist _ _).of_ok ended] at onTree
    split at onTree <;> cases onTree
    next moved =>
      obtain ⟨target, led, free, placed⟩ := holds.persist_eq_ok_iff.1 moved
      exact ⟨target, led, free, placed ▸ holds.isPut_move (ne_nil_of_at?_ne free)⟩

/-- A file that is filled and moved stands where its path led; after a failure it is still where it
was made, with whatever content. -/
theorem fillAndMove_spec (path text : String) :
    match (system.fillAndMove temporary path text).run.run state with
    | (.error _, failed) => ∃ left, HoldsTemporary before temporary location left (tree failed)
    | (.ok _, final) => ∃ target, before.locateNew path = .ok target ∧
      before.at? target ≠ some .directory ∧ IsPut target (.text text) before (tree final) := by
  rw [fillAndMove_run]
  have filled := fallible.fill_spec holds text
  rcases ended : (system.fill temporary text).run state with ⟨cause | _, between⟩ <;>
    rw [ended] at filled
  · exact filled
  · -- The sync leaves the file as it has been filled, whether it fails or not.
    have kept := fallible.tree_sync temporary between
    dsimp only at filled ⊢
    rcases synced : (system.sync temporary).run between with ⟨cause | _, settled⟩ <;>
      rw [synced] at kept <;> rw [← kept] at filled
    · exact ⟨_, filled⟩
    · have moved := fallible.persist_spec filled path
      dsimp only
      rcases last : (system.persist temporary path).run settled with ⟨cause | _, final⟩ <;>
        rw [last] at moved
      · exact ⟨_, moved⟩
      · exact moved

/-- Removing a temporary file leaves everything as it was before it was made. -/
theorem discard_spec : Grown (fun _ => False) before
    (tree ((system.discard temporary).run state).2) := by
  -- Removing is done as on the tree, where it takes the one file away.
  obtain ⟨removed, removing, grown⟩ := holds.discard
  rw [fallible.discard, discard_run, removing]
  exact grown

end

/-- Making a temporary file makes one where nothing was, if it succeeds; otherwise it changes
nothing. -/
theorem createTemporary_spec (directory : String) (state : σ) :
    match (system.createTemporary directory).run state with
    | (.error _, failed) => tree failed = tree state
    | (.ok temporary, opened) => (∃ place, (tree state).locateTemporaries directory = .ok place) ∧
      ∃ location, HoldsTemporary (tree state) temporary location (.text "") (tree opened) := by
  have onTree := createTemporary_run (tree state) directory
  -- A failure on the tree leaves it as it was, and a success is the one on the tree.
  rcases ended : (system.createTemporary directory).run state with ⟨cause | temporary, next⟩
  · exact (fallible.createTemporary _).of_error ended fun _ failing => by
      rw [onTree] at failing
      split at failing <;> cases failing
      rfl
  · rw [(fallible.createTemporary _).of_ok ended] at onTree
    split at onTree <;> cases onTree
    next opening =>
      obtain ⟨place, located, -⟩ := createTemporary_eq_ok_iff.1 opening
      obtain ⟨_, location, _, again, holds⟩ := exists_createTemporary located
      obtain ⟨rfl, rfl⟩ := Prod.mk.inj (Except.ok.inj (again.symm.trans opening))
      exact ⟨⟨place, located⟩, location, holds⟩

/-- Making directories changes no file, whether it succeeds or not. -/
theorem grown_createDirectories (path : String) (state : σ) :
    Grown (fun _ => False) (tree state) (tree ((system.createDirectories path).run state).2) := by
  -- Either it is done as on the tree, or it has failed in its own way.
  rcases fallible.createDirectories path state with onTree | ⟨_, -, grown⟩
  · have grown : Grown (fun _ => False) (tree state)
        ((FileTree.system.createDirectories path).run (tree state)).2 := grown_createFrom _ _ _
    rwa [← onTree] at grown
  · exact grown

/-- Putting a text at a path makes the directory first, and then changes nothing but the file at the
path; after a failure, no file has changed. -/
theorem replace_spec (directory path text : String) (state : σ) :
    match (system.replace directory path text).run.run state with
    | (.error _, failed) => Grown (fun _ => False) (tree state) (tree failed)
    | (.ok _, final) => ∃ made target, (tree state).createDirectories directory = (.ok (), made) ∧
      made.IsOpen directory path target ∧ IsPut target (.text text) made (tree final) := by
  -- The temporary file is made where nothing was, so removing or moving it takes nothing else away.
  rw [FileSystem.replace_run]
  have grown := fallible.grown_createDirectories directory state
  rcases created : (system.createDirectories directory).run state with ⟨cause | _, made⟩ <;>
    rw [created] at grown
  · exact grown
  · have opening := fallible.createTemporary_spec directory made
    dsimp only at grown ⊢
    rcases opened : (system.createTemporary directory).run made with ⟨cause | temporary, next⟩ <;>
      rw [opened] at opening
    · dsimp only at opening ⊢
      rwa [opening]
    · obtain ⟨place, location, holds⟩ := opening
      have spec := fallible.fillAndMove_spec holds path text
      dsimp only
      rcases ended : (system.fillAndMove temporary path text).run.run next with
        ⟨cause | _, final⟩ <;> rw [ended] at spec
      · obtain ⟨left, holds⟩ := spec
        exact grown.trans (fallible.discard_spec holds)
      · obtain ⟨target, led, free, isPut⟩ := spec
        exact ⟨tree made, target, (fallible.createDirectories _).of_ok created,
          ⟨place, led, free⟩, isPut⟩

/-- A text is put at its path by way of a file that was not there before. -/
theorem puts_replace (directory path text : String) (state : σ) :
    Puts path text (tree state)
      (((system.replace directory path text).run.run state).map id tree) := by
  have spec := fallible.replace_spec directory path text state
  rcases ended : (system.replace directory path text).run.run state with ⟨cause | _, final⟩ <;>
    rw [ended] at spec
  · exact spec
  · -- The directories that were made first are kept when the file is put.
    obtain ⟨made, target, created, isOpen, isPut⟩ := spec
    have grown_made : Grown (fun _ => False) (tree state)
        ((tree state).createDirectories directory).2 := grown_createFrom _ _ _
    rw [created] at grown_made
    have grown := isPut.grown isOpen.free
    have reached := (locateNew_eq_ok_iff.1 isOpen.located).1
    exact ⟨target, grown.toKeepsDirectories.locate reached, isPut.stands,
      grown_made.of_none.trans grown⟩

end FileSystem.IsFallible

end RuleMetadata

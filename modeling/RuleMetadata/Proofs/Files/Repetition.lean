import RuleMetadata.Proofs.Files.Closed

/-! Work that can be done again: on any tree that has grown from the one that it has left, it ends
with the same result and puts the same files back. -/

namespace RuleMetadata.FileTree

/-- Whether work that has led from one tree to another, and is done again on some tree, only puts
its files back: every entry is that of a file as the work has left it, or is as it was, and then the
work has left the file at its location alone before as well. -/
structure PutsBack (before after tree next : FileTree) : Prop where
  home : next.home = tree.home
  entry (location : Location) :
    -- The file stands again as the work left it the first time.
    (next.at? location = after.at? location ∧ after.file? location ≠ none) ∨
    -- Here the work has nothing to put back, for it put nothing there before.
    (next.at? location = tree.at? location ∧ after.file? location = before.file? location)

namespace PutsBack

variable {before between after tree middle next : FileTree} {location : Location}

/-- Work that changes no file puts none back. -/
theorem of_grown (grown : Grown (fun _ => False) before after) : PutsBack before after tree tree :=
  ⟨rfl, fun _ => .inr ⟨rfl, grown.file not_false⟩⟩

/-- Work that puts a single file puts that one back. -/
theorem of_isPut {content : Content} (grown : Grown (· = location) before after)
    (stands : after.at? location = some (.file content))
    (isPut : IsPut location content tree next) : PutsBack before after tree next := by
  refine ⟨isPut.home, fun other => ?_⟩
  -- At the location the same file stands again, and anywhere else the work had changed nothing.
  by_cases here : other = location
  · subst here
    have standing := file?_eq_some_iff.2 stands
    exact .inl ⟨isPut.stands.trans stands.symm, by simp [standing]⟩
  · exact .inr ⟨isPut.elsewhere here, grown.file here⟩

section Directories

variable (back : PutsBack before after tree next)
  (kept : ∀ {location}, after.file? location ≠ none → tree.file? location ≠ none)
include back kept

/-- Files that are put back where files are take no directory away. -/
theorem keepsDirectories : KeepsDirectories tree next := by
  refine ⟨back.home, fun {location} standing => ?_⟩
  rcases back.entry location with ⟨-, file⟩ | ⟨same, -⟩
  · -- A file is only put back in place of a file.
    have no_file : tree.file? location = none := by
      rw [file?, standing]
      rfl
    exact absurd no_file (kept file)
  · rw [same, standing]

/-- Files that are put back leave the tree closed. -/
theorem isClosed (closed : tree.IsClosed) : next.IsClosed := by
  have keeps := back.keepsDirectories kept
  -- A location that is new holds no file that was put back, so it was there all along.
  refine closed.of_keepsDirectories keeps fun location standing missing => ?_
  rcases back.entry location with ⟨-, file⟩ | ⟨same, -⟩
  · exact absurd (file?_of_at? missing) (kept file)
  · rw [same] at standing
    exact absurd missing standing

end Directories

/-- A tree that has grown from a later one has still grown from it when the files of earlier work
are put back, as far as the later work has only changed what may differ. -/
theorem grown {changed free : Location → Prop} (back : PutsBack before between tree next)
    (later : Grown changed between after) (within : ∀ location, changed location → free location)
    (grown : Grown free after tree) : Grown free after next := by
  -- The files that are put back were left alone later, or are at locations that may differ.
  have keeps := back.keepsDirectories fun standing => grown.kept (later.kept standing)
  refine ⟨grown.toKeepsDirectories.trans keeps, fun {location} pinned => ?_,
    fun {location} standing => ?_⟩
  · have unchanged := later.file fun inside => pinned (within location inside)
    rcases back.entry location with ⟨same, -⟩ | ⟨same, -⟩
    · rw [unchanged, file?, file?, same]
    · rw [← grown.file pinned, file?, file?, same]
  · rcases back.entry location with ⟨same, file⟩ | ⟨same, -⟩
    · rwa [file?, same]
    · rw [file?, same]
      exact grown.kept standing

/-- Two pieces of work put back their files one after the other. -/
theorem trans (first : PutsBack before between tree middle)
    (second : PutsBack between after middle next) : PutsBack before after tree next := by
  refine ⟨second.home.trans first.home, fun location => ?_⟩
  rcases second.entry location with ended | ⟨same, unchanged⟩
  · exact .inl ended
  · rcases first.entry location with ⟨stood, file⟩ | ⟨stood, unchanged_before⟩
    · -- The second piece has left the file of the first one as it was.
      obtain ⟨content, standing⟩ := Option.ne_none_iff_exists'.1 file
      rw [standing, file?_eq_some_iff] at unchanged
      refine .inl ⟨?_, by simp [file?_eq_some_iff.2 unchanged]⟩
      rw [same, stood, unchanged, file?_eq_some_iff.1 standing]
    · exact .inr ⟨same.trans stood, unchanged.trans unchanged_before⟩

end PutsBack

/-- Whether work that was done on a tree has ended with a result, has changed files at some
locations alone, and can be done again: on every closed tree that has grown from the one that it has
left, at whatever locations are free to differ, it ends with the same result and puts its files
back. -/
structure Settles {α : Type} (changed free : Location → Prop) (work : StateM FileTree α)
    (before : FileTree) (result : α) (after : FileTree) : Prop where
  ended : work.run before = (result, after)
  closed : after.IsClosed
  grown : Grown changed before after
  -- The second tree need not be the one that the work has left: others may have changed it.
  again {tree : FileTree} (closed : tree.IsClosed) (grown : Grown free after tree) :
    ∃ next, work.run tree = (result, next) ∧ PutsBack before after tree next

namespace Settles

variable {α β : Type} {changed later free : Location → Prop} {work : StateM FileTree α}
  {before between after : FileTree} {result : α}

/-- Work that can be done again can be done again at once, and then everything stays as it is. -/
theorem repeated (settles : Settles changed free work before result after) : ∃ next,
    work.run after = (result, next) ∧ next.home = after.home ∧
      ∀ location, next.at? location = after.at? location := by
  -- The state it ends in is grown from itself by nothing.
  obtain ⟨next, ended, back⟩ := settles.again settles.closed (.refl after)
  refine ⟨next, ended, back.home, fun location => ?_⟩
  rcases back.entry location with ⟨same, -⟩ | ⟨same, -⟩ <;> exact same

/-- More may be changed than is, and less may be free to differ. -/
theorem mono {more less : Location → Prop} (settles : Settles changed free work before result after)
    (included : ∀ location, changed location → more location)
    (restricted : ∀ location, less location → free location) :
    Settles more less work before result after where
  -- Doing it again is asked for fewer trees.
  ended := settles.ended
  closed := settles.closed
  grown := settles.grown.mono included
  again closed grown := settles.again closed (grown.mono restricted)

/-- Work that only reads can be done again wherever it reads the same. -/
theorem of_reads (closed : before.IsClosed) (ended : work.run before = (result, before))
    (alike : ∀ tree, Grown free before tree → work.run tree = (result, tree)) :
    Settles changed free work before result before where
  -- The tree is left as it is, so that nothing is to be put back.
  ended
  closed
  grown := .refl before
  again _ grown := ⟨_, alike _ grown, .of_grown (.refl before)⟩

/-- Work that has a value alone can always be done again. -/
theorem pure (closed : before.IsClosed) (value : α) :
    Settles changed free (pure value) before value before :=
  .of_reads closed rfl fun _ _ => rfl

/-- Work that puts a single file can be done again if it puts the file wherever no directory is in
the way. -/
theorem of_isPut {location : Location} {content : Content}
    (ended : work.run before = (result, after)) (closed : after.IsClosed)
    (grown : Grown (· = location) before after)
    (stands : after.at? location = some (.file content)) (allowed : changed location)
    (again : ∀ tree, tree.IsClosed → KeepsDirectories after tree →
      tree.at? location ≠ some .directory →
        ∃ next, work.run tree = (result, next) ∧ IsPut location content tree next) :
    Settles changed free work before result after where
  ended
  closed
  grown := grown.mono fun _ here => here ▸ allowed
  again {tree} tree_closed tree_grown := by
    -- The file has been kept, so it stands where a directory would be in the way.
    have file : tree.file? location ≠ none :=
      tree_grown.kept (by simp [file?_eq_some_iff.2 stands])
    have free_location : tree.at? location ≠ some .directory := fun standing =>
      file (by rw [file?, standing]; rfl)
    obtain ⟨next, ended_again, isPut⟩ :=
      again tree tree_closed tree_grown.toKeepsDirectories free_location
    exact ⟨next, ended_again, .of_isPut grown stands isPut⟩

/-- Work in two parts can be done again if both parts can, and if the second part only changes what
is free to differ for the first one. -/
theorem bind {rest : α → StateM FileTree β} {last : β}
    (first : Settles changed free work before result between)
    (second : Settles later free (rest result) between last after)
    (included : ∀ location, later location → changed location)
    (within : ∀ location, later location → free location) :
    Settles changed free (work >>= rest) before last after where
  ended := by rw [run_bind_of_ended first.ended, second.ended]
  closed := second.closed
  grown := first.grown.trans (second.grown.mono included)
  again {tree} closed grown := by
    -- What the second part has changed may differ for the first one, so that it can be done again.
    have grown_between := (second.grown.mono within).trans grown
    obtain ⟨middle, ended, back⟩ := first.again closed grown_between
    obtain ⟨next, ended_last, back_last⟩ :=
      second.again (back.isClosed grown_between.kept closed) (back.grown second.grown within grown)
    refine ⟨next, ?_, back.trans back_last⟩
    rw [run_bind_of_ended ended, ended_last]

/-- Work that goes on with a value alone can be done again if it could be before. -/
theorem bind_pure {rest : α → StateM FileTree β} {value : β}
    (settles : Settles changed free work before result after)
    (last : rest result = Pure.pure value) :
    Settles changed free (work >>= rest) before value after := by
  -- The second part changes nothing, and does not read what is free to differ.
  have nothing : Settles (fun _ => False) free (rest result) after value after := by
    rw [last]
    exact .pure settles.closed value
  exact settles.bind nothing (fun _ impossible => impossible.elim) fun _ impossible =>
    impossible.elim

end Settles

/-! ### Operations -/

section Operations

variable {changed free : Location → Prop} {before after : FileTree} {path text : String}

/-- Making directories can be done again, when they are there. -/
theorem settles_createDirectories (closed : before.IsClosed)
    (ended : before.createDirectories path = (.ok (), after)) :
    Settles changed free (system.createDirectories path) before (.ok ()) after := by
  have spec := createFrom_spec (path.length + 1) closed path
  have grown (changed : Location → Prop) : Grown changed before (before.createDirectories path).2 :=
    grown_createFrom _ _ _
  rw [show createFrom _ before path = _ from ended] at spec
  rw [ended] at grown
  refine ⟨ended, spec.1, grown changed, fun {tree} tree_closed tree_grown => ?_⟩
  -- The directories are all kept, and none of them is made a second time.
  have there := (spec.2 rfl).imp_right tree_grown.toKeepsDirectories.isDirectory
  exact ⟨tree, createDirectories_of_isDirectory tree_closed there, .of_grown (grown _)⟩

/-- Writing a file can be done again. -/
theorem settles_writeText (closed : before.IsClosed)
    (ended : (system.writeText path text).run before = (.ok (), after))
    (allowed : ∀ location, after.locate path = .ok location → changed location) :
    Settles changed free (system.writeText path text) before (.ok ()) after := by
  have written : before.write path (.text text) = .ok after := by
    rw [writeText_run] at ended
    cases written : before.write path (.text text) with
    | error cause =>
      rw [written] at ended
      cases ended
    | ok next =>
      rw [written] at ended
      cases ended
      rfl
  obtain ⟨location, led, unblocked, open_end, rfl⟩ := write_eq_ok_iff.1 written
  obtain ⟨located, above⟩ := locateNew_eq_ok_iff.1 led
  have isPut := isPut_put (ne_nil_of_at?_ne unblocked) (.text text) before
  have grown := isPut.grown unblocked
  have kept := grown.toKeepsDirectories
  refine .of_isPut ended (closed.of_isPut isPut above unblocked) grown
    isPut.stands (allowed location (kept.locate located)) fun tree _ keeps tree_unblocked => ?_
  -- The way to the file is kept, and the file is written over.
  have led_again := (kept.trans keeps).locateNew led
  have written : tree.write path (.text text) = .ok (tree.put location (.file (.text text))) :=
    write_eq_ok_iff.2 ⟨location, led_again, tree_unblocked, open_end, rfl⟩
  refine ⟨_, ?_, isPut_put (ne_nil_of_at?_ne tree_unblocked) (.text text) tree⟩
  rw [writeText_run, written]

end Operations

end RuleMetadata.FileTree

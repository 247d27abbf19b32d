import RuleMetadata.Proofs.Files.Growth

/-! Files on which any operation may fail by itself: it does what it does to a tree, or it fails and
leaves no more behind than a part of its work. -/

namespace RuleMetadata.FileSystem

variable {σ α : Type}

/-- Whether work does what other work does to a tree, or else fails and leaves a tree as it may. -/
def DoesOrFails (tree : σ → FileTree) (work : StateM σ (Except FileError α))
    (onTree : StateM FileTree (Except FileError α)) (leaves : FileTree → FileTree → Prop) : Prop :=
  ∀ state, ((work.run state).1, tree (work.run state).2) = onTree.run (tree state) ∨
    -- The failure may come where the other work would have succeeded.
    ∃ cause, (work.run state).1 = .error cause ∧ leaves (tree state) (tree (work.run state).2)

namespace DoesOrFails

variable {tree : σ → FileTree} {work : StateM σ (Except FileError α)}
  {onTree : StateM FileTree (Except FileError α)} {leaves : FileTree → FileTree → Prop}
  (does : DoesOrFails tree work onTree leaves) {state final : σ}
include does

/-- Work that succeeds has done what it does to the tree. -/
theorem of_ok {value : α} (ended : work.run state = (.ok value, final)) :
    onTree.run (tree state) = (.ok value, tree final) := by
  -- A failure would not have ended with a value.
  rcases does state with agrees | ⟨cause, failed, -⟩
  · rw [← agrees, ended]
  · rw [ended] at failed
    cases failed

/-- Work that fails leaves what it may, if that holds for the failures of the tree as well. -/
theorem of_error {cause : FileError} (ended : work.run state = (.error cause, final))
    (onFailure : ∀ failed, onTree.run (tree state) = (.error cause, failed) →
      leaves (tree state) failed) : leaves (tree state) (tree final) := by
  -- Either the tree has failed as well, or the work has failed in its own way.
  rcases does state with agrees | ⟨_, -, left⟩
  · rw [ended] at agrees
    exact onFailure _ agrees.symm
  · rw [ended] at left
    exact left

end DoesOrFails

/-- Whether a failure has left a temporary file with whatever content, and has changed nothing
else. -/
def LeavesInside (temporary : TemporaryFile) (before after : FileTree) : Prop :=
  -- The failure may come before or after the file was touched.
  after = before ∨ ∃ location old content,
    before.findTemporary temporary = .ok (location, old) ∧
      FileTree.IsPut location content before after

/-- Whether a file system works on a tree, but may fail where the tree would not, and at any time:
for want of space or rights, or because of the device. Making directories may stop halfway, and a
temporary file may be filled in part; it can still be removed. -/
structure IsFallible (system : FileSystem (StateM σ)) (tree : σ → FileTree) : Prop where
  -- Directories that were made in front of a failure stay.
  createDirectories (path : String) : DoesOrFails tree (system.createDirectories path)
    (FileTree.system.createDirectories path) (FileTree.Grown fun _ => False)
  createTemporary (directory : String) : DoesOrFails tree (system.createTemporary directory)
    (FileTree.system.createTemporary directory) fun before after => after = before
  fill (temporary : TemporaryFile) (text : String) : DoesOrFails tree (system.fill temporary text)
    (FileTree.system.fill temporary text) (LeavesInside temporary)
  sync (temporary : TemporaryFile) : DoesOrFails tree (system.sync temporary)
    (FileTree.system.sync temporary) fun before after => after = before
  persist (temporary : TemporaryFile) (path : String) : DoesOrFails tree
    (system.persist temporary path) (FileTree.system.persist temporary path)
    fun before after => after = before
  -- This one has to work, for it is all that can be done after a failure.
  discard (temporary : TemporaryFile) (state : σ) :
    tree ((system.discard temporary).run state).2 =
      ((FileTree.system.discard temporary).run (tree state)).2

/-- Operations on a tree fail only as they do. -/
theorem isFallible_system : FileTree.system.IsFallible id where
  -- Every operation is the one on the tree.
  createDirectories _ _ := .inl rfl
  createTemporary _ _ := .inl rfl
  fill _ _ _ := .inl rfl
  sync _ _ := .inl rfl
  persist _ _ _ := .inl rfl
  discard _ _ := rfl

end RuleMetadata.FileSystem

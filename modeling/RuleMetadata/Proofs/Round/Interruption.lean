import RuleMetadata.Proofs.Round.Placement

/-! Writing an artifact when any of its steps may fail: the document is complete or not there, and
nothing else has changed. -/

namespace RuleMetadata

/-- A document is written completely or not at all, whichever step fails: after a failure every file
is as it was, and no other file is there. Otherwise the path is that of the object in the directory,
the file there holds what the format has rendered, and no other file has changed. -/
theorem FileSystem.IsFallible.writeArtifact_keeps_files {σ : Type} {system : FileSystem (StateM σ)}
    {tree : σ → FileTree} (fallible : system.IsFallible tree) (format : DocumentFormat)
    (artifact : Artifact) (directory : String) (state : σ) :
    match (writeArtifact system format artifact directory).run state with
    | (.error _, failed) => FileTree.Grown (fun _ => False) (tree state) (tree failed)
    | (.ok path, final) => path = Path.join directory (artifact.name ++ "." ++ format.extension) ∧
      ∃ text target, format.render artifact = .ok text ∧ (tree final).locate path = .ok target ∧
        (tree final).at? target = some (.file (.text text)) ∧
        FileTree.Grown (· = target) (tree state) (tree final) := by
  rw [writeArtifact_run]
  cases rendered : format.render artifact with
  | error reason => exact .refl _
  | ok text =>
    -- The whole text is there, and all depends on whether it can be put at the path.
    have puts := fallible.puts_replace directory (format.path directory artifact.name) text state
    dsimp only
    rcases ended : (system.replace directory (format.path directory artifact.name) text).run.run
        state with ⟨cause | _, final⟩ <;> rw [ended] at puts
    · exact puts
    · obtain ⟨target, located, stands, grown⟩ := puts
      exact ⟨rfl, text, target, rfl, located, stands, grown⟩

namespace FileTree

/-- Work on a tree that is only done a number of times, and then fails with something left. -/
def spend (work : StateM FileTree (Except FileError α)) (left : FileTree → FileTree) :
    StateM (Nat × FileTree) (Except FileError α)
  -- The budget is used up: the work is not begun, or not brought to its end.
  | (0, tree) => pure (.error (.other "Input/output error (os error 5)"), 0, left tree)
  | (budget + 1, tree) =>
    let (result, next) := work.run tree
    pure (result, budget, next)

/-- The tree in which half of a text has got into a temporary file. -/
def fillHalf (temporary : TemporaryFile) (text : String) (tree : FileTree) : FileTree :=
  match tree.fill temporary (String.ofList (text.toList.take (text.length / 2))) with
  | .ok filled => filled
  -- If not even half of it can be written, nothing is.
  | .error _ => tree

/-- The operations on a tree where only a number of those that write succeed. -/
def failing : FileSystem (StateM (Nat × FileTree)) where
  readText path := spend (system.readText path) id
  writeText path text := spend (system.writeText path text) id
  createDirectories path := spend (system.createDirectories path) id
  createTemporary directory := spend (system.createTemporary directory) id
  fill temporary text := spend (system.fill temporary text) (fillHalf temporary text)
  sync temporary := spend (system.sync temporary) id
  persist temporary path := spend (system.persist temporary path) id
  -- A file can always be removed, so this one costs nothing.
  discard temporary := fun (budget, tree) =>
    let (result, next) := (system.discard temporary).run tree
    pure (result, budget, next)
  -- Looking at what stands where costs nothing either.
  kind? path := return match (← get).2.find path with
    | .ok entry => some entry.kind
    | .error _ => none
  names path := return (← get).2.names path

/-- Work that is only done a number of times does what it does, or fails. -/
theorem doesOrFails_spend {work : StateM FileTree (Except FileError α)}
    {left : FileTree → FileTree} {leaves : FileTree → FileTree → Prop}
    (allowed : ∀ tree, leaves tree (left tree)) :
    FileSystem.DoesOrFails Prod.snd (spend work left) work leaves
  -- The budget decides: at its end there is a failure, and before it the work itself.
  | (0, tree) => .inr ⟨_, rfl, allowed tree⟩
  | (_ + 1, _) => .inl rfl

/-- Half of a text in a temporary file is all that a failure leaves. -/
theorem leavesInside_fillHalf (temporary : TemporaryFile) (text : String) (tree : FileTree) :
    FileSystem.LeavesInside temporary tree (fillHalf temporary text tree) := by
  rw [fillHalf]
  -- Either the temporary file is found and gets half of the text, or nothing is done.
  split
  next filled filling =>
    obtain ⟨location, old, found, rfl⟩ := fill_eq_ok_iff.1 filling
    obtain ⟨directory, -, named, -⟩ := findTemporary_eq_ok_iff.1 found
    have below : location ≠ [] := by simp [named]
    exact .inr ⟨location, old, _, found, isPut_put below _ tree⟩
  next => exact .inl rfl

/-- The failing tree is one that an artifact may be written to. -/
theorem isFallible_failing : failing.IsFallible Prod.snd where
  -- Each operation is the one on the tree, unless its turn to fail has come.
  createDirectories _ := doesOrFails_spend fun tree => .refl tree
  createTemporary _ := doesOrFails_spend fun _ => rfl
  fill temporary text := doesOrFails_spend (leavesInside_fillHalf temporary text)
  sync _ := doesOrFails_spend fun _ => rfl
  persist _ _ := doesOrFails_spend fun _ => rfl
  discard _ _ := rfl

/-- A tree with a document of an object. -/
def documented : FileTree :=
  ((empty ["home"]).put ["home", "out"] .directory).put ["home", "out", "Thing.xml"]
    (.file (.text "<old/>"))

/-- The object with other metadata. -/
def revised : Artifact :=
  .namedObject { name := "Thing", description := some "A thing." }

end FileTree

/-- The failure while the new text is written leaves the old document as it was. -/
theorem FileSystem.IsFallible.writeArtifact_keeps_files_failing :
    FileTree.failing.IsFallible Prod.snd ∧
      -- The third step fails: only half of the text gets into the temporary file.
      ((writeArtifact FileTree.failing .xml FileTree.revised "out").run
        (2, FileTree.documented)).1 = .error
          (.notWritten "Thing" "out/Thing.xml" (.other "Input/output error (os error 5)")) ∧
      FileTree.Grown (fun _ => False) FileTree.documented ((writeArtifact FileTree.failing .xml
        FileTree.revised "out").run (2, FileTree.documented)).2.2 := by
  have failed : ((writeArtifact FileTree.failing .xml FileTree.revised "out").run
      (2, FileTree.documented)).1 = .error
        (.notWritten "Thing" "out/Thing.xml" (.other "Input/output error (os error 5)")) := by
    decide +kernel
  have kept := FileTree.isFallible_failing.writeArtifact_keeps_files .xml FileTree.revised "out"
    (2, FileTree.documented)
  refine ⟨FileTree.isFallible_failing, failed, ?_⟩
  rcases ended : (writeArtifact FileTree.failing .xml FileTree.revised "out").run
    (2, FileTree.documented) with ⟨_ | _, final⟩ <;> rw [ended] at failed kept
  · exact kept
  · cases failed

end RuleMetadata

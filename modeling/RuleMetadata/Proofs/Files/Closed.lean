import Mathlib.Data.List.Infix
import RuleMetadata.Proofs.Files.Growth

/-! Closed trees, in which every entry stands in a directory: where paths lead in them, and what
making directories does to them. -/

namespace RuleMetadata.FileTree

/-- Whether every entry stands in a directory. -/
def IsClosed (tree : FileTree) : Prop :=
  ∀ location, tree.at? location ≠ none → tree.at? location.dropLast = some .directory

variable {tree before after next : FileTree} {location target : Location} {path : String}

/-- In a tree with nothing in it there are the directories on the way to its home. -/
theorem at?_empty (home : Location) :
    (empty home).at? location = if location <+: home then some .directory else none := by
  by_cases root : location = []
  · simp [root, at?_root]
  · -- The listed locations are the beginnings of the home that are not empty.
    have listed : location ∈ (empty home).entries.map (·.1) ↔ location <+: home := by
      simp only [empty, List.mem_map, List.mem_range, exists_exists_and_eq_and]
      constructor
      · rintro ⟨depth, -, rfl⟩
        exact List.take_prefix _ _
      · rintro ⟨rest, rfl⟩
        have filled := List.length_pos_iff.2 root
        refine ⟨location.length - 1, by simp; omega, ?_⟩
        rw [Nat.sub_add_cancel filled, List.take_left]
    by_cases inside : location <+: home
    · obtain ⟨⟨place, entry⟩, member, rfl⟩ := List.mem_map.1 (listed.2 inside)
      have found : ((empty home).entries.find? (·.1 = place)).isSome :=
        List.find?_isSome.2 ⟨_, member, by simp⟩
      obtain ⟨other, is_found⟩ := Option.isSome_iff_exists.1 found
      obtain ⟨_, -, rfl⟩ := List.mem_map.1 (List.mem_of_find?_eq_some is_found)
      simp [at?, root, inside, is_found]
    · have missing : (empty home).entries.find? (·.1 = location) = none := by
        rw [List.find?_eq_none]
        intro entry member same
        exact inside (listed.1 (List.mem_map.2 ⟨entry, member, by simpa using same⟩))
      simp [at?, root, inside, missing]

/-- A tree with nothing in it is closed. -/
theorem isClosed_empty (home : Location) : (empty home).IsClosed := by
  -- Its directories are the beginnings of one way, and so are those above them.
  intro location standing
  rw [at?_empty] at standing ⊢
  have inside : location <+: home := by
    by_contra outside
    exact standing (if_neg outside)
  rw [if_pos ((List.dropLast_prefix location).trans inside)]

namespace IsClosed

/-- A tree stays closed as long as its directories are kept and whatever is new stands in one. -/
theorem of_keepsDirectories (closed : before.IsClosed) (keeps : KeepsDirectories before after)
    (new : ∀ location, after.at? location ≠ none → before.at? location = none →
      after.at? location.dropLast = some .directory) : after.IsClosed := by
  intro location standing
  -- What was there stood in a directory, and that one is kept.
  by_cases fresh : before.at? location = none
  · exact new location standing fresh
  · exact keeps.directory (closed location fresh)

/-- A directory that is made in another one leaves the tree closed. -/
theorem put_directory (closed : tree.IsClosed)
    (above : tree.at? location.dropLast = some .directory) (fresh : tree.at? location = none) :
    (tree.put location .directory).IsClosed := by
  have free : tree.at? location ≠ some .directory := by simp [fresh]
  have keeps := (KeepsDirectories.refl tree).put .directory free
  refine closed.of_keepsDirectories keeps fun other standing missing => ?_
  -- The only new entry is the directory itself.
  by_cases here : other = location
  · rw [here]
    exact keeps.directory above
  · rw [at?_put (ne_nil_of_at?_ne free), if_neg here] at standing
    exact absurd missing standing

/-- A file that is put into a directory leaves the tree closed. -/
theorem of_isPut (closed : before.IsClosed) {content : Content}
    (isPut : IsPut location content before after)
    (above : before.at? location.dropLast = some .directory)
    (free : before.at? location ≠ some .directory) : after.IsClosed := by
  have keeps := (isPut.grown free).toKeepsDirectories
  refine closed.of_keepsDirectories keeps fun other standing missing => ?_
  -- The only entry that can be new is the file itself.
  by_cases here : other = location
  · rw [here]
    exact keeps.directory above
  · rw [isPut.elsewhere here] at standing
    exact absurd missing standing

/-! ### Where paths lead -/

/-- On the way down to an entry there are only directories. -/
theorem at?_of_prefix (closed : tree.IsClosed) (standing : tree.at? target ≠ none)
    (above : location <+: target) (apart : location ≠ target) :
    tree.at? location = some .directory := by
  obtain ⟨names, rfl⟩ := above
  -- The way is gone up from its end, name by name.
  induction names using List.reverseRecOn with
  | nil => exact absurd (List.append_nil location).symm apart
  | append_singleton names last ih =>
    have parent := closed _ standing
    rw [← List.append_assoc, List.dropLast_concat] at parent
    by_cases top : location = location ++ names
    · rwa [← top] at parent
    · exact ih (by simp [parent]) top

end IsClosed

/-- A step leads downward or stays, unless it goes up. -/
theorem prefix_of_step {name : String} (down : name ≠ "..")
    (stepped : tree.step location name = .ok target) : location <+: target := by
  -- Only a dot name does not lead further down.
  simp only [step, step_eq_ok stepped, down, if_false] at stepped
  split at stepped
  · cases stepped
  · split at stepped <;> cases stepped
    · exact List.prefix_refl _
    · exact List.prefix_append _ _

/-- Names of which none goes up lead downward. -/
theorem prefix_of_follow {names : List String} (down : ".." ∉ names)
    (followed : tree.follow location names = .ok target) : location <+: target := by
  -- The induction is on the names, each of which leads one step further.
  induction names generalizing location with
  | nil =>
    cases followed
    exact List.prefix_refl _
  | cons name rest ih =>
    obtain ⟨reached, stepped, goes_on⟩ := bind_eq_ok_iff.1 followed
    obtain ⟨first, others⟩ := List.ne_and_not_mem_of_not_mem_cons down
    exact (prefix_of_step (Ne.symm first) stepped).trans (ih others goes_on)

namespace IsClosed

/-- Names that lead down to an entry in some tree lead there in any closed tree that has the entry
as well. -/
theorem follow (closed : before.IsClosed) {names : List String} (down : ".." ∉ names)
    (followed : after.follow location names = .ok target)
    (same : before.at? target = after.at? target) (standing : before.at? target ≠ none) :
    before.follow location names = .ok target := by
  induction names generalizing location with
  | nil => exact followed
  | cons name rest ih =>
    obtain ⟨reached, stepped, goes_on⟩ := bind_eq_ok_iff.1 followed
    have passed := step_eq_ok stepped
    -- What is passed on the way down is a directory, and so is the end if the way goes on from it.
    have directory : before.at? location = some .directory := by
      by_cases here : location = target
      · rw [here, same, ← here, passed]
      · exact closed.at?_of_prefix standing (prefix_of_follow down followed) here
    have stepped_before : before.step location name = .ok reached := by
      rw [← stepped, step, step, directory, passed]
    exact bind_eq_ok_iff.2 ⟨reached, stepped_before, ih (List.not_mem_of_not_mem_cons down) goes_on⟩

/-- A path that leads down to an entry in some tree leads there in any closed tree that has the
entry as well. -/
theorem locate (closed : before.IsClosed) (home : before.home = after.home)
    (down : LeadsDown path) (located : after.locate path = .ok target)
    (same : before.at? target = after.at? target) (standing : before.at? target ≠ none) :
    before.locate path = .ok target := by
  -- Both trees have the same home, where a relative path starts.
  obtain ⟨possible, followed⟩ := locate_eq_ok_iff.1 located
  rw [← home] at followed
  exact locate_eq_ok_iff.2 ⟨possible, closed.follow down followed same standing⟩

/-- A path that leads down to a file that has not changed is read in a closed tree as in one that
has grown from it, whatever directories were made in between. -/
theorem readText (closed : before.IsClosed) {free : Location → Prop}
    (grown : Grown free before after) (down : LeadsDown path)
    (pinned : ∀ location, after.locate path = .ok location → ¬ free location) :
    (after.readText path).toOption = (before.readText path).toOption := by
  have read : ∀ text, after.readText path = .ok text ↔ before.readText path = .ok text := by
    intro text
    simp only [readText_eq_ok_iff, ← file?_eq_some_iff]
    constructor
    · rintro ⟨location, located, file, open_end⟩
      -- Where the file stands now, it stood before, and the way to it was the same.
      have unchanged := grown.file (pinned location located)
      have stood := unchanged ▸ file
      have same : before.at? location = after.at? location := by
        rw [file?_eq_some_iff.1 stood, file?_eq_some_iff.1 file]
      have standing : before.at? location ≠ none := by simp [file?_eq_some_iff.1 stood]
      exact ⟨location, closed.locate grown.home.symm down located same standing, stood, open_end⟩
    · rintro ⟨location, located, file, open_end⟩
      have located_after := grown.toKeepsDirectories.locate located
      have unchanged := grown.file (pinned location located_after)
      exact ⟨location, located_after, unchanged.trans file, open_end⟩
  cases before_read : before.readText path with
  | ok text => rw [(read text).2 before_read]
  | error cause =>
    -- A file that can be read now could be read before.
    cases after_read : after.readText path with
    | ok text => simp [(read text).1 after_read] at before_read
    | error other => rfl

end IsClosed

/-! ### Directories that are made -/

/-- A path leads to a directory if there is one where it leads. -/
theorem isDirectory_iff : tree.isDirectory path ↔
    ∃ location, tree.locate path = .ok location ∧ tree.at? location = some .directory := by
  -- A slash at the end does not matter to a directory.
  have shown : tree.isDirectory path ↔ tree.find path = .ok .directory := by
    rw [isDirectory]
    rcases tree.find path with cause | entry
    · simp
    · cases entry <;> simp
  rw [shown, find_eq_ok_iff]
  simp

/-- A path that leads to a directory leads to it still. -/
theorem KeepsDirectories.isDirectory (keeps : KeepsDirectories before after)
    (there : before.isDirectory path) : after.isDirectory path := by
  -- The path leads through directories, all of which are kept.
  obtain ⟨location, located, standing⟩ := isDirectory_iff.1 there
  exact isDirectory_iff.2 ⟨location, keeps.locate located, keeps.directory standing⟩

/-- A directory that was made is there, and the tree is closed as before. -/
theorem of_createDirectory_eq_ok (closed : tree.IsClosed)
    (created : tree.createDirectory path = .ok next) : next.IsClosed ∧ next.isDirectory path := by
  have grown : Grown (fun _ => False) tree next := grown_createDirectory created
  obtain ⟨location, led, fresh, rfl⟩ := createDirectory_eq_ok_iff.1 created
  obtain ⟨located, above⟩ := locateNew_eq_ok_iff.1 led
  have free : tree.at? location ≠ some .directory := by simp [fresh]
  -- The new directory was made in one that is there.
  refine ⟨closed.put_directory above fresh,
    isDirectory_iff.2 ⟨location, grown.toKeepsDirectories.locate located, ?_⟩⟩
  rw [at?_put (ne_nil_of_at?_ne free), if_pos rfl]

/-- A directory that is there is not made again. -/
theorem createDirectory_of_isDirectory (closed : tree.IsClosed) (there : tree.isDirectory path) :
    tree.createDirectory path = .error .alreadyExists := by
  obtain ⟨location, located, standing⟩ := isDirectory_iff.1 there
  -- The path leads to the directory, in one that is there as well.
  have above := closed location (by simp [standing])
  have led := locateNew_eq_ok_iff.2 ⟨located, above⟩
  simp [createDirectory, led, standing, bind, Except.bind, throw, throwThe, MonadExceptOf.throw]

/-- Making directories upward leaves the tree closed, and the directory is there if that succeeds;
the empty path stands for a directory that need not be made. -/
theorem createFrom_spec (fuel : Nat) (closed : tree.IsClosed) (path : String) :
    (createFrom fuel tree path).2.IsClosed ∧
      ((createFrom fuel tree path).1 = .ok () →
        path = "" ∨ (createFrom fuel tree path).2.isDirectory path) := by
  -- The induction is on the fuel, by which the path above is made first.
  induction fuel generalizing path with
  | zero => exact ⟨closed, by simp [createFrom]⟩
  | succ fuel ih =>
    rw [createFrom]
    split
    · exact ⟨closed, fun _ => .inl ‹_›⟩
    · split
      · rename_i created
        obtain ⟨closed_next, there⟩ := of_createDirectory_eq_ok closed created
        exact ⟨closed_next, fun _ => .inr there⟩
      · split
        · exact ⟨closed, by simp⟩
        · rename_i parent _
          obtain ⟨closed_above, -⟩ := ih parent
          split <;> rename_i ended <;> rw [ended] at closed_above
          · exact ⟨closed_above, by simp⟩
          · split
            · rename_i created
              obtain ⟨closed_next, there⟩ := of_createDirectory_eq_ok closed_above created
              exact ⟨closed_next, fun _ => .inr there⟩
            · split
              · exact ⟨closed_above, fun _ => .inr ‹_›⟩
              · exact ⟨closed_above, by simp⟩
      · -- Whatever is in the way may be the directory itself.
        split
        · exact ⟨closed, fun _ => .inr ‹_›⟩
        · exact ⟨closed, by simp⟩

/-- Directories that are there are not made again. -/
theorem createDirectories_of_isDirectory (closed : tree.IsClosed)
    (there : path = "" ∨ tree.isDirectory path) : tree.createDirectories path = (.ok (), tree) := by
  rw [createDirectories, createFrom]
  -- The empty path is left alone, and any other one is found at once.
  by_cases empty : path = ""
  · rw [if_pos empty]
  · have standing := there.resolve_left empty
    rw [if_neg empty, createDirectory_of_isDirectory closed standing]
    simp [standing]

end RuleMetadata.FileTree

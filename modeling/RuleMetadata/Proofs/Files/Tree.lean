import Mathlib.Data.List.Nodup
import Mathlib.Data.List.Perm.Subperm
import RuleMetadata.Proofs.Files.Path
import RuleMetadata.Proofs.State

/-! Laws of file trees: what each operation changes, and what it leaves as it was. -/

namespace RuleMetadata.FileTree

variable {tree before after next : FileTree} {location : Location} {path : String}

/-! ### Entries -/

/-- An entry that was put is found at its location, and all others where they were. -/
theorem at?_put (below : location ≠ []) (entry : Entry) (other : Location) :
    (tree.put location entry).at? other =
      if other = location then some entry else tree.at? other := by
  -- The new entry is found first, and the old ones of its location are gone.
  by_cases root : other = []
  · simp [at?, root, below.symm]
  · by_cases same : other = location
    · simp [at?, put, same, below]
    · have other_first : location ≠ other := fun equal => same equal.symm
      simp only [at?, put, root, same, if_false, List.find?_cons, other_first, decide_false,
        List.find?_filter]
      congr 2
      funext candidate
      by_cases here : candidate.1 = other <;> simp [here, same]

/-- An entry that was taken away is gone, and all others are where they were. -/
theorem at?_erase (below : location ≠ []) (other : Location) :
    (tree.erase location).at? other = if other = location then none else tree.at? other := by
  -- The search passes the same entries, apart from those of the location.
  by_cases root : other = []
  · simp [at?, root, below.symm]
  · by_cases same : other = location
    · simp [at?, erase, same, below, List.find?_eq_none]
    · simp only [at?, erase, root, same, if_false, List.find?_filter]
      congr 2
      funext candidate
      by_cases here : candidate.1 = other <;> simp [here, same]

/-- There is always a directory at the root. -/
theorem at?_root : tree.at? [] = some .directory := by
  simp [at?]

/-- A location without a directory is below the root. -/
theorem ne_nil_of_at?_ne (free : tree.at? location ≠ some .directory) : location ≠ [] := by
  -- The root is a directory itself.
  rintro rfl
  exact free at?_root

/-- Whatever is found below the root is one of the entries. -/
theorem mem_entries_of_at? {entry : Entry} (below : location ≠ [])
    (found : tree.at? location = some entry) : location ∈ tree.entries.map (·.1) := by
  simp only [at?, below, if_false, Option.map_eq_some_iff] at found
  obtain ⟨⟨place, _⟩, listed, -⟩ := found
  -- The first entry of the location is the one that is found.
  have same := List.find?_some listed
  exact List.mem_map.2 ⟨_, List.mem_of_find?_eq_some listed, of_decide_eq_true same⟩

/-! ### Paths -/

/-- A step leads on from a directory alone. -/
theorem step_eq_ok {name : String} {target : Location}
    (stepped : tree.step location name = .ok target) : tree.at? location = some .directory := by
  -- Any other entry, or none, is an error.
  cases found : tree.at? location with
  | none => simp [step, found] at stepped
  | some entry =>
    cases entry with
    | file content => simp [step, found] at stepped
    | directory => rfl

/-- Names are followed in two parts, one behind the other. -/
theorem follow_append (front back : List String) :
    tree.follow location (front ++ back) =
      (tree.follow location front).bind fun reached => tree.follow reached back := by
  -- The second part is followed from where the first one ends.
  induction front generalizing location with
  | nil => rfl
  | cons name rest ih =>
    simp only [List.cons_append, follow, bind]
    cases tree.step location name with
    | error cause => rfl
    | ok reached => exact ih

/-- A path of a possible length is followed name by name. -/
theorem locate_eq_ok_iff : tree.locate path = .ok location ↔
    ('\x00' ∉ path.toList ∧ path ≠ "" ∧ path.utf8ByteSize < pathLimit) ∧
      tree.follow (if Path.isAbsolute path then [] else tree.home) (pathNames path) =
        .ok location := by
  -- The three conditions are checked before any name is followed.
  rw [locate]
  by_cases null : '\x00' ∈ path.toList
  · simp [null]
  · by_cases empty : path = ""
    · simp [empty]
    · by_cases long : pathLimit ≤ path.utf8ByteSize
      · simp [null, empty, long, Nat.not_lt.2 long]
      · simp [null, empty, long, Nat.not_le.1 long]

/-- A plain name leads one level down. -/
theorem eq_of_step_eq_ok {name : String} {target : Location} (plain : Text.isPlainSegment name)
    (stepped : tree.step location name = .ok target) : target = location ++ [name] := by
  -- The name is neither of the two that lead elsewhere.
  obtain ⟨-, not_dot, not_dots, -⟩ := Text.isPlainSegment_iff.1 plain
  simp only [step, step_eq_ok stepped, not_dot, not_dots, if_false] at stepped
  split at stepped
  · cases stepped
  · exact (Except.ok.inj stepped).symm

/-- Plain names lead down one level each. -/
theorem eq_of_follow_eq_ok {names : List String} {target : Location}
    (plain : ∀ name ∈ names, Text.isPlainSegment name)
    (followed : tree.follow location names = .ok target) : target = location ++ names := by
  -- The induction is on the names, each of which is one step down.
  induction names generalizing location with
  | nil => simpa [follow, eq_comm] using followed
  | cons name rest ih =>
    obtain ⟨first, others⟩ := List.forall_mem_cons.1 plain
    obtain ⟨reached, stepped, behind⟩ := bind_eq_ok_iff.1 followed
    rw [ih others behind, eq_of_step_eq_ok first stepped, List.append_assoc, List.singleton_append]

/-- A path that ends in plain names leads through its directory to a location of those names. -/
theorem locate_foldl_join_eq_ok {base : String} {names : List String}
    (plain : ∀ name ∈ names, Text.isPlainSegment name)
    (located : tree.locate (names.foldl Path.join base) = .ok location) : ∃ directory,
      tree.follow (if Path.isAbsolute base then [] else tree.home) (pathNames base) =
        .ok directory ∧ location = directory ++ names := by
  have followed := (locate_eq_ok_iff.1 located).2
  rw [pathNames_foldl_join plain, isAbsolute_foldl_join plain, follow_append] at followed
  -- The path is followed through its directory first, and then along the names.
  obtain ⟨directory, reached, behind⟩ := bind_eq_ok_iff.1 followed
  exact ⟨directory, reached, eq_of_follow_eq_ok plain behind⟩

/-- A path that ends in a plain name leads through its directory to a location of that name. -/
theorem locate_join_eq_ok {base name : String} (plain : Text.isPlainSegment name)
    (located : tree.locate (Path.join base name) = .ok location) : ∃ directory,
      tree.follow (if Path.isAbsolute base then [] else tree.home) (pathNames base) =
        .ok directory ∧ location = directory ++ [name] := by
  -- One name is the special case of several.
  have single : [name].foldl Path.join base = Path.join base name := rfl
  rw [← single] at located
  exact locate_foldl_join_eq_ok (List.forall_mem_singleton.2 plain) located

/-! ### Names of temporary files -/

/-- The characters of a temporary name are a fixed beginning and the digits of its number. -/
theorem toList_temporaryName (index : Nat) :
    (temporaryName index).toList = ['.', 't', 'm', 'p'] ++ Nat.toDigits 10 index := by
  -- The name is spelled by appending the digits of its number.
  have shown : temporaryName index = ".tmp" ++ index.repr := rfl
  rw [shown, String.toList_append, Nat.toList_repr]
  rfl

/-- Different numbers make different temporary names. -/
theorem temporaryName_injective : Function.Injective temporaryName := by
  -- Behind the fixed beginning, the digits spell the number.
  intro one other same
  rw [← String.toList_inj, toList_temporaryName, toList_temporaryName] at same
  have digits := congrArg (Nat.ofDigitChars 10 · 0) (List.append_cancel_left same)
  simpa using digits

/-- A name that does not end in a digit is no temporary one. -/
theorem ne_temporaryName {name : String} {last : Char} (ends : name.toList.getLast? = some last)
    (other : last.isDigit = false) (index : Nat) : name ≠ temporaryName index := by
  -- Behind the fixed beginning of a temporary name there are digits alone.
  rintro rfl
  have filled : Nat.toDigits 10 index ≠ [] := Nat.toDigits_ne_nil
  rw [toList_temporaryName, List.getLast?_append, List.getLast?_eq_some_getLast filled] at ends
  have digit := Nat.isDigit_of_mem_toDigits (by decide) (by decide) (List.getLast_mem filled)
  rw [Option.some.inj ends, other] at digit
  cases digit

/-- No entry of a directory has the name that is chosen for a temporary file. -/
theorem at?_freshName (tree : FileTree) (location : Location) :
    tree.at? (location ++ [tree.freshName location]) = none := by
  rw [freshName]
  split
  · -- A name that is found is free.
    rename_i index found
    have free := List.find?_some found
    exact Option.isNone_iff_eq_none.1 free
  · rename_i taken
    exfalso
    -- Were all the names taken, then there would be more entries than there are.
    have apart : Function.Injective fun index => location ++ [temporaryName index] :=
      fun one other same => temporaryName_injective (by simpa using same)
    have entered : (List.range (tree.entries.length + 1)).map
        (fun index => location ++ [temporaryName index]) ⊆ tree.entries.map (·.1) := by
      intro place listed
      obtain ⟨index, inside, rfl⟩ := List.mem_map.1 listed
      have occupied := List.find?_eq_none.1 taken index inside
      obtain ⟨entry, found⟩ := Option.ne_none_iff_exists'.1 (by simpa using occupied)
      exact mem_entries_of_at? (by simp) found
    have few := (List.subperm_of_subset (List.nodup_range.map apart) entered).length_le
    simp only [List.length_map, List.length_range] at few
    omega

/-! ### Operations that succeed -/

/-- A new entry belongs where its path leads, in a directory that is there. -/
theorem locateNew_eq_ok_iff : tree.locateNew path = .ok location ↔
    tree.locate path = .ok location ∧ tree.at? location.dropLast = some .directory := by
  -- The directory above is looked at, but the location stays the same.
  simp only [locateNew, bind_eq_ok_iff]
  constructor
  · rintro ⟨reached, located, checked⟩
    cases above : tree.at? reached.dropLast with
    | none =>
      simp only [above] at checked
      cases checked
    | some entry =>
      cases entry with
      | file content =>
        simp only [above] at checked
        cases checked
      | directory =>
        simp only [above] at checked
        cases checked
        exact ⟨located, above⟩
  · rintro ⟨located, above⟩
    exact ⟨location, located, by rw [above]; rfl⟩

/-- A file is written where its path leads as to a file, unless there is a directory. -/
theorem write_eq_ok_iff {content : Content} : tree.write path content = .ok next ↔
    ∃ location, tree.locateNew path = .ok location ∧ tree.at? location ≠ some .directory ∧
      endsInSlash path = false ∧ next = tree.put location (.file content) := by
  -- A directory in the way is refused, and a slash at the end of the path as well.
  simp only [write, bind_eq_ok_iff]
  refine exists_congr fun location => and_congr_right fun _ => ?_
  rcases standing : tree.at? location with _ | old | _ <;> cases slash : endsInSlash path <;>
    simp [throw, throwThe, MonadExceptOf.throw, bind, Except.bind, pure, Except.pure, eq_comm]

/-- A directory is made where its path leads, and only where nothing is. -/
theorem createDirectory_eq_ok_iff : tree.createDirectory path = .ok next ↔
    ∃ location, tree.locateNew path = .ok location ∧ tree.at? location = none ∧
      next = tree.put location .directory := by
  -- Whatever is in the way is refused.
  simp only [createDirectory, bind_eq_ok_iff]
  refine exists_congr fun location => and_congr_right fun _ => ?_
  rcases standing : tree.at? location with _ | entry <;>
    simp [throw, throwThe, MonadExceptOf.throw, pure, Except.pure, eq_comm]

/-- A path leads to an entry where one is, but only to a directory if a slash ends it. -/
theorem find_eq_ok_iff {entry : Entry} : tree.find path = .ok entry ↔
    ∃ location, tree.locate path = .ok location ∧ tree.at? location = some entry ∧
      (entry = .directory ∨ endsInSlash path = false) := by
  simp only [find, bind_eq_ok_iff]
  refine exists_congr fun location => and_congr_right fun _ => ?_
  -- A file behind a slash is the one entry that is not found.
  rcases standing : tree.at? location with _ | old | _ <;> cases slash : endsInSlash path <;>
    simp [throw, throwThe, MonadExceptOf.throw, pure, Except.pure]
  all_goals
    rintro rfl
    simp

/-- The text of a file is read where its path leads as to a file. -/
theorem readText_eq_ok_iff {text : String} : tree.readText path = .ok text ↔
    ∃ location, tree.locate path = .ok location ∧
      tree.at? location = some (.file (.text text)) ∧ endsInSlash path = false := by
  -- Of all that a path can lead to, only a file with a text is read.
  have shown : tree.readText path = .ok text ↔ tree.find path = .ok (.file (.text text)) := by
    simp only [readText, bind_eq_ok_iff]
    constructor
    · rintro ⟨entry, found, read⟩
      rcases entry with (_ | _) | _ <;> cases read
      exact found
    · exact fun found => ⟨_, found, rfl⟩
  rw [shown, find_eq_ok_iff]
  simp

/-! ### Temporary files -/

/-- Temporary files are made in the directory of a path that is long enough for their names. -/
theorem locateTemporaries_eq_ok_iff {directory : String} :
    tree.locateTemporaries directory = .ok location ↔
      ∃ pattern, tree.locateNew (Path.join directory temporaryPattern) = .ok pattern ∧
        location = pattern.dropLast := by
  simp only [locateTemporaries, bind_eq_ok_iff]
  -- The directory is the location in front of the last name.
  refine exists_congr fun pattern => and_congr_right fun _ => ?_
  simp [pure, Except.pure, eq_comm]

/-- A temporary file is made under a free name. -/
theorem createTemporary_eq_ok_iff {directory : String} {temporary : TemporaryFile} :
    tree.createTemporary directory = .ok (temporary, next) ↔
      ∃ location, tree.locateTemporaries directory = .ok location ∧
        temporary = ⟨directory, tree.freshName location⟩ ∧
        next = tree.put (location ++ [tree.freshName location]) (.file (.text "")) := by
  simp only [createTemporary, bind_eq_ok_iff]
  -- Only locating the directory can fail.
  refine exists_congr fun location => and_congr_right fun _ => ?_
  simp [pure, Except.pure, eq_comm]

/-- A temporary file is found in its directory, under its name. -/
theorem findTemporary_eq_ok_iff {temporary : TemporaryFile} {content : Content} :
    tree.findTemporary temporary = .ok (location, content) ↔
      ∃ directory, tree.locateTemporaries temporary.directory = .ok directory ∧
        location = directory ++ [temporary.name] ∧
        tree.at? location = some (.file content) := by
  simp only [findTemporary, bind_eq_ok_iff]
  refine exists_congr fun directory => and_congr_right fun _ => ?_
  -- A directory of that name is no temporary file.
  rcases standing : tree.at? (directory ++ [temporary.name]) with _ | old | _ <;>
    simp [throw, throwThe, MonadExceptOf.throw, pure, Except.pure, eq_comm]
  all_goals
    rintro rfl
    simp [standing, eq_comm]

/-- A temporary file is filled where it is found. -/
theorem fill_eq_ok_iff {temporary : TemporaryFile} {text : String} :
    tree.fill temporary text = .ok next ↔
      ∃ location content, tree.findTemporary temporary = .ok (location, content) ∧
        next = tree.put location (.file (.text text)) := by
  simp only [fill, bind_eq_ok_iff, Prod.exists]
  -- Only finding the file can fail.
  refine exists_congr fun location => exists_congr fun content => and_congr_right fun _ => ?_
  simp [pure, Except.pure, eq_comm]

/-- A temporary file that is moved takes the place of a file, never that of a directory. -/
theorem persist_eq_ok_iff {temporary : TemporaryFile} :
    tree.persist temporary path = .ok next ↔
      ∃ origin content location, tree.findTemporary temporary = .ok (origin, content) ∧
        tree.locateNew path = .ok location ∧ tree.at? location ≠ some .directory ∧
        next = (tree.erase origin).put location (.file content) := by
  simp only [persist, bind_eq_ok_iff, Prod.exists]
  refine exists_congr fun origin => exists_congr fun content => ?_
  simp only [exists_and_left]
  refine and_congr_right fun _ => exists_congr fun location => and_congr_right fun _ => ?_
  -- The origin is found and the path located, and then the target must not be a directory.
  by_cases standing : tree.at? location = some .directory <;>
    simp [standing, throw, throwThe, MonadExceptOf.throw, bind, Except.bind, pure, Except.pure,
      eq_comm]

end RuleMetadata.FileTree

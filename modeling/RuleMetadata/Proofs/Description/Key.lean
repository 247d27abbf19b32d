import RuleMetadata.Description.Key
import RuleMetadata.Description.Store
import RuleMetadata.Proofs.Files.Path
import RuleMetadata.Proofs.Model.Build
import RuleMetadata.Proofs.Text.Blank

/-! When the descriptions of two elements are kept under one key. -/

namespace RuleMetadata

/-- A key is accepted just when all of its segments are plain, and refused by name otherwise. -/
theorem keyPath_eq (root key : String) : keyPath root key =
    if ∀ name ∈ Text.segments key, Text.isPlainSegment name then .ok (Path.join root key)
    else .error (.refusedKey key) := by
  simp only [keyPath, List.all_eq_true]
  -- Joining the segments one by one is joining the key as a whole.
  split
  · rename_i plain
    rw [FileTree.join_eq_foldl_segments plain]
  · rfl

/-- A key of plain segments is accepted, and leads to the path that it spells below the root. -/
theorem keyPath_of_plain {key : String}
    (plain : ∀ name ∈ Text.segments key, Text.isPlainSegment name) (root : String) :
    keyPath root key = .ok (Path.join root key) := by
  rw [keyPath_eq, if_pos plain]

namespace Element

/-- The owner's name as keys have it: a missing one counts as empty. -/
def keyOwner (element : Element) : String :=
  element.ownerName.getD ""

/-- The last segment of a key tells the trimmed name and the kind. -/
theorem keyFile_eq_iff {one other : Element} : one.keyFile = other.keyFile ↔
    Text.trim one.simpleName = Text.trim other.simpleName ∧ one.kind = other.kind := by
  constructor
  · intro same
    have reversed := congrArg (fun file => file.toList.reverse) same
    -- Read from the end, the labels of two kinds differ before the point in front of them.
    cases kind : one.kind <;> cases other_kind : other.kind <;>
      simp [keyFile, kind, other_kind, ElementKind.label] at reversed
    all_goals exact ⟨String.toList_inj.1 reversed, rfl⟩
  · rintro ⟨name, kind⟩
    rw [keyFile, keyFile, name, kind]

/-- The last segment of a key is plain. -/
theorem isPlainSegment_keyFile {element : Element}
    (plain : Text.isPlainSegment (Text.trim element.simpleName)) :
    Text.isPlainSegment element.keyFile := by
  -- The trimmed name is plain, and so is what each kind adds to it.
  have ending : Text.isPlainSegment ("." ++ (element.kind.label ++ ".txt")) := by
    cases element.kind <;> decide
  rw [keyFile, String.append_assoc, String.append_assoc]
  exact Text.isPlainSegment_append plain ending

/-- The last character of a key is that of its ending. -/
theorem getLast?_keyFile (element : Element) : element.keyFile.toList.getLast? = some 't' := by
  simp [keyFile, String.toList_append, List.getLast?_cons]

/-- A key is the last segment alone, or the owner's name and the last segment. -/
theorem resourceKey?_eq_some_iff {element : Element} {key : String} :
    element.resourceKey? = some key ↔
      element.kind ≠ .constructor ∧ Text.isPlainSegment (Text.trim element.simpleName) ∧
        (element.keyOwner = "" ∧ key = element.keyFile ∨
          Text.isPlainSegment element.keyOwner ∧
            key = element.keyOwner ++ "/" ++ element.keyFile) := by
  -- The branches of the key are taken in turn; an empty owner's name counts as none.
  have empty : Text.isPlainSegment "" = false := rfl
  by_cases plain : Text.isPlainSegment (Text.trim element.simpleName)
  · by_cases kind : element.kind = .constructor
    · simp [resourceKey?, kind]
    · cases owner : element.ownerName with
      | none => simp [resourceKey?, keyOwner, plain, kind, owner, empty, eq_comm]
      | some name =>
        by_cases unnamed : name = ""
        · simp [resourceKey?, keyOwner, plain, kind, owner, unnamed, empty, eq_comm]
        · by_cases segment : Text.isPlainSegment name <;>
            simp [resourceKey?, keyOwner, plain, kind, owner, unnamed, segment, eq_comm]
  · simp [resourceKey?, plain]

/-- Cutting a key at its slashes gives back what it was made of. -/
theorem segments_resourceKey? {element : Element} {key : String}
    (keyed : element.resourceKey? = some key) :
    Text.segments key =
      if element.keyOwner = "" then [element.keyFile] else [element.keyOwner, element.keyFile] := by
  obtain ⟨_, plain, parts⟩ := resourceKey?_eq_some_iff.1 keyed
  -- Neither part has a slash, so the one between them is the only place to cut at.
  have file := Text.splitOn_slash_of_not_mem
    (Text.slash_not_mem_of_isPlainSegment (isPlainSegment_keyFile plain))
  rcases parts with ⟨unnamed, rfl⟩ | ⟨segment, rfl⟩
  · simp [Text.segments, unnamed, file]
  · have owner := Text.splitOn_slash_of_not_mem (Text.slash_not_mem_of_isPlainSegment segment)
    have named := Text.ne_empty_of_isPlainSegment segment
    have cut := @Text.splitOn_append (· == '/') '/' rfl element.keyOwner.toList
      element.keyFile.toList
    simp [Text.segments, named, cut, owner, file]

/-- A key has plain segments alone. -/
theorem isPlainSegment_of_mem_segments {element : Element} {key : String}
    (keyed : element.resourceKey? = some key) :
    ∀ name ∈ Text.segments key, Text.isPlainSegment name := by
  obtain ⟨-, plain, parts⟩ := resourceKey?_eq_some_iff.1 keyed
  have file_plain := isPlainSegment_keyFile plain
  rw [segments_resourceKey? keyed]
  -- The name of the owner is the first of two segments, unless there is none.
  rcases parts with ⟨unnamed, -⟩ | ⟨segment, -⟩
  · simp [unnamed, file_plain]
  · simp [Text.ne_empty_of_isPlainSegment segment, segment, file_plain]

/-- A store accepts the key of every element, and keeps its text in a file with the name of the last
segment. -/
theorem keyPath_resourceKey? {element : Element} {key : String}
    (keyed : element.resourceKey? = some key) (root : String) :
    keyPath root key = .ok (Path.join root key) ∧ Text.isPlainSegment element.keyFile ∧
      ∃ directory, Path.join root key = Path.join directory element.keyFile := by
  obtain ⟨-, plain, parts⟩ := resourceKey?_eq_some_iff.1 keyed
  have file_plain := isPlainSegment_keyFile plain
  refine ⟨keyPath_of_plain (isPlainSegment_of_mem_segments keyed) root, file_plain, ?_⟩
  -- The file is in the root itself, or in the directory of the owner.
  rcases parts with ⟨-, rfl⟩ | ⟨segment, rfl⟩
  · exact ⟨root, rfl⟩
  · have relative :=
      Path.isAbsolute_of_slash_not_mem (Text.slash_not_mem_of_isPlainSegment file_plain)
    exact ⟨_, FileTree.join_slash segment relative root⟩

/-- The file of a key is below the root of its store. -/
theorem leadsDown_resourceKey? {element : Element} {key root : String}
    (keyed : element.resourceKey? = some key) (down : FileTree.LeadsDown root) :
    FileTree.LeadsDown (Path.join root key) := by
  -- None of the segments of a key goes up.
  have plain := isPlainSegment_of_mem_segments keyed
  rw [FileTree.join_eq_foldl_segments plain]
  exact down.foldl_join plain

/-- Two keys are one just when their elements agree in kind, trimmed name and owner's name. -/
theorem resourceKey?_eq_iff_of_isSome {one other : Element} (one_keyed : one.resourceKey?.isSome)
    (other_keyed : other.resourceKey?.isSome) : one.resourceKey? = other.resourceKey? ↔
      one.kind = other.kind ∧ Text.trim one.simpleName = Text.trim other.simpleName ∧
        one.keyOwner = other.keyOwner := by
  obtain ⟨key, one_key⟩ := Option.isSome_iff_exists.1 one_keyed
  obtain ⟨other_key, other_found⟩ := Option.isSome_iff_exists.1 other_keyed
  constructor
  · intro same
    have cut := segments_resourceKey? one_key
    rw [segments_resourceKey? (same ▸ one_key)] at cut
    -- The numbers of segments tell whether there is an owner, and the segments what it is.
    by_cases unnamed : one.keyOwner = "" <;> by_cases other_unnamed : other.keyOwner = "" <;>
      simp [unnamed, other_unnamed] at cut
    · obtain ⟨name, kind⟩ := keyFile_eq_iff.1 cut
      exact ⟨kind.symm, name.symm, by rw [unnamed, other_unnamed]⟩
    · obtain ⟨name, kind⟩ := keyFile_eq_iff.1 cut.2
      exact ⟨kind.symm, name.symm, cut.1.symm⟩
  · rintro ⟨kind, name, owner⟩
    have file : one.keyFile = other.keyFile := keyFile_eq_iff.2 ⟨name, kind⟩
    rw [one_key, eq_comm, resourceKey?_eq_some_iff, ← kind, ← name, ← owner, ← file]
    exact resourceKey?_eq_some_iff.1 one_key

end Element

/-- A name with a point is its package with its last part behind it. -/
theorem qualifiedBy_lastName {name package : String} (inside : packageOf name = some package) :
    qualifiedBy package (lastName name) = name := by
  have parts := List.takeWhile_append_dropWhile (p := (· != '.')) (l := name.toList.reverse)
  have first := List.head?_dropWhile_not (· != '.') name.toList.reverse
  simp only [packageOf] at inside
  split at inside
  · cases inside
  · rename_i point front behind
    obtain rfl := Option.some.inj inside
    -- The search for the package stops at a point, which stands between the two parts.
    have is_point : point = '.' := by simpa [behind] using first
    rw [behind, is_point] at parts
    apply String.toList_inj.1
    rw [← List.reverse_reverse name.toList, ← parts]
    simp [qualifiedBy, lastName]

/-- A name without a point is its last part. -/
theorem lastName_of_packageOf_eq_none {name : String} (alone : packageOf name = none) :
    lastName name = name := by
  -- The search for a point from the end takes in the whole name.
  have parts := List.takeWhile_append_dropWhile (p := (· != '.')) (l := name.toList.reverse)
  simp only [packageOf] at alone
  split at alone
  · rename_i behind
    rw [behind, List.append_nil] at parts
    simp [lastName, parts]
  · cases alone

/-- The qualified name of a placed element is made from its owner's name and its simple name. -/
theorem Element.IsPlaced.qualifiedName_eq {elements : List Element} {element : Element}
    (placed : element.IsPlaced elements) : element.qualifiedName =
      match element.ownerName with
      | none => element.simpleName
      | some owner => qualifiedBy owner element.simpleName := by
  -- A top-level type was given both names from the qualified one, and a member the other way round.
  cases owner : element.owner with
  | none =>
    simp only [Element.IsPlaced, owner] at placed
    obtain ⟨_, package, simple⟩ := placed
    rw [package, simple]
    cases inside : packageOf element.qualifiedName with
    | none => exact (lastName_of_packageOf_eq_none inside).symm
    | some package => exact (qualifiedBy_lastName inside).symm
  | some position =>
    simp only [Element.IsPlaced, owner] at placed
    obtain ⟨outer, _, _, named, qualified⟩ := placed
    rw [named, qualified]

end RuleMetadata

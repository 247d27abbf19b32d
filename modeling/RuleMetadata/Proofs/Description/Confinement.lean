import RuleMetadata.Proofs.Description.Key
import RuleMetadata.Proofs.Files.Tree

/-! Where the keys of descriptions lead: below the root of their store, and no two of them to one
place. -/

namespace RuleMetadata

namespace Path

/-- Whether a path is a root with some names behind it, each of which leads one level down. -/
structure Extends (root : String) (names : List String) (path : String) : Prop where
  filled : names ≠ []
  down : ∀ name ∈ names, name ≠ "" ∧ name ≠ "." ∧ name ≠ ".." ∧
    '/' ∉ name.toList ∧ '\\' ∉ name.toList
  spelled : path = join root ("/".intercalate names)
  pathNames : FileTree.pathNames path = FileTree.pathNames root ++ names
  isAbsolute : Path.isAbsolute path = Path.isAbsolute root
  /-- In any files, the names lead on from where the root leads to. -/
  located : ∀ (tree : FileTree) (location : Location), tree.locate path = .ok location →
    ∃ directory, tree.follow (if Path.isAbsolute root then [] else tree.home)
      (FileTree.pathNames root) = .ok directory ∧ location = directory ++ names

variable {root key : String}

/-- A key of plain segments extends a root by its segments. -/
theorem extends_join (plain : ∀ name ∈ Text.segments key, Text.isPlainSegment name) :
    Extends root (Text.segments key) (join root key) where
  -- No segment is empty or a dot name, so that none of them is dropped or goes up.
  filled := Text.segments_ne_nil key
  down name inside := by
    obtain ⟨filled, not_dot, not_dots, allowed⟩ := Text.isPlainSegment_iff.1 (plain name inside)
    exact ⟨filled, not_dot, not_dots, fun slash => (allowed _ slash).1 rfl,
      fun backslash => (allowed _ backslash).2.1 rfl⟩
  spelled := by rw [Text.intercalate_segments]
  pathNames := by rw [FileTree.join_eq_foldl_segments plain, FileTree.pathNames_foldl_join plain]
  isAbsolute := by rw [FileTree.join_eq_foldl_segments plain, FileTree.isAbsolute_foldl_join plain]
  located tree location located := by
    rw [FileTree.join_eq_foldl_segments plain] at located
    exact FileTree.locate_foldl_join_eq_ok plain located

namespace Extends

variable {names other_names : List String} {path other_path : String}

/-- Different names behind one root make different paths. -/
theorem pathNames_ne (one : Extends root names path) (other : Extends root other_names other_path)
    (apart : names ≠ other_names) :
    FileTree.pathNames path ≠ FileTree.pathNames other_path := by
  -- Both paths have the names of the root in front of their own.
  rw [one.pathNames, other.pathNames]
  exact fun same => apart (List.append_cancel_left same)

/-- Different names behind one root lead to different places, in whatever files. -/
theorem location_ne (one : Extends root names path) (other : Extends root other_names other_path)
    (apart : names ≠ other_names) {tree : FileTree} {location other_location : Location}
    (located : tree.locate path = .ok location)
    (other_located : tree.locate other_path = .ok other_location) :
    location ≠ other_location := by
  -- Both are behind the one directory that the root leads to.
  obtain ⟨directory, reached, rfl⟩ := one.located tree location located
  obtain ⟨other_directory, other_reached, rfl⟩ := other.located tree other_location other_located
  obtain rfl : directory = other_directory := Except.ok.inj (reached.symm.trans other_reached)
  exact fun same => apart (List.append_cancel_left same)

end Extends

end Path

/-- The path of an accepted key extends the root by the segments of the key. -/
theorem extends_of_keyPath_eq_ok {root key path : String} (led : keyPath root key = .ok path) :
    Path.Extends root (Text.segments key) path := by
  rw [keyPath_eq] at led
  -- Only a key of plain segments has a path.
  split at led
  · rw [← Except.ok.inj led]
    exact Path.extends_join ‹_›
  · cases led

/-- Keys cannot escape and are always usable. A store refuses a key with a segment that is not
plain, and leads any other one below its root, by the segments of the key; different keys lead to
different paths and, in any files, to different places. The keys of elements are all accepted, and
lead one or two levels down. -/
theorem keyPath_confined (root : String) :
    (∀ key,
      keyPath root key = .error (.refusedKey key) ∧
          ¬ (∀ name ∈ Text.segments key, Text.isPlainSegment name) ∨
        ∃ path, keyPath root key = .ok path ∧ Path.Extends root (Text.segments key) path) ∧
      (∀ one other one_path other_path, keyPath root one = .ok one_path →
        keyPath root other = .ok other_path → one ≠ other →
          FileTree.pathNames one_path ≠ FileTree.pathNames other_path ∧
            ∀ (tree : FileTree) (location other_location : Location),
              tree.locate one_path = .ok location → tree.locate other_path = .ok other_location →
                location ≠ other_location) ∧
      ∀ (element : Element) (key : String), element.resourceKey? = some key →
        ∃ path, keyPath root key = .ok path ∧ Path.Extends root (Text.segments key) path ∧
          ((Text.segments key).length = 1 ∨ (Text.segments key).length = 2) := by
  refine ⟨fun key => ?refused_or_below, fun one other one_path other_path led other_led apart => ?_,
    fun element key keyed => ?elements⟩
  case refused_or_below =>
    by_cases plain : ∀ name ∈ Text.segments key, Text.isPlainSegment name
    · exact .inr ⟨_, keyPath_of_plain plain root, Path.extends_join plain⟩
    · exact .inl ⟨by rw [keyPath_eq, if_neg plain], plain⟩
  case elements =>
    have accepted := keyPath_of_plain (Element.isPlainSegment_of_mem_segments keyed) root
    refine ⟨_, accepted, extends_of_keyPath_eq_ok accepted, ?_⟩
    -- A key is the last segment alone, or the owner's name and the last segment.
    rw [Element.segments_resourceKey? keyed]
    split
    · exact .inl rfl
    · exact .inr rfl
  -- Keys that differ have different segments, since slashes between these give back the keys.
  have segments_apart : Text.segments one ≠ Text.segments other := fun same =>
    apart (by rw [← Text.intercalate_segments one, same, Text.intercalate_segments])
  have below := extends_of_keyPath_eq_ok led
  have other_below := extends_of_keyPath_eq_ok other_led
  exact ⟨below.pathNames_ne other_below segments_apart, fun _ _ _ located other_located =>
    below.location_ne other_below segments_apart located other_located⟩

/-- A field of the type `p.A` whose name stands between blanks. -/
def paddedField : Element :=
  -- The key is made of the name without these blanks.
  { kind := .field, simpleName := " amount ", qualifiedName := "p.A. amount "
    declaredType := some ⟨"int"⟩, owner := some 0, origin := .source, package := some "p"
    ownerName := some "p.A" }

/-- The padded field has a path below the root, and keys that differ in a separator have different
paths; a key that would leave the root is refused. -/
theorem keyPath_confined_padded :
    paddedField.resourceKey? = some "p.A/amount.field.txt" ∧
      (∃ path, keyPath "out/../cache" "p.A/amount.field.txt" = .ok path ∧
        Path.Extends "out/../cache" ["p.A", "amount.field.txt"] path) ∧
      keyPath "out/../cache" "p.A.txt" = .ok "out/../cache/p.A.txt" ∧
      keyPath "out/../cache" "p/A.txt" = .ok "out/../cache/p/A.txt" ∧
      FileTree.pathNames "out/../cache/p.A.txt" ≠ FileTree.pathNames "out/../cache/p/A.txt" ∧
      keyPath "out/../cache" "p/../A.txt" = .error (.refusedKey "p/../A.txt") := by
  obtain ⟨refused_or_below, apart, elements⟩ := keyPath_confined "out/../cache"
  have keyed : paddedField.resourceKey? = some "p.A/amount.field.txt" := by decide +kernel
  have one : keyPath "out/../cache" "p.A.txt" = .ok "out/../cache/p.A.txt" := by decide +kernel
  have other : keyPath "out/../cache" "p/A.txt" = .ok "out/../cache/p/A.txt" := by decide +kernel
  have cut : Text.segments "p.A/amount.field.txt" = ["p.A", "amount.field.txt"] := by
    decide +kernel
  obtain ⟨path, accepted, below, -⟩ := elements paddedField _ keyed
  refine ⟨keyed, ⟨path, accepted, cut ▸ below⟩, one, other,
    (apart _ _ _ _ one other (by decide)).1, ?_⟩
  rcases refused_or_below "p/../A.txt" with ⟨refused, -⟩ | ⟨path, -, leads⟩
  · exact refused
  · -- A name that goes up would be among those behind the root.
    exact absurd rfl (leads.down ".." (by decide +kernel)).2.2.1

end RuleMetadata

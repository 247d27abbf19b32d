import Mathlib.Tactic.ByContra
import RuleMetadata.Files.Tree
import RuleMetadata.Proofs.Text.Blank

/-! Laws of joined paths: the name at their end can be told from the directory before it. -/

namespace RuleMetadata

namespace Path

/-- A text without a slash is a relative path. -/
theorem isAbsolute_of_slash_not_mem {name : String} (single : '/' ∉ name.toList) :
    isAbsolute name = false := by
  -- An absolute path begins with a slash.
  rw [isAbsolute, beq_eq_false_iff_ne]
  intro begins
  exact single (List.mem_of_mem_head? begins)

/-- What begins with a plain name is a relative path. -/
theorem isAbsolute_append {name : String} (plain : Text.isPlainSegment name) (rest : String) :
    isAbsolute (name ++ rest) = false := by
  -- The first character is that of the name.
  have relative := isAbsolute_of_slash_not_mem (Text.slash_not_mem_of_isPlainSegment plain)
  have filled : name.toList ≠ [] := by simpa using Text.ne_empty_of_isPlainSegment plain
  simpa [isAbsolute, List.head?_append, List.head?_eq_some_head filled] using relative

/-- Plain names with slashes between them are a relative path. -/
theorem isAbsolute_intercalate {name : String} (plain : Text.isPlainSegment name)
    (names : List String) : isAbsolute ("/".intercalate (name :: names)) = false := by
  -- The first name decides, whatever follows it.
  cases names with
  | nil => simpa using isAbsolute_append plain ""
  | cons second rest =>
    rw [String.intercalate_cons_cons, String.append_assoc]
    exact isAbsolute_append plain _

/-- A relative path stands unchanged behind the directory with its final slash. -/
theorem join_of_relative {name : String} (relative : isAbsolute name = false) (base : String) :
    join base name = join base "" ++ name := by
  -- The slash between the two is there or is added, whatever the name is.
  have empty_relative : isAbsolute "" = false := rfl
  simp only [join, relative, empty_relative, Bool.false_eq_true, if_false]
  split <;> simp

/-- In front of a name, a directory ends in a slash, which is added if it is missing; only the
empty path stays empty. -/
theorem join_empty (base : String) :
    join base "" = "" ∧ base = "" ∨
      ∃ front, (join base "").toList = front ++ ['/'] ∧
        (base.toList = front ∨ base.toList = front ++ ['/']) := by
  -- A final slash is added unless the directory has one already.
  have empty_relative : isAbsolute "" = false := rfl
  simp only [join, empty_relative, Bool.false_eq_true, if_false, String.append_empty]
  by_cases none_before : base = ""
  · exact .inl (by simp [none_before])
  · by_cases ends : base.toList.getLast? = some '/'
    · obtain ⟨front, ended⟩ := List.getLast?_eq_some_iff.1 ends
      exact .inr ⟨front, by simp [ended], .inr ended⟩
    · exact .inr ⟨base.toList, by simp [none_before, ends], .inl rfl⟩

/-- A text splits into what ends in a slash and a name without one in a single way. -/
theorem eq_of_append_eq {one other one_name other_name : List Char}
    (one_ends : ∀ last, one.getLast? = some last → last = '/')
    (other_ends : ∀ last, other.getLast? = some last → last = '/')
    (one_single : '/' ∉ one_name) (other_single : '/' ∉ other_name)
    (same : one ++ one_name = other ++ other_name) : one = other ∧ one_name = other_name := by
  -- A directory that reached into the other name would bring its final slash into it.
  have nothing_between {directory between name : List Char}
      (ends : ∀ last, (directory ++ between).getLast? = some last → last = '/')
      (single : '/' ∉ between ++ name) : between = [] := by
    by_contra filled
    have last_slash : between.getLast filled = '/' :=
      ends _ (by simp [List.getLast?_append, List.getLast?_eq_some_getLast filled])
    have slash := List.getLast_mem filled
    rw [last_slash] at slash
    exact single (List.mem_append_left name slash)
  rcases List.append_eq_append_iff.1 same with ⟨between, rfl, rfl⟩ | ⟨between, rfl, rfl⟩
  · obtain rfl := nothing_between other_ends one_single
    simp
  · obtain rfl := nothing_between one_ends other_single
    simp

/-- Two names without a slash make one path exactly if they are equal and stand behind one
directory, however its end is spelled. -/
theorem join_eq_join_iff {one other one_name other_name : String}
    (one_single : '/' ∉ one_name.toList) (other_single : '/' ∉ other_name.toList) :
    join one one_name = join other other_name ↔
      join one "" = join other "" ∧ one_name = other_name := by
  -- The directories are compared with their final slashes, behind which the names stand alone.
  have ends (base : String) : ∀ last, (join base "").toList.getLast? = some last → last = '/' := by
    rcases join_empty base with ⟨empty, -⟩ | ⟨front, ended, -⟩
    · simp [empty]
    · simp [ended, eq_comm]
  rw [join_of_relative (isAbsolute_of_slash_not_mem one_single),
    join_of_relative (isAbsolute_of_slash_not_mem other_single)]
  constructor
  · intro same
    rw [← String.toList_inj, String.toList_append, String.toList_append] at same
    obtain ⟨directories, names⟩ :=
      eq_of_append_eq (ends one) (ends other) one_single other_single same
    exact ⟨String.toList_inj.1 directories, String.toList_inj.1 names⟩
  · rintro ⟨directories, names⟩
    rw [directories, names]

/-- A name behind a directory leaves the path absolute or relative, as it was. -/
theorem isAbsolute_join {name : String} (single : '/' ∉ name.toList) (base : String) :
    isAbsolute (join base name) = isAbsolute base := by
  -- The first character is that of the directory, unless there is none to begin with.
  have relative := isAbsolute_of_slash_not_mem single
  by_cases empty : base = ""
  · have empty_relative : isAbsolute "" = false := rfl
    simp [empty, join, relative, empty_relative]
  · have filled : base.toList ≠ [] := by simpa using empty
    rw [join_of_relative relative]
    rcases join_empty base with ⟨-, same⟩ | ⟨front, ended, spelled⟩
    · exact absurd same empty
    · simp only [isAbsolute, String.toList_append, ended]
      rcases spelled with same | same
      · rw [same] at filled ⊢
        simp [List.head?_append, List.head?_eq_some_head filled]
      · simp [same, List.head?_append]

end Path

namespace FileTree

/-- A path that ends in a plain name does not end in a slash. -/
theorem endsInSlash_join {name : String} (plain : Text.isPlainSegment name) (base : String) :
    endsInSlash (Path.join base name) = false := by
  -- The last character is that of the name.
  have single := Text.slash_not_mem_of_isPlainSegment plain
  have filled_chars : name.toList ≠ [] := by simpa using Text.ne_empty_of_isPlainSegment plain
  rw [endsInSlash, Path.join_of_relative (Path.isAbsolute_of_slash_not_mem single),
    String.toList_append, List.getLast?_append, beq_eq_false_iff_ne,
    List.getLast?_eq_some_getLast filled_chars]
  intro ends
  exact single (Option.some.inj ends ▸ List.getLast_mem filled_chars)

/-- A name and a path behind it can be joined to a directory in one step or in two. -/
theorem join_slash {name path : String} (plain : Text.isPlainSegment name)
    (path_relative : Path.isAbsolute path = false) (base : String) :
    Path.join base (name ++ "/" ++ path) = Path.join (Path.join base name) path := by
  have relative := Path.isAbsolute_of_slash_not_mem (Text.slash_not_mem_of_isPlainSegment plain)
  have filled := Text.ne_empty_of_isPlainSegment plain
  have both_relative : Path.isAbsolute (name ++ "/" ++ path) = false := by
    rw [String.append_assoc]
    exact Path.isAbsolute_append plain _
  -- The name ends in no slash, so one is added behind it.
  have slash_added {front : String} (front_filled : front ≠ "")
      (open_end : endsInSlash front = false) : Path.join front path = front ++ "/" ++ path := by
    rw [endsInSlash] at open_end
    simp [Path.join, path_relative, front_filled, open_end]
  have joined := Path.join_of_relative relative base
  rw [slash_added (by simp [joined, filled]) (endsInSlash_join plain base),
    Path.join_of_relative both_relative, joined]
  simp only [String.append_assoc]

/-- The names of a path that ends in a plain name are those of the directory and that name. -/
theorem pathNames_join {name : String} (plain : Text.isPlainSegment name) (base : String) :
    pathNames (Path.join base name) = pathNames base ++ [name] := by
  -- The last slash in front of the name cuts the path into the directory and the name.
  have single := Text.slash_not_mem_of_isPlainSegment plain
  have filled := Text.ne_empty_of_isPlainSegment plain
  have behind (front back : List Char) : Text.splitOn (· == '/') (front ++ '/' :: back) =
      Text.splitOn (· == '/') front ++ Text.splitOn (· == '/') back :=
    Text.splitOn_append rfl front back
  have own := Text.splitOn_slash_of_not_mem single
  rw [Path.join_of_relative (Path.isAbsolute_of_slash_not_mem single)]
  simp only [pathNames, Text.segments, String.toList_append]
  rcases Path.join_empty base with ⟨empty, rfl⟩ | ⟨front, ended, spelled⟩
  · simp [empty, own, filled, Text.splitOn]
  · rw [ended, List.append_assoc, List.singleton_append, behind, own]
    rcases spelled with same | same
    · simp [same, filled]
    · -- Nothing stands behind the final slash of the directory.
      rw [same, behind]
      simp [filled, Text.splitOn]

section Several

variable {names : List String} (plain : ∀ name ∈ names, Text.isPlainSegment name)
include plain

/-- Plain names can be joined to a directory one by one, or at once with slashes between them. -/
theorem foldl_join (filled : names ≠ []) (base : String) :
    names.foldl Path.join base = Path.join base ("/".intercalate names) := by
  -- The names behind the first one are joined to the directory with that name.
  induction names generalizing base with
  | nil => exact absurd rfl filled
  | cons name rest ih =>
    obtain ⟨first, others⟩ := List.forall_mem_cons.1 plain
    cases rest with
    | nil => simp
    | cons second rest =>
      have relative := Path.isAbsolute_intercalate (others second List.mem_cons_self) rest
      rw [List.foldl_cons, ih others (List.cons_ne_nil _ _), String.intercalate_cons_cons,
        join_slash first relative]

omit plain in
/-- A path of plain names can be joined to a directory name by name. -/
theorem join_eq_foldl_segments {path : String}
    (plain : ∀ name ∈ Text.segments path, Text.isPlainSegment name) (base : String) :
    Path.join base path = (Text.segments path).foldl Path.join base := by
  rw [foldl_join plain (Text.segments_ne_nil path), Text.intercalate_segments]

/-- The names of a path that ends in plain names are those of the directory and those names. -/
theorem pathNames_foldl_join (base : String) :
    pathNames (names.foldl Path.join base) = pathNames base ++ names := by
  -- The induction is on the names, each of which adds itself.
  induction names generalizing base with
  | nil => simp
  | cons name rest ih =>
    obtain ⟨first, others⟩ := List.forall_mem_cons.1 plain
    rw [List.foldl_cons, ih others, pathNames_join first, List.append_assoc, List.singleton_append]

/-- Plain names behind a directory leave the path absolute or relative, as it was. -/
theorem isAbsolute_foldl_join (base : String) :
    Path.isAbsolute (names.foldl Path.join base) = Path.isAbsolute base := by
  -- The induction is on the names, none of which begins with a slash.
  induction names generalizing base with
  | nil => rfl
  | cons name rest ih =>
    obtain ⟨first, others⟩ := List.forall_mem_cons.1 plain
    rw [List.foldl_cons, ih others,
      Path.isAbsolute_join (Text.slash_not_mem_of_isPlainSegment first)]

end Several

/-- Whether no name of a path goes up. -/
def LeadsDown (path : String) : Prop :=
  ".." ∉ pathNames path

instance (path : String) : Decidable (LeadsDown path) :=
  inferInstanceAs (Decidable (_ ∉ _))

/-- Plain names behind a path that leads down lead down as well. -/
theorem LeadsDown.foldl_join {names : List String} {base : String} (down : LeadsDown base)
    (plain : ∀ name ∈ names, Text.isPlainSegment name) :
    LeadsDown (names.foldl Path.join base) := by
  rw [LeadsDown, pathNames_foldl_join plain, List.mem_append]
  -- A plain name is no dot name.
  rintro (up | up)
  · exact down up
  · exact (Text.isPlainSegment_iff.1 (plain _ up)).2.2.1 rfl

/-- A plain name behind a path that leads down leads down as well. -/
theorem LeadsDown.join {name base : String} (down : LeadsDown base)
    (plain : Text.isPlainSegment name) : LeadsDown (Path.join base name) := by
  -- One name is the special case of several.
  simpa only [List.foldl_cons, List.foldl_nil] using
    down.foldl_join (List.forall_mem_singleton.2 plain)

end FileTree

end RuleMetadata

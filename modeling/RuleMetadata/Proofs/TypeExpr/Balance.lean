import Mathlib.Data.List.Infix
import RuleMetadata.Proofs.TypeExpr.Arguments
import RuleMetadata.Proofs.TypeExpr.Scanning

/-! First type arguments of arbitrary texts: however the brackets of a text stand, its first
argument is a trimmed piece of it with brackets in pairs. -/

namespace RuleMetadata

open Text

namespace TypeExpr

/-- There are no brackets among blanks. -/
theorem bracket_not_mem_of_isBlank {blanks : List Char} (blank : ∀ char ∈ blanks, isBlank char) :
    '<' ∉ blanks ∧ '>' ∉ blanks :=
  ⟨fun inside => absurd (blank _ inside) (by decide),
    fun inside => absurd (blank _ inside) (by decide)⟩

/-- Whether characters leave so many brackets open: none is closed that was not opened among them,
and no comma stands outside of all of them. -/
structure LeavesOpen (depth : Nat) (chars : List Char) : Prop where
  opened : ∀ front, front <+: chars → front.count '>' ≤ front.count '<'
  total : chars.count '<' = chars.count '>' + depth
  -- A comma is inside of some bracket, or it would have ended the argument.
  commas : ∀ front, front ++ [','] <+: chars → front.count '>' < front.count '<'

namespace LeavesOpen

variable {depth next_depth : Nat} {chars : List Char}

/-- No characters leave no bracket open. -/
theorem nil : LeavesOpen 0 [] where
  -- The only beginning is the empty one.
  opened front within := by simp [List.prefix_nil.1 within]
  total := rfl
  commas front within := by simp at within

/-- One more character leaves as many brackets open as it opens, less those that it closes. -/
theorem concat {char : Char} (leaves : LeavesOpen depth chars)
    (counted : depth + [char].count '<' = next_depth + [char].count '>')
    (inner : char = ',' → depth ≠ 0) : LeavesOpen next_depth (chars ++ [char]) := by
  -- What begins the longer list is the list itself, or begins the one without the character.
  have before_total := leaves.total
  have total : (chars ++ [char]).count '<' = (chars ++ [char]).count '>' + next_depth := by
    simp only [List.count_append]
    omega
  refine ⟨fun front within => ?_, total, fun front within => ?_⟩
  · rcases List.prefix_concat_iff.1 within with rfl | before
    · omega
    · exact leaves.opened front before
  · rcases List.prefix_concat_iff.1 within with same | before
    · -- The comma is the character itself, and stands where `depth` brackets are open.
      obtain ⟨rfl, comma⟩ := List.append_inj' same rfl
      have := inner (List.cons.inj comma).1.symm
      omega
    · exact leaves.commas front before

/-- A bracket that opens leaves one more of them open. -/
theorem opens (leaves : LeavesOpen depth chars) : LeavesOpen (depth + 1) (chars ++ ['<']) :=
  leaves.concat (by simp) (by simp)

/-- A bracket that closes leaves one less of them open. -/
theorem closes (leaves : LeavesOpen (depth + 1) chars) : LeavesOpen depth (chars ++ ['>']) :=
  leaves.concat (by simp) (by simp)

/-- Any other character leaves as many brackets open as before. -/
theorem keeps {char : Char} (leaves : LeavesOpen depth chars) (not_opens : char ≠ '<')
    (not_closes : char ≠ '>') (inner : char = ',' → depth ≠ 0) :
    LeavesOpen depth (chars ++ [char]) :=
  leaves.concat (by simp [not_opens, not_closes]) inner

/-- What is left without brackets at either end leaves as many of them open. -/
theorem of_append {front back : List Char} (whole : LeavesOpen depth (front ++ (chars ++ back)))
    (front_plain : '<' ∉ front ∧ '>' ∉ front) (back_plain : '<' ∉ back ∧ '>' ∉ back) :
    LeavesOpen depth chars := by
  -- The ends add nothing to either count.
  have front_opened := List.count_eq_zero.2 front_plain.1
  have front_closed := List.count_eq_zero.2 front_plain.2
  have back_opened := List.count_eq_zero.2 back_plain.1
  have back_closed := List.count_eq_zero.2 back_plain.2
  have behind {part : List Char} (within : part <+: chars) :
      front ++ part <+: front ++ (chars ++ back) :=
    (List.prefix_append_right_inj front).2 (within.trans (List.prefix_append chars back))
  refine ⟨fun part within => ?_, ?_, fun part within => ?_⟩
  · have := whole.opened _ (behind within)
    simp only [List.count_append] at this
    omega
  · have := whole.total
    simp only [List.count_append] at this
    omega
  · have := whole.commas (front ++ part) (by simpa using behind within)
    simp only [List.count_append] at this
    omega

/-- Trimming leaves the brackets as they are. -/
theorem trimChars (leaves : LeavesOpen depth chars) : LeavesOpen depth (Text.trimChars chars) := by
  -- What is taken off are blanks, and no blank is a bracket.
  obtain ⟨front, back, split, front_blank, back_blank⟩ := exists_trimChars chars
  rw [split] at leaves
  exact leaves.of_append (bracket_not_mem_of_isBlank front_blank)
    (bracket_not_mem_of_isBlank back_blank)

end LeavesOpen

/-- Every argument is a trimmed piece of what is read, with its brackets in pairs. -/
theorem exists_of_mem_argumentChars {depth : Nat} {done rest argument : List Char}
    (leaves : LeavesOpen depth done.reverse) (found : argument ∈ argumentChars depth done rest) :
    ∃ piece, argument = trimChars piece ∧ piece <:+: done.reverse ++ rest ∧ LeavesOpen 0 piece := by
  -- The induction follows the search: a character is taken into the current argument, which stays
  -- as the depth says, or ends it where no inner bracket is open.
  fun_induction argumentChars depth done rest with
  | case1 => cases found
  | case2 depth done rest ih => simpa using ih (by simpa using leaves.opens) found
  | case3 done rest =>
    obtain rfl := List.mem_singleton.1 found
    exact ⟨_, rfl, (List.prefix_append _ _).isInfix, leaves⟩
  | case4 done rest depth ih => simpa using ih (by simpa using leaves.closes) found
  | case5 done rest ih =>
    rcases List.mem_cons.1 found with rfl | behind
    · exact ⟨_, rfl, (List.prefix_append _ _).isInfix, leaves⟩
    · -- The next argument begins behind the comma.
      obtain ⟨piece, cut, within, balanced⟩ := ih .nil behind
      refine ⟨piece, cut, within.trans ?_, balanced⟩
      exact ⟨done.reverse ++ [','], [], by simp⟩
  | case6 depth done rest inner ih =>
    simpa using ih (by simpa using leaves.keeps (by decide) (by decide) fun _ => inner) found
  | case7 depth done char rest not_opens not_closes not_comma ih =>
    have kept := leaves.keeps not_opens not_closes fun comma => absurd comma not_comma
    simpa using ih (by simpa using kept) found

/-- Every argument of a type is a trimmed piece of what is behind its first bracket, with its
brackets in pairs. -/
theorem exists_of_mem_arguments {type : TypeExpr} {argument : List Char}
    (inside : argument ∈ type.arguments) :
    argument ≠ [] ∧ trimChars argument = argument ∧ LeavesOpen 0 argument ∧
      ∃ front behind, '<' ∉ front ∧ type.text.toList = front ++ '<' :: behind ∧
        argument <:+: behind := by
  -- The search for arguments begins behind the first bracket, with no argument begun.
  rw [arguments] at inside
  cases opened : type.text.toList.dropWhile (· != '<') with
  | nil => simp [opened] at inside
  | cons bracket behind =>
    obtain ⟨rfl, closed, split⟩ := split_of_dropWhile_eq_cons opened
    simp only [opened, List.mem_filter] at inside
    obtain ⟨piece, rfl, within, balanced⟩ := exists_of_mem_argumentChars .nil inside.1
    exact ⟨by simpa using inside.2, trimChars_trimChars piece, balanced.trimChars, _, behind,
      closed, split, (trimChars_isInfix piece).trans within⟩

/-- The type that an argument names stands behind characters that are no brackets. -/
theorem exists_of_wildcardBound? {argument bound : List Char}
    (trimmed : trimChars argument = argument) (filled : argument ≠ [])
    (found : wildcardBound? argument = some bound) :
    bound ≠ [] ∧ ∃ front piece, argument = front ++ piece ∧ bound = trimChars piece ∧
      '<' ∉ front ∧ '>' ∉ front := by
  -- Only an argument that begins with the mark of a wildcard names less than the whole of it.
  unfold wildcardBound? at found
  split at found
  · rename_i rest
    obtain ⟨named, bound_filled⟩ := Option.filter_eq_some_iff.1 found
    obtain ⟨piece, dropped, rfl⟩ := Option.map_eq_some_iff.1 named
    -- In front of the type stand the mark, blanks and one of two words.
    have word_first : ∃ word, trimStart rest = word ++ piece ∧ '<' ∉ word ∧ '>' ∉ word := by
      rw [Option.orElse_eq_orElse, Option.orElse_eq_or, Option.or_eq_some_iff] at dropped
      rcases dropped with upper | ⟨-, lower⟩
      · exact ⟨_, dropPart?_eq_some_iff.1 upper, by decide, by decide⟩
      · exact ⟨_, dropPart?_eq_some_iff.1 lower, by decide, by decide⟩
    obtain ⟨word, spelled, not_opens, not_closes⟩ := word_first
    have split : rest = rest.takeWhile isBlank ++ (word ++ piece) := by
      rw [← spelled, trimStart, List.takeWhile_append_dropWhile]
    have blanks : '<' ∉ rest.takeWhile isBlank ∧ '>' ∉ rest.takeWhile isBlank :=
      bracket_not_mem_of_isBlank fun _ => List.mem_takeWhile_imp
    refine ⟨by simpa using bound_filled, '?' :: (rest.takeWhile isBlank ++ word), piece, ?_, rfl,
      by simp [blanks.1, not_opens], by simp [blanks.2, not_closes]⟩
    rw [List.cons_append, List.append_assoc, ← split]
  · obtain rfl := Option.some.inj found
    exact ⟨filled, [], argument, rfl, trimmed.symm, by simp, by simp⟩

/-- The first type argument of an arbitrary text is found without a fault: in the search for it no
bracket is closed that is not open, and the text is cut at the edges of characters, between
positions that are in order. Where there is one, it is not empty, trimmed, and a piece of the text
behind its first bracket, in which the brackets stand in pairs and around every comma. -/
theorem firstArgument?_safe (type : TypeExpr) :
    scanArguments type.text = .ok (type.arguments.map String.ofList) ∧
      ∀ argument, type.firstArgument? = some argument →
        argument.text ≠ "" ∧ trim argument.text = argument.text ∧
          (∃ front behind, '<' ∉ front ∧ type.text.toList = front ++ '<' :: behind ∧
            argument.text.toList <:+: behind) ∧
          LeavesOpen 0 argument.text.toList := by
  refine ⟨scanArguments_eq_ok type, fun argument found => ?_⟩
  rw [firstArgument?] at found
  cases listed : type.arguments with
  | nil => simp [listed] at found
  | cons first others =>
    have inside : first ∈ type.arguments := by simp [listed]
    obtain ⟨filled, trimmed, balanced, front, behind, closed, split, within⟩ :=
      exists_of_mem_arguments inside
    simp only [listed] at found
    obtain ⟨bound, named, rfl⟩ := Option.map_eq_some_iff.1 found
    obtain ⟨bound_filled, mark, piece, rfl, rfl, not_opens, not_closes⟩ :=
      exists_of_wildcardBound? trimmed filled named
    -- Trimmed as it is, the type that is named becomes the text of the argument.
    have text : (ofText (String.ofList (trimChars piece))).text =
        String.ofList (trimChars piece) := by
      simp [ofText, trim]
    have whole : LeavesOpen 0 (mark ++ (piece ++ [])) := by simpa using balanced
    have piece_balanced := whole.of_append ⟨not_opens, not_closes⟩ (by simp)
    have piece_within : piece <:+: behind := (List.suffix_append mark piece).isInfix.trans within
    rw [text, String.toList_ofList]
    exact ⟨by simpa using bound_filled, by simp [trim],
      ⟨front, behind, closed, split, (trimChars_isInfix piece).trans piece_within⟩,
      piece_balanced.trimChars⟩

/-- A type with a bracket that closes nothing, one that is never closed, and an empty argument. -/
def malformed : TypeExpr :=
  ⟨">é<, ? super p.Box<é,<>> ,x<"⟩

/-- The malformed type is searched without a fault, and its first argument is the one that is
balanced. -/
theorem firstArgument?_safe_malformed :
    scanArguments malformed.text = .ok ["? super p.Box<é,<>>"] ∧
      malformed.firstArgument? = some ⟨"p.Box<é,<>>"⟩ ∧ LeavesOpen 0 "p.Box<é,<>>".toList := by
  -- The bracket that closes nothing is in front of the first one that opens.
  have listed : malformed.arguments.map String.ofList = ["? super p.Box<é,<>>"] := by
    decide +kernel
  have found : malformed.firstArgument? = some ⟨"p.Box<é,<>>"⟩ := by decide +kernel
  obtain ⟨searched, pieces⟩ := firstArgument?_safe malformed
  exact ⟨listed ▸ searched, found, (pieces _ found).2.2.2⟩

end TypeExpr

end RuleMetadata

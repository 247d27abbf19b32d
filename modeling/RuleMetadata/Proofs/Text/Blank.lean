import Mathlib.Data.List.DropRight
import RuleMetadata.Text.Blank

/-! Laws of trimming, of plain segments, and of cutting a text at separators. -/

namespace RuleMetadata.Text

/-! ### Trimming -/

/-- What is left by trimming is a piece of the characters. -/
theorem trimChars_isInfix (chars : List Char) : trimChars chars <:+: chars :=
  -- The leading blanks are dropped first, and then the trailing ones.
  (List.rdropWhile_prefix isBlank _).isInfix.trans (List.dropWhile_suffix isBlank).isInfix

/-- Trimming adds no character. -/
theorem trimChars_sublist (chars : List Char) : (trimChars chars).Sublist chars :=
  (trimChars_isInfix chars).sublist

/-- Blanks in front are trimmed off. -/
theorem trimStart_append {front : List Char} (blanks : ∀ char ∈ front, isBlank char)
    (rest : List Char) : trimStart (front ++ rest) = trimStart rest :=
  List.dropWhile_append_of_pos blanks

/-- Nothing is trimmed off in front of a visible character. -/
theorem trimStart_cons {first : Char} (visible : isBlank first = false) (rest : List Char) :
    trimStart (first :: rest) = first :: rest :=
  List.dropWhile_cons_of_neg (by simp [visible])

/-- Blanks behind are trimmed off. -/
theorem trimEnd_append {back : List Char} (blanks : ∀ char ∈ back, isBlank char)
    (chars : List Char) : trimEnd (chars ++ back) = trimEnd chars := by
  have reversed : ∀ char ∈ back.reverse, isBlank char := by simpa using blanks
  -- The end is trimmed from behind, where the blanks come first.
  rw [trimEnd, trimEnd, List.reverse_append, List.dropWhile_append_of_pos reversed]

/-- Nothing is trimmed off behind a visible character. -/
theorem trimEnd_concat {last : Char} (visible : isBlank last = false) (chars : List Char) :
    trimEnd (chars ++ [last]) = chars ++ [last] := by
  simp [trimEnd, visible]

/-- Trimming takes off blanks alone. -/
theorem exists_trimChars (chars : List Char) : ∃ front back : List Char,
    chars = front ++ (trimChars chars ++ back) ∧ (∀ char ∈ front, isBlank char) ∧
      ∀ char ∈ back, isBlank char := by
  -- The blanks are taken off in front first, and then at the end of what is left.
  refine ⟨chars.takeWhile isBlank, ((trimStart chars).reverse.takeWhile isBlank).reverse, ?_,
    fun _ => List.mem_takeWhile_imp, fun char inside => ?_⟩
  · rw [trimChars, trimEnd, ← List.reverse_append, List.takeWhile_append_dropWhile,
      List.reverse_reverse, trimStart, List.takeWhile_append_dropWhile]
  · exact List.mem_takeWhile_imp (List.mem_reverse.1 inside)

/-- Blanks in front make no difference to trimmed characters. -/
theorem trimChars_blanks_append {front : List Char} (blanks : ∀ char ∈ front, isBlank char)
    (rest : List Char) : trimChars (front ++ rest) = trimChars rest := by
  rw [trimChars, trimStart_append blanks, trimChars]

/-- Blanks behind make no difference to trimmed characters. -/
theorem trimChars_append_blanks {back : List Char} (blanks : ∀ char ∈ back, isBlank char)
    (chars : List Char) : trimChars (chars ++ back) = trimChars chars := by
  rw [trimChars, trimStart, List.dropWhile_append]
  split
  · -- If there are only blanks in front, all of the characters are trimmed off.
    rename_i empty
    have none_left : trimStart chars = [] := by simpa [trimStart] using empty
    rw [trimChars, none_left, List.dropWhile_eq_nil_iff.2 blanks]
  · exact trimEnd_append blanks _

/-- Trimming characters twice is trimming them once. -/
@[simp] theorem trimChars_trimChars (chars : List Char) :
    trimChars (trimChars chars) = trimChars chars := by
  -- What is left begins as it did behind the leading blanks, so no leading blank appears.
  have front : trimStart (trimChars chars) = trimChars chars := by
    refine List.dropWhile_eq_self_iff.2 fun filled => ?_
    have begins : trimChars chars <+: trimStart chars := List.rdropWhile_prefix isBlank _
    rw [begins.getElem filled]
    exact List.dropWhile_eq_self_iff.1 (List.dropWhile_idempotent isBlank chars) _
  rw [trimChars, front]
  exact List.rdropWhile_idempotent isBlank (trimStart chars)

/-- Trimming a text twice is trimming it once. -/
@[simp] theorem trim_trim (text : String) : trim (trim text) = trim text := by
  simp [trim]

/-- What is left of a text by trimming is left as it is by trimming it again. -/
theorem nonBlank?_of_nonBlank? {text trimmed : String} (found : nonBlank? text = some trimmed) :
    nonBlank? trimmed = some trimmed := by
  -- The trimmed text is not empty, and trimming leaves it as it is.
  simp only [nonBlank?] at found
  split at found
  · cases found
  · rename_i filled
    obtain rfl := Option.some.inj found
    simp [nonBlank?, filled]

/-! ### Segments -/

/-- The pieces are those of the library's function that cuts lists. -/
theorem splitOn_eq_splitOnP (separates : Char → Bool) (chars : List Char) :
    splitOn separates chars = chars.splitOnP separates := by
  -- There is always a piece that a character can be put in front of.
  induction chars with
  | nil => rfl
  | cons char rest ih =>
    obtain ⟨piece, pieces, cut⟩ := List.exists_cons_of_ne_nil (List.splitOnP_ne_nil separates rest)
    rw [splitOn, List.splitOnP_cons_eq_if_modifyHead, ih, cut]
    rfl

/-- A separator ends one list of pieces and begins another. -/
theorem splitOn_append {separates : Char → Bool} {separator : Char}
    (cut : separates separator = true) (front back : List Char) :
    splitOn separates (front ++ separator :: back) =
      splitOn separates front ++ splitOn separates back := by
  -- The library knows how lists are split.
  simp only [splitOn_eq_splitOnP]
  exact List.splitOnP_append_cons front back cut

/-- Slashes between the segments of a text give back the text. -/
theorem intercalate_segments (text : String) : "/".intercalate (segments text) = text := by
  -- Text is cut like a list of characters, for which cutting is undone by the library.
  have pieces : (segments text).map String.toList = text.toList.splitOn '/' := by
    simp [segments, splitOn_eq_splitOnP, List.splitOn, Function.comp_def]
  rw [← String.toList_inj, String.toList_intercalate, pieces]
  exact List.intercalate_splitOn '/'

/-- A text has a segment at least. -/
theorem segments_ne_nil (text : String) : segments text ≠ [] := by
  simp [segments, splitOn_eq_splitOnP, List.splitOnP_ne_nil]

/-- Between slashes, a text without one is a single piece. -/
theorem splitOn_slash_of_not_mem {chars : List Char} (single : '/' ∉ chars) :
    splitOn (· == '/') chars = [chars] := by
  -- The library knows how lists are split.
  rw [splitOn_eq_splitOnP]
  exact List.splitOn_eq_singleton single

/-- A name is a plain segment if it is not empty, is not one of the two names that lead elsewhere,
and has only characters that may stand in one. -/
theorem isPlainSegment_iff {name : String} : isPlainSegment name ↔
    name ≠ "" ∧ name ≠ "." ∧ name ≠ ".." ∧
      ∀ char ∈ name.toList, char ≠ '/' ∧ char ≠ '\\' ∧ isControl char = false := by
  simp [isPlainSegment, and_assoc]

/-- No part of a plain segment is a slash. -/
theorem slash_not_mem_of_isPlainSegment {name : String} (plain : isPlainSegment name) :
    '/' ∉ name.toList :=
  fun slash => ((isPlainSegment_iff.1 plain).2.2.2 '/' slash).1 rfl

/-- A plain segment is not empty. -/
theorem ne_empty_of_isPlainSegment {name : String} (plain : isPlainSegment name) : name ≠ "" :=
  (isPlainSegment_iff.1 plain).1

/-- A plain segment with another one behind it is plain again. -/
theorem isPlainSegment_append {name ending : String} (plain : isPlainSegment name)
    (ending_plain : isPlainSegment ending) : isPlainSegment (name ++ ending) := by
  obtain ⟨filled, not_dot, -, allowed⟩ := isPlainSegment_iff.1 plain
  obtain ⟨ending_filled, -, -, ending_allowed⟩ := isPlainSegment_iff.1 ending_plain
  have filled_chars : name.toList ≠ [] := by simpa using filled
  have ending_chars : ending.toList ≠ [] := by simpa using ending_filled
  obtain ⟨first, rest, spelled⟩ := List.exists_cons_of_ne_nil filled_chars
  obtain ⟨other, others, ending_spelled⟩ := List.exists_cons_of_ne_nil ending_chars
  refine isPlainSegment_iff.2 ⟨by simp [filled], fun same => ?_, fun same => ?_, ?_⟩
  · -- There are two characters at least, which is one too many.
    have chars := congrArg String.toList same
    simp [spelled, ending_spelled] at chars
  · -- Two points could only be one point in each part.
    have chars := congrArg String.toList same
    rw [String.toList_append, spelled, ending_spelled] at chars
    cases rest with
    | nil =>
      have point : first = '.' := (List.cons.inj chars).1
      exact not_dot (String.toList_inj.1 (by rw [spelled, point]; rfl))
    | cons second rest => simp at chars
  · simp only [String.toList_append, List.forall_mem_append]
    exact ⟨allowed, ending_allowed⟩

end RuleMetadata.Text

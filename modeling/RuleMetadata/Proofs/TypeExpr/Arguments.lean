import RuleMetadata.Proofs.TypeExpr.Grammar

/-! Written types read back: however they are spaced, their erased name is made of their names, and
their first argument is the one that was written first. -/

namespace RuleMetadata

open Text

namespace TypeExpr

/-! ### The first list of arguments -/

/-- Whether the first opening bracket among characters is that of a list of arguments, or there is
none. -/
def Opens (chars : List Char) : Option (Phrase .arguments) → Prop
  | none => '<' ∉ chars
  -- Behind the list nothing is said: the rest of the type does not matter here.
  | some arguments => ∃ (closing : Blanks) (behind : List Char),
      chars.dropWhile (· != '<') = '<' :: (arguments.print ++ (closing.before ['>'] ++ behind))

namespace Opens

variable {front back : List Char} {found others : Option (Phrase .arguments)}

/-- Characters without an opening bracket are all dropped in the search for one. -/
theorem dropWhile_append (closed : '<' ∉ front) (back : List Char) :
    (front ++ back).dropWhile (· != '<') = back.dropWhile (· != '<') := by
  -- No character in front is a bracket that ends the search.
  refine List.dropWhile_append_of_pos fun char inside => ?_
  rw [bne_iff_ne]
  rintro rfl
  exact closed inside

/-- Of two lists of characters, the first one that opens a bracket counts. -/
theorem append (first : Opens front found) (second : Opens back others) :
    Opens (front ++ back) (found.or others) := by
  -- If the first list opens a bracket, what follows only lengthens the rest behind it.
  cases found with
  | none =>
    cases others with
    | none => exact List.not_mem_append first second
    | some arguments =>
      obtain ⟨closing, behind, opened⟩ := second
      exact ⟨closing, behind, by rw [dropWhile_append first, opened]⟩
  | some arguments =>
    obtain ⟨closing, behind, opened⟩ := first
    refine ⟨closing, behind ++ back, ?_⟩
    rw [List.dropWhile_append, opened]
    simp

/-- Blanks open no bracket. -/
theorem blanks (blanks : Blanks) : Opens blanks.chars none :=
  fun inside => absurd (blanks.blank _ inside) (by decide)

/-- A token that is no opening bracket opens none. -/
theorem before {token : List Char} (front : Blanks) (closed : '<' ∉ token) :
    Opens (front.before token) none :=
  List.not_mem_append (blanks front) closed

/-- A name opens no bracket. -/
theorem name (front : Blanks) (name : Name) : Opens (front.before name.chars) none :=
  before front fun inside => (name.isErased _ inside).2.1 rfl

end Opens

namespace Phrase

variable {part : Part}

/-- The first bracket that a phrase opens is that of its leading arguments. -/
theorem opens_print (phrase : Phrase part) : Opens phrase.print phrase.leadingArguments? := by
  -- The induction is on the phrase; what has brackets of its own has them behind its name.
  induction phrase with
  | bare front name => exact .name front name
  | generic front name opening arguments closing _ =>
    refine .append (.name front name) ⟨closing, [], ?_⟩
    rw [Blanks.before, List.append_assoc, Opens.dropWhile_append (Opens.blanks opening)]
    simp
  | single _ ih => exact ih
  | member _ point _ path_opens segment_opens =>
    exact path_opens.append (.append (.before point (by decide)) segment_opens)
  | plain _ ih => exact ih
  | array _ opening closing element_opens =>
    have closed : Opens (opening.before ['['] ++ closing.before [']']) none :=
      .append (.before opening (by decide)) (.before closing (by decide))
    simpa [print, leadingArguments?] using element_opens.append closed
  | exactly _ ih => exact ih
  | wildcard mark => exact .before mark (by decide)
  | bounded mark front word gap _ _ bound_opens =>
    have spelled : '<' ∉ word.text.toList := by cases word <;> decide
    exact .append (.before mark (by decide))
      (.append (.before front spelled) (.append (.blanks gap) bound_opens))
  | only _ ih => exact ih
  | more _ comma _ argument_opens others_open =>
    exact argument_opens.append (.append (.before comma (by decide)) others_open)

end Phrase

/-! ### Outer blanks -/

/-- Whether the first character behind blanks satisfies a test. -/
def Begins (test : Char → Bool) (chars : List Char) : Prop :=
  ∃ (front : Blanks) (first : Char) (rest : List Char),
    chars = front.chars ++ first :: rest ∧ test first

/-- Characters begin as they do, whatever is behind them. -/
theorem Begins.append {test : Char → Bool} {chars : List Char} (begins : Begins test chars)
    (back : List Char) : Begins test (chars ++ back) := by
  obtain ⟨front, first, rest, rfl, passes⟩ := begins
  exact ⟨front, first, rest ++ back, by simp, passes⟩

/-- A name begins with one of its characters. -/
theorem Begins.name (front : Blanks) (name : Name) :
    Begins isNameChar (front.before name.chars) := by
  -- A name is never empty.
  obtain ⟨first, rest, spelled⟩ := List.exists_cons_of_ne_nil name.filled
  exact ⟨front, first, rest, by rw [Blanks.before, spelled], name.plain first (by simp [spelled])⟩

/-- Whether the last character is visible. -/
def EndsVisibly (chars : List Char) : Prop :=
  ∃ last, chars.getLast? = some last ∧ isBlank last = false

namespace EndsVisibly

variable {chars : List Char}

/-- Characters end as they do, whatever is in front of them. -/
theorem append (ends : EndsVisibly chars) (front : List Char) : EndsVisibly (front ++ chars) := by
  obtain ⟨last, final, visible⟩ := ends
  exact ⟨last, by simp [List.getLast?_append, final], visible⟩

/-- A visible mark ends visibly. -/
theorem mark (front : Blanks) {char : Char} (visible : isBlank char = false) :
    EndsVisibly (front.before [char]) :=
  ⟨char, by simp [Blanks.before], visible⟩

/-- A name ends with one of its characters. -/
theorem name (front : Blanks) (name : Name) : EndsVisibly (front.before name.chars) := by
  refine .append ⟨name.chars.getLast name.filled, List.getLast?_eq_getLast_of_ne_nil _, ?_⟩ _
  exact (isNameChar_iff.1 (name.plain _ (List.getLast_mem name.filled))).1

/-- Trimming takes off nothing but the blanks in front. -/
theorem trimChars_eq {first : Char} {rest : List Char} {front : Blanks}
    (ends : EndsVisibly (front.chars ++ first :: rest)) (visible : isBlank first = false) :
    trimChars (front.chars ++ first :: rest) = first :: rest := by
  -- The last character is visible, so trimming takes nothing off at the end.
  obtain ⟨last, final, last_visible⟩ := ends
  rw [List.getLast?_append_cons] at final
  rw [trimChars_blanks_append front.blank, trimChars, trimStart_cons visible,
    ← List.dropLast_append_getLast? last final, trimEnd_concat last_visible]

end EndsVisibly

/-- What the first character of a part may be, behind its blanks: that of a name, or also the mark
of a wildcard. -/
def Part.mayBegin (part : Part) (first : Char) : Bool :=
  match part with
  -- A wildcard can only be an argument.
  | .segment | .path | .type => isNameChar first
  | .argument | .arguments => !isBlank first

/-- No part begins with one more blank. -/
theorem Part.visible_of_mayBegin {part : Part} {first : Char} (begins : part.mayBegin first) :
    isBlank first = false := by
  -- An argument begins with a visible character, and every other part with one of a name.
  cases part
  case argument | arguments => simpa [mayBegin] using begins
  all_goals exact (isNameChar_iff.1 begins).1

namespace Phrase

variable {part : Part}

/-- A type, and any part of one, begins with the name of its first segment; an argument may begin
with the mark of a wildcard. -/
theorem begins_print (phrase : Phrase part) : Begins part.mayBegin phrase.print := by
  -- The induction is on the phrase, whose first part is written first.
  induction phrase with
  | bare front name => exact .name front name
  | generic front name _ _ _ _ => exact (Begins.name front name).append _
  | single _ begins => exact begins
  | member _ _ _ begins _ => exact begins.append _
  | plain _ begins => exact begins
  | array _ _ _ begins => exact begins.append _
  | exactly _ begins =>
    obtain ⟨front, first, rest, printed, plain⟩ := begins
    have visible : isBlank first = false := (isNameChar_iff.1 plain).1
    exact ⟨front, first, rest, printed, by simp [Part.mayBegin, visible]⟩
  | wildcard mark => exact ⟨mark, '?', [], rfl, rfl⟩
  | bounded mark _ _ _ _ _ _ => exact .append ⟨mark, '?', [], rfl, rfl⟩ _
  | only _ begins => exact begins
  | more _ _ _ begins _ => exact begins.append _

/-- The last character of a phrase is visible. -/
theorem endsVisibly_print (phrase : Phrase part) : EndsVisibly phrase.print := by
  -- The induction is on the phrase, whose last part is written last.
  induction phrase with
  | bare front name => exact .name front name
  | generic _ _ _ _ closing _ =>
    exact .append (.append (.append (.mark closing (by decide)) _) _) _
  | single _ ends => exact ends
  | member _ _ _ _ ends => exact .append (.append ends _) _
  | plain _ ends => exact ends
  | array _ _ closing _ => exact .append (.append (.mark closing (by decide)) _) _
  | exactly _ ends => exact ends
  | wildcard mark => exact .mark mark (by decide)
  | bounded _ _ _ _ _ _ ends => exact .append (.append (.append ends _) _) _
  | only _ ends => exact ends
  | more _ _ _ _ ends => exact .append (.append ends _) _

/-- What is left of a phrase by trimming begins as the phrase may. -/
theorem exists_trimChars_print (phrase : Phrase part) :
    ∃ first rest, trimChars phrase.print = first :: rest ∧ part.mayBegin first := by
  -- The phrase begins visibly behind some blanks, and ends visibly.
  obtain ⟨front, first, rest, printed, begins⟩ := phrase.begins_print
  have ends := phrase.endsVisibly_print
  rw [printed] at ends ⊢
  exact ⟨first, rest, ends.trimChars_eq (Part.visible_of_mayBegin begins), begins⟩

end Phrase

/-! ### Arguments -/

/-- A part can be dropped just from what begins with it, and leaves what is behind it. -/
theorem dropPart?_eq_some_iff {part chars rest : List Char} :
    dropPart? part chars = some rest ↔ chars = part ++ rest := by
  -- The characters are compared one by one.
  induction part generalizing chars with
  | nil => simp [dropPart?]
  | cons expected part ih =>
    cases chars with
    | nil => simp [dropPart?]
    | cons char chars =>
      by_cases same : expected = char
      · simp [dropPart?, same, ih]
      · simp [dropPart?, same, Ne.symm same]

namespace Phrase

/-- The first argument of a list is read up to the comma or bracket behind it. -/
theorem argumentChars_print (arguments : Phrase .arguments) (closing : Blanks)
    (behind : List Char) : ∃ others, argumentChars 0 []
      (arguments.print ++ (closing.before ['>'] ++ behind)) =
        trimChars arguments.first.print :: others := by
  -- Neither the argument nor the blanks behind it end the argument.
  have passed (argument : Phrase .argument) (blanks : Blanks) (rest : List Char) :
      argumentChars 0 [] (argument.print ++ (blanks.chars ++ rest)) =
        argumentChars 0 (argument.print ++ blanks.chars).reverse rest := by
    have blanks_closed : IsClosed 0 blanks.chars := .blanks blanks
    rw [argument.isClosed_print.passed (Nat.zero_le 0), blanks_closed.passed (Nat.zero_le 0)]
    simp
  cases arguments with
  | only argument =>
    refine ⟨[], ?_⟩
    simp [print, first, Blanks.before, passed, argumentChars, trimChars_append_blanks closing.blank]
  | more argument comma others =>
    refine ⟨argumentChars 0 [] (others.print ++ (closing.before ['>'] ++ behind)), ?_⟩
    simp [print, first, Blanks.before, passed, argumentChars, trimChars_append_blanks comma.blank]

/-- A type expression depends on the text without its outer blanks alone. -/
theorem ofText_trimChars (chars : List Char) :
    ofText (String.ofList (trimChars chars)) = ofText (String.ofList chars) := by
  simp [ofText, trim]

/-- The bound of a wildcard is what follows its word. -/
theorem wildcardBound?_bounded (front : Blanks) (word : BoundWord) {bound : List Char}
    (filled : trimChars bound ≠ []) :
    wildcardBound? ('?' :: (front.chars ++ (word.text.toList ++ bound))) =
      some (trimChars bound) := by
  -- The blanks in front of the word are skipped, and one word does not begin with the other.
  have reached : trimStart (front.chars ++ (word.text.toList ++ bound)) =
      word.text.toList ++ bound := by
    rw [trimStart_append front.blank]
    cases word <;> exact trimStart_cons (by decide) _
  have dropped : (dropPart? "extends".toList (word.text.toList ++ bound) <|>
      dropPart? "super".toList (word.text.toList ++ bound)) = some bound := by
    cases word with
    | upper =>
      have found : dropPart? "extends".toList ("extends".toList ++ bound) = some bound :=
        dropPart?_eq_some_iff.2 rfl
      simp only [BoundWord.text, found]
      rfl
    | lower =>
      have other : dropPart? "extends".toList ("super".toList ++ bound) = none := by
        simp [dropPart?]
      have found : dropPart? "super".toList ("super".toList ++ bound) = some bound :=
        dropPart?_eq_some_iff.2 rfl
      simp only [BoundWord.text, other, found]
      rfl
  simp only [wildcardBound?, reached, dropped]
  simp [filled]

/-- The argument that is read names the type that was written. -/
theorem wildcardBound?_print (argument : Phrase .argument) :
    (wildcardBound? (trimChars argument.print)).map (fun chars => ofText (String.ofList chars)) =
      argument.bound?.map fun bound => ofText (String.ofList bound.print) := by
  cases argument with
  | exactly type =>
    -- A type begins with a name, and not with the mark of a wildcard.
    obtain ⟨first, rest, trimmed, plain⟩ := type.exists_trimChars_print
    have unmarked : first ≠ '?' := (isNameChar_iff.1 plain).2.2.2.2.2.2.1
    have named : wildcardBound? (trimChars type.print) = some (trimChars type.print) := by
      rw [trimmed]
      unfold wildcardBound?
      split <;> simp_all
    simp [print, bound?, named, ofText_trimChars]
  | wildcard mark =>
    have trimmed : trimChars (print (wildcard mark)) = ['?'] :=
      (wildcard mark).endsVisibly_print.trimChars_eq (by decide)
    rw [trimmed]
    rfl
  | bounded mark front word gap apart bound =>
    obtain ⟨first, rest, trimmed, plain⟩ := bound.exists_trimChars_print
    have same : trimChars (gap.chars ++ bound.print) = trimChars bound.print :=
      trimChars_blanks_append gap.blank _
    have filled : trimChars (gap.chars ++ bound.print) ≠ [] := by simp [same, trimmed]
    have printed : print (bounded mark front word gap apart bound) = mark.chars ++ '?' ::
        (front.chars ++ (word.text.toList ++ (gap.chars ++ bound.print))) := by
      simp [print, Blanks.before]
    have ends := (bounded mark front word gap apart bound).endsVisibly_print
    rw [printed] at ends ⊢
    rw [ends.trimChars_eq (by decide), wildcardBound?_bounded front word filled, same]
    simp [bound?, ofText_trimChars]

end Phrase

/-- Blanks at the end of a text complete no argument. -/
theorem argumentChars_append_blanks (back : Blanks) (depth : Nat) (done chars : List Char) :
    argumentChars depth done (chars ++ back.chars) = argumentChars depth done chars := by
  -- The induction is on the characters; blanks are passed at any depth, and end no argument.
  induction chars generalizing depth done with
  | nil =>
    have closed : IsClosed 0 back.chars := .blanks back
    simpa [argumentChars] using closed.passed (Nat.zero_le depth) done []
  | cons char chars ih =>
    rw [List.cons_append]
    by_cases opens : char = '<'
    · simp only [opens, argumentChars, ih]
    by_cases closes : char = '>'
    · cases depth <;> simp only [closes, argumentChars, ih]
    by_cases separates : char = ','
    · simp only [separates, argumentChars, ih]
    · have inner : char = ',' → depth ≠ 0 := fun comma => absurd comma separates
      rw [argumentChars_cons opens closes inner, argumentChars_cons opens closes inner, ih]

/-- The arguments of a text are the same whether it is trimmed or not. -/
theorem arguments_ofText (text : String) : (ofText text).arguments = arguments ⟨text⟩ := by
  obtain ⟨front, back, split, front_blank, back_blank⟩ := exists_trimChars text.toList
  have behind : back.dropWhile (· != '<') = [] := by
    simpa using Opens.dropWhile_append (Opens.blanks ⟨back, back_blank⟩) []
  -- The blanks in front open no list, and those behind complete no argument.
  have searched : text.toList.dropWhile (· != '<') =
      ((trimChars text.toList) ++ back).dropWhile (· != '<') := by
    conv_lhs => rw [split, Opens.dropWhile_append (Opens.blanks ⟨front, front_blank⟩)]
  simp only [arguments, ofText, trim, String.toList_ofList, searched, List.dropWhile_append]
  cases opened : (trimChars text.toList).dropWhile (· != '<') with
  | nil => simp [behind]
  | cons bracket rest =>
    have closed := argumentChars_append_blanks ⟨back, back_blank⟩ 0 [] rest
    simp [closed]

namespace Phrase

/-- However a type is written and spaced, erasure leaves its names and array brackets, and its first
type argument is the one that was written first in the leftmost list. -/
theorem ofText_print (type : Phrase .type) (back : Blanks) :
    (ofText (String.ofList (type.print ++ back.chars))).erase = String.ofList type.erased ∧
      (ofText (String.ofList (type.print ++ back.chars))).firstArgument? =
        type.firstBound?.map fun bound => ofText (String.ofList bound.print) := by
  constructor
  · have none_left : eraseChars 0 back.chars = [] := by
      simpa using eraseChars_append_blanks back.blank 0 []
    rw [← String.toList_inj, toList_erase_ofText, String.toList_ofList, String.toList_ofList,
      eraseChars_print, none_left, List.append_nil]
  have opens := type.opens_print.append (.blanks back)
  rw [Option.or_none] at opens
  rw [firstArgument?, arguments_ofText, firstBound?, arguments, String.toList_ofList]
  cases leading : type.leadingArguments? with
  | none =>
    rw [leading] at opens
    have searched : (type.print ++ back.chars).dropWhile (· != '<') = [] := by
      simpa using Opens.dropWhile_append opens []
    simp [searched]
  | some arguments =>
    rw [leading] at opens
    obtain ⟨closing, behind, searched⟩ := opens
    obtain ⟨others, read⟩ := arguments.argumentChars_print closing behind
    obtain ⟨first, rest, trimmed, -⟩ := arguments.first.exists_trimChars_print
    have kept : (trimChars arguments.first.print :: others).filter (!·.isEmpty) =
        trimChars arguments.first.print :: others.filter (!·.isEmpty) :=
      List.filter_cons_of_pos (by simp [trimmed])
    -- The first argument is not blank, so it is not left out.
    simp only [searched, read, kept]
    exact wildcardBound?_print arguments.first

end Phrase

end TypeExpr

end RuleMetadata

import RuleMetadata.Proofs.Lists
import RuleMetadata.Proofs.Xml.Escaping
import RuleMetadata.Xml.Lexer

/-! The parts that tokens are read by: what is left behind each of them, and what stands in front of
that. -/

namespace RuleMetadata.Xml

/-- Behind an expected beginning stands what follows it. -/
theorem dropFront?_eq_some_iff {front chars rest : List Char} :
    dropFront? front chars = some rest ↔ chars = front ++ rest := by
  -- The characters are compared one by one.
  induction front generalizing chars with
  | nil => simp [dropFront?, eq_comm]
  | cons expected front ih =>
    cases chars with
    | nil => simp [dropFront?]
    | cons char chars =>
      by_cases same : expected = char
      · simp [dropFront?, same, ih]
      · simp [dropFront?, same, Ne.symm same]

/-- Cutting at a mark stops at its first occurrence; none may begin in front of it. -/
theorem cutAt?_append {mark front : List Char} (present : mark ≠ [])
    (absent : ¬ mark <:+: front ++ mark.dropLast) (rest : List Char) :
    cutAt? mark (front ++ (mark ++ rest)) = some (front, rest) := by
  induction front with
  | nil =>
    have found : dropFront? mark (mark ++ rest) = some rest := dropFront?_eq_some_iff.2 rfl
    obtain ⟨first, others, begins⟩ := List.exists_cons_of_ne_nil present
    have begins_whole : mark ++ rest = first :: (others ++ rest) := by simp [begins]
    rw [List.nil_append, begins_whole, cutAt?, ← begins_whole, found]
  | cons head tail ih =>
    have behind : ¬ mark <:+: tail ++ mark.dropLast := fun inside =>
      absent (inside.trans (List.suffix_cons head _).isInfix)
    -- A mark that begins here would end within the front and all but its last character.
    have apart : dropFront? mark (head :: (tail ++ (mark ++ rest))) = none := by
      rw [Option.eq_none_iff_forall_ne_some]
      intro found cut
      have begins : mark <+: head :: (tail ++ (mark ++ rest)) :=
        ⟨found, (dropFront?_eq_some_iff.1 cut).symm⟩
      have whole : head :: (tail ++ (mark ++ rest)) =
          (head :: tail ++ mark.dropLast) ++ ([mark.getLast present] ++ rest) := by
        rw [List.append_assoc, ← List.append_assoc mark.dropLast,
          List.dropLast_concat_getLast present]
        rfl
      rw [whole] at begins
      have short : mark.length ≤ (head :: tail ++ mark.dropLast).length := by
        have := List.length_pos_iff.2 present
        simp only [List.cons_append, List.length_cons, List.length_append, List.length_dropLast]
        omega
      exact absent (List.prefix_of_prefix_length_le begins (List.prefix_append _ _) short).isInfix
    rw [List.cons_append, cutAt?, apart]
    simp [ih behind]

/-- A mark that is cut at stands behind the front, and none begins in it. -/
theorem cutAt?_eq_some_iff {mark chars front rest : List Char} (present : mark ≠ []) :
    cutAt? mark chars = some (front, rest) ↔
      chars = front ++ (mark ++ rest) ∧ ¬ mark <:+: front ++ mark.dropLast := by
  refine ⟨fun cut => ?_, fun ⟨whole, absent⟩ => whole ▸ cutAt?_append present absent rest⟩
  -- The induction is on the characters, at each of which the mark is looked for.
  induction chars generalizing front with
  | nil => simp [cutAt?, present] at cut
  | cons char chars ih =>
    simp only [cutAt?] at cut
    split at cut
    · rename_i behind found
      cases cut
      refine ⟨by simpa using dropFront?_eq_some_iff.1 found, fun inside => ?_⟩
      -- The mark is too long to stand in front of its own last character.
      have shorter := inside.length_le
      have positive := List.length_pos_iff.2 present
      simp only [List.nil_append, List.length_dropLast] at shorter
      omega
    · rename_i missing
      obtain ⟨⟨tail, behind⟩, later, made⟩ := Option.map_eq_some_iff.1 cut
      cases made
      obtain ⟨rfl, absent⟩ := ih later
      refine ⟨rfl, fun inside => ?_⟩
      rw [List.cons_append, List.infix_cons_iff] at inside
      refine inside.elim (fun begins => ?_) absent
      -- A mark that begins at the first character would have been found there.
      obtain ⟨next, spelled⟩ := begins.trans
        (List.prefix_append (char :: (tail ++ mark.dropLast)) ([mark.getLast present] ++ behind))
      have whole : char :: (tail ++ (mark ++ behind)) = mark ++ next := by
        rw [spelled, List.cons_append, List.append_assoc, ← List.append_assoc mark.dropLast,
          List.dropLast_concat_getLast present]
      rw [dropFront?_eq_some_iff.2 whole] at missing
      cases missing

/-- A single mark that is cut at is absent from what stands in front of it. -/
theorem cutAt?_single_eq_some_iff {mark : Char} {chars front rest : List Char} :
    cutAt? [mark] chars = some (front, rest) ↔ chars = front ++ mark :: rest ∧ mark ∉ front := by
  -- Nothing is left of the mark without its last character.
  rw [cutAt?_eq_some_iff (List.cons_ne_nil mark [])]
  refine and_congr Iff.rfl (not_congr ⟨fun inside => ?_, fun inside => ?_⟩)
  · simpa using inside.subset (List.mem_singleton_self mark)
  · obtain ⟨before, behind, rfl⟩ := List.append_of_mem inside
    exact ⟨before, behind, by simp⟩

/-! ### Names -/

/-- A name without a colon: a starting character, and any further characters of names. -/
def isBaseName : List Char → Bool
  | [] => false
  | first :: rest => isNameStart first && rest.all isNameChar

/-- Whether a name is spelled so that its spelling is read as that name. -/
def Name.isSpellable (name : Name) : Bool :=
  isBaseName name.base.toList && name.space.all fun space => isBaseName space.toList

/-- Whether a text cannot go on with a name in front of it. -/
def stopsName : List Char → Bool
  | [] => true
  | char :: _ => !isNameChar char && char != ':'

/-- The characters that mark the beginnings and ends of markup. -/
def isMark (char : Char) : Bool :=
  isSpace char || char ∈ ['!', '?', '/', '>', '<', '=', '\'', '"']

/-- No mark is a character of a name. -/
theorem isMark_eq_false_of_isNameChar {char : Char} (named : isNameChar char) :
    isMark char = false := by
  -- Each of the marks is tried.
  cases marked : isMark char with
  | false => rfl
  | true =>
    simp only [isMark, isSpace, Bool.or_eq_true, beq_iff_eq, decide_eq_true_eq, List.mem_cons,
      List.not_mem_nil, or_false] at marked
    rcases marked with
      (((rfl | rfl) | rfl) | rfl) | rfl | rfl | rfl | rfl | rfl | rfl | rfl | rfl
    all_goals revert named; decide

/-- No mark is a starting character of a name. -/
theorem isMark_eq_false_of_isNameStart {char : Char} (starts : isNameStart char) :
    isMark char = false :=
  isMark_eq_false_of_isNameChar (by simp [isNameChar, starts])

/-- A name without a colon is read up to the first character that does not go on with it. -/
theorem lexBase?_append {chars rest : List Char} (named : isBaseName chars)
    (stops : ∀ char, rest.head? = some char → isNameChar char = false) :
    lexBase? (chars ++ rest) = some (chars, rest) := by
  -- The first character is tested by itself, and the run of the others stops at the rest.
  cases chars with
  | nil => simp [isBaseName] at named
  | cons first others =>
    simp only [isBaseName, Bool.and_eq_true, List.all_eq_true] at named
    obtain ⟨starts, continues⟩ := named
    simp [lexBase?, starts, takeWhile_append_stop continues stops,
      dropWhile_append_stop continues stops]

/-- A spelled name is read back in front of a text that does not go on with it. -/
theorem lexName?_write {name : Name} (spellable : name.isSpellable) (rest : List Char)
    (stops : stopsName rest) : lexName? (name.write ++ rest) = some (name, rest) := by
  have stops_base : ∀ char, rest.head? = some char → isNameChar char = false := by
    cases rest with
    | nil => simp
    | cons char _ => simp_all [stopsName]
  obtain ⟨space, base⟩ := name
  simp only [Name.isSpellable, Bool.and_eq_true] at spellable
  obtain ⟨base_named, space_named⟩ := spellable
  cases space with
  | none =>
    rw [lexName?, Name.write, lexBase?_append base_named stops_base]
    -- A second part would need a colon, and none follows the name.
    cases rest with
    | nil => simp [Name.plain]
    | cons char _ =>
      have no_colon : char ≠ ':' := by simp_all [stopsName]
      simp [Name.plain, no_colon]
  | some space =>
    have spelled : Name.write ⟨some space, base⟩ ++ rest =
        space.toList ++ ':' :: (base.toList ++ rest) := by simp [Name.write]
    have colon_stops : ∀ char, (':' :: (base.toList ++ rest)).head? = some char →
        isNameChar char = false := by
      rintro char ⟨⟩
      decide
    rw [lexName?, spelled, lexBase?_append (by simpa using space_named) colon_stops]
    simp [lexBase?_append base_named stops_base]

/-- A spelled name begins with a character that begins names. -/
theorem Name.write_eq_cons {name : Name} (spellable : name.isSpellable) :
    ∃ first rest, name.write = first :: rest ∧ isNameStart first := by
  obtain ⟨space, base⟩ := name
  simp only [Name.isSpellable, Bool.and_eq_true] at spellable
  -- The first part of a name is its space if it has one, and its base otherwise.
  have begins : ∀ chars, isBaseName chars → ∃ first rest, chars = first :: rest ∧
      isNameStart first := by
    intro chars named
    cases chars with
    | nil => simp [isBaseName] at named
    | cons first rest =>
      simp only [isBaseName, Bool.and_eq_true] at named
      exact ⟨first, rest, rfl, named.1⟩
  cases space with
  | none => exact begins _ spellable.1
  | some space =>
    obtain ⟨first, rest, spelled, starts⟩ := begins space.toList (by simpa using spellable.2)
    exact ⟨first, rest ++ ':' :: base.toList, by simp [Name.write, spelled], starts⟩

/-- What is read as a name without a colon is one, in front of what is left. -/
theorem of_lexBase?_eq_some {chars name rest : List Char}
    (read : lexBase? chars = some (name, rest)) : isBaseName name ∧ chars = name ++ rest := by
  -- The first character must start a name, and the others are taken as long as they go on with it.
  cases chars with
  | nil => cases read
  | cons first chars =>
    simp only [lexBase?] at read
    split at read
    · rename_i starts
      cases read
      refine ⟨?_, by rw [List.cons_append, List.takeWhile_append_dropWhile]⟩
      simp [isBaseName, starts]
    · cases read

/-- What is read as a name is the spelling of one. -/
theorem of_lexName?_eq_some {chars rest : List Char} {name : Name}
    (read : lexName? chars = some (name, rest)) :
    name.isSpellable ∧ chars = name.write ++ rest := by
  -- A name without a namespace is its base alone.
  have plain {first : List Char} (named : isBaseName first) :
      (Name.plain (String.ofList first)).isSpellable ∧
        (Name.plain (String.ofList first)).write = first := by
    simp [Name.plain, Name.isSpellable, Name.write, named]
  unfold lexName? at read
  split at read
  · cases read
  · -- Behind a colon, a second part may follow.
    rename_i first behind base
    obtain ⟨first_named, rfl⟩ := of_lexBase?_eq_some base
    split at read
    · rename_i second last next
      obtain ⟨second_named, rfl⟩ := of_lexBase?_eq_some next
      cases read
      simp [Name.isSpellable, Name.write, first_named, second_named]
    · cases read
      obtain ⟨spellable, written⟩ := plain first_named
      exact ⟨spellable, by rw [written]⟩
  · rename_i first behind other base
    obtain ⟨named, rfl⟩ := of_lexBase?_eq_some base
    cases read
    obtain ⟨spellable, written⟩ := plain named
    exact ⟨spellable, by rw [written]⟩

/-! ### Blanks and quotes -/

/-- Whether a text does not begin with a blank. -/
def stopsSpace : List Char → Bool
  | [] => true
  | char :: _ => !isSpace char

/-- Blanks are passed over up to the first character that is none. -/
theorem dropWhile_isSpace_append {blanks rest : List Char} (blank : blanks.all isSpace)
    (stops : stopsSpace rest) : (blanks ++ rest).dropWhile isSpace = rest := by
  refine dropWhile_append_stop (List.all_eq_true.1 blank) ?_
  -- What follows the blanks is none itself, if anything follows.
  cases rest with
  | nil => simp
  | cons char _ => rintro _ ⟨⟩; simpa [stopsSpace] using stops

/-- What is left behind blanks does not begin with one, and the blanks stand in front of it. -/
theorem exists_blanks (chars : List Char) : ∃ blanks, blanks.all isSpace ∧
    chars = blanks ++ chars.dropWhile isSpace ∧ stopsSpace (chars.dropWhile isSpace) := by
  refine ⟨chars.takeWhile isSpace, List.all_takeWhile, List.takeWhile_append_dropWhile.symm, ?_⟩
  -- The blanks in front are taken as far as they go.
  cases left : chars.dropWhile isSpace with
  | nil => rfl
  | cons char rest =>
    have first := List.head?_dropWhile_not isSpace chars
    simpa [left, stopsSpace] using first

/-- Blanks that must be there are passed over, all of them. -/
theorem dropSpaces?_eq_some_iff {chars rest : List Char} : dropSpaces? chars = some rest ↔
    ∃ blanks, blanks ≠ [] ∧ blanks.all isSpace ∧ stopsSpace rest ∧ chars = blanks ++ rest := by
  constructor
  · -- The first character must be a blank, and those behind it may be.
    intro dropped
    cases chars with
    | nil => cases dropped
    | cons char chars =>
      simp only [dropSpaces?] at dropped
      split at dropped
      · rename_i space
        cases dropped
        obtain ⟨blanks, blank, whole, stops⟩ := exists_blanks chars
        exact ⟨char :: blanks, List.cons_ne_nil _ _, by simp [space, blank], stops,
          by rw [List.cons_append, ← whole]⟩
      · cases dropped
  · -- The first of the blanks is there, and the others go with it.
    rintro ⟨blanks, present, blank, stops, rfl⟩
    obtain ⟨char, others, rfl⟩ := List.exists_cons_of_ne_nil present
    rw [List.all_cons, Bool.and_eq_true] at blank
    rw [List.cons_append, dropSpaces?, if_pos blank.1, dropWhile_isSpace_append blank.2 stops]

/-- An equals sign is passed over with the blanks around it. -/
theorem dropEquals?_append {before after rest : List Char} (before_blank : before.all isSpace)
    (after_blank : after.all isSpace) (stops : stopsSpace rest) :
    dropEquals? (before ++ '=' :: (after ++ rest)) = some rest := by
  -- The sign ends the blanks in front of it, and the rest those behind it.
  have equals : stopsSpace ('=' :: (after ++ rest)) := rfl
  rw [dropEquals?, dropWhile_isSpace_append before_blank equals]
  exact congrArg some (dropWhile_isSpace_append after_blank stops)

/-- An equals sign that was passed over has blanks around it, if anything. -/
theorem of_dropEquals?_eq_some {chars rest : List Char} (dropped : dropEquals? chars = some rest) :
    ∃ before after, before.all isSpace ∧ after.all isSpace ∧
      chars = before ++ '=' :: (after ++ rest) := by
  unfold dropEquals? at dropped
  split at dropped
  · rename_i behind equals
    cases dropped
    -- The blanks in front end at the sign, and those behind it at what is left.
    obtain ⟨before, before_blank, whole, -⟩ := exists_blanks chars
    obtain ⟨after, after_blank, rest_whole, -⟩ := exists_blanks behind
    exact ⟨before, after, before_blank, after_blank, by rw [← rest_whole, ← equals, ← whole]⟩
  · cases dropped

end RuleMetadata.Xml

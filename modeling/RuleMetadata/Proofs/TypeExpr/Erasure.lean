import RuleMetadata.Model.Element
import RuleMetadata.Proofs.Text.Blank

/-! Laws of erasure: blanks and what stands between brackets leave no trace in an erased name. -/

namespace RuleMetadata

open Text

namespace TypeExpr

variable {depth : Nat} {char : Char} {chars front back rest : List Char}

/-! ### One character -/

/-- Nothing is left of nothing, at any depth. -/
@[simp] theorem eraseChars_nil (depth : Nat) : eraseChars depth [] = [] := by
  cases depth <;> rfl

/-- A bracket that opens goes, and what follows lies deeper. -/
@[simp] theorem eraseChars_open (depth : Nat) (rest : List Char) :
    eraseChars depth ('<' :: rest) = eraseChars (depth + 1) rest := by
  cases depth <;> rfl

/-- A bracket that closes goes, and what follows lies less deep; outside of all brackets it closes
nothing. -/
@[simp] theorem eraseChars_close (depth : Nat) (rest : List Char) :
    eraseChars depth ('>' :: rest) = eraseChars (depth - 1) rest := by
  cases depth <;> rfl

/-- Outside of all brackets, a character that is no bracket is kept unless it is blank. -/
theorem eraseChars_zero_cons (opens : char ≠ '<') (closes : char ≠ '>') (rest : List Char) :
    eraseChars 0 (char :: rest) =
      if isBlank char then eraseChars 0 rest else char :: eraseChars 0 rest := by
  -- Of the cases of a character, those of the two brackets are ruled out.
  rw [eraseChars.eq_def]
  split <;> grind

/-- Between brackets, a character that is no bracket is left out. -/
theorem eraseChars_succ_cons (opens : char ≠ '<') (closes : char ≠ '>') (depth : Nat)
    (rest : List Char) : eraseChars (depth + 1) (char :: rest) = eraseChars (depth + 1) rest := by
  -- The branches for brackets do not apply.
  rw [eraseChars.eq_def]
  split <;> grind

/-- A blank is left out wherever it stands. -/
theorem eraseChars_blank (blank : isBlank char) (depth : Nat) (rest : List Char) :
    eraseChars depth (char :: rest) = eraseChars depth rest := by
  -- A blank is no bracket, so that it is left out at the depth where it stands.
  have opens : char ≠ '<' := by
    rintro rfl
    exact absurd blank (by decide)
  have closes : char ≠ '>' := by
    rintro rfl
    exact absurd blank (by decide)
  cases depth with
  | zero => rw [eraseChars_zero_cons opens closes, if_pos blank]
  | succ depth => exact eraseChars_succ_cons opens closes depth rest

/-! ### Characters in two parts -/

/-- Blanks in front are left out. -/
theorem eraseChars_blanks_append (blanks : ∀ char ∈ front, isBlank char) (depth : Nat)
    (rest : List Char) : eraseChars depth (front ++ rest) = eraseChars depth rest := by
  -- The first of the blanks is left out, and changes no depth.
  induction front with
  | nil => rfl
  | cons char front ih =>
    obtain ⟨blank, blanks⟩ := List.forall_mem_cons.1 blanks
    rw [List.cons_append, eraseChars_blank blank, ih blanks]

/-- Blanks behind are left out. -/
theorem eraseChars_append_blanks (blanks : ∀ char ∈ back, isBlank char) (depth : Nat)
    (front : List Char) : eraseChars depth (front ++ back) = eraseChars depth front := by
  -- Whatever the depth is behind the front, blanks are left out there.
  induction front generalizing depth with
  | nil => simpa using eraseChars_blanks_append blanks depth []
  | cons char front ih =>
    rw [List.cons_append]
    by_cases opens : char = '<'
    · subst opens
      rw [eraseChars_open, eraseChars_open, ih]
    by_cases closes : char = '>'
    · subst closes
      rw [eraseChars_close, eraseChars_close, ih]
    cases depth with
    | zero => rw [eraseChars_zero_cons opens closes, eraseChars_zero_cons opens closes, ih]
    | succ depth => rw [eraseChars_succ_cons opens closes, eraseChars_succ_cons opens closes, ih]

/-- Behind characters that open no bracket, erasure goes on outside of all brackets. -/
theorem eraseChars_zero_append (closed : '<' ∉ front) (back : List Char) :
    eraseChars 0 (front ++ back) = eraseChars 0 front ++ eraseChars 0 back := by
  -- Without an opening bracket in front, the depth stays at zero all the way.
  induction front with
  | nil => rfl
  | cons char front ih =>
    obtain ⟨opens, behind⟩ := List.ne_and_not_mem_of_not_mem_cons closed
    rw [List.cons_append]
    -- Neither a stray bracket nor a blank changes the depth.
    by_cases closes : char = '>'
    · subst closes
      rw [eraseChars_close, eraseChars_close, Nat.zero_sub, ih behind]
    · rw [eraseChars_zero_cons opens.symm closes, eraseChars_zero_cons opens.symm closes, ih behind]
      split <;> rfl

/-- Trimming makes no difference to an erased name. -/
@[simp] theorem eraseChars_trimChars (depth : Nat) (chars : List Char) :
    eraseChars depth (trimChars chars) = eraseChars depth chars := by
  -- What is trimmed off is blank, in front and behind.
  obtain ⟨front, back, split, front_blank, back_blank⟩ := exists_trimChars chars
  conv_rhs => rw [split]
  rw [eraseChars_blanks_append front_blank, eraseChars_append_blanks back_blank]

/-! ### Names -/

/-- Whether characters are left as they are by erasure: none of them is blank or an angle
bracket. -/
def IsErased (chars : List Char) : Prop :=
  ∀ char ∈ chars, isBlank char = false ∧ char ≠ '<' ∧ char ≠ '>'

instance (chars : List Char) : Decidable (IsErased chars) :=
  List.decidableBAll _ chars

/-- Characters in two parts are left as they are if both parts are. -/
theorem isErased_append : IsErased (front ++ back) ↔ IsErased front ∧ IsErased back :=
  List.forall_mem_append

/-- Erasure leaves such characters as they are. -/
theorem eraseChars_of_isErased (erased : IsErased chars) : eraseChars 0 chars = chars := by
  -- Each character is kept, and the depth stays at zero.
  induction chars with
  | nil => rfl
  | cons char rest ih =>
    obtain ⟨⟨visible, opens, closes⟩, others⟩ := List.forall_mem_cons.1 erased
    rw [eraseChars_zero_cons opens closes, if_neg (by simp [visible]), ih others]

/-- What erasure leaves is left as it is. -/
theorem isErased_eraseChars (depth : Nat) (chars : List Char) :
    IsErased (eraseChars depth chars) := by
  fun_induction eraseChars depth chars with
  | case1 => simp [IsErased]
  | case2 _ _ ih | case3 _ _ ih | case6 _ _ _ _ _ ih => exact ih
  | case4 char rest _ _ _ ih => exact ih
  | case5 char rest opens closes visible ih =>
    -- The only characters that are kept are neither blank nor angle brackets.
    exact List.forall_mem_cons.2 ⟨⟨by simpa using visible, opens, closes⟩, ih⟩

/-- The erased name of a text as a type expression. -/
theorem toList_erase (type : TypeExpr) : type.erase.toList = eraseChars 0 type.text.toList := by
  simp [erase]

/-- A text is erased as it stands, whether it is trimmed or not. -/
@[simp] theorem toList_erase_ofText (text : String) :
    (ofText text).erase.toList = eraseChars 0 text.toList := by
  simp [toList_erase, ofText, trim]

/-- A name that erasure leaves as it is has itself as erased name. -/
theorem erase_ofText (text : String) (erased : IsErased text.toList) :
    (ofText text).erase = text := by
  rw [← String.toList_inj, toList_erase_ofText, eraseChars_of_isErased erased]

/-- The head of a type opens no bracket. -/
theorem open_not_mem_headChars (type : TypeExpr) : '<' ∉ type.headChars := by
  -- The head is cut off in front of the first bracket.
  intro inside
  have outside := List.mem_takeWhile_imp inside
  simp at outside

/-- The head and the tail of a type have the erased name of the whole, one behind the other. -/
theorem eraseChars_headChars_append (type : TypeExpr) :
    eraseChars 0 (type.head.toList ++ type.tail.toList) = type.erase.toList := by
  have split : type.headChars ++ type.tail.toList = type.text.toList := by
    rw [headChars, tail, String.toList_ofList, List.takeWhile_append_dropWhile]
  have closed : '<' ∉ trimChars type.headChars := by
    intro inside
    exact type.open_not_mem_headChars ((trimChars_sublist _).subset inside)
  -- The blanks that were trimmed off between the two parts would be left out anyway.
  calc eraseChars 0 (type.head.toList ++ type.tail.toList)
      = eraseChars 0 (trimChars type.headChars) ++ eraseChars 0 type.tail.toList := by
        rw [head, String.toList_ofList, eraseChars_zero_append closed]
    _ = eraseChars 0 type.headChars ++ eraseChars 0 type.tail.toList := by
        rw [eraseChars_trimChars]
    _ = type.erase.toList := by
        rw [← eraseChars_zero_append type.open_not_mem_headChars, split, toList_erase]

/-- A type with its head inside a package has its erased name inside the package. -/
theorem erase_qualifiedBy {package : String} (plain : IsErased package.toList) (type : TypeExpr) :
    (ofText (qualifiedBy package type.head ++ type.tail)).erase =
      qualifiedBy package type.erase := by
  -- Package and point are kept as they are, and open no bracket.
  have front_plain : IsErased (package.toList ++ ['.']) :=
    isErased_append.2 ⟨plain, by decide⟩
  have closed : '<' ∉ package.toList ++ ['.'] := by
    intro inside
    exact (front_plain _ inside).2.1 rfl
  rw [← String.toList_inj, toList_erase_ofText]
  calc eraseChars 0 (qualifiedBy package type.head ++ type.tail).toList
      = eraseChars 0 ((package.toList ++ ['.']) ++ (type.head.toList ++ type.tail.toList)) := by
        simp [qualifiedBy]
    _ = (package.toList ++ ['.']) ++ type.erase.toList := by
        rw [eraseChars_zero_append closed, eraseChars_of_isErased front_plain,
          eraseChars_headChars_append]
    _ = (qualifiedBy package type.erase).toList := by simp [qualifiedBy]

/-! ### Arrays -/

/-- A name is that of an array if it ends in a pair of square brackets. -/
theorem isArrayName_iff {erased : String} :
    isArrayName erased ↔ ['[', ']'] <:+ erased.toList := by
  -- The pair stands in front, the other way around, in the reversed name.
  rw [← List.reverse_prefix, isArrayName]
  split
  · rename_i rest reversed
    simp [reversed]
  · rename_i apart
    refine iff_of_false (by simp) ?_
    rintro ⟨rest, reversed⟩
    exact apart rest reversed.symm

end TypeExpr

end RuleMetadata

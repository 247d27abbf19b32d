import RuleMetadata.Proofs.TypeExpr.Erasure

/-! The grammar of written types, with the blanks between their tokens: the brackets of every phrase
are balanced, and erasure leaves what stands outside of them. -/

namespace RuleMetadata

open Text

namespace TypeExpr

/-! ### Written types -/

/-- Any number of blanks. -/
structure Blanks where
  chars : List Char
  blank : ∀ char ∈ chars, isBlank char

/-- A token with blanks in front. -/
def Blanks.before (front : Blanks) (token : List Char) : List Char :=
  front.chars ++ token

/-- Whether a character can stand in a name. -/
def isNameChar (char : Char) : Bool :=
  !isBlank char && !"<>[],?.".toList.contains char

/-- A name in a type: not empty, and without blanks and punctuation. -/
structure Name where
  chars : List Char
  filled : chars ≠ []
  plain : ∀ char ∈ chars, isNameChar char

/-- The words that join a wildcard to its bound. -/
inductive BoundWord where
  | upper
  | lower

/-- The spelling of a word in front of a bound. -/
def BoundWord.text : BoundWord → String
  | .upper => "extends"
  | .lower => "super"

/-- The parts that written types consist of. -/
inductive Part where
  | segment
  | path
  | type
  | argument
  | arguments

/-- The written types and their parts, with the blanks in front of each token. -/
inductive Phrase : Part → Type where
  /-- A segment without arguments. -/
  | bare (front : Blanks) (name : Name) : Phrase .segment
  /-- A segment with arguments between angle brackets. -/
  | generic (front : Blanks) (name : Name) (opening : Blanks) (arguments : Phrase .arguments)
    (closing : Blanks) : Phrase .segment
  /-- A path of one segment. -/
  | single (segment : Phrase .segment) : Phrase .path
  /-- A path with one more segment behind a point. -/
  | member (path : Phrase .path) (point : Blanks) (segment : Phrase .segment) : Phrase .path
  /-- A type that is no array. -/
  | plain (path : Phrase .path) : Phrase .type
  /-- The arrays of a type. -/
  | array (element : Phrase .type) (opening closing : Blanks) : Phrase .type
  /-- An argument that is a type. -/
  | exactly (type : Phrase .type) : Phrase .argument
  /-- A wildcard without a bound. -/
  | wildcard (mark : Blanks) : Phrase .argument
  /-- A wildcard with a bound; one blank at least follows the word. -/
  | bounded (mark front : Blanks) (word : BoundWord) (gap : Blanks) (apart : gap.chars ≠ [])
    (bound : Phrase .type) : Phrase .argument
  /-- A single argument. -/
  | only (argument : Phrase .argument) : Phrase .arguments
  /-- An argument with others behind a comma. -/
  | more (argument : Phrase .argument) (comma : Blanks) (others : Phrase .arguments) :
    Phrase .arguments

namespace Phrase

variable {part : Part}

/-- The text of a phrase. -/
def print {part : Part} : Phrase part → List Char
  | bare front name => front.before name.chars
  | generic front name opening arguments closing => front.before name.chars ++
      (opening.before ['<'] ++ (arguments.print ++ closing.before ['>']))
  | single segment => segment.print
  | member path point segment => path.print ++ (point.before ['.'] ++ segment.print)
  | plain path => path.print
  | array element opening closing => element.print ++ (opening.before ['['] ++ closing.before [']'])
  | exactly type => type.print
  | wildcard mark => mark.before ['?']
  -- One blank at least stands behind the word, so that the bound does not run into it.
  | bounded mark front word gap _ bound =>
      mark.before ['?'] ++ (front.before word.text.toList ++ (gap.chars ++ bound.print))
  | only argument => argument.print
  | more argument comma others => argument.print ++ (comma.before [','] ++ others.print)

/-- What is left of a phrase without argument lists and blanks: for a type, its names with points in
between, and its array brackets. -/
def erased {part : Part} : Phrase part → List Char
  | bare _ name => name.chars
  -- The arguments go with their brackets.
  | generic _ name _ _ _ => name.chars
  | single segment => segment.erased
  | member path _ segment => path.erased ++ '.' :: segment.erased
  | plain path => path.erased
  | array element _ _ => element.erased ++ ['[', ']']
  | exactly type => type.erased
  | wildcard _ => ['?']
  -- The blanks around the word go as well, so that it runs into the bound.
  | bounded _ _ word _ _ bound => '?' :: (word.text.toList ++ bound.erased)
  | only argument => argument.erased
  | more argument _ others => argument.erased ++ ',' :: others.erased

/-- The arguments of the leftmost segment that has any. -/
def leadingArguments? {part : Part} : Phrase part → Option (Phrase .arguments)
  | bare _ _ => none
  | generic _ _ _ arguments _ => some arguments
  | single segment => segment.leadingArguments?
  -- The leftmost ones count, so the path is looked at before the segment.
  | member path _ segment => path.leadingArguments?.or segment.leadingArguments?
  | plain path => path.leadingArguments?
  | array element _ _ => element.leadingArguments?
  | exactly type => type.leadingArguments?
  | wildcard _ => none
  | bounded _ _ _ _ _ bound => bound.leadingArguments?
  | only argument => argument.leadingArguments?
  | more argument _ others => argument.leadingArguments?.or others.leadingArguments?

/-- The first of several arguments. -/
def first : Phrase .arguments → Phrase .argument
  | only argument => argument
  | more argument _ _ => argument

/-- The type that an argument names, which is the bound of a wildcard. -/
def bound? : Phrase .argument → Option (Phrase .type)
  | exactly type => some type
  -- Without a bound, nothing is named.
  | wildcard _ => none
  | bounded _ _ _ _ _ bound => some bound

/-- The type that the first argument of a type names. -/
def firstBound? (type : Phrase .type) : Option (Phrase .type) :=
  type.leadingArguments?.bind fun arguments => arguments.first.bound?

end Phrase

/-! ### Characters of tokens -/

/-- A character of a name is neither blank nor one of the marks of the grammar. -/
theorem isNameChar_iff {char : Char} : isNameChar char ↔ isBlank char = false ∧ char ≠ '<' ∧
    char ≠ '>' ∧ char ≠ '[' ∧ char ≠ ']' ∧ char ≠ ',' ∧ char ≠ '?' ∧ char ≠ '.' := by
  simp [isNameChar]

/-- Erasure leaves names as they are. -/
theorem Name.isErased (name : Name) : IsErased name.chars := by
  intro char inside
  -- A character of a name is neither blank nor a bracket.
  obtain ⟨visible, opens, closes, -⟩ := isNameChar_iff.1 (name.plain char inside)
  exact ⟨visible, opens, closes⟩

/-- The words in front of bounds are erased as names are. -/
theorem BoundWord.isErased (word : BoundWord) : IsErased word.text.toList := by
  cases word <;> decide

/-- Outside of all brackets, erasure keeps a token, and leaves out the blanks in front. -/
theorem eraseChars_before {token : List Char} (erased : IsErased token) (front : Blanks)
    (rest : List Char) :
    eraseChars 0 (front.before token ++ rest) = token ++ eraseChars 0 rest := by
  -- The token opens no bracket, so that erasure stays outside of all.
  have closed : '<' ∉ token := fun inside => (erased _ inside).2.1 rfl
  rw [Blanks.before, List.append_assoc, eraseChars_blanks_append front.blank,
    eraseChars_zero_append closed, eraseChars_of_isErased erased]

/-! ### Balanced brackets -/

/-- Whether characters are passed over: between brackets they leave no trace in an erased name, and
between so many brackets they complete no argument. This is so if each of their brackets has its
partner among them, and if none of their commas stands between too few. -/
structure IsClosed (least : Nat) (chars : List Char) : Prop where
  erased (depth : Nat) (rest : List Char) :
    eraseChars (depth + 1) (chars ++ rest) = eraseChars (depth + 1) rest
  -- The characters are gathered in reverse, as the scanner does it.
  passed {depth : Nat} (deep : least ≤ depth) (done rest : List Char) :
    argumentChars depth done (chars ++ rest) = argumentChars depth (chars.reverse ++ done) rest

/-- A character that is no bracket becomes a part of the argument, unless it is a comma that ends
it. -/
theorem argumentChars_cons {char : Char} {depth : Nat} (opens : char ≠ '<') (closes : char ≠ '>')
    (inner : char = ',' → depth ≠ 0) (done rest : List Char) :
    argumentChars depth done (char :: rest) = argumentChars depth (char :: done) rest := by
  -- The branches for brackets do not apply, and that for a comma only outside of brackets.
  rw [argumentChars.eq_def]
  split <;> simp_all

namespace IsClosed

variable {least : Nat} {front back inside : List Char}

/-- Balanced characters stay balanced between more brackets. -/
theorem mono {more : Nat} (closed : IsClosed least front) (fewer : least ≤ more) :
    IsClosed more front :=
  ⟨closed.erased, fun deep => closed.passed (fewer.trans deep)⟩

/-- Balanced characters behind balanced ones are balanced. -/
theorem append (first : IsClosed least front) (second : IsClosed least back) :
    IsClosed least (front ++ back) where
  -- What is behind the first list is erased, or passed, on its own.
  erased depth rest := by rw [List.append_assoc, first.erased, second.erased]
  passed deep done rest := by
    rw [List.append_assoc, first.passed deep, second.passed deep, List.reverse_append,
      List.append_assoc]

/-- Characters without brackets are balanced. -/
theorem of_forall {chars : List Char} (plain : ∀ char ∈ chars,
    char ≠ '<' ∧ char ≠ '>' ∧ (char = ',' → least ≠ 0)) : IsClosed least chars := by
  -- No character changes the depth, and each becomes a part of the argument.
  induction chars with
  | nil => exact ⟨fun _ _ => rfl, fun _ _ _ => rfl⟩
  | cons char rest ih =>
    obtain ⟨⟨opens, closes, inner⟩, others⟩ := List.forall_mem_cons.1 plain
    have closed := ih others
    refine ⟨fun depth behind => ?_, fun {depth} deep done behind => ?_⟩
    · rw [List.cons_append, eraseChars_succ_cons opens closes, closed.erased]
    · have inner : char = ',' → depth ≠ 0 := fun comma => by
        have := inner comma
        omega
      rw [List.cons_append, argumentChars_cons opens closes inner, closed.passed deep]
      simp

/-- Blanks are balanced. -/
theorem blanks (blanks : Blanks) : IsClosed least blanks.chars := by
  refine of_forall fun char inside => ?_
  have blank := blanks.blank char inside
  -- A blank is neither a bracket nor a comma.
  refine ⟨?_, ?_, ?_⟩ <;> rintro rfl <;> exact absurd blank (by decide)

/-- A name with blanks in front is balanced. -/
theorem name (front : Blanks) (name : Name) : IsClosed least (front.before name.chars) := by
  refine (blanks front).append (of_forall fun char inside => ?_)
  -- A character of a name is neither a bracket nor a comma.
  obtain ⟨-, opens, closes, -, -, comma, -⟩ := isNameChar_iff.1 (name.plain char inside)
  exact ⟨opens, closes, fun same => absurd same comma⟩

/-- A mark that is no angle bracket is balanced, a comma if it stands between brackets. -/
theorem mark (front : Blanks) {char : Char} (plain : char ≠ '<' ∧ char ≠ '>' ∧
    (char = ',' → least ≠ 0)) : IsClosed least (front.before [char]) :=
  (blanks front).append (of_forall (by simpa using plain))

/-- Angle brackets around balanced characters are balanced, and the commas inside end no outer
argument. -/
theorem brackets (opening closing : Blanks) (closed : IsClosed 1 inside) :
    IsClosed 0 (opening.before ['<'] ++ (inside ++ closing.before ['>'])) := by
  -- The bracket in front takes everything one level down, and the one behind takes it back.
  have inner (front : Blanks) : IsClosed 0 front.chars := blanks front
  refine ⟨fun depth rest => ?_, fun {depth} _ done rest => ?_⟩
  · simp [Blanks.before, (inner _).erased, closed.erased]
  · have deep : 1 ≤ depth + 1 := by omega
    simp [Blanks.before, (inner _).passed, closed.passed deep, argumentChars]

end IsClosed

/-- Between how many brackets the commas of a part end no outer argument. -/
def Part.least : Part → Nat
  | .arguments => 1
  | _ => 0

namespace Phrase

variable {part : Part}

/-- The brackets of a phrase have their partners in it. -/
theorem isClosed_print (phrase : Phrase part) : IsClosed part.least phrase.print := by
  -- The induction is on the phrase; a list of arguments is closed only inside of brackets.
  induction phrase with
  | bare front name => exact .name front name
  | generic front name opening _ closing arguments_closed =>
    exact .append (.name front name) (.brackets opening closing arguments_closed)
  | single _ closed => exact closed
  | member _ point _ path_closed segment_closed =>
    exact path_closed.append (.append (.mark point (by decide)) segment_closed)
  | plain _ closed => exact closed
  | array _ opening closing closed =>
    exact closed.append (.append (.mark opening (by decide)) (.mark closing (by decide)))
  | exactly _ closed => exact closed
  | wildcard mark => exact .mark mark (by decide)
  | bounded mark front word gap _ _ closed =>
    have spelled : IsClosed 0 word.text.toList :=
      .of_forall (by cases word <;> simp [BoundWord.text])
    exact .append (.mark mark (by decide))
      (.append (.append (.blanks front) spelled) (.append (.blanks gap) closed))
  | only _ closed => exact closed.mono (Nat.zero_le 1)
  | more _ comma _ argument_closed others_closed =>
    exact (argument_closed.mono (Nat.zero_le 1)).append
      (.append (.mark comma (by decide)) others_closed)

/-- Outside of all brackets, erasure leaves of a phrase what stands outside of its own. -/
theorem eraseChars_print (phrase : Phrase part) (rest : List Char) :
    eraseChars 0 (phrase.print ++ rest) = phrase.erased ++ eraseChars 0 rest := by
  induction phrase generalizing rest with
  | bare front name => exact eraseChars_before name.isErased front rest
  | generic front name opening arguments closing _ =>
    -- Between the brackets, the arguments leave no trace.
    have inside := arguments.isClosed_print.erased 0 (closing.chars ++ '>' :: rest)
    rw [print, erased, List.append_assoc, eraseChars_before name.isErased]
    simp only [Blanks.before, List.append_assoc, eraseChars_blanks_append opening.blank,
      List.cons_append, List.nil_append, eraseChars_open, inside,
      eraseChars_blanks_append closing.blank, eraseChars_close]
  | single _ ih => exact ih rest
  | member _ point _ path_erased segment_erased =>
    have pointed : IsErased ['.'] := by decide
    simp [print, erased, path_erased, eraseChars_before pointed, segment_erased]
  | plain _ ih => exact ih rest
  | array _ opening closing element_erased =>
    have opened : IsErased ['['] := by decide
    have closed : IsErased [']'] := by decide
    simp [print, erased, element_erased, eraseChars_before opened, eraseChars_before closed]
  | exactly _ ih => exact ih rest
  | wildcard mark => exact eraseChars_before (by decide) mark rest
  | bounded mark front word gap _ _ bound_erased =>
    have marked : IsErased ['?'] := by decide
    simp [print, erased, eraseChars_before marked, eraseChars_before word.isErased,
      eraseChars_blanks_append gap.blank, bound_erased]
  | only _ ih => exact ih rest
  | more _ comma _ argument_erased others_erased =>
    have separated : IsErased [','] := by decide
    simp [print, erased, argument_erased, eraseChars_before separated, others_erased]

end Phrase

end TypeExpr

end RuleMetadata

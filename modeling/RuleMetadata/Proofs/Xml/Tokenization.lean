import RuleMetadata.Proofs.Xml.Recognition

/-! Rows of tokens: a text is split into the tokens that its grammar spells it by, and into no
others. -/

namespace RuleMetadata.Xml

/-- Whether a token is text. -/
def Token.isText : Token → Bool
  | .text _ => true
  | _ => false

/-- Whether characters are the spelling of a token. -/
inductive SpellsToken : Token → List Char → Prop where
  | declaration {chars : List Char} : SpellsDeclaration chars → SpellsToken .declaration chars
  | doctype {chars : List Char} : SpellsDoctype chars → SpellsToken .doctype chars
  | comment {text : List Char} : (Aside.comment text).IsProper →
    SpellsToken .comment (Aside.comment text).write
  | instruction {target data : List Char} : (Aside.instruction target data).IsProper →
    SpellsToken .instruction (Aside.instruction target data).write
  | start {name : Name} {attributes : Attributes} {closed : Bool} {chars : List Char} :
    SpellsStart name attributes closed chars → SpellsToken (.start name attributes closed) chars
  | finish {name : Name} {chars : List Char} : SpellsFinish name chars →
    SpellsToken (.finish name) chars
  -- References are checked later, by what reads the content.
  | text {spelling : List Char} : spelling ≠ [] → '<' ∉ spelling →
    SpellsToken (.text spelling) spelling
  | verbatim {value : List Char} : ¬ "]]>".toList <:+: value →
    SpellsToken (.verbatim value) ("<![CDATA[".toList ++ (value ++ "]]>".toList))

/-- A comment or an instruction is spelled as its token. -/
theorem SpellsToken.aside {aside : Aside} (proper : aside.IsProper) :
    SpellsToken aside.token aside.write := by
  -- Both kinds of asides have a token of their own.
  cases aside with
  | comment => exact .comment proper
  | instruction => exact .instruction proper

/-! ### Tags -/

/-- Every attribute is spelled with at least one character. -/
theorem SpellsAttributes.length_le {attributes : Attributes} {inside : List Char}
    (spells : SpellsAttributes attributes inside) : attributes.length ≤ inside.length := by
  -- The equals sign of each attribute is counted.
  induction spells with
  | nil => simp
  | cons _ _ _ setting _ ih =>
    obtain ⟨blanks, before, after, quoted, -, -, -, -, -, rfl⟩ := setting
    simp only [List.length_cons, List.length_append]
    omega

/-- The name of a tag stops at its first attribute, at blanks or at its end. -/
theorem SpellsAttributes.stopsName {attributes : Attributes} {inside blanks : List Char}
    (spells : SpellsAttributes attributes inside) (blank : blanks.all isSpace) (closed : Bool)
    (rest : List Char) : stopsName (inside ++ (blanks ++ (tagEnd closed ++ rest))) := by
  cases spells with
  | nil =>
    rw [List.nil_append]
    have bracket : isMark '>' := by decide
    have slash : isMark '/' := by decide
    refine stopsName_append blank fun _ => ?_
    cases closed
    · exact stopsName_cons bracket rest
    · exact stopsName_cons slash ('>' :: rest)
  | cons _ _ _ setting _ =>
    -- An attribute stands behind at least one blank.
    obtain ⟨spaces, before, after, quoted, present, space, -, -, -, rfl⟩ := setting
    rw [List.append_assoc, List.append_assoc]
    exact stopsName_append space fun none => absurd none present

/-- Behind a bracket with a slash stands the name of a closing tag. -/
theorem lexToken?_slash (rest : List Char) :
    lexToken? ('<' :: '/' :: rest) = (do
      let (name, rest) ← lexName? rest
      let rest ← dropFront? ['>'] (rest.dropWhile isSpace)
      return (.finish name, rest)) := rfl

/-- Behind a bracket with none of the characters of other markup stands an opening tag. -/
theorem lexToken?_tag {first : Char} (not_bang : first ≠ '!') (not_question : first ≠ '?')
    (not_slash : first ≠ '/') (rest : List Char) :
    lexToken? ('<' :: first :: rest) = (do
      let (name, rest) ← lexName? (first :: rest)
      let (attributes, closed, rest) ← lexAttributes? (rest.length + 1) rest
      return (.start name attributes closed, rest)) := by
  -- The branches above it are those of markup that begins with one of the three characters.
  unfold lexToken?
  split <;> simp_all

/-- An opening tag is read back, whatever follows it. -/
theorem SpellsStart.lexToken? {name : Name} {attributes : Attributes} {closed : Bool}
    {chars : List Char} (spells : SpellsStart name attributes closed chars) (rest : List Char) :
    lexToken? (chars ++ rest) = some (.start name attributes closed, rest) := by
  obtain ⟨inside, blanks, spellable, attributes_spelled, blank, rfl⟩ := spells
  -- A name begins with none of the characters that tell other markup from a tag.
  obtain ⟨first, others, written, unmarked⟩ := name.exists_write_eq_cons spellable
  have not_bang : first ≠ '!' := by rintro rfl; simp [isMark] at unmarked
  have not_question : first ≠ '?' := by rintro rfl; simp [isMark] at unmarked
  have not_slash : first ≠ '/' := by rintro rfl; simp [isMark] at unmarked
  -- The name stops at the attributes, which are read up to the end of the tag.
  have read_name := lexName?_write spellable _ (attributes_spelled.stopsName blank closed rest)
  have read_attributes := attributes_spelled.lexAttributes? blank closed rest
    ((inside ++ (blanks ++ (tagEnd closed ++ rest))).length + 1) (by
      have := attributes_spelled.length_le
      simp only [List.length_append]
      omega)
  simp only [List.cons_append, List.append_assoc]
  rw [written, List.cons_append] at read_name ⊢
  rw [lexToken?_tag not_bang not_question not_slash, read_name]
  simp only [Option.bind_eq_bind, Option.bind_some, read_attributes]
  rfl

/-- A closing tag is read back, whatever follows it. -/
theorem SpellsFinish.lexToken? {name : Name} {chars : List Char} (spells : SpellsFinish name chars)
    (rest : List Char) : lexToken? (chars ++ rest) = some (.finish name, rest) := by
  obtain ⟨blanks, spellable, blank, rfl⟩ := spells
  -- The name stops at blanks, or at the bracket that ends the tag.
  have read_name := lexName?_write spellable (blanks ++ '>' :: rest)
    (stopsName_append blank fun _ => stopsName_cons (by decide) rest)
  have whole : '<' :: '/' :: (name.write ++ (blanks ++ ['>'])) ++ rest =
      '<' :: '/' :: (name.write ++ (blanks ++ '>' :: rest)) := by simp
  rw [whole, lexToken?_slash, read_name]
  simp [dropWhile_isSpace_append blank (by rfl : stopsSpace ('>' :: rest)), dropFront?]

/-! ### Texts -/

/-- Text begins with anything but a bracket. -/
theorem lexToken?_of_ne {first : Char} (other : first ≠ '<') (rest : List Char) :
    lexToken? (first :: rest) = some (.text ((first :: rest).takeWhile (· != '<')),
      (first :: rest).dropWhile (· != '<')) := by
  -- All other branches ask for a bracket.
  unfold lexToken?
  split <;> simp_all

/-- Text stops where nothing follows it. -/
theorem stopsText_nil : StopsText [] := fun _ begins => by cases begins

/-- Text stops in front of a bracket. -/
theorem stopsText_bracket (rest : List Char) : StopsText ('<' :: rest) :=
  fun _ begins => (Option.some.inj begins).symm

/-- Where text stops in front of two texts in a row, it does so in front of the first. -/
theorem StopsText.of_append {front rest : List Char} (stops : StopsText (front ++ rest)) :
    StopsText front := by
  -- Only the first character decides, and an empty text has none.
  intro char begins
  cases front with
  | nil => cases begins
  | cons first others => exact stops char begins

/-- A text that is not empty is read up to the markup behind it. -/
theorem lexToken?_text {spelling rest : List Char} (present : spelling ≠ [])
    (absent : '<' ∉ spelling) (stops : StopsText rest) :
    lexToken? (spelling ++ rest) = some (.text spelling, rest) := by
  -- No bracket is among the characters of the text, and only one can stand behind them.
  have inside : ∀ char ∈ spelling, (char != '<') = true := by
    intro char member
    simp only [bne_iff_ne]
    rintro rfl
    exact absent member
  have bracket : ∀ char, rest.head? = some char → (char != '<') = false := by
    intro char begins
    simp [stops char begins]
  obtain ⟨first, others, rfl⟩ := List.exists_cons_of_ne_nil present
  have other : first ≠ '<' := by simpa using inside first List.mem_cons_self
  have taken := takeWhile_append_stop inside bracket
  have dropped := dropWhile_append_stop inside bracket
  rw [List.cons_append] at taken dropped ⊢
  rw [lexToken?_of_ne other, taken, dropped]

/-- Behind the opening of a verbatim section stand its text and its end. -/
theorem lexToken?_verbatim (rest : List Char) :
    lexToken? ('<' :: '!' :: '[' :: rest) = (do
      let rest ← dropFront? "CDATA[".toList rest
      let (value, rest) ← cutAt? [']', ']', '>'] rest
      return (.verbatim value, rest)) := rfl

/-- The end of a verbatim section does not begin in its text, unless it is in it. -/
theorem not_infix_verbatim {value : List Char} (unended : ¬ "]]>".toList <:+: value) :
    ¬ [']', ']', '>'] <:+: value ++ [']', ']', '>'].dropLast :=
  not_infix_append rfl unended (by decide)

/-! ### First tokens -/

/-- Behind the opening of a document type stands all the rest of it. -/
theorem lexToken?_doctype (rest : List Char) :
    lexToken? ("<!DOCTYPE".toList ++ rest) = (do
      let rest ← dropDoctype? rest
      return (.doctype, rest)) := rfl

/-- The spelling of a token is read as that token. Behind a text, markup follows or nothing. -/
theorem SpellsToken.lexToken? {token : Token} {spelling rest : List Char}
    (spells : SpellsToken token spelling) (stops : token.isText → StopsText rest) :
    lexToken? (spelling ++ rest) = some (token, rest) := by
  -- Each kind of token has its scanner, which is told by the first characters.
  cases spells with
  | declaration declares => exact declares.lexToken? rest
  | doctype types =>
    obtain ⟨inside, rfl, dropped⟩ := types.exists_dropDoctype?
    rw [List.append_assoc, lexToken?_doctype, dropped]
    rfl
  | comment proper | instruction proper => exact Aside.lexToken? proper rest
  | start opens => exact opens.lexToken? rest
  | finish closes => exact closes.lexToken? rest
  | text present absent => exact lexToken?_text present absent (stops rfl)
  | @verbatim value unended =>
    have cut := cutAt?_append (List.cons_ne_nil ']' [']', '>']) (not_infix_verbatim unended) rest
    have whole : "<![CDATA[".toList ++ (value ++ "]]>".toList) ++ rest =
        '<' :: '!' :: '[' :: ("CDATA[".toList ++ (value ++ ([']', ']', '>'] ++ rest))) := by simp
    rw [whole, lexToken?_verbatim, dropFront?_eq_some_iff.2 rfl]
    simp only [Option.bind_eq_bind, Option.bind_some, cut]
    rfl

/-- What is accepted as an instruction up to its end is one. -/
theorem spellsToken_instruction {inside : List Char} (instructs : isInstruction inside)
    (unended : ¬ ['?', '>'] <:+: inside) :
    SpellsToken .instruction ('<' :: '?' :: (inside ++ ['?', '>'])) := by
  obtain ⟨target, data, proper, rfl⟩ := exists_isProper instructs unended
  simpa [Aside.write] using SpellsToken.instruction proper

/-- What is accepted as the declaration is one. -/
theorem spellsToken_declaration {inside : List Char} (declares : isDeclaration inside) :
    SpellsToken .declaration ('<' :: '?' :: (inside ++ ['?', '>'])) := by
  -- The settings are the same, up to the end of the declaration.
  obtain ⟨version, encoding, standalone, blanks, sets, encoded, alone, blank, rfl⟩ :=
    isDeclaration_iff.1 declares
  refine .declaration ⟨version, encoding, standalone, blanks, sets, encoded, alone, blank, ?_⟩
  simp

/-- What is taken up to the next bracket is a text. -/
theorem spellsToken_takeWhile {chars : List Char} (present : chars ≠ [])
    (other : ∀ rest, chars ≠ '<' :: rest) :
    SpellsToken (.text (chars.takeWhile (· != '<'))) (chars.takeWhile (· != '<')) := by
  -- It begins with another character, and none in it is a bracket.
  refine .text ?_ fun inside => ?_
  · obtain ⟨first, others, rfl⟩ := List.exists_cons_of_ne_nil present
    have no_bracket : first ≠ '<' := fun bracket => other others (by rw [bracket])
    simp [no_bracket]
  · simpa using List.all_eq_true.1 List.all_takeWhile _ inside

/-- Text stops at the next bracket. -/
theorem stopsText_dropWhile (chars : List Char) : StopsText (chars.dropWhile (· != '<')) := by
  -- All characters in front of it are passed over.
  intro char begins
  have stopped := List.head?_dropWhile_not (· != '<') chars
  simpa [begins] using stopped

/-- What is read as a token in front of a text that goes on is the spelling of that token. -/
theorem exists_spellsToken {chars rest : List Char} {token : Token} (present : chars ≠ [])
    (read : lexToken? chars = some (token, rest)) : ∃ spelling, SpellsToken token spelling ∧
      chars = spelling ++ rest ∧ (token.isText → StopsText rest) := by
  have no_text {stops : Prop} (text : false = true) : stops := absurd text Bool.false_ne_true
  unfold Xml.lexToken? at read
  -- The first characters tell which kind of token it is.
  split at read
  · simp only [Option.bind_eq_bind, Option.bind_eq_some_iff] at read
    obtain ⟨⟨text, next⟩, cut, last, bracket, made⟩ := read
    cases made
    obtain ⟨rfl, proper⟩ := (cutAt?_eq_some_iff (List.cons_ne_nil _ _)).1 cut
    obtain rfl := dropFront?_eq_some_iff.1 bracket
    exact ⟨_, .comment proper, by simp [Aside.write], no_text⟩
  · simp only [Option.bind_eq_bind, Option.bind_eq_some_iff] at read
    obtain ⟨next, word, ⟨value, last⟩, cut, made⟩ := read
    cases made
    obtain rfl := dropFront?_eq_some_iff.1 word
    obtain ⟨rfl, unended⟩ := (cutAt?_eq_some_iff (List.cons_ne_nil _ _)).1 cut
    refine ⟨_, .verbatim fun ended => unended ?_, by simp, no_text⟩
    exact ended.trans (List.prefix_append value _).isInfix
  · simp only [Option.bind_eq_bind, Option.bind_eq_some_iff] at read
    obtain ⟨next, word, last, dropped, made⟩ := read
    cases made
    obtain rfl := dropFront?_eq_some_iff.1 word
    obtain ⟨inside, types, rfl⟩ := exists_spellsDoctype dropped
    exact ⟨_, .doctype types, by simp, no_text⟩
  · simp only [Option.bind_eq_bind, Option.bind_eq_some_iff] at read
    obtain ⟨⟨inside, last⟩, cut, read⟩ := read
    obtain ⟨rfl, unended⟩ := (cutAt?_eq_some_iff (List.cons_ne_nil _ _)).1 cut
    have unended : ¬ ['?', '>'] <:+: inside := fun ended =>
      unended (ended.trans (List.prefix_append inside _).isInfix)
    -- An instruction for another target is asked for first.
    split at read
    · rename_i instructs
      cases read
      exact ⟨_, spellsToken_instruction instructs unended, by simp, no_text⟩
    · split at read
      · rename_i declares
        cases read
        exact ⟨_, spellsToken_declaration declares, by simp, no_text⟩
      · cases read
  · simp only [Option.bind_eq_bind, Option.bind_eq_some_iff] at read
    obtain ⟨⟨name, next⟩, named, last, bracket, made⟩ := read
    cases made
    obtain ⟨spellable, rfl⟩ := of_lexName?_eq_some named
    obtain ⟨blanks, blank, whole, -⟩ := exists_blanks next
    rw [dropFront?_eq_some_iff.1 bracket] at whole
    exact ⟨_, .finish ⟨blanks, spellable, blank, rfl⟩, by simp [whole], no_text⟩
  · simp only [Option.bind_eq_bind, Option.bind_eq_some_iff] at read
    obtain ⟨⟨name, next⟩, named, ⟨attributes, closed, last⟩, more, made⟩ := read
    cases made
    obtain ⟨spellable, rfl⟩ := of_lexName?_eq_some named
    obtain ⟨inside, blanks, spells, blank, rfl⟩ := exists_spellsAttributes more
    exact ⟨_, .start ⟨inside, blanks, spellable, spells, blank, rfl⟩, by simp, no_text⟩
  · -- A text begins with another character than a bracket, and takes all up to the next one.
    rename_i other
    cases read
    exact ⟨_, spellsToken_takeWhile present other, List.takeWhile_append_dropWhile.symm,
      fun _ => stopsText_dropWhile chars⟩

/-! ### Rows of tokens -/

/-- The spelling of a row of tokens. A text goes on up to the markup behind it. -/
inductive Spelled : List Token → List Char → Prop where
  | nil : Spelled [] []
  -- The condition is on texts alone, for all other tokens show their end.
  | cons {token : Token} {tokens : List Token} {spelling chars : List Char} :
    SpellsToken token spelling → (token.isText → StopsText chars) → Spelled tokens chars →
      Spelled (token :: tokens) (spelling ++ chars)

/-- Every token has at least one character. -/
theorem SpellsToken.ne_nil {token : Token} {spelling : List Char}
    (spells : SpellsToken token spelling) : spelling ≠ [] := by
  -- Markup has at least its brackets, and a text is not empty.
  cases spells with
  | declaration declares =>
    obtain ⟨_, _, _, _, -, -, -, -, rfl⟩ := declares
    simp
  | doctype types =>
    obtain ⟨_, rfl, -⟩ := types.exists_dropDoctype?
    simp
  | comment | instruction => simp [Aside.write]
  | start opens =>
    obtain ⟨_, _, -, -, -, rfl⟩ := opens
    exact List.cons_ne_nil _ _
  | finish closes =>
    obtain ⟨_, -, -, rfl⟩ := closes
    exact List.cons_ne_nil _ _
  | text present => exact present
  | verbatim => simp

/-- Behind the last character there is no token. -/
theorem lexFrom?_nil (fuel : Nat) : lexFrom? fuel [] = some [] := by
  cases fuel <;> rfl

/-- A text is split into tokens if it spells them, with fuel for each of its characters. -/
theorem Spelled.lexFrom? {tokens : List Token} {chars : List Char} (spelled : Spelled tokens chars)
    {fuel : Nat} (enough : chars.length ≤ fuel) : lexFrom? fuel chars = some tokens := by
  -- Each token takes at least one character, so the length of the text is fuel enough.
  induction spelled generalizing fuel with
  | nil => exact lexFrom?_nil fuel
  | @cons token tokens spelling chars spells stops _ ih =>
    have read := spells.lexToken? stops
    obtain ⟨first, others, rfl⟩ := List.exists_cons_of_ne_nil spells.ne_nil
    obtain ⟨fuel, rfl⟩ : ∃ less, fuel = less + 1 := ⟨fuel - 1, by simp at enough; omega⟩
    have rest_read := @ih fuel (by simp at enough; omega)
    rw [List.cons_append] at read ⊢
    simp [Xml.lexFrom?, read, rest_read]

/-- What a text is split into is spelled by it, with whatever fuel. -/
theorem spelled_of_lexFrom? {fuel : Nat} {chars : List Char} {tokens : List Token}
    (lexed : lexFrom? fuel chars = some tokens) : Spelled tokens chars := by
  -- The induction is on the scanner; with no fuel left it gives up, and then there is no token.
  fun_induction Xml.lexFrom? fuel chars generalizing tokens with
  | case1 =>
    cases lexed
    exact .nil
  | case2 => cases lexed
  | case3 fuel chars present ih =>
    simp only [Option.bind_eq_bind, Option.bind_eq_some_iff] at lexed
    obtain ⟨⟨token, rest⟩, read, others, more, made⟩ := lexed
    cases made
    obtain ⟨spelling, spells, rfl, stops⟩ := exists_spellsToken (by simpa using present) read
    exact .cons spells stops (ih _ more)

/-- A text is split into the tokens that it spells. -/
theorem lex?_eq_some_iff {chars : List Char} {tokens : List Token} :
    lex? chars = some tokens ↔ Spelled tokens chars :=
  ⟨spelled_of_lexFrom?, fun spelled => spelled.lexFrom? (Nat.le_refl _)⟩

end RuleMetadata.Xml

import RuleMetadata.Proofs.Xml.Layout

/-! A document that is cut off is not well-formed: a cut inside of a tag leaves what is no token,
and any other one leaves the root element open or missing. -/

namespace RuleMetadata.Xml

/-! ### Markup without its end -/

/-- Every kind of markup has a closing bracket at its end. -/
theorem SpellsToken.mem_of_isText_eq_false {token : Token} {spelling : List Char}
    (spells : SpellsToken token spelling) (tag : token.isText = false) : '>' ∈ spelling := by
  -- The bracket stands in the last part of each spelling.
  cases spells with
  | declaration declares =>
    obtain ⟨_, _, _, _, -, -, -, -, rfl⟩ := declares
    simp
  | doctype types =>
    obtain ⟨_, _, _, _, _, -, -, -, -, -, -, rfl⟩ := types
    simp
  | comment | instruction => simp [Aside.write]
  | @start _ _ closed _ opens =>
    obtain ⟨_, _, -, -, -, rfl⟩ := opens
    cases closed <;> simp [tagEnd]
  | finish closes =>
    obtain ⟨_, -, -, rfl⟩ := closes
    simp
  | text => cases tag
  | verbatim => simp

/-- Markup without a closing bracket is no row of tokens. -/
theorem not_spelled_unclosed {rest : List Char} (absent : '>' ∉ rest) (tokens : List Token) :
    ¬ Spelled tokens ('<' :: rest) := by
  intro spelled
  generalize whole : '<' :: rest = chars at spelled
  cases spelled with
  | nil => cases whole
  | @cons token _ spelling behind spells _ _ =>
    cases text : token.isText with
    | false =>
      -- The closing bracket of the first token would be one of the rest.
      have closes := List.mem_append_left behind (spells.mem_of_isText_eq_false text)
      rw [← whole] at closes
      exact absent ((List.mem_cons.1 closes).resolve_left (by decide))
    | true =>
      -- A text does not begin with a bracket.
      cases spells with
      | text present open_free =>
        obtain ⟨first, others, rfl⟩ := List.exists_cons_of_ne_nil present
        obtain ⟨rfl, -⟩ := List.cons.inj whole
        exact open_free List.mem_cons_self
      | _ => cases text

/-! ### Rows of tokens that are cut off -/

/-- The tokens of a row but for its texts. -/
def markup (tokens : List Token) : List Token :=
  tokens.filter (!·.isText)

/-- Whether a token can stand in a document as it is written: the declaration, a simple tag, or a
text without brackets. -/
def Token.IsPlain : Token → Prop
  | .declaration => True
  | .start name attributes _ => isSimpleTag name attributes
  | .finish name => name.isSimple
  | .text spelling => '<' ∉ spelling
  -- The writer makes none of the others.
  | _ => False

/-- No bracket stands in a simple name. -/
theorem not_mem_write {name : Name} (simple : name.isSimple) : '>' ∉ name.write := fun inside =>
  absurd (isMark_eq_false_of_isNameChar (Name.isNameChar_of_isSimple simple _ inside)) (by decide)

/-- No bracket stands in the attributes of a simple tag. -/
theorem not_mem_writeAttributes {attributes : Attributes}
    (simple : ∀ entry ∈ attributes, entry.1.isSimple) : '>' ∉ writeAttributes attributes := by
  -- A bracket in a value is escaped, and in a name it is not simple.
  simp only [writeAttributes, List.mem_flatMap, not_exists, not_and]
  rintro ⟨name, value⟩ inside
  have named := not_mem_write (simple _ inside)
  have escaped : '>' ∉ escapeValue value := not_mem_escapeValue (by simp) value
  simp [named, escaped]

/-- A plain token that is no text begins with a bracket, ends with the only closing one, and is
spelled as it is written. -/
theorem Token.IsPlain.exists_write {token : Token} (plain : token.IsPlain)
    (tag : token.isText = false) :
    ∃ inside, token.write = '<' :: (inside ++ ['>']) ∧ '>' ∉ inside ∧
      SpellsToken token token.write := by
  -- Only a declaration and tags are plain besides texts.
  cases token with
  | declaration =>
    exact ⟨"?xml version='1.0'?".toList, by decide, by decide,
      .declaration spellsDeclaration_write⟩
  | start name attributes closed =>
    have spelled := spellsStart_write plain closed
    simp only [IsPlain, isSimpleTag, Bool.and_eq_true, List.all_eq_true] at plain
    have absent : '>' ∉ name.write ++ writeAttributes attributes := by
      simp [not_mem_write plain.1.1, not_mem_writeAttributes plain.1.2]
    refine ⟨name.write ++ writeAttributes attributes ++ if closed then ['/'] else [], ?_, ?_,
      .start spelled⟩
    · cases closed <;> simp [write_start, tagEnd]
    · cases closed <;> simpa using absent
  | finish name =>
    exact ⟨'/' :: name.write, by simp [write_finish], by simp [not_mem_write plain],
      .finish (spellsFinish_write (Name.isSpellable_of_isSimple plain))⟩
  | text => cases tag
  | _ => cases plain

/-- A text that is cut off at a tag ends in front of it, inside of it, or behind it. -/
theorem cut_cases {content rest cut : List Char}
    (begins : cut <+: '<' :: (content ++ ['>']) ++ rest) :
    cut = [] ∨ (∃ tail, cut = '<' :: tail ∧ tail <+: content) ∨
      ∃ more, cut = '<' :: (content ++ ['>']) ++ more ∧ more <+: rest := by
  -- The beginning is compared with the inside of the tag, and then with its last bracket.
  rw [List.cons_append] at begins
  obtain rfl | ⟨tail, rfl, within⟩ := List.prefix_cons_iff.1 begins
  · exact .inl rfl
  · rw [List.append_assoc] at within
    rcases List.prefix_or_prefix_of_prefix within (List.prefix_append content _) with
      inside | ⟨behind, rfl⟩
    · exact .inr (.inl ⟨tail, rfl, inside⟩)
    · rw [List.prefix_append_right_inj] at within
      obtain rfl | ⟨more, rfl, further⟩ := List.prefix_cons_iff.1 within
      · exact .inr (.inl ⟨_, rfl, by simp⟩)
      · exact .inr (.inr ⟨more, by simp, further⟩)

/-- A first token is followed by the tokens of what follows it. -/
theorem exists_spelled_cons {token : Token} {spelling rest : List Char} {read : List Token}
    (spells : SpellsToken token spelling) (stops : token.isText → StopsText rest)
    (spelled : Spelled read (spelling ++ rest)) :
    ∃ others, Spelled others rest ∧ read = token :: others := by
  -- There is only one first token, and only one text behind it.
  have first := spells.lexToken? stops
  generalize whole : spelling ++ rest = chars at spelled first
  cases spelled with
  | nil => exact absurd (List.append_eq_nil_iff.1 whole).1 spells.ne_nil
  | cons others_spells others_stops others =>
    cases first.symm.trans (others_spells.lexToken? others_stops)
    exact ⟨_, others, rfl⟩

/-- A text in front of markup adds nothing but a text to its tokens. -/
theorem exists_spelled_behind {front chars : List Char} {read : List Token} (absent : '<' ∉ front)
    (stops : StopsText chars) (spelled : Spelled read (front ++ chars)) :
    ∃ others, Spelled others chars ∧ markup read = markup others := by
  -- An empty text is no token, and any other one is the first token.
  by_cases empty : front = []
  · subst empty
    exact ⟨read, spelled, rfl⟩
  · obtain ⟨others, others_spelled, rfl⟩ :=
      exists_spelled_cons (.text empty absent) (fun _ => stops) spelled
    exact ⟨others, others_spelled, rfl⟩

/-- A text without brackets holds no markup. -/
theorem markup_eq_nil_of_spelled {front : List Char} {read : List Token} (absent : '<' ∉ front)
    (spelled : Spelled read front) : markup read = [] := by
  rw [← List.append_nil front] at spelled
  obtain ⟨others, others_spelled, same⟩ := exists_spelled_behind absent stopsText_nil spelled
  -- Behind the last character there is no token.
  have none_left := (lex?_eq_some_iff.2 others_spelled).symm.trans (lex?_eq_some_iff.2 .nil)
  rw [same, Option.some.inj none_left]
  rfl

/-- The markup in a text that is cut off within or in front of an unclosed tag is the beginning of
the markup that was written. -/
theorem markup_prefix_of_spelled {tokens : List Token} (plain : ∀ token ∈ tokens, token.IsPlain)
    {inside : List Char} (unclosed : '>' ∉ inside) {front cut : List Char} (absent : '<' ∉ front)
    (begins : cut <+: writeTokens tokens ++ '<' :: inside) {read : List Token}
    (spelled : Spelled read (front ++ cut)) : markup read <+: markup tokens := by
  -- Texts are gathered in front of the cut, since those in a row are read as one.
  induction tokens generalizing front cut read with
  | nil =>
    obtain rfl | ⟨tail, rfl, within⟩ := List.prefix_cons_iff.1 begins
    · rw [List.append_nil] at spelled
      rw [markup_eq_nil_of_spelled absent spelled]
      exact List.nil_prefix
    · obtain ⟨others, more, _⟩ := exists_spelled_behind absent (stopsText_bracket tail) spelled
      exact absurd more (not_spelled_unclosed (fun closes => unclosed (within.subset closes)) _)
  | cons token tokens ih =>
    obtain ⟨token_plain, tokens_plain⟩ := List.forall_mem_cons.1 plain
    rw [writeTokens, List.flatMap_cons, List.append_assoc] at begins
    cases text : token.isText with
    | true =>
      have no_bracket : '<' ∉ token.write := by
        cases token with
        | text spelling => exact token_plain
        | _ => cases text
      -- The cut is inside of the text, which is all that is read then, or behind it.
      have same : markup (token :: tokens) = markup tokens := by simp [markup, text]
      rw [same]
      rcases List.prefix_or_prefix_of_prefix begins (List.prefix_append token.write _) with
        within | ⟨more, rfl⟩
      · have gathered : Spelled read (front ++ cut ++ []) := by
          rwa [List.append_nil]
        have still_absent : '<' ∉ front ++ cut :=
          List.not_mem_append absent fun bracket => no_bracket (within.subset bracket)
        exact ih tokens_plain still_absent List.nil_prefix gathered
      · rw [List.prefix_append_right_inj] at begins
        rw [← List.append_assoc] at spelled
        exact ih tokens_plain (List.not_mem_append absent no_bracket) begins spelled
    | false =>
      -- A cut inside of the tag leaves no token there, so that nothing would be read at all.
      obtain ⟨content, written, open_content, spells⟩ := token_plain.exists_write text
      have kept : markup (token :: tokens) = token :: markup tokens := by simp [markup, text]
      rw [kept]
      rw [written] at begins spells
      rcases cut_cases begins with rfl | ⟨tail, rfl, within⟩ | ⟨more, rfl, further⟩
      · rw [List.append_nil] at spelled
        rw [markup_eq_nil_of_spelled absent spelled]
        exact List.nil_prefix
      · obtain ⟨others, unread, _⟩ :=
          exists_spelled_behind absent (stopsText_bracket tail) spelled
        exact absurd unread
          (not_spelled_unclosed (fun closes => open_content (within.subset closes)) _)
      · obtain ⟨others, behind, same⟩ := exists_spelled_behind absent (stopsText_bracket _) spelled
        obtain ⟨rest, rest_spelled, rfl⟩ :=
          exists_spelled_cons spells (fun is_text => by simp [text] at is_text) behind
        have first : markup (token :: rest) = token :: markup rest := by simp [markup, text]
        rw [same, first, List.prefix_cons_inj]
        exact ih tokens_plain List.not_mem_nil further rest_spelled

/-! ### Open elements -/

/-- Whether a token opens an element that is closed later. -/
def Token.isOpening : Token → Bool
  | .start _ _ closed => !closed
  | _ => false

/-- Whether a token closes an element. -/
def Token.isClosing : Token → Bool
  | .finish _ => true
  | _ => false

/-- Whether a token begins an element, which may close itself. -/
def Token.isStart : Token → Bool
  | .start .. => true
  | _ => false

/-- The number of elements that are opened in a row of tokens. -/
def openings (tokens : List Token) : Nat :=
  tokens.countP Token.isOpening

/-- The number of elements that are closed in a row of tokens. -/
def closings (tokens : List Token) : Nat :=
  tokens.countP Token.isClosing

/-- The first token counts if it opens an element. -/
@[simp] theorem openings_cons (token : Token) (tokens : List Token) :
    openings (token :: tokens) = openings tokens + if token.isOpening then 1 else 0 :=
  List.countP_cons

/-- The first token counts if it closes an element. -/
@[simp] theorem closings_cons (token : Token) (tokens : List Token) :
    closings (token :: tokens) = closings tokens + if token.isClosing then 1 else 0 :=
  List.countP_cons

/-- Behind the root element, nothing is opened or closed. -/
theorem counts_of_isEpilogue {tokens : List Token} (epilogue : isEpilogue tokens) :
    openings tokens = 0 ∧ closings tokens = 0 := by
  -- The induction is on the tokens; comments, instructions and blanks count for neither.
  induction tokens with
  | nil => exact ⟨rfl, rfl⟩
  | cons token rest ih =>
    cases token <;> simp_all [isEpilogue, Token.isOpening, Token.isClosing]

/-- Inside of open elements, a document that is read to its end closes these and all that it
opens. -/
theorem closings_of_parseContent? {frame : Frame} {outer : List Frame} {tokens : List Token}
    {root : Tree} (read : parseContent? frame outer tokens = some root) :
    closings tokens = openings tokens + outer.length + 1 := by
  fun_induction parseContent? frame outer tokens with
  | case1 | case4 | case5 | case8 | case12 | case14 | case15 | case16 => cases read
  | case2 | case3 | case6 | case7 | case9 =>
    -- The open elements stay the same.
    rename_i ih
    simpa [Token.isOpening, Token.isClosing] using ih read
  | case10 =>
    -- One more element is open.
    rename_i stays ih
    have behind := ih read
    simp only [List.length_cons] at behind
    simp [Token.isOpening, Token.isClosing, stays]
    omega
  | case11 =>
    -- The root is closed, and nothing is behind it.
    rename_i epilogue
    obtain ⟨opened, closed⟩ := counts_of_isEpilogue epilogue
    simp [Token.isOpening, Token.isClosing, opened, closed]
  | case13 =>
    -- One element less is open.
    rename_i ih
    have behind := ih read
    simp [Token.isOpening, Token.isClosing]
    omega

/-- In front of the root element, a document that is read to its end has a root element to come, and
closes all that it opens. -/
theorem counts_of_parseProlog? {first : Bool} {tokens : List Token} {root : Tree}
    (read : parseProlog? first tokens = some root) :
    closings tokens = openings tokens ∧ tokens.any Token.isStart := by
  fun_induction parseProlog? first tokens with
  | case4 | case5 | case7 | case9 | case11 => cases read
  | case1 | case2 | case3 | case6 =>
    rename_i ih
    simpa [Token.isOpening, Token.isClosing, Token.isStart] using ih read
  | case8 =>
    -- The root closes itself, and nothing is behind it.
    rename_i epilogue
    obtain ⟨opened, closed⟩ := counts_of_isEpilogue epilogue
    simp [Token.isOpening, Token.isClosing, Token.isStart, opened, closed]
  | case10 =>
    rename_i stays
    have behind := closings_of_parseContent? read
    simp [Token.isOpening, Token.isClosing, Token.isStart, stays, behind]

/-- A document closes all that it opens, and has a root element. -/
theorem counts_of_parseTokens? {tokens : List Token} {root : Tree}
    (read : parseTokens? tokens = some root) :
    closings tokens = openings tokens ∧ tokens.any Token.isStart := by
  -- A declaration in front counts for nothing.
  unfold parseTokens? at read
  split at read
  · simpa [Token.isOpening, Token.isClosing, Token.isStart] using counts_of_parseProlog? read
  · exact counts_of_parseProlog? read

/-- Whether a row of tokens opens and closes elements in turn: at no place is one closed that was
not opened, and none is left open. -/
structure IsNested (tokens : List Token) : Prop where
  whole : closings tokens = openings tokens
  front : ∀ front, front <+: tokens → closings front ≤ openings front

namespace IsNested

/-- The empty row is nested. -/
theorem nil : IsNested [] where
  whole := rfl
  -- The only beginning of the empty row is that row.
  front front inside := by
    rw [List.prefix_nil.1 inside]
    exact Nat.le_refl _

/-- Nested rows are nested one behind the other. -/
theorem append {tokens others : List Token} (first : IsNested tokens) (second : IsNested others) :
    IsNested (tokens ++ others) where
  whole := by
    have one := first.whole
    have other := second.whole
    simp only [openings, closings, List.countP_append] at one other ⊢
    omega
  front front inside := by
    -- A beginning ends within the first row, or goes on behind all of it.
    rcases List.prefix_or_prefix_of_prefix inside (List.prefix_append tokens others) with
      within | ⟨more, rfl⟩
    · exact first.front front within
    · have one := first.whole
      have other := second.front more ((List.prefix_append_right_inj tokens).1 inside)
      simp only [openings, closings, List.countP_append] at one other ⊢
      omega

/-- A token that neither opens nor closes an element is nested by itself. -/
theorem single {token : Token} (opens : token.isOpening = false)
    (closes : token.isClosing = false) : IsNested [token] where
  whole := by simp [opens, closes, openings, closings]
  -- A beginning is empty or the whole row, and both count for nothing.
  front front inside := by
    obtain rfl | ⟨tail, rfl, within⟩ := List.prefix_cons_iff.1 inside
    · exact Nat.le_refl _
    · simp [List.prefix_nil.1 within, opens, closes, openings, closings]

/-- A nested row is nested between an opening and a closing tag. -/
theorem element {tokens : List Token} (nested : IsNested tokens) (name : Name)
    (attributes : Attributes) :
    IsNested (.start name attributes false :: tokens ++ [.finish name]) where
  whole := by
    have inner := nested.whole
    simp [openings, closings, List.countP_append, List.countP_cons, Token.isOpening,
      Token.isClosing] at inner ⊢
    omega
  -- A beginning is empty, or the whole row, or cuts what stands between the tags.
  front front inside := by
    rw [List.cons_append] at inside
    obtain rfl | ⟨tail, rfl, within⟩ := List.prefix_cons_iff.1 inside
    · exact Nat.le_refl _
    · obtain rfl | before := List.prefix_concat_iff.1 within
      · have inner := nested.whole
        simp [openings, closings, List.countP_append, List.countP_cons, Token.isOpening,
          Token.isClosing] at inner ⊢
        omega
      · have inner := nested.front tail before
        simp [Token.isOpening, Token.isClosing]
        omega

/-- An element is open behind its opening tag, as long as no more than a nested row follows it. -/
theorem left_open {tokens : List Token} (nested : IsNested tokens) (name : Name)
    (attributes : Attributes) (before : List Token)
    (begins : before <+: .start name attributes false :: tokens)
    (started : before.any Token.isStart) : closings before < openings before := by
  -- The first tag has opened the element, and what follows it closes only what it opens.
  obtain rfl | ⟨behind, rfl, within⟩ := List.prefix_cons_iff.1 begins
  · cases started
  · have inner := nested.front behind within
    simp [Token.isOpening, Token.isClosing]
    omega

end IsNested

/-- The tokens of nodes in a row are those of each one. -/
theorem nodesTokens_eq (nodes : List Node) : nodesTokens nodes = nodes.flatMap Node.tokens := by
  -- The tokens of the first node stand in front of those of the others.
  induction nodes with
  | nil => rfl
  | cons node rest ih => rw [nodesTokens, ih, List.flatMap_cons]

/-- Nodes whose tokens are nested have nested tokens in a row. -/
theorem isNested_nodesTokens {nodes : List Node} (each : ∀ node ∈ nodes, IsNested node.tokens) :
    IsNested (nodesTokens nodes) := by
  -- The induction is on the nodes, nested rows of which stand one behind the other.
  induction nodes with
  | nil => exact .nil
  | cons node rest ih =>
    obtain ⟨first, others⟩ := List.forall_mem_cons.1 each
    exact first.append (ih others)

/-- The name of a simple tag is simple. -/
theorem isSimple_of_isSimpleTag {name : Name} {attributes : Attributes}
    (simple : isSimpleTag name attributes) : name.isSimple := by
  -- The name is the first thing that is asked of a tag.
  simp only [isSimpleTag, Bool.and_eq_true] at simple
  exact simple.1.1

/-- The tokens of a record are plain. -/
theorem Node.IsRecord.tokens_plain {node : Node} (record : node.IsRecord) :
    ∀ token ∈ node.tokens, token.IsPlain := by
  -- The induction is on the record; a leaf has one text, and escapes leave no bracket in it.
  induction record with
  | @leaf name attributes value simple =>
    have text : nodesTokens [.text value] = [.text (escapeText value)] := by
      simp [nodesTokens, tokens]
    rw [tokens_element (List.cons_ne_nil _ _), text]
    simp [Token.IsPlain, simple, isSimple_of_isSimpleTag simple, not_mem_escapeText]
  | @branch name attributes children simple _ ih =>
    by_cases present : children = []
    · rw [present, tokens_empty]
      simpa [Token.IsPlain] using simple
    · rw [tokens_element present, nodesTokens_eq]
      simp only [List.mem_cons, List.mem_append, List.mem_flatMap, List.not_mem_nil, or_false]
      rintro token ((rfl | ⟨child, inside, below⟩) | rfl)
      · exact simple
      · exact ih child inside token below
      · exact isSimple_of_isSimpleTag simple

/-- The tokens of a record are nested. -/
theorem Node.IsRecord.tokens_nested {node : Node} (record : node.IsRecord) :
    IsNested node.tokens := by
  -- The induction is on the record; an element without children is one tag.
  induction record with
  | @leaf name attributes value =>
    have text : nodesTokens [.text value] = [.text (escapeText value)] := by
      simp [nodesTokens, tokens]
    rw [tokens_element (List.cons_ne_nil _ _), text]
    exact (IsNested.single rfl rfl).element name attributes
  | @branch name attributes children _ _ ih =>
    by_cases present : children = []
    · rw [present, tokens_empty]
      exact .single rfl rfl
    · rw [tokens_element present]
      exact (isNested_nodesTokens ih).element name attributes

/-! ### Documents that are cut off -/

/-- A record ends with a tag, in front of which its element is still open, if it is begun at all. -/
theorem Node.IsRecord.exists_tokens_split {node : Node} (record : node.IsRecord) :
    ∃ front last, node.tokens = front ++ [last] ∧ last.isText = false ∧ ∀ before,
      before <+: front → before.any Token.isStart → closings before < openings before := by
  -- The last tag closes the element, unless it is the only one.
  cases record with
  | @leaf name attributes value =>
    have text : nodesTokens [.text value] = [.text (escapeText value)] := by
      simp [nodesTokens, tokens]
    rw [tokens_element (List.cons_ne_nil _ _), text]
    exact ⟨_, _, rfl, rfl, (IsNested.single rfl rfl).left_open name attributes⟩
  | @branch name attributes children simple records =>
    by_cases present : children = []
    · rw [present, tokens_empty]
      refine ⟨[], _, rfl, rfl, fun before begins started => ?_⟩
      rw [List.prefix_nil.1 begins] at started
      cases started
    · rw [tokens_element present]
      have nested := isNested_nodesTokens fun child inside => (records child inside).tokens_nested
      exact ⟨_, _, rfl, rfl, nested.left_open name attributes⟩

/-- Texts open no elements. -/
theorem openings_markup (tokens : List Token) : openings (markup tokens) = openings tokens := by
  -- A text is left out, and counts for nothing.
  induction tokens with
  | nil => rfl
  | cons token rest ih =>
    cases token <;> simp_all [markup, Token.isText, Token.isOpening]

/-- Texts close no elements. -/
theorem closings_markup (tokens : List Token) : closings (markup tokens) = closings tokens := by
  -- A text is left out, and counts for nothing.
  induction tokens with
  | nil => rfl
  | cons token rest ih =>
    cases token <;> simp_all [markup, Token.isText, Token.isClosing]

/-- Texts begin no elements. -/
theorem any_isStart_markup (tokens : List Token) :
    (markup tokens).any Token.isStart = tokens.any Token.isStart := by
  -- A text is left out, and is no tag.
  induction tokens with
  | nil => rfl
  | cons token rest ih =>
    cases token <;> simp_all [markup, Token.isText, Token.isStart]

/-- The document of a record that is cut off anywhere is not well-formed. -/
theorem parse?_eq_none_of_cut {root : Tree} (record : root.toNode.IsRecord) {cut : List Char}
    (begins : cut <+: writeDocument root) (short : cut ≠ writeDocument root) :
    parse? cut = none := by
  rw [Option.eq_none_iff_forall_ne_some]
  intro tree parsed
  simp only [parse?, Option.bind_eq_bind, Option.bind_eq_some_iff] at parsed
  obtain ⟨read, lexed, parsed⟩ := parsed
  obtain ⟨front, last, split, tag, left_open⟩ := record.exists_tokens_split
  have plain : ∀ token ∈ front ++ [last], token.IsPlain := split ▸ record.tokens_plain
  simp only [List.forall_mem_append, List.forall_mem_singleton] at plain
  obtain ⟨content, written, unclosed, _⟩ := plain.2.exists_write tag
  -- At least the bracket that closes the last tag is missing.
  have whole : writeDocument root =
      (writeTokens (.declaration :: front) ++ '<' :: content) ++ ['>'] := by
    simp [writeDocument, split, writeTokens, written]
  rw [whole] at begins short
  have within := (List.prefix_concat_iff.1 begins).resolve_left short
  have front_plain : ∀ token ∈ Token.declaration :: front, token.IsPlain :=
    List.forall_mem_cons.2 ⟨trivial, plain.1⟩
  obtain ⟨before, earlier, same⟩ : ∃ before, before <+: Token.declaration :: front ∧
      markup read = markup before :=
    List.prefix_filter_iff.1
      (markup_prefix_of_spelled front_plain unclosed List.not_mem_nil within
        (lex?_eq_some_iff.1 lexed))
  -- What was accepted closes all that it opens, but no beginning of the document does.
  obtain ⟨balanced, started⟩ := counts_of_parseTokens? parsed
  rw [← openings_markup read, ← closings_markup read, same, openings_markup,
    closings_markup] at balanced
  rw [← any_isStart_markup read, same, any_isStart_markup] at started
  obtain rfl | ⟨behind, rfl, further⟩ := List.prefix_cons_iff.1 earlier
  · cases started
  · have opened := left_open behind further (by simpa [Token.isStart] using started)
    simp [Token.isOpening, Token.isClosing] at balanced
    omega

end RuleMetadata.Xml

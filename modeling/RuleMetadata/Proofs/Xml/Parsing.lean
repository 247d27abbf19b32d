import RuleMetadata.Proofs.Xml.Tokenization

/-! The texts that are parsed are the documents of the grammar, and what they are parsed as is the
root element of the document. -/

namespace RuleMetadata.Xml

/-! ### Tags -/

/-- Names are distinct if none is there twice. -/
theorem distinctNames_iff {names : List Name} : distinctNames names ↔ names.Nodup := by
  -- In front of distinct names, a name must not be among them.
  induction names with
  | nil => simp [distinctNames]
  | cons name rest ih => simp [distinctNames, ih]

/-- A tag opens a frame if it obeys the rules of namespaces. The frame has no children yet. -/
theorem openFrame?_eq_some_iff {spaces : List String} {name : Name} {attributes : Attributes}
    {frame : Frame} : openFrame? spaces name attributes = some frame ↔
      IsBoundTag spaces name attributes ∧
        frame = ⟨name, properAttributes attributes, innerSpaces spaces attributes, []⟩ := by
  -- A name without a namespace is bound anywhere, and any other one by those that are known.
  have bound_iff (known : List String) (name : Name) : name.isBound known ↔
      ∀ space, name.space = some space → space ∈ known := by
    cases named : name.space <;> simp [Name.isBound, named]
  have checks_iff : (distinctNames (attributes.map (·.1)) &&
      name.isBound (declaredSpaces attributes ++ spaces) &&
      (properAttributes attributes).all (·.1.isBound (innerSpaces spaces attributes)) &&
      decide ((attributes.filter (·.1.declaresDefault)).length ≤ 1) &&
      attributes.all (fun entry => entry.1.space != some "xmlns" || !entry.2.isEmpty)) = true ↔
        IsBoundTag spaces name attributes := by
    simp only [Bool.and_eq_true, List.all_eq_true, distinctNames_iff, bound_iff, decide_eq_true_eq,
      Bool.or_eq_true, bne_iff_ne, Bool.not_eq_true', List.isEmpty_eq_false_iff]
    constructor
    · rintro ⟨⟨⟨⟨distinct, known⟩, attributesKnown⟩, default⟩, present⟩
      exact ⟨distinct, known, attributesKnown, default, fun entry inside named =>
        (present entry inside).resolve_left fun other => other named⟩
    · rintro ⟨distinct, known, attributesKnown, default, present⟩
      exact ⟨⟨⟨⟨distinct, known⟩, attributesKnown⟩, default⟩, fun entry inside =>
        or_iff_not_imp_left.2 fun named => present entry inside (not_not.1 named)⟩
  simp only [openFrame?]
  split
  · rename_i passed
    exact ⟨fun opened => ⟨checks_iff.1 passed, (Option.some.inj opened).symm⟩, fun opened => by
      rw [opened.2]
      rfl⟩
  · rename_i failed
    exact ⟨fun opened => (Option.some_ne_none _ opened.symm).elim, fun opened =>
      absurd (checks_iff.2 opened.1) failed⟩

/-! ### Filler -/

/-- Whether a token can stand between two tags of a document. -/
def Token.isFiller : Token → Bool
  | .comment => true
  | .instruction => true
  -- A text of blanks can stand there, another one cannot.
  | .text spelling => spelling.all isSpace
  | _ => false

/-- Whether characters are read as a row of tokens, in front of markup or of nothing. -/
def Spells (tokens : List Token) (chars : List Char) : Prop :=
  ∀ rest behind, StopsText behind → Spelled rest behind → Spelled (tokens ++ rest) (chars ++ behind)

/-- Text stops in front of two texts in a row if it stops in front of both. -/
theorem StopsText.append {front rest : List Char} (stops : StopsText front)
    (behind : StopsText rest) : StopsText (front ++ rest) := by
  -- Only the first character decides, and it is that of the first text unless this is empty.
  cases front with
  | nil => exact behind
  | cons char others => exact fun first begins => stops first begins

/-- A token is read in front of others. Behind a text there must be markup, or nothing. -/
theorem Spells.cons {token : Token} {tokens : List Token} {spelling chars : List Char}
    (others : Spells tokens chars) (first : SpellsToken token spelling)
    (stops : token.isText → StopsText chars) : Spells (token :: tokens) (spelling ++ chars) := by
  -- A text can only end where all that follows it begins with markup.
  intro rest behind behind_stops spelled
  rw [List.append_assoc]
  exact .cons first (fun text => (stops text).append behind_stops)
    (others rest behind behind_stops spelled)

/-- Tokens are read in front of others that begin with markup, if there are any. -/
theorem Spells.append {tokens others : List Token} {chars more : List Char}
    (front : Spells tokens chars) (back : Spells others more) (stops : StopsText more) :
    Spells (tokens ++ others) (chars ++ more) := by
  intro rest behind behind_stops spelled
  simp only [List.append_assoc]
  exact front _ _ (stops.append behind_stops) (back rest behind behind_stops spelled)

/-- Blanks in front of markup are read as a text, or as nothing if there are none. -/
theorem exists_spells_blanks {blanks : List Char} (blank : blanks.all isSpace) :
    ∃ tokens : List Token, tokens.all Token.isFiller ∧ Spells tokens blanks := by
  -- A text is never empty, so no blanks are no token.
  by_cases empty : blanks = []
  · exact ⟨[], rfl, fun rest behind _ spelled => by simpa [empty] using spelled⟩
  · have absent : '<' ∉ blanks := fun inside =>
      absurd (List.all_eq_true.1 blank _ inside) (by decide)
    exact ⟨[.text blanks], by simpa [Token.isFiller] using blank, fun rest behind stops spelled =>
      .cons (.text empty absent) (fun _ => stops) spelled⟩

/-- Text stops in front of a comment or an instruction. -/
theorem Aside.stopsText_write (aside : Aside) (rest : List Char) :
    StopsText (aside.write ++ rest) := by
  cases aside <;> exact stopsText_bracket _

/-- Comments and instructions are no text. -/
theorem Aside.isText_token (aside : Aside) : aside.token.isText = false := by
  cases aside <;> rfl

/-- Comments and instructions can stand between two tags. -/
theorem Aside.isFiller_token (aside : Aside) : aside.token.isFiller := by
  cases aside <;> rfl

/-- Filler in front of markup is read as tokens that can stand there. -/
theorem IsFiller.exists_spells {chars : List Char} (filler : IsFiller chars) :
    ∃ tokens : List Token, tokens.all Token.isFiller ∧ Spells tokens chars := by
  -- Blanks that follow one another are one text, so those in front are gathered on the way.
  have general : ∀ blanks : List Char, blanks.all isSpace → ∃ tokens : List Token,
      tokens.all Token.isFiller ∧ Spells tokens (blanks ++ chars) := by
    induction filler with
    | nil =>
      intro blanks blank
      rw [List.append_nil]
      exact exists_spells_blanks blank
    | @blank char chars space _ ih =>
      intro blanks blank
      obtain ⟨tokens, fills, spelled⟩ := ih (blanks ++ [char]) (by simp_all)
      exact ⟨tokens, fills, by simpa using spelled⟩
    | @aside aside chars proper _ ih =>
      intro blanks blank
      obtain ⟨front, front_fills, front_spelled⟩ := exists_spells_blanks blank
      obtain ⟨tokens, fills, spelled⟩ := ih [] rfl
      have behind := spelled.cons (.aside proper) (by simp [aside.isText_token])
      exact ⟨front ++ aside.token :: tokens, by simp_all [aside.isFiller_token],
        front_spelled.append behind (aside.stopsText_write _)⟩
  exact general [] rfl

/-- Filler stands behind filler. -/
theorem IsFiller.append {front rest : List Char} (filler : IsFiller front)
    (more : IsFiller rest) : IsFiller (front ++ rest) := by
  -- The induction is on what stands in front, whose parts go on in front of the rest.
  induction filler with
  | nil => exact more
  | blank space _ ih => exact .blank space ih
  | aside proper _ ih =>
    rw [List.append_assoc]
    exact .aside proper ih

/-- In front of the root element, filler makes no difference. -/
theorem parseProlog?_filler {tokens : List Token} (fills : tokens.all Token.isFiller)
    (rest : List Token) : parseProlog? false (tokens ++ rest) = parseProlog? false rest := by
  -- The induction is on the filler, each token of which is passed over.
  induction tokens with
  | nil => rfl
  | cons token others ih =>
    rw [List.all_cons, Bool.and_eq_true] at fills
    cases token with
    | comment | instruction => exact ih fills.2
    | text spelling =>
      have blank : spelling.all isSpace := fills.1
      rw [List.cons_append, parseProlog?, if_pos blank, ih fills.2]
    | _ => cases fills.1

/-- Behind the root element, there is filler and nothing else. -/
theorem isEpilogue_eq_all (tokens : List Token) :
    isEpilogue tokens = tokens.all Token.isFiller := by
  -- What may stand behind the root element is defined by the same kinds of tokens.
  induction tokens with
  | nil => rfl
  | cons token others ih =>
    cases token <;> simp [isEpilogue, Token.isFiller, ih]

/-- What is read as a comment or as an instruction is one. -/
theorem SpellsToken.exists_aside {token : Token} {spelling : List Char}
    (spells : SpellsToken token spelling) (marked : token = .comment ∨ token = .instruction) :
    ∃ aside : Aside, aside.IsProper ∧ spelling = aside.write := by
  -- Only comments and instructions are spelled as asides.
  cases spells with
  | comment proper | instruction proper => exact ⟨_, proper, rfl⟩
  | _ => simp at marked

/-- What is read as filler is filler. -/
theorem isFiller_of_spelled {tokens : List Token} {chars : List Char}
    (spelled : Spelled tokens chars) (fills : tokens.all Token.isFiller) : IsFiller chars := by
  -- The induction is on the tokens; blanks in a text are filler one by one.
  induction spelled with
  | nil => exact .nil
  | @cons token tokens spelling chars spells _ _ ih =>
    rw [List.all_cons, Bool.and_eq_true] at fills
    have behind := ih fills.2
    cases spells with
    | comment proper | instruction proper => exact .aside proper behind
    | text _ _ => exact (isFiller_blanks fills.1).append behind
    | _ => cases fills.1

/-! ### Contents that are read -/

/-- A frame with more children behind those that it has. -/
def Frame.addAll (frame : Frame) (nodes : List Node) : Frame :=
  { frame with children := nodes.reverse ++ frame.children }

/-- Children are added to a frame behind those that were added before. -/
theorem Frame.addAll_append (frame : Frame) (nodes more : List Node) :
    frame.addAll (nodes ++ more) = (frame.addAll nodes).addAll more := by
  simp [Frame.addAll]

/-- The element of a frame that held no children holds those that are added to it. -/
theorem Frame.toNode_close_addAll (name : Name) (attributes : Attributes) (spaces : List String)
    (children : List Node) : (Frame.addAll ⟨name, attributes, spaces, []⟩ children).close.toNode =
      .element name attributes children := by
  simp [addAll, close, Tree.toNode]

/-- Whether tokens inside of an element where some namespaces are known are read as children of
it. -/
def ReadsIn (spaces : List String) (tokens : List Token) (nodes : List Node) : Prop :=
  ∀ frame outer rest, frame.spaces = spaces → parseContent? frame outer (tokens ++ rest) =
    parseContent? (frame.addAll nodes) outer rest

/-- Text stops in front of an opening tag. -/
theorem SpellsStart.stopsText {name : Name} {attributes : Attributes} {closed : Bool}
    {chars : List Char} (spells : SpellsStart name attributes closed chars) (rest : List Char) :
    StopsText (chars ++ rest) := by
  -- The tag begins with a bracket.
  obtain ⟨inside, blanks, -, -, -, rfl⟩ := spells
  exact stopsText_bracket _

/-- Text stops in front of a closing tag. -/
theorem SpellsFinish.stopsText {name : Name} {chars : List Char} (spells : SpellsFinish name chars)
    (rest : List Char) : StopsText (chars ++ rest) := by
  -- The tag begins with a bracket.
  obtain ⟨blanks, -, -, rfl⟩ := spells
  exact stopsText_bracket _

namespace ReadsIn

variable {spaces : List String} {name : Name} {attributes : Attributes}

/-- What is read as some children can stand in front of what is read as others. -/
theorem append {tokens others : List Token} {nodes more : List Node}
    (front : ReadsIn spaces tokens nodes) (back : ReadsIn spaces others more) :
    ReadsIn spaces (tokens ++ others) (nodes ++ more) := by
  intro frame outer rest known
  -- The frame has as many namespaces with the first children as without them.
  rw [List.append_assoc, front frame outer _ known, back (frame.addAll nodes) outer rest known,
    frame.addAll_append]

/-- A text is read as a child with its references resolved. -/
theorem text {spelling value : List Char} (unended : ¬ "]]>".toList <:+: spelling)
    (decoded : SpellsText spelling value) : ReadsIn spaces [.text spelling] [.text value] := by
  intro frame outer rest _
  -- The parser asks for the end of a verbatim section, which the grammar rules out.
  have no_end : hasVerbatimEnd spelling = false := by
    rwa [← Bool.not_eq_true, hasVerbatimEnd_iff]
  rw [List.singleton_append, parseContent?, if_neg (by simp [no_end]), decode_eq_some_iff.2 decoded]
  rfl

/-- A verbatim section is read as a text as it stands. -/
theorem verbatim (value : List Char) : ReadsIn spaces [.verbatim value] [.text value] :=
  fun _ _ _ _ => rfl

/-- A comment or an instruction is passed over. -/
theorem aside (aside : Aside) : ReadsIn spaces [aside.token] [] := by
  intro frame outer rest _
  cases aside <;> rfl

/-- An element that closes itself is read as a child without children. -/
theorem empty (bound : IsBoundTag spaces name attributes) :
    ReadsIn spaces [.start name attributes true]
      [.element name (properAttributes attributes) []] := by
  rintro frame outer rest rfl
  -- The frame is closed as soon as it is opened.
  rw [List.singleton_append, parseContent?, openFrame?_eq_some_iff.2 ⟨bound, rfl⟩]
  rfl

/-- An element is read as a child with the children that are read inside of it. -/
theorem element {inner : List Token} {children : List Node}
    (bound : IsBoundTag spaces name attributes)
    (inside : ReadsIn (innerSpaces spaces attributes) inner children) :
    ReadsIn spaces (.start name attributes false :: (inner ++ [.finish name]))
      [.element name (properAttributes attributes) children] := by
  rintro frame outer rest rfl
  simp only [List.cons_append, List.append_assoc, List.nil_append]
  rw [parseContent?, openFrame?_eq_some_iff.2 ⟨bound, rfl⟩]
  simp only [Bool.false_eq_true, if_false]
  -- The children are read into the new frame, which the closing tag adds to the outer one.
  rw [inside _ _ _ rfl, parseContent?]
  simp [Frame.addAll, Frame.close, Frame.add, Tree.toNode]

end ReadsIn

/-- Content is spelled as tokens that are read as its nodes. -/
theorem IsContent.exists_readsIn {spaces : List String} {nodes : List Node} {chars : List Char}
    (content : IsContent spaces nodes chars) :
    ∃ tokens, Spells tokens chars ∧ ReadsIn spaces tokens nodes := by
  -- The induction is on the content. What it begins with is read in front of what is left of it.
  induction content with
  | nil => exact ⟨[], fun _ _ _ spelled => spelled, fun _ _ _ _ => rfl⟩
  | text present open_free unended decoded stops _ ih =>
    obtain ⟨tokens, spelled, read⟩ := ih
    exact ⟨_, spelled.cons (.text present open_free) fun _ => stops,
      (ReadsIn.text unended decoded).append read⟩
  | @verbatim spaces nodes value rest unended _ ih =>
    obtain ⟨tokens, spelled, read⟩ := ih
    have all := spelled.cons (.verbatim unended) (by simp [Token.isText])
    exact ⟨_, by simpa using all, (ReadsIn.verbatim value).append read⟩
  | @aside spaces nodes aside rest proper _ ih =>
    obtain ⟨tokens, spelled, read⟩ := ih
    exact ⟨_, spelled.cons (.aside proper) (by simp [aside.isText_token]),
      (ReadsIn.aside aside).append read⟩
  | empty opens bound _ ih =>
    obtain ⟨tokens, spelled, read⟩ := ih
    exact ⟨_, spelled.cons (.start opens) (by simp [Token.isText]),
      (ReadsIn.empty bound).append read⟩
  | element opens bound _ closes _ inside_ih rest_ih =>
    obtain ⟨inner, inner_spelled, inner_read⟩ := inside_ih
    obtain ⟨tokens, spelled, read⟩ := rest_ih
    -- The closing tag shows where the last text inside of the element ends.
    have behind := spelled.cons (.finish closes) (by simp [Token.isText])
    have inside := inner_spelled.append behind (closes.stopsText _)
    exact ⟨_, inside.cons (.start opens) (by simp [Token.isText]),
      by simpa using (ReadsIn.element bound inner_read).append read⟩

/-! ### Contents that have been read -/

/-- Whether characters are the rest of a document inside of the open elements: what is left of the
content of the innermost one with its closing tag, and then the rest inside of the next one. Behind
the root there is filler. -/
def IsRest : List Frame → Frame → Tree → List Char → Prop
  | [], frame, root, chars => ∃ nodes inside last back, IsContent frame.spaces nodes inside ∧
      SpellsFinish frame.name last ∧ IsFiller back ∧ root = (frame.addAll nodes).close ∧
        chars = inside ++ (last ++ back)
  -- The innermost element is closed, and becomes the last child of the next one.
  | next :: outer, frame, root, chars => ∃ nodes inside last rest,
      IsContent frame.spaces nodes inside ∧ SpellsFinish frame.name last ∧
        IsRest outer (next.add (frame.addAll nodes).close.toNode) root rest ∧
          chars = inside ++ (last ++ rest)

/-- Something is in front of the rest of a document if it is in front of the content that is left of
the innermost element. The children that it holds come first then. -/
theorem IsRest.prepend {outer : List Frame} {frame : Frame} {added : List Node} {root : Tree}
    {front chars : List Char} (rest : IsRest outer (frame.addAll added) root chars)
    (grows : ∀ nodes inside, inside <+: chars → IsContent frame.spaces nodes inside →
      IsContent frame.spaces (added ++ nodes) (front ++ inside)) :
    IsRest outer frame root (front ++ chars) := by
  -- With no element around, the frame is that of the root, and its end is that of the document.
  cases outer with
  | nil =>
    obtain ⟨nodes, inside, last, back, content, closes, filler, rfl, rfl⟩ := rest
    exact ⟨added ++ nodes, front ++ inside, last, back,
      grows nodes inside (List.prefix_append _ _) content, closes, filler,
      by rw [frame.addAll_append], by simp⟩
  | cons next outer =>
    obtain ⟨nodes, inside, last, behind, content, closes, more, rfl⟩ := rest
    rw [← frame.addAll_append] at more
    exact ⟨added ++ nodes, front ++ inside, last, behind,
      grows nodes inside (List.prefix_append _ _) content, closes, more, by simp⟩

namespace IsRest

variable {outer : List Frame} {frame : Frame} {root : Tree} {name : Name} {attributes : Attributes}
  {tag chars : List Char}

/-- A comment or an instruction can stand in front of the rest of a document. -/
theorem aside (rest : IsRest outer frame root chars) {aside : Aside} (proper : aside.IsProper) :
    IsRest outer frame root (aside.write ++ chars) :=
  @prepend _ _ [] _ _ _ rest fun _ _ _ content => .aside proper content

/-- A text can stand in front of the rest of a document that begins with markup, as the next child
of the innermost element. -/
theorem text {spelling value : List Char} (rest : IsRest outer (frame.add (.text value)) root chars)
    (present : spelling ≠ []) (open_free : '<' ∉ spelling) (unended : ¬ "]]>".toList <:+: spelling)
    (decoded : SpellsText spelling value) (stops : StopsText chars) :
    IsRest outer frame root (spelling ++ chars) := by
  -- What stops a text is what the rest begins with, whatever of it is the content.
  refine @prepend _ _ [.text value] _ _ _ rest fun nodes inside front content => ?_
  obtain ⟨more, rfl⟩ := front
  exact .text present open_free unended decoded stops.of_append content

/-- So can a verbatim section. -/
theorem verbatim {value : List Char} (rest : IsRest outer (frame.add (.text value)) root chars)
    (unended : ¬ "]]>".toList <:+: value) :
    IsRest outer frame root ("<![CDATA[".toList ++ (value ++ "]]>".toList) ++ chars) := by
  refine @prepend _ _ [.text value] _ _ _ rest fun nodes inside _ content => ?_
  simpa using IsContent.verbatim unended content

/-- So can an element that closes itself. -/
theorem empty (rest : IsRest outer
      (frame.add (.element name (properAttributes attributes) [])) root chars)
    (opens : SpellsStart name attributes true tag)
    (bound : IsBoundTag frame.spaces name attributes) :
    IsRest outer frame root (tag ++ chars) :=
  @prepend _ _ [.element name (properAttributes attributes) []] _ _ _ rest
    fun _ _ _ content => .empty opens bound content

/-- An opening tag stands in front of the rest that is inside of its element. -/
theorem start (rest : IsRest (frame :: outer)
      ⟨name, properAttributes attributes, innerSpaces frame.spaces attributes, []⟩ root chars)
    (opens : SpellsStart name attributes false tag)
    (bound : IsBoundTag frame.spaces name attributes) :
    IsRest outer frame root (tag ++ chars) := by
  -- The element goes on up to its closing tag, behind which is the rest of the outer one.
  obtain ⟨children, inside, last, behind, content, closes, more, rfl⟩ := rest
  rw [Frame.toNode_close_addAll] at more
  have all := @prepend _ _ [.element name (properAttributes attributes) children] _
    (tag ++ (inside ++ last)) _ more fun nodes others _ other_content => by
      simpa using IsContent.element opens bound content closes other_content
  simpa using all

/-- With its closing tag an element comes to its end, and the rest of the outer one goes on. -/
theorem finish {next : Frame} {last : List Char}
    (rest : IsRest outer (next.add frame.close.toNode) root chars)
    (closes : SpellsFinish frame.name last) : IsRest (next :: outer) frame root (last ++ chars) :=
  -- No content is left in front of the closing tag.
  ⟨[], [], last, chars, .nil, closes, rest, rfl⟩

/-- Behind the closing tag of the root there is only filler. -/
theorem last {last : List Char} (filler : IsFiller chars) (closes : SpellsFinish frame.name last) :
    IsRest [] frame frame.close (last ++ chars) :=
  ⟨[], [], last, chars, .nil, closes, filler, rfl, rfl⟩

end IsRest

/-- What is parsed inside of open elements is the rest of a document. -/
theorem isRest_of_parseContent? {frame : Frame} {outer : List Frame} {tokens : List Token}
    {root : Tree} {chars : List Char} (read : parseContent? frame outer tokens = some root)
    (spelled : Spelled tokens chars) : IsRest outer frame root chars := by
  -- Each step of the parser reads one token, which stands in front of what the others are.
  fun_induction parseContent? frame outer tokens generalizing chars with
  | case1 | case4 | case5 | case8 | case12 | case14 | case15 | case16 => cases read
  | case2 frame outer tokens ih | case3 frame outer tokens ih =>
    cases spelled with
    | cons spells _ behind =>
      obtain ⟨aside, proper, rfl⟩ := spells.exists_aside (by simp)
      exact (ih read behind).aside proper
  | case6 frame outer spelling tokens unended value decoded ih =>
    cases spelled with
    | cons spells stops behind =>
      cases spells with
      | text present open_free =>
        exact (ih read behind).text present open_free (by rwa [← hasVerbatimEnd_iff])
          (decode_eq_some_iff.1 decoded) (stops rfl)
  | case7 frame outer value tokens ih =>
    cases spelled with
    | cons spells _ behind =>
      cases spells with
      | verbatim unended => exact (ih read behind).verbatim unended
  | case9 frame outer name attributes tokens inner opened ih =>
    cases spelled with
    | cons spells _ behind =>
      cases spells with
      | start opens =>
        obtain ⟨bound, rfl⟩ := openFrame?_eq_some_iff.1 opened
        exact (ih read behind).empty opens bound
  | case10 frame outer name attributes closed tokens inner opened stays ih =>
    cases spelled with
    | cons spells _ behind =>
      cases spells with
      | start opens =>
        obtain ⟨bound, rfl⟩ := openFrame?_eq_some_iff.1 opened
        obtain rfl : closed = false := Bool.eq_false_iff.2 stays
        exact (ih read behind).start opens bound
  | case11 frame tokens epilogue =>
    cases spelled with
    | cons spells _ behind =>
      cases spells with
      | finish closes =>
        cases read
        rw [isEpilogue_eq_all] at epilogue
        exact .last (isFiller_of_spelled behind epilogue) closes
  | case13 frame tokens next outer ih =>
    cases spelled with
    | cons spells _ behind =>
      cases spells with
      | finish closes => exact (ih read behind).finish closes

/-! ### Root elements -/

/-- Content without nodes is filler. -/
theorem IsContent.isFiller {spaces : List String} {nodes : List Node} {chars : List Char}
    (content : IsContent spaces nodes chars) (none : nodes = []) : IsFiller chars := by
  -- Every way to write content adds a node, but an aside does not.
  induction content with
  | nil => exact .nil
  | aside proper _ ih => exact .aside proper (ih none)
  | _ => cases none

/-- Filler at the end of a document is spelled as tokens that can stand there. -/
theorem IsFiller.exists_isEpilogue {chars : List Char} (filler : IsFiller chars) :
    ∃ tokens, Spelled tokens chars ∧ isEpilogue tokens := by
  obtain ⟨tokens, fills, spelled⟩ := filler.exists_spells
  -- Nothing follows the last of the filler, so that the row of tokens ends there.
  exact ⟨tokens, by simpa using spelled [] [] stopsText_nil .nil, by rwa [isEpilogue_eq_all]⟩

/-- A root element with filler behind it is read from its tokens. -/
theorem IsContent.exists_parseProlog? {root : Tree} {laid back : List Char}
    (content : IsContent [] [root.toNode] laid) (filler : IsFiller back) :
    ∃ tokens, Spelled tokens (laid ++ back) ∧ parseProlog? false tokens = some root := by
  -- The induction is on the asides in front of the one element, behind which there is filler.
  generalize none_known : ([] : List String) = spaces at content
  generalize only : [root.toNode] = nodes at content
  induction content with
  | nil | text | verbatim => cases only
  | @aside spaces nodes aside rest proper _ ih =>
    obtain ⟨tokens, spelled, read⟩ := ih none_known only
    refine ⟨aside.token :: tokens, ?_, ?_⟩
    · rw [List.append_assoc]
      exact .cons (.aside proper) (by simp [aside.isText_token]) spelled
    · rw [← read]
      cases aside <;> rfl
  | @empty spaces name tag_attributes nodes tag rest opens bound others _ =>
    obtain ⟨name, attributes, children⟩ := root
    cases only
    cases none_known
    obtain ⟨tokens, spelled, epilogue⟩ := ((others.isFiller rfl).append filler).exists_isEpilogue
    refine ⟨.start name tag_attributes true :: tokens, ?_, ?_⟩
    · rw [List.append_assoc]
      exact .cons (.start opens) (by simp [Token.isText]) spelled
    · rw [parseProlog?, openFrame?_eq_some_iff.2 ⟨bound, rfl⟩]
      simp [epilogue, Frame.close, properAttributes]
  | @element spaces name tag_attributes children nodes tag inside last rest opens bound content
      closes others _ _ =>
    obtain ⟨name, attributes, children⟩ := root
    cases only
    cases none_known
    obtain ⟨tokens, spelled, epilogue⟩ := ((others.isFiller rfl).append filler).exists_isEpilogue
    obtain ⟨inner, inner_spelled, inner_read⟩ := content.exists_readsIn
    refine ⟨.start name tag_attributes false :: (inner ++ .finish name :: tokens), ?_, ?_⟩
    · have finished := Spelled.cons (.finish closes) (by simp [Token.isText]) spelled
      have all := Spelled.cons (.start opens) (by simp [Token.isText])
        (inner_spelled _ _ (closes.stopsText _) finished)
      simpa using all
    · rw [parseProlog?, openFrame?_eq_some_iff.2 ⟨bound, rfl⟩]
      simp only [Bool.false_eq_true, if_false]
      rw [inner_read _ _ _ rfl]
      simp [parseContent?, Frame.addAll, Frame.close, epilogue, properAttributes]

/-- Filler stands in front of what may stand in front of the root element. -/
theorem IsFiller.preface {front rest : List Char} (filler : IsFiller front)
    (preface : IsPreface rest) : IsPreface (front ++ rest) := by
  -- Filler joins that in front, be it alone or in front of a document type.
  cases preface with
  | filler more => exact .filler (filler.append more)
  | doctype more types behind =>
    rw [← List.append_assoc]
    exact .doctype (filler.append more) types behind

/-- Text stops in front of a document type. -/
theorem SpellsDoctype.stopsText {chars : List Char} (spells : SpellsDoctype chars)
    (rest : List Char) : StopsText (chars ++ rest) := by
  -- The document type begins with a bracket.
  obtain ⟨inside, rfl, -⟩ := spells.exists_dropDoctype?
  exact stopsText_bracket _

/-- What may stand in front of the root element makes no difference. -/
theorem IsPreface.exists_spells {chars : List Char} (preface : IsPreface chars) :
    ∃ tokens, Spells tokens chars ∧
      ∀ rest, parseProlog? false (tokens ++ rest) = parseProlog? false rest := by
  -- The induction is on the document types, each with the filler in front of it.
  induction preface with
  | filler filler =>
    obtain ⟨tokens, fills, spelled⟩ := filler.exists_spells
    exact ⟨tokens, spelled, parseProlog?_filler fills⟩
  | doctype filler types _ ih =>
    obtain ⟨front, fills, front_spelled⟩ := filler.exists_spells
    obtain ⟨tokens, spelled, read⟩ := ih
    have behind := spelled.cons (.doctype types) (by simp [Token.isText])
    refine ⟨_, front_spelled.append behind (types.stopsText _), fun rest => ?_⟩
    rw [List.append_assoc, parseProlog?_filler fills]
    exact read rest

/-- Text stops in front of a root element. -/
theorem IsContent.stopsText {spaces : List String} {root : Tree} {laid : List Char}
    (content : IsContent spaces [root.toNode] laid) (rest : List Char) :
    StopsText (laid ++ rest) := by
  -- One element is written as a tag, maybe behind comments, and these begin with a bracket.
  generalize only : [root.toNode] = nodes at content
  cases content with
  | nil | text | verbatim => cases only
  | aside => rw [List.append_assoc]; exact Aside.stopsText_write _ _
  | empty opens => rw [List.append_assoc]; exact opens.stopsText _
  | element opens => rw [List.append_assoc]; exact opens.stopsText _

/-- Filler can stand in front of a document that has no declaration. -/
theorem IsDocumentWith.behind {root : Tree} {front chars : List Char}
    (document : IsDocumentWith IsPreface root chars) (filler : IsFiller front) :
    IsDocumentWith IsPreface root (front ++ chars) := by
  obtain ⟨preface, laid, back, begins, content, ends, rfl⟩ := document
  exact ⟨front ++ preface, laid, back, filler.preface begins, content, ends, by simp⟩

/-- What is parsed from the tokens of a text is its root element, and the text is a document without
a declaration. -/
theorem isDocumentWith_of_parseProlog? {tokens : List Token} {chars : List Char} {root : Tree}
    (read : parseProlog? false tokens = some root) (spelled : Spelled tokens chars) :
    IsDocumentWith IsPreface root chars := by
  -- The induction is on what stands in front of the root element, each token of which is passed
  -- over.
  generalize later : false = first at read
  fun_induction parseProlog? first tokens generalizing chars with
  | case4 | case5 | case7 | case9 | case11 => cases read
  | case1 first tokens ih | case2 first tokens ih =>
    cases spelled with
    | cons spells _ behind =>
      obtain ⟨aside, proper, rfl⟩ := spells.exists_aside (by simp)
      exact (ih behind rfl read).behind (by simpa using IsFiller.aside proper .nil)
  | case3 first spelling tokens blank ih =>
    cases spelled with
    | cons spells _ behind =>
      cases spells with
      | text => exact (ih behind rfl read).behind (isFiller_blanks blank)
  | case6 first tokens _ ih =>
    cases spelled with
    | cons spells _ behind =>
      cases spells with
      | doctype types =>
        obtain ⟨preface, laid, back, begins, content, ends, rfl⟩ := ih behind rfl read
        exact ⟨_, laid, back, .doctype .nil types begins, content, ends, by simp⟩
  | case8 first name attributes tokens frame opened epilogue =>
    cases spelled with
    | cons spells _ behind =>
      cases spells with
      | start opens =>
        obtain ⟨bound, rfl⟩ := openFrame?_eq_some_iff.1 opened
        cases read
        rw [isEpilogue_eq_all] at epilogue
        exact ⟨[], _, _, .filler .nil, .empty opens bound .nil,
          isFiller_of_spelled behind epilogue, by simp⟩
  | case10 first name attributes closed tokens frame opened stays =>
    cases spelled with
    | @cons _ _ tag _ spells _ behind =>
      cases spells with
      | start opens =>
        obtain ⟨bound, rfl⟩ := openFrame?_eq_some_iff.1 opened
        obtain rfl : closed = false := Bool.eq_false_iff.2 stays
        obtain ⟨children, inside, last, back, content, closes, ends, rfl, rfl⟩ :=
          isRest_of_parseContent? read behind
        refine ⟨[], tag ++ (inside ++ (last ++ [])), back, .filler .nil, ?_, ends, by simp⟩
        rw [Frame.toNode_close_addAll]
        exact .element opens bound content closes .nil

/-- The tokens of what follows the declaration are read as the root element, if it is a document but
for the declaration. -/
theorem parseProlog?_eq_some_iff {tokens : List Token} {chars : List Char}
    (spelled : Spelled tokens chars) {root : Tree} :
    parseProlog? false tokens = some root ↔ IsDocumentWith IsPreface root chars := by
  refine ⟨fun read => isDocumentWith_of_parseProlog? read spelled, ?_⟩
  rintro ⟨front, laid, back, preface, content, filler, rfl⟩
  obtain ⟨ahead, ahead_spelled, ahead_read⟩ := preface.exists_spells
  obtain ⟨others, others_spelled, read⟩ := content.exists_parseProlog? filler
  -- There is only one row of tokens that the text spells.
  have all := ahead_spelled _ _ (content.stopsText back) others_spelled
  obtain rfl := Option.some.inj ((lex?_eq_some_iff.2 spelled).symm.trans (lex?_eq_some_iff.2 all))
  rw [ahead_read, read]

/-- The first token is a document type if its first word is there. -/
theorem Spelled.head?_eq_doctype_iff {tokens : List Token} {chars : List Char}
    (spelled : Spelled tokens chars) :
    tokens.head? = some .doctype ↔ "<!DOCTYPE".toList <+: chars := by
  cases spelled with
  | nil => simp
  | @cons token tokens spelling chars spells stops _ =>
    rw [List.head?_cons, Option.some.injEq]
    constructor
    · rintro rfl
      cases spells with
      | doctype types =>
        obtain ⟨inside, rfl, -⟩ := types.exists_dropDoctype?
        exact ⟨inside ++ chars, by simp⟩
    · rintro ⟨rest, begins⟩
      -- Nothing else is read behind that word.
      have read := spells.lexToken? stops
      rw [← begins, lexToken?_doctype] at read
      obtain ⟨behind, -, made⟩ := Option.bind_eq_some_iff.1 read
      cases made
      rfl

/-- No document type begins with an opening tag, a comment or an instruction. -/
theorem not_doctype_prefix_append {front rest : List Char}
    (marked : (∃ aside : Aside, ∃ behind, front = aside.write ++ behind) ∨
      ∃ name attributes closed tag behind, SpellsStart name attributes closed tag ∧
        front = tag ++ behind) : ¬ "<!DOCTYPE".toList <+: front ++ rest := by
  rcases marked with ⟨aside, behind, rfl⟩ | ⟨name, attributes, closed, tag, behind, opens, rfl⟩
  · cases aside <;> simp [Aside.write, List.cons_prefix_cons]
  · obtain ⟨inside, blanks, spellable, -, -, rfl⟩ := opens
    -- The name of a tag does not begin with a mark.
    obtain ⟨first, letters, written, unmarked⟩ := name.exists_write_eq_cons spellable
    have not_bang : '!' ≠ first := by rintro rfl; simp [isMark] at unmarked
    simp [written, List.cons_prefix_cons, not_bang]

/-- A root element does not begin with a document type. -/
theorem IsContent.not_doctype_prefix {spaces : List String} {root : Tree} {laid : List Char}
    (content : IsContent spaces [root.toNode] laid) (rest : List Char) :
    ¬ "<!DOCTYPE".toList <+: laid ++ rest := by
  -- One element is written as a tag, maybe behind comments, and neither begins like that.
  generalize only : [root.toNode] = nodes at content
  cases content with
  | nil | text | verbatim => cases only
  | @aside _ _ aside behind _ _ => exact not_doctype_prefix_append (.inl ⟨aside, behind, rfl⟩)
  | empty opens => exact not_doctype_prefix_append (.inr ⟨_, _, _, _, _, opens, rfl⟩)
  | element opens => exact not_doctype_prefix_append (.inr ⟨_, _, _, _, _, opens, rfl⟩)

/-- If a document type comes first in front of a root element, it is not behind anything else. -/
theorem IsPreface.doctype_prefix {preface laid : List Char} {spaces : List String} {root : Tree}
    (begins : IsPreface preface) (content : IsContent spaces [root.toNode] laid) (back : List Char)
    (first : "<!DOCTYPE".toList <+: preface ++ (laid ++ back)) :
    "<!DOCTYPE".toList <+: preface := by
  -- Filler that is there does not begin with a document type.
  have no_filler {front : List Char} (filler : IsFiller front) (rest : List Char)
      (first : "<!DOCTYPE".toList <+: front ++ rest) : front = [] := by
    cases filler with
    | nil => rfl
    | blank space =>
      simp only [List.cons_append] at first
      obtain ⟨rfl, -⟩ := List.cons_prefix_cons.1 first
      cases space
    | @aside aside chars _ _ =>
      exact absurd first (not_doctype_prefix_append (.inl ⟨aside, chars, rfl⟩))
  cases begins with
  | filler filler =>
    obtain rfl := no_filler filler _ first
    exact absurd first (content.not_doctype_prefix back)
  | doctype filler types =>
    rw [List.append_assoc] at first
    obtain rfl := no_filler filler _ first
    obtain ⟨inside, rfl, -⟩ := types.exists_dropDoctype?
    exact ⟨_, (List.append_assoc _ _ _).symm⟩

/-- The tokens of a document have the declaration in front of the rest, or do not begin with a
document type. -/
theorem parseTokens?_eq_some_iff {tokens : List Token} {root : Tree} :
    parseTokens? tokens = some root ↔
      (∃ rest, tokens = .declaration :: rest ∧ parseProlog? false rest = some root) ∨
        tokens.head? ≠ some .doctype ∧ parseProlog? false tokens = some root := by
  -- The first token decides which of the two is asked for.
  cases tokens with
  | nil => simp [parseTokens?, parseProlog?]
  | cons token rest => cases token <;> simp [parseTokens?, parseProlog?]

/-! ### Documents -/

/-- A text is parsed as a root element if it is a document with that root element by the grammar,
and any other text is not parsed. -/
theorem parse?_eq_some_iff {chars : List Char} {root : Tree} :
    parse? chars = some root ↔ IsDocument root chars := by
  -- A text is cut into tokens, and then the tokens are read.
  simp only [parse?, Option.bind_eq_bind, Option.bind_eq_some_iff, lex?_eq_some_iff,
    parseTokens?_eq_some_iff]
  constructor
  · -- From tokens to the grammar: the tokens tell whether a declaration stands in front.
    rintro ⟨tokens, spelled, ⟨rest, rfl, read⟩ | ⟨other, read⟩⟩
    · cases spelled with
      | @cons _ _ declaration _ spells _ behind =>
        cases spells with
        | declaration declares =>
          obtain ⟨preface, laid, back, begins, content, filler, rfl⟩ :=
            (parseProlog?_eq_some_iff behind).1 read
          exact ⟨declaration ++ preface, laid, back, ⟨declaration, preface, begins, rfl,
            .inl declares⟩, content, filler, by simp⟩
    · obtain ⟨preface, laid, back, begins, content, filler, rfl⟩ :=
        (parseProlog?_eq_some_iff spelled).1 read
      refine ⟨preface, laid, back, ⟨[], preface, begins, rfl, .inr ⟨rfl, fun first => ?_⟩⟩, content,
        filler, rfl⟩
      exact other (spelled.head?_eq_doctype_iff.2 (first.trans (List.prefix_append _ _)))
  · -- From the grammar to tokens: what stands in front is spelled by tokens that are passed over.
    rintro ⟨_, laid, back, ⟨declaration, preface, begins, rfl, first⟩, content, filler, rfl⟩
    obtain ⟨ahead, ahead_spelled, ahead_read⟩ := begins.exists_spells
    obtain ⟨others, others_spelled, read⟩ := content.exists_parseProlog? filler
    have spelled := ahead_spelled _ _ (content.stopsText back) others_spelled
    rw [← ahead_read] at read
    rcases first with declares | ⟨rfl, other⟩
    · refine ⟨.declaration :: (ahead ++ others), ?_, .inl ⟨_, rfl, read⟩⟩
      rw [List.append_assoc]
      exact .cons (.declaration declares) (by simp [Token.isText]) spelled
    · refine ⟨ahead ++ others, spelled, .inr ⟨fun doctype => other ?_, read⟩⟩
      exact begins.doctype_prefix content back (spelled.head?_eq_doctype_iff.1 doctype)

/-- A text is a document with one root element at most. -/
theorem IsDocument.unique {chars : List Char} {root other : Tree} (document : IsDocument root chars)
    (another : IsDocument other chars) : root = other :=
  Option.some.inj ((parse?_eq_some_iff.2 document).symm.trans (parse?_eq_some_iff.2 another))

/-- A text that is no document is not parsed. -/
theorem parse?_eq_none_iff {chars : List Char} :
    parse? chars = none ↔ ¬ ∃ root, IsDocument root chars := by
  simp [Option.eq_none_iff_forall_ne_some, parse?_eq_some_iff]

/-- No document begins with a document type. -/
theorem IsDocument.not_doctype_prefix {chars : List Char} {root : Tree}
    (document : IsDocument root chars) : ¬ "<!DOCTYPE".toList <+: chars := by
  -- A declaration begins otherwise, and without one this is what the grammar rules out.
  obtain ⟨_, laid, back, ⟨declaration, preface, begins, rfl, first⟩, content, -, rfl⟩ := document
  rcases first with ⟨_, _, _, _, -, -, -, -, rfl⟩ | ⟨rfl, other⟩
  · simp [List.cons_prefix_cons]
  · exact fun doctype => other (begins.doctype_prefix content back doctype)

/-- Of the documents by the standard, with one document type at most in front of the root element,
just those are documents here that do not begin with it. -/
theorem IsDocumentWith.isDocument_iff {chars : List Char} {root : Tree}
    (standard : IsDocumentWith IsStandardProlog root chars) :
    IsDocument root chars ↔ ¬ "<!DOCTYPE".toList <+: chars := by
  refine ⟨IsDocument.not_doctype_prefix, fun other => ?_⟩
  obtain ⟨_, laid, rear, ⟨declaration, front, doctype, back, declared, front_filler, typed,
    back_filler, rfl⟩, content, filler, rfl⟩ := standard
  have preface : IsPreface (front ++ (doctype ++ back)) := by
    rcases typed with rfl | types
    · exact .filler (front_filler.append back_filler)
    · exact .doctype front_filler types (.filler back_filler)
  refine ⟨_, laid, rear, ⟨declaration, _, preface, rfl, ?_⟩, content, filler, rfl⟩
  -- Without the declaration, the document begins with what is in front of the root element.
  rcases declared with rfl | declares
  · exact .inr ⟨rfl, fun first => other (first.trans (List.prefix_append _ _))⟩
  · exact .inl declares

end RuleMetadata.Xml

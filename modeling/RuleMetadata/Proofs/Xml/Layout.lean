import RuleMetadata.Proofs.Xml.Content
import RuleMetadata.Proofs.Xml.Likeness

/-! Layouts of a document: blanks, comments and instructions between its tags, and attributes in any
order and in quotes of either kind. The document as it is written is one of them, and all of them
are documents by the grammar, with root elements that are alike. -/

namespace RuleMetadata.Xml

/-! ### Layouts -/

/-- What may stand between two tags: filler if the element allows it, and otherwise nothing. -/
def IsGap (loose : Bool) (chars : List Char) : Prop :=
  IsFiller chars ∧ (loose = false → chars = [])

/-- The spelling of an attribute in quotes of either kind. -/
def spellAttribute (quote : Quote) (entry : Name × List Char) : List Char :=
  entry.1.write ++ '=' :: quote.char :: escapeValue entry.2 ++ [quote.char]

/-- The spelling of attributes, each behind a blank and in quotes of its own. -/
def spellAttributes (entries : List (Quote × Name × List Char)) : List Char :=
  entries.flatMap fun entry => ' ' :: spellAttribute entry.1 entry.2

/-- The spelling of an opening tag with attributes in quotes of their own. -/
def spellTag (name : Name) (entries : List (Quote × Name × List Char)) (closed : Bool) :
    List Char :=
  '<' :: (name.write ++ (spellAttributes entries ++ tagEnd closed))

/-- An opening tag with its attributes in any order, each in quotes of either kind. -/
def SpellsTag (name : Name) (attributes : Attributes) (closed : Bool) (chars : List Char) : Prop :=
  ∃ entries : List (Quote × Name × List Char), (entries.map (·.2)).Perm attributes ∧
    chars = spellTag name entries closed

/-- A child element with its spelling, and with what stands in front of it. -/
structure Part where
  front : List Char
  element : Tree
  spelling : List Char

/-- The spelling of a child element behind what stands in front of it. -/
def Part.write (part : Part) : List Char :=
  part.front ++ part.spelling

/-- The spellings of an element. Between two tags there may be filler if the place is directly
inside of a loose element. An element that closes itself has nothing inside, and what stands next to
a text would belong to it. -/
inductive Tree.IsLaidOut (loose : String → Bool) : Tree → List Char → Prop where
  -- A text may not have filler next to it.
  | leaf {name : Name} {attributes : Attributes} {tag : List Char} (value : List Char) :
    SpellsTag name attributes false tag →
      Tree.IsLaidOut loose ⟨name, attributes, [.text value]⟩
        (tag ++ (escapeText value ++ (Token.finish name).write))
  | empty {name : Name} {attributes : Attributes} {tag : List Char} :
    SpellsTag name attributes true tag → Tree.IsLaidOut loose ⟨name, attributes, []⟩ tag
  -- There is a gap in front of each part and one behind the last.
  | branch {name : Name} {attributes : Attributes} {tag last : List Char} {parts : List Part} :
    SpellsTag name attributes false tag → parts ≠ [] →
      (∀ part ∈ parts, IsGap (loose name.base) part.front) →
      (∀ part ∈ parts, Tree.IsLaidOut loose part.element part.spelling) →
      IsGap (loose name.base) last →
        Tree.IsLaidOut loose ⟨name, attributes, parts.map (·.element.toNode)⟩
          (tag ++ (parts.flatMap Part.write ++ (last ++ (Token.finish name).write)))

/-- The spellings of a document: filler may stand between the declaration and the root element, and
behind that. -/
def IsLayout (loose : String → Bool) (root : Tree) (chars : List Char) : Prop :=
  ∃ front laid back, IsFiller front ∧ root.IsLaidOut loose laid ∧ IsFiller back ∧
    chars = Token.declaration.write ++ (front ++ (laid ++ back))

/-! ### Documents are layouts -/

variable {loose : String → Bool}

/-- No filler at all may stand anywhere. -/
theorem isGap_nil (allowed : Bool) : IsGap allowed [] :=
  ⟨.nil, fun _ => rfl⟩

/-- Attributes are written in single quotes. -/
theorem writeAttributes_eq (attributes : Attributes) :
    writeAttributes attributes = spellAttributes (attributes.map (Quote.single, ·)) := by
  rw [writeAttributes, spellAttributes, List.flatMap_map]
  rfl

/-- An opening tag is spelled as it is written, with its attributes in single quotes. -/
theorem spellsTag_write (name : Name) (attributes : Attributes) (closed : Bool) :
    SpellsTag name attributes closed (Token.start name attributes closed).write := by
  -- The attributes stay in their order.
  refine ⟨attributes.map (Quote.single, ·), by simp [Function.comp_def], ?_⟩
  simp [Token.write_start, spellTag, writeAttributes_eq]

/-- Elements that are laid out as they are written are so in a row. -/
theorem exists_parts {nodes : List Node} (each : ∀ node ∈ nodes, ∃ tree : Tree,
    tree.toNode = node ∧ tree.IsLaidOut loose (writeTokens node.tokens)) :
    ∃ parts : List Part, parts.map (·.element.toNode) = nodes ∧
      (∀ part ∈ parts, part.front = [] ∧ part.element.IsLaidOut loose part.spelling) ∧
        parts.flatMap Part.write = writeTokens (nodesTokens nodes) := by
  -- The induction is on the nodes, each of which is a part with nothing in front of it.
  induction nodes with
  | nil => exact ⟨[], rfl, by simp, rfl⟩
  | cons node others ih =>
    obtain ⟨⟨tree, rfl, laid⟩, behind⟩ := List.forall_mem_cons.1 each
    obtain ⟨parts, rfl, parts_laid, written⟩ := ih behind
    exact ⟨⟨[], tree, writeTokens tree.toNode.tokens⟩ :: parts, rfl,
      List.forall_mem_cons.2 ⟨⟨rfl, laid⟩, parts_laid⟩,
      by simp [written, Part.write, nodesTokens, writeTokens]⟩

/-- A record is laid out as it is written. -/
theorem Node.IsRecord.exists_isLaidOut {node : Node} (record : node.IsRecord) :
    ∃ tree : Tree, tree.toNode = node ∧ tree.IsLaidOut loose (writeTokens node.tokens) := by
  -- The induction is on the record, whose children are laid out with no gaps.
  induction record with
  | @leaf name attributes value _ =>
    have laid : Tree.IsLaidOut loose ⟨name, attributes, [.text value]⟩ _ :=
      .leaf value (spellsTag_write name attributes false)
    exact ⟨_, rfl, by simpa [Node.tokens, nodesTokens, writeTokens, Token.write_text] using laid⟩
  | @branch name attributes children _ _ ih =>
    by_cases present : children = []
    · subst present
      have laid : Tree.IsLaidOut loose ⟨name, attributes, []⟩ _ :=
        .empty (spellsTag_write name attributes true)
      exact ⟨_, rfl, by simpa [Node.tokens, writeTokens] using laid⟩
    · obtain ⟨parts, rfl, laid, written⟩ := exists_parts ih
      have some_parts : parts ≠ [] := by simpa using present
      have gaps : ∀ part ∈ parts, IsGap (loose name.base) part.front := fun part inside => by
        rw [(laid part inside).1]
        exact isGap_nil _
      have whole := Tree.IsLaidOut.branch (spellsTag_write name attributes false) some_parts gaps
        (fun part inside => (laid part inside).2) (isGap_nil _)
      refine ⟨⟨name, attributes, parts.map (·.element.toNode)⟩, rfl, ?_⟩
      rw [tokens_element present]
      simpa [writeTokens, written] using whole

/-- The written document of a record is a layout of it. -/
theorem isLayout_writeDocument {root : Tree} (record : root.toNode.IsRecord) :
    IsLayout loose root (writeDocument root) := by
  obtain ⟨⟨name, attributes, children⟩, same, laid⟩ : ∃ tree : Tree, tree.toNode = root.toNode ∧
      tree.IsLaidOut loose (writeTokens root.toNode.tokens) := record.exists_isLaidOut
  obtain ⟨root_name, root_attributes, root_children⟩ := root
  cases same
  -- Nothing stands in front of the root element but the declaration, and nothing behind it.
  exact ⟨[], _, [], .nil, laid, .nil, by simp [writeDocument, writeTokens]⟩

/-! ### Tags and texts -/

/-- Attributes in quotes of their own are spelled as attributes. -/
theorem spellsAttributes_spellAttributes {entries : List (Quote × Name × List Char)}
    (spellable : ∀ entry ∈ entries, entry.2.1.isSpellable) :
    SpellsAttributes (entries.map (·.2)) (spellAttributes entries) := by
  induction entries with
  | nil => exact .nil
  | cons entry others ih =>
    obtain ⟨quote, name, value⟩ := entry
    obtain ⟨here, behind⟩ := List.forall_mem_cons.1 spellable
    -- Neither quotes nor brackets are left in an escaped value.
    have no_quote : quote.char ∉ escapeValue value :=
      not_mem_escapeValue (by cases quote <;> decide) value
    have no_bracket : '<' ∉ escapeValue value := not_mem_escapeValue (by simp) value
    have setting : SpellsSetting name.write (escapeValue value)
        (' ' :: spellAttribute quote (name, value)) :=
      ⟨[' '], [], [], _, List.cons_ne_nil _ _, rfl, rfl, rfl, ⟨quote, no_quote, rfl⟩,
        by simp [spellAttribute]⟩
    exact .cons here no_bracket (decode_eq_some_iff.1 (decode_escapeValue value)) setting
      (ih behind)

/-- An opening tag is spelled with its attributes in some order. -/
theorem SpellsTag.exists_spellsStart {name : Name} {attributes : Attributes} {closed : Bool}
    {chars : List Char} (spells : SpellsTag name attributes closed chars)
    (simple : isSimpleTag name attributes) : ∃ others : Attributes, others.Perm attributes ∧
      SpellsStart name others closed chars := by
  obtain ⟨entries, perm, rfl⟩ := spells
  obtain ⟨name_spellable, spellable⟩ := isSpellable_of_isSimpleTag (isSimpleTag_of_perm perm simple)
  -- The order of the attributes does not matter to whether their names are spellable.
  have each : ∀ entry ∈ entries, entry.2.1.isSpellable := fun entry inside =>
    spellable entry.2 (List.mem_map_of_mem inside)
  exact ⟨_, perm, _, [], name_spellable, spellsAttributes_spellAttributes each, rfl, rfl⟩

/-- An opening tag is spelled by the grammar as it is written. -/
theorem spellsStart_write {name : Name} {attributes : Attributes}
    (simple : isSimpleTag name attributes) (closed : Bool) :
    SpellsStart name attributes closed (Token.start name attributes closed).write := by
  obtain ⟨name_spellable, spellable⟩ := isSpellable_of_isSimpleTag simple
  -- Every value is written in single quotes.
  have each : ∀ entry ∈ attributes.map (Quote.single, ·), entry.2.1.isSpellable :=
    List.forall_mem_map.2 spellable
  have spelled := spellsAttributes_spellAttributes each
  rw [List.map_map, ← writeAttributes_eq] at spelled
  exact ⟨_, [], name_spellable, by simpa [Function.comp_def] using spelled, rfl,
    by simp [Token.write_start]⟩

/-- Text stops in front of an element. -/
theorem Tree.IsLaidOut.stopsText {tree : Tree} {chars : List Char}
    (laid : tree.IsLaidOut loose chars) (rest : List Char) : StopsText (chars ++ rest) := by
  -- Each kind of element begins with its tag.
  have tag {name : Name} {attributes : Attributes} {closed : Bool} {chars : List Char}
      (spells : SpellsTag name attributes closed chars) (rest : List Char) :
      StopsText (chars ++ rest) := by
    obtain ⟨entries, -, rfl⟩ := spells
    exact stopsText_bracket _
  cases laid with
  | leaf value spells =>
    rw [List.append_assoc]
    exact tag spells _
  | empty spells => exact tag spells rest
  | branch spells _ _ _ _ =>
    rw [List.append_assoc]
    exact tag spells _

/-- A text with brackets of neither kind is content in front of markup, if it is not empty. -/
theorem IsContent.text_of_absent {spaces : List String} {nodes : List Node}
    {spelling value rest : List Char} (present : spelling ≠ []) (open_free : '<' ∉ spelling)
    (close_free : '>' ∉ spelling) (spells : SpellsText spelling value) (stops : StopsText rest)
    (content : IsContent spaces nodes rest) :
    IsContent spaces (.text value :: nodes) (spelling ++ rest) :=
  -- The end of a verbatim section has a closing bracket in it.
  .text present open_free (fun inside => close_free (inside.subset (by decide))) spells stops
    content

/-- Blanks spell themselves. -/
theorem spellsText_blanks {blanks : List Char} (blank : blanks.all isSpace) :
    SpellsText blanks blanks := by
  induction blanks with
  | nil => exact .nil
  | cons char rest ih =>
    rw [List.all_cons, Bool.and_eq_true] at blank
    -- The ampersand, which begins a reference, is no blank.
    have plain : char ≠ '&' := by
      rintro rfl
      exact absurd blank.1 (by decide)
    exact .cons (.plain char plain) (ih blank.2)

/-! ### Gaps -/

/-- What is content in front of some content, with texts and no elements in it. -/
def IsTextual (texts : List Node) (chars : List Char) : Prop :=
  elementsOf texts = [] ∧ ∀ spaces nodes rest, StopsText rest → IsContent spaces nodes rest →
    IsContent spaces (texts ++ nodes) (chars ++ rest)

/-- Nothing at all is textual. -/
theorem isTextual_nil : IsTextual [] [] := ⟨rfl, fun _ _ _ _ content => content⟩

/-- Filler is textual in front of markup. -/
theorem IsFiller.exists_isTextual {chars : List Char} (filler : IsFiller chars) :
    ∃ texts, IsTextual texts chars := by
  have blanks_textual {blanks : List Char} (blank : blanks.all isSpace) :
      ∃ texts, IsTextual texts blanks := by
    by_cases empty : blanks = []
    · subst empty
      exact ⟨[], isTextual_nil⟩
    · have absent {mark : Char} (marked : isSpace mark = false) : mark ∉ blanks := fun inside => by
        simp [List.all_eq_true.1 blank mark inside] at marked
      exact ⟨[.text blanks], rfl, fun spaces nodes rest stops content => .text_of_absent empty
        (absent rfl) (absent rfl) (spellsText_blanks blank) stops content⟩
  -- Blanks that follow one another are one text, so those in front are gathered on the way.
  have general : ∀ blanks : List Char, blanks.all isSpace →
      ∃ texts, IsTextual texts (blanks ++ chars) := by
    induction filler with
    | nil => simpa using fun blanks => @blanks_textual blanks
    | @blank char chars space _ ih =>
      intro blanks blank
      simpa using ih (blanks ++ [char]) (by simp_all)
    | @aside aside chars proper _ ih =>
      intro blanks blank
      obtain ⟨front, front_bare, front_content⟩ := blanks_textual blank
      obtain ⟨texts, bare, behind⟩ := ih [] rfl
      refine ⟨front ++ texts, by simp [front_bare, show elementsOf texts = [] from bare],
        fun spaces nodes rest stops content => ?_⟩
      simp only [List.append_assoc]
      exact front_content _ _ _ (aside.stopsText_write _)
        (.aside proper (behind spaces nodes rest stops content))
  exact general [] rfl

/-- What stands between two tags is textual, and has no text where none may be. -/
theorem IsGap.exists_isTextual {allowed : Bool} {chars : List Char} (gap : IsGap allowed chars) :
    ∃ texts, IsTextual texts chars ∧ (allowed = false → textOf texts = []) := by
  obtain ⟨filler, strict⟩ := gap
  -- Where no text may be, the gap is empty.
  cases allowed with
  | false =>
    obtain rfl := strict rfl
    exact ⟨[], isTextual_nil, fun _ => rfl⟩
  | true =>
    obtain ⟨texts, textual⟩ := filler.exists_isTextual
    exact ⟨texts, textual, nofun⟩

/-- The text of an element is textual, whether it is empty or not. -/
theorem exists_isTextual_escapeText (value : List Char) :
    ∃ texts, IsTextual texts (escapeText value) ∧ textOf texts = value := by
  -- An empty text is no node, and any other one is one node.
  by_cases empty : value = []
  · subst empty
    exact ⟨[], isTextual_nil, rfl⟩
  · have present : escapeText value ≠ [] := fun none => empty (escapeText_eq_nil_iff.mp none)
    refine ⟨[.text value], ⟨rfl, fun spaces nodes rest stops content => ?_⟩, by simp⟩
    exact .text_of_absent present (not_mem_escapeText (by simp) value)
      (not_mem_escapeText (by simp) value) (decode_eq_some_iff.1 (decode_escapeText value)) stops
      content

/-! ### Elements -/

/-- The element of a record has a simple tag. -/
theorem Tree.isSimpleTag_of_isRecord {tree : Tree} (record : tree.toNode.IsRecord) :
    isSimpleTag tree.name tree.attributes := by
  -- Both kinds of records ask for it.
  obtain ⟨name, attributes, children⟩ := tree
  cases record <;> assumption

/-- The child elements of a record are records. -/
theorem Tree.isRecord_of_mem_elementsOf {tree child : Tree} (record : tree.toNode.IsRecord)
    (inside : child ∈ elementsOf tree.children) : child.toNode.IsRecord := by
  obtain ⟨name, attributes, children⟩ := tree
  -- A leaf has no child elements, and those of a branch are among its children.
  cases record with
  | leaf value _ => cases inside
  | branch _ records => exact records _ (toNode_mem_of_mem_elementsOf inside)

/-- Whether characters spell an element in front of any content. -/
def IsElement (tree : Tree) (chars : List Char) : Prop :=
  ∀ spaces nodes rest, IsContent spaces nodes rest →
    IsContent spaces (tree.toNode :: nodes) (chars ++ rest)

/-- A simple tag that closes itself spells an element without children. -/
theorem isElement_empty {name : Name} {attributes : Attributes} {tag : List Char}
    (simple : isSimpleTag name attributes) (spells : SpellsStart name attributes true tag) :
    IsElement ⟨name, attributes, []⟩ tag := by
  intro spaces nodes rest content
  -- All attributes of a simple tag are proper ones, so that none is left out.
  have element := IsContent.empty spells (isBoundTag_of_isSimpleTag simple spaces) content
  rwa [properAttributes_of_isSimpleTag simple] at element

/-- A simple tag and a closing one spell an element with the children in between. -/
theorem isElement_full {name : Name} {attributes : Attributes} {children : List Node}
    {tag inside : List Char} (simple : isSimpleTag name attributes)
    (spells : SpellsStart name attributes false tag)
    (content : ∀ spaces, IsContent spaces children inside) :
    IsElement ⟨name, attributes, children⟩ (tag ++ (inside ++ (Token.finish name).write)) := by
  intro spaces nodes rest others
  -- All attributes of a simple tag are proper ones, so that none is left out.
  have element := IsContent.element spells (isBoundTag_of_isSimpleTag simple spaces) (content _)
    (spellsFinish_write (isSpellable_of_isSimpleTag simple).1) others
  rw [properAttributes_of_isSimpleTag simple] at element
  simpa [Tree.toNode] using element

/-- Whether characters spell an element that is like another one. -/
def SpellsLike (loose : String → Bool) (chars : List Char) (tree : Tree) : Prop :=
  ∃ read, IsElement read chars ∧ read.Alike loose tree

/-- The child elements of an element are spelled one after the other, with nothing but text in
between, and in front of what is textual. -/
theorem exists_isContent_parts {allowed : Bool} {parts : List Part}
    (gaps : ∀ part ∈ parts, IsGap allowed part.front)
    (laid : ∀ part ∈ parts, part.element.IsLaidOut loose part.spelling)
    (each : ∀ part ∈ parts, SpellsLike loose part.spelling part.element) {last : List Char}
    (gap : IsGap allowed last) :
    ∃ nodes, (∀ spaces, IsContent spaces nodes (parts.flatMap Part.write ++ last)) ∧
      List.Forall₂ (Tree.Alike loose) (elementsOf nodes) (parts.map (·.element)) ∧
        (allowed = false → textOf nodes = []) := by
  -- The induction is on the parts, each of which has its gap in front of it.
  induction parts with
  | nil =>
    obtain ⟨texts, ⟨no_elements, textual⟩, no_text⟩ := gap.exists_isTextual
    refine ⟨texts, fun spaces => ?_, by rw [no_elements]; exact .nil, no_text⟩
    simpa using textual spaces [] [] stopsText_nil .nil
  | cons part others ih =>
    rw [List.forall_mem_cons] at gaps laid each
    obtain ⟨texts, ⟨no_elements, textual⟩, no_text⟩ := gaps.1.exists_isTextual
    obtain ⟨read, element, alike⟩ := each.1
    obtain ⟨nodes, content, others_alike, others_text⟩ := ih gaps.2 laid.2 each.2
    refine ⟨texts ++ read.toNode :: nodes, fun spaces => ?_, ?_, fun strict => ?_⟩
    · rw [List.flatMap_cons, Part.write, List.append_assoc, List.append_assoc]
      exact textual _ _ _ (laid.1.stopsText _) (element _ _ _ (content spaces))
    · rw [elementsOf_append, no_elements, List.nil_append, elementsOf_toNode, List.map_cons]
      exact .cons alike others_alike
    · simp [no_text strict, others_text strict]

/-- Every layout of a record spells an element that is like the record. -/
theorem Tree.IsLaidOut.spellsLike {tree : Tree} {chars : List Char}
    (laid : tree.IsLaidOut loose chars) (record : tree.toNode.IsRecord) :
    SpellsLike loose chars tree := by
  have simple := tree.isSimpleTag_of_isRecord record
  -- The induction is on the layout, whose parts are layouts of records again.
  induction laid with
  | @leaf name attributes tag value spells =>
    obtain ⟨others, perm, start⟩ := spells.exists_spellsStart simple
    obtain ⟨texts, ⟨no_elements, textual⟩, same⟩ := exists_isTextual_escapeText value
    have content (spaces : List String) : IsContent spaces texts (escapeText value) := by
      simpa using textual spaces [] [] stopsText_nil .nil
    refine ⟨⟨name, others, texts⟩, isElement_full (isSimpleTag_of_perm perm simple) start content,
      .intro rfl (attribute?_of_perm simple perm _ _) (fun _ => ?_) ?_⟩
    · simp [Tree.content_eq, same]
    · rw [no_elements]
      exact .nil
  | @empty name attributes tag spells =>
    obtain ⟨others, perm, start⟩ := spells.exists_spellsStart simple
    exact ⟨⟨name, others, []⟩, isElement_empty (isSimpleTag_of_perm perm simple) start,
      .intro rfl (attribute?_of_perm simple perm _ _) (fun _ => rfl) .nil⟩
  | @branch name attributes tag last parts spells _ gaps laid gap ih =>
    obtain ⟨others, perm, start⟩ := spells.exists_spellsStart simple
    have each : ∀ part ∈ parts, SpellsLike loose part.spelling part.element := by
      intro part inside
      have part_record : part.element.toNode.IsRecord :=
        Tree.isRecord_of_mem_elementsOf record (by simpa using ⟨part, inside, rfl⟩)
      exact ih part inside part_record (part.element.isSimpleTag_of_isRecord part_record)
    obtain ⟨nodes, content, alike, no_text⟩ := exists_isContent_parts gaps laid each gap
    refine ⟨⟨name, others, nodes⟩, ?_, .intro rfl (attribute?_of_perm simple perm _ _)
      (fun strict => ?_) ?_⟩
    · simpa using isElement_full (isSimpleTag_of_perm perm simple) start content
    · simp [Tree.content_eq, no_text strict]
    · simpa using alike

/-! ### Documents -/

/-- Every layout of a record is a document, with a root element that is like the record. -/
theorem IsLayout.exists_isDocument {root : Tree} {chars : List Char}
    (layout : IsLayout loose root chars) (record : root.toNode.IsRecord) :
    ∃ tree, IsDocument tree chars ∧ tree.Alike loose root := by
  obtain ⟨front, laid, back, front_filler, root_laid, back_filler, rfl⟩ := layout
  obtain ⟨tree, element, alike⟩ := root_laid.spellsLike record
  -- The filler in front stands behind the declaration, and the root element with nothing around it.
  refine ⟨tree, ⟨Token.declaration.write ++ front, laid, back, ?_, ?_, back_filler, by simp⟩, alike⟩
  · exact ⟨_, front, .filler front_filler, rfl, .inl spellsDeclaration_write⟩
  · simpa using element [] [] [] .nil

end RuleMetadata.Xml

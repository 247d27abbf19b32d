import RuleMetadata.Proofs.Xml.Places

/-! The pieces of a document: those of its tags, and a string for each value and each text. -/

namespace RuleMetadata.Xml

/-- The pieces of an attribute: between markup there is its value. -/
def attributePieces (entry : Name × List Char) : List Piece :=
  [⟨.markup, ' ' :: entry.1.write ++ ['=', '\'']⟩, ⟨.value, entry.2⟩, ⟨.markup, ['\'']⟩]

/-- The pieces of an opening tag. -/
def tagPieces (name : Name) (attributes : Attributes) (closed : Bool) : List Piece :=
  ⟨.markup, '<' :: name.write⟩ :: attributes.flatMap attributePieces ++
    [⟨.markup, tagEnd closed⟩]

/-- The piece of a closing tag. -/
def finishPiece (name : Name) : Piece :=
  ⟨.markup, '<' :: '/' :: name.write ++ ['>']⟩

mutual

/-- The pieces of a node. -/
def Node.pieces : Node → List Piece
  | .text value => [⟨.text, value⟩]
  -- An element without children closes itself.
  | .element name attributes [] => tagPieces name attributes true
  | .element name attributes (child :: children) =>
    tagPieces name attributes false ++ (child.pieces ++ nodesPieces children) ++
      [finishPiece name]

/-- The pieces of nodes in a row. -/
def nodesPieces : List Node → List Piece
  | [] => []
  | node :: rest => node.pieces ++ nodesPieces rest

end

/-- The pieces in front of the root, of which one is the version. -/
def declarationPieces : List Piece :=
  [⟨.markup, "<?xml version='".toList⟩, ⟨.value, "1.0".toList⟩, ⟨.markup, "'?>".toList⟩]

/-- The pieces of a document. -/
def Tree.pieces (root : Tree) : List Piece :=
  declarationPieces ++ root.toNode.pieces

/-- The pieces of an opening tag spell it. -/
theorem writePieces_tag (name : Name) (attributes : Attributes) (closed : Bool) :
    writePieces (tagPieces name attributes closed) =
      (Token.start name attributes closed).write := by
  -- The values are spelled in pieces of their own, between markup.
  have spelled : (attributes.flatMap attributePieces).flatMap Piece.write =
      writeAttributes attributes := by
    simp [writeAttributes, attributePieces, Piece.write, List.flatMap_assoc]
  simp [writePieces, tagPieces, Token.write_start, Piece.write, spelled]

/-- The pieces of nodes in a row are those of each. -/
theorem nodesPieces_eq (nodes : List Node) : nodesPieces nodes = nodes.flatMap Node.pieces := by
  -- The pieces of the first node stand in front of those of the others.
  induction nodes with
  | nil => rfl
  | cons node rest ih => rw [nodesPieces, List.flatMap_cons, ih]

/-- An element with children has pieces between those of its tags. -/
theorem pieces_element {name : Name} {attributes : Attributes} {children : List Node}
    (present : children ≠ []) : (Node.element name attributes children).pieces =
      tagPieces name attributes false ++ (children.flatMap Node.pieces ++ [finishPiece name]) := by
  -- An element without children would close itself in its tag.
  cases children with
  | nil => exact absurd rfl present
  | cons child rest => simp [Node.pieces, nodesPieces_eq]

/-- An element without children has the pieces of its tag. -/
theorem pieces_empty (name : Name) (attributes : Attributes) :
    (Node.element name attributes []).pieces = tagPieces name attributes true := by
  simp [Node.pieces]

/-- Pieces are spelled one behind the other. -/
@[simp] theorem writePieces_append (left right : List Piece) :
    writePieces (left ++ right) = writePieces left ++ writePieces right :=
  List.flatMap_append ..

/-- Nodes in a row are spelled as each of them is. -/
theorem writePieces_nodes {nodes : List Node}
    (each : ∀ node ∈ nodes, writePieces node.pieces = writeTokens node.tokens) :
    writePieces (nodes.flatMap Node.pieces) = writeTokens (nodesTokens nodes) := by
  -- The induction is on the nodes, which are spelled one behind the other.
  induction nodes with
  | nil => rfl
  | cons node rest ih =>
    obtain ⟨here, behind⟩ := List.forall_mem_cons.1 each
    rw [List.flatMap_cons, writePieces_append, here, ih behind]
    simp [nodesTokens, writeTokens]

/-- The pieces of a record spell its tokens. -/
theorem Node.IsRecord.writePieces_eq {node : Node} (record : node.IsRecord) :
    writePieces node.pieces = writeTokens node.tokens := by
  -- The induction is on the shape of records; an element without children is written as one tag.
  induction record with
  | leaf value _ =>
    rw [pieces_element (by simp), writePieces_append, writePieces_tag]
    simp [writePieces, writeTokens, Node.pieces, Node.tokens, nodesTokens, finishPiece, Piece.write,
      Token.write_text, Token.write_finish]
  | @branch name attributes children _ _ ih =>
    by_cases present : children = []
    · subst present
      rw [pieces_empty, writePieces_tag, tokens_empty]
      simp [writeTokens]
    · rw [pieces_element present, tokens_element present, writePieces_append, writePieces_append,
        writePieces_tag, writePieces_nodes ih]
      simp [writePieces, writeTokens, finishPiece, Piece.write, Token.write_finish]

/-- The pieces of a document spell it. -/
theorem writePieces_tree {root : Tree} (record : root.toNode.IsRecord) :
    writePieces root.pieces = writeDocument root := by
  -- The declaration is spelled by pieces of its own.
  have declared : root.pieces = declarationPieces ++ root.toNode.pieces := rfl
  rw [declared, writePieces_append, record.writePieces_eq]
  rfl

/-! ### The layout of a document -/

/-- The pieces of a tag lead from text to text. -/
theorem laid_tag {name : Name} {attributes : Attributes} (simple : isSimpleTag name attributes)
    (closed : Bool) {rest : List Piece} (laid : Laid .text rest) :
    Laid .text (tagPieces name attributes closed ++ rest) := by
  simp only [isSimpleTag, Bool.and_eq_true, List.all_eq_true] at simple
  have ends : Spot.tag.Marks (tagEnd closed) .text := by
    cases closed <;> exact ⟨rfl, rfl, by decide, by decide⟩
  have blank : Spot.tag.Marks [' '] .tag := ⟨rfl, rfl, by decide, by decide⟩
  have quote : Spot.tag.Marks ['=', '\''] (.value '\'') := ⟨rfl, rfl, by decide, by decide⟩
  have closes : (Spot.value '\'').Marks ['\''] .tag := ⟨rfl, rfl, by decide, by decide⟩
  -- Each attribute leads from the tag into its value, and back to the tag.
  have spelled : ∀ entries : Attributes, (∀ entry ∈ entries, entry.1.isSimple) →
      Laid .tag (entries.flatMap attributePieces ++ ⟨.markup, tagEnd closed⟩ :: rest) := by
    intro entries
    induction entries with
    | nil => exact fun _ => .markup ends laid
    | cons entry others ih =>
      intro named
      obtain ⟨here, behind⟩ := List.forall_mem_cons.1 named
      have opens : Spot.tag.Marks (' ' :: entry.1.write ++ ['=', '\'']) (.value '\'') :=
        (blank.append (marks_name here)).append quote
      simpa [attributePieces] using Laid.markup opens (.value (.markup closes (ih behind)))
  have opens : Spot.text.Marks ['<'] .tag := ⟨rfl, rfl, by decide, by decide⟩
  simpa [tagPieces] using
    Laid.markup (opens.append (marks_name simple.1.1)) (spelled attributes simple.1.2)

/-- A closing tag leads from text to text. -/
theorem laid_finish {name : Name} (simple : name.isSimple) {rest : List Piece}
    (laid : Laid .text rest) : Laid .text (finishPiece name :: rest) := by
  -- The tag begins where the text stops, and the text goes on where the tag ends.
  have opens : Spot.text.Marks ['<', '/'] .tag := ⟨rfl, rfl, by decide, by decide⟩
  have closes : Spot.tag.Marks ['>'] .text := ⟨rfl, rfl, by decide, by decide⟩
  exact .markup ((opens.append (marks_name simple)).append closes) laid

/-- Nodes in a row lead from text to text if each of them does. -/
theorem laid_nodes {nodes : List Node}
    (each : ∀ node ∈ nodes, ∀ {rest}, Laid .text rest → Laid .text (node.pieces ++ rest))
    {rest : List Piece} (laid : Laid .text rest) :
    Laid .text (nodes.flatMap Node.pieces ++ rest) := by
  -- Each node is put in front of those behind it, which lead to text already.
  induction nodes with
  | nil => exact laid
  | cons node others ih =>
    obtain ⟨here, behind⟩ := List.forall_mem_cons.1 each
    rw [List.flatMap_cons, List.append_assoc]
    exact here (ih behind)

/-- The pieces of a record lead from text to text. -/
theorem Node.IsRecord.laid {node : Node} (record : node.IsRecord) {rest : List Piece}
    (laid : Laid .text rest) : Laid .text (node.pieces ++ rest) := by
  have name_simple {name : Name} {attributes : Attributes} (simple : isSimpleTag name attributes) :
      name.isSimple := by
    simp only [isSimpleTag, Bool.and_eq_true] at simple
    exact simple.1.1
  -- Each part leads from text to text, so that the parts can be put in front one by one.
  induction record generalizing rest with
  | @leaf name attributes value simple =>
    have text : Laid .text (⟨.text, value⟩ :: finishPiece name :: rest) :=
      .text (laid_finish (name_simple simple) laid)
    rw [pieces_element (by simp)]
    simpa [Node.pieces] using laid_tag simple false text
  | @branch name attributes children simple _ ih =>
    by_cases present : children = []
    · subst present
      simpa [pieces_empty] using laid_tag simple true laid
    · have below := laid_nodes ih (laid_finish (name_simple simple) laid)
      simpa [pieces_element present] using laid_tag simple false below

/-- A document of a record is one row of pieces. -/
theorem laid_tree {root : Tree} (record : root.toNode.IsRecord) : Laid .text root.pieces := by
  -- The declaration is cut around the value that it has.
  have opens : Spot.text.Marks "<?xml version='".toList (.value '\'') :=
    ⟨by decide, by decide, by decide, by decide⟩
  have closes : (Spot.value '\'').Marks "'?>".toList .text :=
    ⟨by decide, by decide, by decide, by decide⟩
  have below : Laid .text root.toNode.pieces := by simpa using record.laid .nil
  exact .markup opens (.value (.markup closes below))

/-! ### Strings -/

/-- The strings of a node: the values in its tags, and its texts. -/
def Node.strings (node : Node) : List Piece :=
  node.pieces.filter (·.place != .markup)

/-- The strings in the tags of an element stand before those below it. -/
@[simp] theorem strings_element (name : Name) (attributes : Attributes) (children : List Node) :
    (Node.element name attributes children).strings =
      attributes.map (fun entry => ⟨.value, entry.2⟩) ++ children.flatMap Node.strings := by
  have values : (attributes.flatMap attributePieces).filter (·.place != .markup) =
      attributes.map fun entry => ⟨.value, entry.2⟩ := by
    simp [List.filter_flatMap, attributePieces, List.map_eq_flatMap]
  -- Without children there is one tag, and otherwise the closing tag has no strings.
  by_cases present : children = []
  · subst present
    simp [Node.strings, pieces_empty, tagPieces, values]
  · have below : (children.flatMap Node.pieces).filter (·.place != .markup) =
        children.flatMap Node.strings := List.filter_flatMap
    simp [Node.strings, pieces_element present, tagPieces, finishPiece, values, below]

/-- The one string of a text is the text itself. -/
@[simp] theorem strings_text (value : List Char) :
    (Node.text value).strings = [⟨.text, value⟩] := by
  simp [Node.strings, Node.pieces]

mutual

/-- A node with its strings rewritten. -/
def Node.map (rewrite : Place → List Char → List Char) : Node → Node
  | .element name attributes children =>
    -- Names are markup, and are not rewritten.
    .element name (attributes.map fun entry => (entry.1, rewrite .value entry.2))
      (mapNodes rewrite children)
  | .text value => .text (rewrite .text value)

/-- Nodes in a row with their strings rewritten. -/
def mapNodes (rewrite : Place → List Char → List Char) : List Node → List Node
  | [] => []
  | node :: rest => node.map rewrite :: mapNodes rewrite rest

end

/-- A document with its strings rewritten. -/
def Tree.map (rewrite : Place → List Char → List Char) (root : Tree) : Tree :=
  { root with
    attributes := root.attributes.map fun entry => (entry.1, rewrite .value entry.2)
    children := mapNodes rewrite root.children }

/-- Nodes in a row are rewritten one by one. -/
theorem mapNodes_eq (rewrite : Place → List Char → List Char) (nodes : List Node) :
    mapNodes rewrite nodes = nodes.map (Node.map rewrite) := by
  -- The first node is rewritten in front of the others.
  induction nodes with
  | nil => rfl
  | cons node rest ih => rw [mapNodes, List.map_cons, ih]

/-- Rewriting a string leaves it in its place. -/
@[simp] theorem Piece.place_map (rewrite : Place → List Char → List Char) (piece : Piece) :
    (piece.map rewrite).place = piece.place := by
  obtain ⟨place, string⟩ := piece
  cases place <;> rfl

/-- Rewriting a record rewrites its pieces. -/
theorem Node.IsRecord.pieces_map {node : Node} (record : node.IsRecord)
    (rewrite : Place → List Char → List Char) :
    (node.map rewrite).pieces = node.pieces.map (Piece.map rewrite) := by
  -- Names and the quotes around values are markup, and are not rewritten.
  have tag (name : Name) (attributes : Attributes) (closed : Bool) :
      tagPieces name (attributes.map fun entry => (entry.1, rewrite .value entry.2)) closed =
        (tagPieces name attributes closed).map (Piece.map rewrite) := by
    simp [tagPieces, List.map_flatMap, List.flatMap_map, attributePieces, Piece.map]
  induction record with
  | leaf value _ =>
    rw [Node.map, pieces_element (by simp [mapNodes]), pieces_element (by simp), tag]
    simp [mapNodes, Node.map, Node.pieces, Piece.map, finishPiece]
  | @branch name attributes children _ _ ih =>
    by_cases present : children = []
    · subst present
      rw [Node.map, mapNodes, pieces_empty, pieces_empty, tag]
    · have kept : mapNodes rewrite children ≠ [] := by simpa [mapNodes_eq] using present
      rw [Node.map, pieces_element kept, pieces_element present, tag]
      have below : (mapNodes rewrite children).flatMap Node.pieces =
          (children.flatMap Node.pieces).map (Piece.map rewrite) := by
        rw [mapNodes_eq, List.flatMap_map, List.map_flatMap, List.flatMap_def, List.flatMap_def,
          List.map_congr_left ih]
      simp [below, finishPiece, Piece.map]

/-- Rewriting a record rewrites its strings. -/
theorem Node.IsRecord.strings_map {node : Node} (record : node.IsRecord)
    (rewrite : Place → List Char → List Char) :
    (node.map rewrite).strings = node.strings.map (Piece.map rewrite) := by
  simp [Node.strings, record.pieces_map, List.filter_map, Function.comp_def]

/-- A record stays as it is if each of its strings does. -/
theorem Node.IsRecord.map_eq_self {node : Node} (record : node.IsRecord)
    {rewrite : Place → List Char → List Char}
    (fixed : ∀ piece ∈ node.strings, rewrite piece.place piece.string = piece.string) :
    node.map rewrite = node := by
  -- The values in a tag are strings of its element.
  have values (attributes : Attributes)
      (kept : ∀ entry ∈ attributes, rewrite .value entry.2 = entry.2) :
      (attributes.map fun entry => (entry.1, rewrite .value entry.2)) = attributes := by
    refine (List.map_congr_left fun entry member => ?_).trans (List.map_id' _)
    rw [kept entry member]
  induction record with
  | @leaf name attributes value _ =>
    simp only [strings_element, List.forall_mem_append, List.forall_mem_map] at fixed
    have text : rewrite .text value = value := fixed.2 ⟨.text, value⟩ (by simp)
    rw [Node.map, values attributes fixed.1, mapNodes_eq]
    simp [Node.map, text]
  | @branch name attributes children _ _ ih =>
    simp only [strings_element, List.forall_mem_append, List.forall_mem_map] at fixed
    have below : children.map (Node.map rewrite) = children := by
      refine (List.map_congr_left fun child member => ?_).trans (List.map_id' _)
      exact ih child member fun piece inside =>
        fixed.2 piece (List.mem_flatMap.2 ⟨child, member, inside⟩)
    rw [Node.map, values attributes fixed.1, mapNodes_eq, below]

end RuleMetadata.Xml

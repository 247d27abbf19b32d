import RuleMetadata.Xml.Lexer

/-! Building the tree of a document from its tokens. -/

namespace RuleMetadata.Xml

/-- An element whose end is still to come, with its children so far in reverse. -/
structure Frame where
  name : Name
  attributes : Attributes
  /-- The tags of the namespaces declared here or around. -/
  spaces : List String
  children : List Node

/-- Whether a name declares the default namespace; a tag in front of it does not matter. -/
def Name.declaresDefault (name : Name) : Bool :=
  name.space != some "xmlns" && name.base = "xmlns"

/-- Whether a name declares a namespace, the default one included. -/
def Name.declaresSpace (name : Name) : Bool :=
  name.space = some "xmlns" || name.declaresDefault

/-- The tags of the namespaces that attributes declare. -/
def declaredSpaces (attributes : Attributes) : List String :=
  attributes.filterMap fun (name, _) => if name.space = some "xmlns" then some name.base else none

/-- Whether the namespace of a name is among the known ones. -/
def Name.isBound (spaces : List String) (name : Name) : Bool :=
  name.space.all spaces.contains

/-- Whether no name occurs twice. -/
def distinctNames : List Name → Bool
  | [] => true
  -- Names are compared with the tags of their namespaces, not with what these stand for.
  | name :: rest => !rest.contains name && distinctNames rest

/-- The frame that a tag opens: its names are distinct and bound, the default namespace is declared
once at most, and no namespace tag is declared empty. The tag `xml` is known inside of elements, to
their attributes too. -/
def openFrame? (spaces : List String) (name : Name) (attributes : Attributes) : Option Frame :=
  let spaces := declaredSpaces attributes ++ spaces
  let inner := "xml" :: spaces
  -- Declarations of namespaces are no attributes of the element.
  let proper := attributes.filter (!·.1.declaresSpace)
  if distinctNames (attributes.map (·.1)) && name.isBound spaces &&
      proper.all (·.1.isBound inner) &&
      (attributes.filter (·.1.declaresDefault)).length ≤ 1 &&
      attributes.all (fun (name, value) => name.space != some "xmlns" || !value.isEmpty) then
    some ⟨name, proper, inner, []⟩
  else none

/-- The element that a frame holds. -/
def Frame.close (frame : Frame) : Tree :=
  ⟨frame.name, frame.attributes, frame.children.reverse⟩

/-- Adds a child to a frame. -/
def Frame.add (frame : Frame) (node : Node) : Frame :=
  { frame with children := node :: frame.children }

/-- Whether only blanks, comments and instructions are left. -/
def isEpilogue : List Token → Bool
  | [] => true
  | .comment :: rest => isEpilogue rest
  | .instruction :: rest => isEpilogue rest
  -- A text counts as blank only as it is spelled, so a reference to a blank does not.
  | .text spelling :: rest => spelling.all isSpace && isEpilogue rest
  | _ :: _ => false

/-- Reads tokens inside the open elements, the innermost one and those around it, up to the end of
the document. -/
def parseContent? (frame : Frame) (outer : List Frame) : List Token → Option Tree
  | [] => none
  | .comment :: rest => parseContent? frame outer rest
  | .instruction :: rest => parseContent? frame outer rest
  | .text spelling :: rest =>
    -- The end of a verbatim section may not stand in a text.
    if hasVerbatimEnd spelling then none
    else match decode spelling with
      | none => none
      | some value => parseContent? (frame.add (.text value)) outer rest
  | .verbatim value :: rest => parseContent? (frame.add (.text value)) outer rest
  | .start name attributes closed :: rest =>
    match openFrame? frame.spaces name attributes with
    | none => none
    | some inner =>
      if closed then parseContent? (frame.add inner.close.toNode) outer rest
      else parseContent? inner (frame :: outer) rest
  | .finish name :: rest =>
    if name = frame.name then
      -- The outermost end is that of the root, and ends the document.
      match outer with
      | [] => if isEpilogue rest then some frame.close else none
      | next :: outer => parseContent? (next.add frame.close.toNode) outer rest
    else none
  | .declaration :: _ => none
  | .doctype :: _ => none

/-- Reads tokens in front of the root element; a document type does not come first. -/
def parseProlog? (first : Bool) : List Token → Option Tree
  | .comment :: rest => parseProlog? false rest
  | .instruction :: rest => parseProlog? false rest
  | .text spelling :: rest => if spelling.all isSpace then parseProlog? false rest else none
  | .doctype :: rest => if first then none else parseProlog? false rest
  | .start name attributes closed :: rest =>
    match openFrame? [] name attributes with
    | none => none
    | some frame =>
      -- A root that closes itself is the whole document.
      if closed then (if isEpilogue rest then some frame.close else none)
      else parseContent? frame [] rest
  | _ => none

/-- The root element of a document; the declaration stands at its very start. -/
def parseTokens? : List Token → Option Tree
  | .declaration :: rest => parseProlog? false rest
  | tokens => parseProlog? true tokens

/-- The root element of a well-formed document. -/
def parse? (chars : List Char) : Option Tree := do
  parseTokens? (← lex? chars)

end RuleMetadata.Xml

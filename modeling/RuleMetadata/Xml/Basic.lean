/-! XML documents as trees: elements with attributes, and text. -/

namespace RuleMetadata.Xml

/-- A name, with the tag of its namespace if it has one. -/
structure Name where
  space : Option String := none
  base : String
  deriving DecidableEq, Repr

/-- A name without a namespace. -/
def Name.plain (base : String) : Name := ⟨none, base⟩

/-- The attributes of an element, in order. -/
abbrev Attributes := List (Name × List Char)

/-- An element, or a piece of text between elements. -/
inductive Node where
  | element (name : Name) (attributes : Attributes) (children : List Node)
  | text (value : List Char)

/-- An element by itself, with everything below it. -/
structure Tree where
  name : Name
  attributes : Attributes
  children : List Node

namespace Tree

/-- The element as a node among others. -/
def toNode (tree : Tree) : Node :=
  .element tree.name tree.attributes tree.children

/-- The value of the attribute with a plain name. -/
def attribute? (element : Tree) (name : String) : Option String :=
  (element.attributes.find? (·.1 = .plain name)).map fun entry => String.ofList entry.2

/-- The child elements with a base name, in whatever namespace. -/
def childrenNamed (element : Tree) (base : String) : List Tree :=
  element.children.filterMap fun
    | .element name attributes children =>
      -- Only the base counts, so that an element is found in whatever namespace it stands.
      if name.base = base then some ⟨name, attributes, children⟩ else none
    | .text _ => none

/-- The first child element with a base name. -/
def child? (element : Tree) (base : String) : Option Tree :=
  (element.childrenNamed base).head?

/-- The text directly inside an element, without that of its child elements. -/
def content (element : Tree) : String :=
  String.ofList (element.children.flatMap fun
    | .text value => value
    -- What stands inside a child element belongs to that element.
    | .element .. => [])

end Tree

/-- The blanks of XML. -/
def isSpace (char : Char) : Bool :=
  char == ' ' || char == '\t' || char == '\n' || char == '\r'

/-- The characters that may begin a name without a colon. -/
def isNameStart (char : Char) : Bool :=
  let code := char.val
  -- The colon is left out, since it sets the tag of a name apart.
  char == '_' || ('A' ≤ char && char ≤ 'Z') || ('a' ≤ char && char ≤ 'z') ||
  (0xC0 ≤ code && code ≤ 0xD6) || (0xD8 ≤ code && code ≤ 0xF6) ||
  (0xF8 ≤ code && code ≤ 0x2FF) || (0x370 ≤ code && code ≤ 0x37D) ||
  (0x37F ≤ code && code ≤ 0x1FFF) || (0x200C ≤ code && code ≤ 0x200D) ||
  (0x2070 ≤ code && code ≤ 0x218F) || (0x2C00 ≤ code && code ≤ 0x2FEF) ||
  (0x3001 ≤ code && code ≤ 0xD7FF) || (0xF900 ≤ code && code ≤ 0xFDCF) ||
  (0xFDF0 ≤ code && code ≤ 0xFFFD) || (0x10000 ≤ code && code ≤ 0xEFFFF)

/-- The characters that may follow in a name without a colon. -/
def isNameChar (char : Char) : Bool :=
  let code := char.val
  isNameStart char || char == '-' || char == '.' || char.isDigit || code == 0xB7 ||
  (0x300 ≤ code && code ≤ 0x36F) || (0x203F ≤ code && code ≤ 0x2040)

end RuleMetadata.Xml

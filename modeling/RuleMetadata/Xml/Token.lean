import RuleMetadata.Xml.Basic

/-! XML as a row of tokens, and the spelling of each one. -/

namespace RuleMetadata.Xml

/-- A piece of XML text between two boundaries of markup. -/
inductive Token where
  | declaration
  | doctype
  | comment
  | instruction
  | start (name : Name) (attributes : Attributes) (closed : Bool)
  | finish (name : Name)
  /-- Text as it is spelled, references included. -/
  | text (spelling : List Char)
  | verbatim (value : List Char)
  deriving DecidableEq, Repr

/-- The spelling of a character inside an attribute value. -/
def escapeValueChar : Char → List Char
  | '<' => "&lt;".toList
  | '>' => "&gt;".toList
  | '&' => "&amp;".toList
  | '\'' => "&apos;".toList
  | '"' => "&quot;".toList
  -- Any other character is kept, be it a blank or one that is not allowed.
  | char => [char]

/-- The spelling of a character inside text. -/
def escapeTextChar : Char → List Char
  | '<' => "&lt;".toList
  | '>' => "&gt;".toList
  | '&' => "&amp;".toList
  -- Quotes end nothing in a text, and stand for themselves.
  | char => [char]

/-- The spelling of an attribute value. -/
def escapeValue (value : List Char) : List Char :=
  value.flatMap escapeValueChar

/-- The spelling of text. -/
def escapeText (value : List Char) : List Char :=
  value.flatMap escapeTextChar

/-- The value of a digit to the base ten or sixteen. -/
def referenceDigit? (base : Nat) (char : Char) : Option Nat :=
  let value :=
    if '0' ≤ char && char ≤ '9' then char.toNat - '0'.toNat
    else if 'a' ≤ char && char ≤ 'f' then char.toNat - 'a'.toNat + 10
    else if 'A' ≤ char && char ≤ 'F' then char.toNat - 'A'.toNat + 10
    -- A character that is no digit counts as too large a one.
    else base
  if value < base then some value else none

/-- The number that digits spell behind those of a total. -/
def referenceNumber? (base total : Nat) : List Char → Option Nat
  | [] => some total
  | char :: rest =>
    (referenceDigit? base char).bind fun value => referenceNumber? base (total * base + value) rest

/-- The character with a spelled number; there is none for a surrogate or beyond the last one. -/
def numberedChar? (base : Nat) (digits : List Char) : Option Char :=
  -- There has to be one digit at least.
  if digits.isEmpty then none
  else (referenceNumber? base 0 digits).bind fun code =>
    if code.isValidChar then some (Char.ofNat code) else none

/-- The character that a reference names: by number, or by one of five words. -/
def entity? (name : List Char) : Option Char :=
  match name with
  | '#' :: 'x' :: digits => numberedChar? 16 digits
  | '#' :: digits => numberedChar? 10 digits
  -- No other names are declared, since a document type is passed over.
  | _ =>
    if name = "lt".toList then some '<'
    else if name = "gt".toList then some '>'
    else if name = "amp".toList then some '&'
    else if name = "apos".toList then some '\''
    else if name = "quot".toList then some '"'
    else none

/-- A text with its references replaced; `pending` holds the name of a reference backwards. -/
def decodeFrom (pending : Option (List Char)) : List Char → Option (List Char)
  -- A reference that never ends is refused.
  | [] => if pending.isNone then some [] else none
  | char :: rest =>
    match pending with
    | none =>
      -- A reference goes on up to its semicolon, whatever stands in between.
      if char = '&' then decodeFrom (some []) rest
      else (decodeFrom none rest).map (char :: ·)
    | some name =>
      if char = ';' then
        (entity? name.reverse).bind fun char => (decodeFrom none rest).map (char :: ·)
      else decodeFrom (some (char :: name)) rest

/-- A text with its references replaced. -/
def decode (spelling : List Char) : Option (List Char) :=
  decodeFrom none spelling

/-- Whether a text contains the end of a verbatim section. -/
def hasVerbatimEnd : List Char → Bool
  | [] => false
  | ']' :: ']' :: '>' :: _ => true
  | _ :: rest => hasVerbatimEnd rest

namespace Name

/-- The spelling of a name. -/
def write (name : Name) : List Char :=
  match name.space with
  | none => name.base.toList
  | some space => space.toList ++ ':' :: name.base.toList

end Name

/-- The spelling of attributes, each behind a blank and in single quotes. -/
def writeAttributes (attributes : Attributes) : List Char :=
  attributes.flatMap fun (name, value) =>
    -- Single quotes inside of the value are spelled as references.
    ' ' :: name.write ++ '=' :: '\'' :: escapeValue value ++ ['\'']

/-- The spelling of a token; comments and instructions are written empty. -/
def Token.write : Token → List Char
  | .declaration => "<?xml version='1.0'?>".toList
  | .doctype => "<!DOCTYPE _>".toList
  | .comment => "<!---->".toList
  | .instruction => "<?_?>".toList
  -- A tag that closes itself has no closing one.
  | .start name attributes closed =>
    '<' :: name.write ++ writeAttributes attributes ++ (if closed then ['/', '>'] else ['>'])
  | .finish name => '<' :: '/' :: name.write ++ ['>']
  | .text spelling => spelling
  | .verbatim value => "<![CDATA[".toList ++ value ++ "]]>".toList

mutual

/-- The tokens of a node. -/
def Node.tokens : Node → List Token
  | .text value => [.text (escapeText value)]
  -- An element without children has one tag only, which closes itself.
  | .element name attributes [] => [.start name attributes true]
  | .element name attributes (child :: children) =>
    .start name attributes false :: child.tokens ++ nodesTokens children ++ [.finish name]

/-- The tokens of nodes in a row. -/
def nodesTokens : List Node → List Token
  | [] => []
  | node :: rest => node.tokens ++ nodesTokens rest

end

/-- The spelling of tokens in a row. -/
def writeTokens (tokens : List Token) : List Char :=
  tokens.flatMap Token.write

/-- The document with a root element, on one line. -/
def writeDocument (root : Tree) : List Char :=
  writeTokens (.declaration :: root.toNode.tokens)

end RuleMetadata.Xml

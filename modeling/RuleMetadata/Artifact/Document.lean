import RuleMetadata.Artifact.Basic
import RuleMetadata.Xml.Parser

/-! Artifacts as XML documents.

A rule is the element `rule` with a name, a type if it has one, and a language; below it stand the
description, the attributes and the signature. A named object has only a name, a description and
attributes. An attribute holds its one value in itself, and a list as items. -/

namespace RuleMetadata

open Xml

/-- Why a document holds no artifact. -/
inductive DocumentError where
  | malformed
  | unknownRoot (name : String)
  | missingAttribute (element name : String)
  | notBoolean (name value : String)
  deriving DecidableEq, Repr

/-- The wording of a document error. -/
def DocumentError.message : DocumentError → String
  | .malformed => "failed to parse document"
  -- Whatever is wrong with a well-formed document is wrong with its shape.
  | .unknownRoot name => s!"unexpected document shape: unknown root element <{name}>"
  | .missingAttribute element name =>
    s!"unexpected document shape: <{element}> is missing the `{name}` attribute"
  | .notBoolean name value =>
    s!"unexpected document shape: `{name}` must be true or false, got `{value}`"

namespace Document

/-- An attribute of an element. -/
def entry (name value : String) : Name × List Char :=
  (.plain name, value.toList)

/-- An attribute of an element, if it is there. -/
def optionalEntry (name : String) (value : Option String) : Attributes :=
  (value.map (entry name)).toList

/-- An element without a namespace. -/
def node (name : String) (attributes : Attributes) (children : List Node) : Node :=
  .element (.plain name) attributes children

/-- An element that holds one text, even an empty one. -/
def textNode (name text : String) : Node :=
  -- An empty text tells a present part from an absent one.
  node name [] [.text text.toList]

/-- An element that holds a text, if there is one. -/
def textNode? (name : String) (text : Option String) : List Node :=
  (text.map (textNode name)).toList

/-- A truth value as an attribute has it. -/
def flagText (value : Bool) : String :=
  if value then "true" else "false"

/-- One attribute as an element: its value, or an item for each value of a list. -/
def attributeNode : String × AttributeValue → Node
  | (key, .single value) => node "attribute" [entry "key" key, entry "value" value] []
  -- Without a value of its own, an attribute is a list, even an empty one.
  | (key, .list values) => node "attribute" [entry "key" key] (values.map (textNode "item"))

/-- The element of all attributes. -/
def attributesNode (attributes : AttributeMap) : Node :=
  node "attributes" [] (attributes.map attributeNode)

/-- One argument as an element. -/
def argumentNode (argument : Argument) : Node :=
  node "argument"
    [entry "name" argument.name, entry "type" argument.type,
      entry "multi" (flagText argument.multiValued), entry "required" (flagText argument.required)]
    -- What may be absent stands below the tag, and everything else in it.
    (textNode? "description" argument.description ++ textNode? "prompt" argument.prompt)

/-- The element of a list of arguments. -/
def argumentsNode (name : String) (arguments : List Argument) : Node :=
  node name [] (arguments.map argumentNode)

/-- The element of a signature. -/
def signatureNode (signature : Signature) : Node :=
  node "signature" (optionalEntry "returnType" signature.returnType)
    -- Both lists are there even if they are empty.
    [argumentsNode "arguments" signature.arguments, argumentsNode "returns" signature.returns]

/-- The root element of an artifact's document. -/
def root : Artifact → Tree
  | .rule rule =>
    { name := .plain "rule"
      attributes :=
        -- The type is the only part of the tag that may be missing.
        entry "name" rule.name :: optionalEntry "type" rule.type ++ [entry "language" rule.language]
      children :=
        textNode? "description" rule.description ++
          [attributesNode rule.attributes, signatureNode rule.signature] }
  | .namedObject object =>
    { name := .plain "named-object"
      attributes := [entry "name" object.name]
      children :=
        textNode? "description" object.description ++ [attributesNode object.attributes] }

/-- The document of an artifact. -/
def render (artifact : Artifact) : String :=
  String.ofList (writeDocument (root artifact))

/-- The value of an attribute that must be there. -/
def required (element : Tree) (name : String) : Except DocumentError String :=
  match element.attribute? name with
  | some value => .ok value
  | none => .error (.missingAttribute element.name.base name)

/-- The value of an attribute that must be a truth value. -/
def requiredFlag (element : Tree) (name : String) : Except DocumentError Bool := do
  let value ← required element name
  -- The two words are those that are written, and no other spelling counts.
  if value = "true" then return true
  else if value = "false" then return false
  else throw (.notBoolean name value)

/-- The text of the first child element of a name. -/
def childText? (element : Tree) (name : String) : Option String :=
  (element.child? name).map Tree.content

/-- Reads attribute elements in order into a map. -/
def readAttributeEntries (map : AttributeMap) : List Tree → Except DocumentError AttributeMap
  | [] => .ok map
  | element :: rest => do
    let key ← required element "key"
    -- An attribute with a value has no items that count.
    let value := match element.attribute? "value" with
      | some value => AttributeValue.single value
      | none => .list ((element.childrenNamed "item").map Tree.content)
    readAttributeEntries (map.insert key value) rest

/-- Reads the attributes below an element. -/
def readAttributes (parent : Tree) : Except DocumentError AttributeMap :=
  match parent.child? "attributes" with
  -- A document without attributes holds an artifact without any.
  | none => .ok []
  | some list => readAttributeEntries [] (list.childrenNamed "attribute")

/-- Reads one argument. -/
def readArgument (element : Tree) : Except DocumentError Argument := do
  let name ← required element "name"
  let type ← required element "type"
  let multiValued ← requiredFlag element "multi"
  let isRequired ← requiredFlag element "required"
  -- The texts may be missing, and are so if there is no child of the name.
  return {
    name, type, multiValued, required := isRequired
    description := childText? element "description"
    prompt := childText? element "prompt" }

/-- Reads argument elements in order. -/
def readArgumentEntries : List Tree → Except DocumentError (List Argument)
  | [] => .ok []
  | element :: rest => do
    -- The first argument that is refused decides.
    let argument ← readArgument element
    let arguments ← readArgumentEntries rest
    return argument :: arguments

/-- Reads a list of arguments below a signature. -/
def readArguments (signature : Tree) (name : String) : Except DocumentError (List Argument) :=
  match signature.child? name with
  | none => .ok []
  | some list => readArgumentEntries (list.childrenNamed "argument")

/-- Reads the signature below an element. -/
def readSignature (parent : Tree) : Except DocumentError Signature :=
  match parent.child? "signature" with
  -- A missing signature is one without arguments and returns.
  | none => .ok {}
  | some element => do
    let arguments ← readArguments element "arguments"
    let returns ← readArguments element "returns"
    return { arguments, returns, returnType := element.attribute? "returnType" }

/-- Reads the artifact that a root element describes. -/
def readRoot (root : Tree) : Except DocumentError Artifact :=
  -- The name of the root tells the kind of artifact.
  if root.name.base = "rule" then do
    let name ← required root "name"
    let language ← required root "language"
    let attributes ← readAttributes root
    let signature ← readSignature root
    return .rule {
      name, language, attributes, signature
      type := root.attribute? "type"
      description := childText? root "description" }
  else if root.name.base = "named-object" then do
    let name ← required root "name"
    let attributes ← readAttributes root
    return .namedObject { name, attributes, description := childText? root "description" }
  else .error (.unknownRoot root.name.base)

/-- The artifact of a document. -/
def parse (text : String) : Except DocumentError Artifact :=
  match Xml.parse? text.toList with
  | none => .error .malformed
  | some root => readRoot root

end Document

end RuleMetadata

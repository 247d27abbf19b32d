import RuleMetadata.Proofs.Artifact.Assembly
import RuleMetadata.Proofs.Xml.Layout
import RuleMetadata.Round.Writing

/-! The document of an artifact reads back as exactly that artifact. -/

namespace RuleMetadata

open Xml

namespace Document

/-! ### Text between elements is not seen -/

/-- The elements that hold nothing but elements, so that text between these does not matter. -/
def isLoose (base : String) : Bool :=
  ["rule", "named-object", "attributes", "attribute", "signature", "arguments", "returns",
    "argument"].contains base

section

variable {one other : Tree} (alike : one.Alike isLoose other)
include alike

/-- A required attribute is the same in elements that are alike, or missing in both. -/
theorem required_eq_of_alike (name : String) : required one name = required other name := by
  rw [required, required, alike.attribute?_eq, alike.name_eq]

/-- A required flag is read alike, since the attribute is. -/
theorem requiredFlag_eq_of_alike (name : String) :
    requiredFlag one name = requiredFlag other name := by
  rw [requiredFlag, requiredFlag, required_eq_of_alike alike]

/-- The children of a name have the same texts, where text matters to them. -/
theorem contents_eq_of_alike {base : String} (strict : isLoose base = false) :
    (one.childrenNamed base).map Tree.content = (other.childrenNamed base).map Tree.content := by
  have alike_one_by_one := alike.childrenNamed base
  have named : ∀ child ∈ other.childrenNamed base, child.name.base = base :=
    fun _ => Tree.base_of_mem_childrenNamed
  generalize one.childrenNamed base = left at alike_one_by_one ⊢
  generalize other.childrenNamed base = right at alike_one_by_one named ⊢
  -- The induction is on the children of the name, alike one by one.
  induction alike_one_by_one with
  | nil => rfl
  | cons first _ ih =>
    obtain ⟨first_named, others_named⟩ := List.forall_mem_cons.1 named
    rw [List.map_cons, List.map_cons, ih others_named,
      first.content_eq (by rw [first_named]; exact strict)]

/-- The text of a first child is the same where text matters to it. -/
theorem childText?_eq_of_alike {base : String} (strict : isLoose base = false) :
    childText? one base = childText? other base := by
  -- The first child is the first of all that have the name.
  have same := congrArg List.head? (contents_eq_of_alike alike strict)
  simpa only [childText?, Tree.child?, List.head?_map] using same

/-- All that is read of an argument are attributes and texts of child elements. -/
theorem readArgument_eq_of_alike : readArgument one = readArgument other := by
  -- The texts that are read are in elements where text matters.
  simp only [readArgument, required_eq_of_alike alike, requiredFlag_eq_of_alike alike,
    childText?_eq_of_alike alike (rfl : isLoose "description" = false),
    childText?_eq_of_alike alike (rfl : isLoose "prompt" = false)]

end

/-- Arguments in a row are read alike, or refused at the same one. -/
theorem readArgumentEntries_eq_of_alike {ones others : List Tree}
    (each : List.Forall₂ (Tree.Alike isLoose) ones others) :
    readArgumentEntries ones = readArgumentEntries others := by
  -- The induction is on the elements, alike one by one.
  induction each with
  | nil => rfl
  | cons first _ ih =>
    rw [readArgumentEntries, readArgumentEntries, readArgument_eq_of_alike first, ih]

/-- Attributes in a row are read alike, whatever was read in front of them. -/
theorem readAttributeEntries_eq_of_alike (map : AttributeMap) {ones others : List Tree}
    (each : List.Forall₂ (Tree.Alike isLoose) ones others) :
    readAttributeEntries map ones = readAttributeEntries map others := by
  -- The induction is on the elements, alike one by one; each is read into the map so far.
  induction each generalizing map with
  | nil => rfl
  | cons first _ ih =>
    simp only [readAttributeEntries, required_eq_of_alike first, first.attribute?_eq,
      contents_eq_of_alike first (rfl : isLoose "item" = false), ih]

section

variable {one other : Tree} (alike : one.Alike isLoose other)
include alike

/-- A list of arguments is read alike, also where there is none. -/
theorem readArguments_eq_of_alike (name : String) :
    readArguments one name = readArguments other name := by
  have first := alike.child? name
  rw [readArguments, readArguments]
  generalize one.child? name = left at first ⊢
  generalize other.child? name = right at first ⊢
  -- Either both have no list of the name, or both lists are alike.
  cases first with
  | none => rfl
  | some list => exact readArgumentEntries_eq_of_alike (list.childrenNamed "argument")

/-- The attributes are read alike, also where there are none. -/
theorem readAttributes_eq_of_alike : readAttributes one = readAttributes other := by
  have first := alike.child? "attributes"
  rw [readAttributes, readAttributes]
  generalize one.child? "attributes" = left at first ⊢
  generalize other.child? "attributes" = right at first ⊢
  -- Either both have no list, or both lists are alike.
  cases first with
  | none => rfl
  | some list => exact readAttributeEntries_eq_of_alike [] (list.childrenNamed "attribute")

/-- The signature is read alike, also where there is none. -/
theorem readSignature_eq_of_alike : readSignature one = readSignature other := by
  have first := alike.child? "signature"
  rw [readSignature, readSignature]
  generalize one.child? "signature" = left at first ⊢
  generalize other.child? "signature" = right at first ⊢
  -- Either both have no signature, or both signatures are alike.
  cases first with
  | none => rfl
  | some element =>
    simp only [readArguments_eq_of_alike element, element.attribute?_eq]

/-- Elements that are alike are read as the same artifact. -/
theorem readRoot_eq_of_alike : readRoot one = readRoot other := by
  -- Every part of an artifact is an attribute, the text of a leaf, or below a child element.
  simp only [readRoot, alike.name_eq, alike.attribute?_eq, required_eq_of_alike alike,
    readAttributes_eq_of_alike alike, readSignature_eq_of_alike alike,
    childText?_eq_of_alike alike (rfl : isLoose "description" = false)]

end

/-! ### The elements of an artifact -/

/-- A text as an element by itself. -/
def textTree (name text : String) : Tree :=
  ⟨.plain name, [], [.text text.toList]⟩

/-- One attribute as an element by itself. -/
def attributeTree : String × AttributeValue → Tree
  | (key, .single value) => ⟨.plain "attribute", [entry "key" key, entry "value" value], []⟩
  -- A list is written as items, also if there is none or only one.
  | (key, .list values) =>
    ⟨.plain "attribute", [entry "key" key], values.map fun value => (textTree "item" value).toNode⟩

/-- One argument as an element by itself. -/
def argumentTree (argument : Argument) : Tree :=
  ⟨.plain "argument",
    [entry "name" argument.name, entry "type" argument.type,
      entry "multi" (flagText argument.multiValued), entry "required" (flagText argument.required)],
    -- A text that is missing leaves no element.
    textNode? "description" argument.description ++ (textNode? "prompt" argument.prompt ++ [])⟩

/-- All attributes as an element by itself. -/
def attributesTree (attributes : AttributeMap) : Tree :=
  ⟨.plain "attributes", [], attributes.map fun entry => (attributeTree entry).toNode⟩

/-- A list of arguments as an element by itself. -/
def argumentsTree (name : String) (arguments : List Argument) : Tree :=
  ⟨.plain name, [], arguments.map fun argument => (argumentTree argument).toNode⟩

/-- A signature as an element by itself. -/
def signatureTree (signature : Signature) : Tree :=
  ⟨.plain "signature", optionalEntry "returnType" signature.returnType,
    -- Both lists are written even if they are empty.
    [(argumentsTree "arguments" signature.arguments).toNode,
      (argumentsTree "returns" signature.returns).toNode]⟩

/-- The element of all attributes holds one element for each of them. -/
theorem attributesNode_eq (attributes : AttributeMap) :
    attributesNode attributes = (attributesTree attributes).toNode := by
  -- A list has an item for each value, and a single value stands in the tag.
  have each : ∀ entry, attributeNode entry = (attributeTree entry).toNode := by
    rintro ⟨key, value⟩
    cases value <;> rfl
  simp [attributesNode, attributesTree, node, Tree.toNode, each]

/-- The element of a signature holds its two lists of arguments. -/
theorem signatureNode_eq (signature : Signature) :
    signatureNode signature = (signatureTree signature).toNode := by
  -- An argument holds its texts, of which each may be missing.
  have each : ∀ argument, argumentNode argument = (argumentTree argument).toNode := by
    intro argument
    simp [argumentNode, argumentTree, node, Tree.toNode]
  simp [signatureNode, signatureTree, argumentsNode, argumentsTree, node, Tree.toNode, each]

/-- Elements that are made with one base name are found under it, in their order. -/
theorem childrenNamed_map {α : Type} {base : String} {make : α → Tree}
    (named : ∀ item, (make item).name.base = base) (name : Name) (attributes : Attributes)
    (items : List α) :
    Tree.childrenNamed ⟨name, attributes, items.map fun item => (make item).toNode⟩ base =
      items.map make := by
  -- Each element passes the test of its name, and is then taken apart and put together again.
  rw [Tree.childrenNamed, List.filterMap_map, ← List.filterMap_eq_map]
  congr 1
  funext item
  simp [Tree.toNode, named item]

/-- The content of an element with one text is that text. -/
@[simp] theorem content_textTree (name text : String) : (textTree name text).content = text := by
  simp [textTree, Tree.content]

/-- Names without a tag are told apart by their bases. -/
@[simp] theorem plain_inj (left right : String) :
    Name.plain left = .plain right ↔ left = right := by
  simp [Name.plain]

/-- Looking for an attribute stops at the first one of the name. -/
@[simp] theorem attribute?_entry (tag : Name) (name value : String) (rest : Attributes)
    (children : List Node) (wanted : String) :
    Tree.attribute? ⟨tag, entry name value :: rest, children⟩ wanted =
      if name = wanted then some value else Tree.attribute? ⟨tag, rest, children⟩ wanted := by
  by_cases same : name = wanted <;> simp [Tree.attribute?, entry, same]

/-- An element without attributes has none of any name. -/
@[simp] theorem attribute?_nil (tag : Name) (children : List Node) (wanted : String) :
    Tree.attribute? ⟨tag, [], children⟩ wanted = none := rfl

/-- An optional attribute is found if it is there, and what follows it otherwise. -/
@[simp] theorem attribute?_optionalEntry (tag : Name) (name : String) (value : Option String)
    (rest : Attributes) (children : List Node) (wanted : String) :
    Tree.attribute? ⟨tag, optionalEntry name value ++ rest, children⟩ wanted =
      if name = wanted then value <|> Tree.attribute? ⟨tag, rest, children⟩ wanted
      else Tree.attribute? ⟨tag, rest, children⟩ wanted := by
  cases value <;> by_cases same : name = wanted <;> simp [optionalEntry, same]

/-- The first child element of a name is looked for from the front. -/
@[simp] theorem child?_toNode (tag : Name) (attributes : Attributes) (first : Tree)
    (rest : List Node) (base : String) :
    Tree.child? ⟨tag, attributes, first.toNode :: rest⟩ base =
      if first.name.base = base then some first else Tree.child? ⟨tag, attributes, rest⟩ base := by
  -- The first element has the name, or the search goes on behind it.
  by_cases same : first.name.base = base <;>
    simp [Tree.child?, Tree.childrenNamed, Tree.toNode, same]

/-- An element without children has none of any name. -/
@[simp] theorem child?_nil (tag : Name) (attributes : Attributes) (base : String) :
    Tree.child? ⟨tag, attributes, []⟩ base = none := rfl

/-- An optional text is the first child of its name if it is there. -/
@[simp] theorem child?_textNode? (tag : Name) (attributes : Attributes) (name : String)
    (text : Option String) (rest : List Node) (base : String) :
    Tree.child? ⟨tag, attributes, textNode? name text ++ rest⟩ base =
      if name = base then text.map (textTree name) <|> Tree.child? ⟨tag, attributes, rest⟩ base
      else Tree.child? ⟨tag, attributes, rest⟩ base := by
  -- Without a text there is no element, and the search goes on behind it.
  cases text with
  | none => simp [textNode?]
  | some text =>
    have first := child?_toNode tag attributes (textTree name text) rest base
    by_cases same : name = base <;>
      simpa [textNode?, textNode, node, textTree, Tree.toNode, Name.plain, same] using first

/-- An optional text is the text of its name if it is there. -/
@[simp] theorem childText?_textNode? (tag : Name) (attributes : Attributes) (name : String)
    (text : Option String) (rest : List Node) (base : String) :
    childText? ⟨tag, attributes, textNode? name text ++ rest⟩ base =
      if name = base then text <|> childText? ⟨tag, attributes, rest⟩ base
      else childText? ⟨tag, attributes, rest⟩ base := by
  cases text <;> by_cases same : name = base <;> simp [childText?, same]

/-! ### Reading what was written -/

/-- Reading the elements of attributes inserts each key with its value. -/
theorem readAttributeEntries_map (map entries : AttributeMap) :
    readAttributeEntries map (entries.map attributeTree) =
      .ok (entries.foldl (fun map entry => map.insert entry.1 entry.2) map) := by
  -- Each attribute is read by itself and inserted into what was read before it.
  induction entries generalizing map with
  | nil => rfl
  | cons entry others ih =>
    obtain ⟨key, value⟩ := entry
    cases value with
    | single value =>
      simpa [readAttributeEntries, attributeTree, required, bind, Except.bind] using ih _
    | list values =>
      -- The items of the list are the only child elements, each with one text.
      have named : ∀ value, (textTree "item" value).name.base = "item" := fun _ => rfl
      have items := childrenNamed_map named (.plain "attribute") [Document.entry "key" key] values
      simpa [readAttributeEntries, attributeTree, required, bind, Except.bind, items,
        Function.comp_def] using ih _

/-- A truth value reads back. -/
theorem requiredFlag_of_attribute? {element : Tree} {name : String} {value : Bool}
    (found : element.attribute? name = some (flagText value)) :
    requiredFlag element name = .ok value := by
  -- Each of the two words is read as the value that it was written for.
  cases value <;>
    simp [requiredFlag, required, found, flagText, bind, Except.bind, pure, Except.pure]

/-- The element of an argument reads back as the argument. -/
theorem readArgument_argumentTree (argument : Argument) :
    readArgument (argumentTree argument) = .ok argument := by
  -- The description stands in front of the prompt, and either of them may be missing.
  have multi : requiredFlag (argumentTree argument) "multi" = .ok argument.multiValued :=
    requiredFlag_of_attribute? (by simp [argumentTree])
  have needed : requiredFlag (argumentTree argument) "required" = .ok argument.required :=
    requiredFlag_of_attribute? (by simp [argumentTree])
  have description : childText? (argumentTree argument) "description" = argument.description := by
    rw [argumentTree, childText?_textNode?, childText?_textNode?]
    simp [childText?]
  have prompt : childText? (argumentTree argument) "prompt" = argument.prompt := by
    rw [argumentTree, childText?_textNode?, childText?_textNode?]
    simp [childText?]
  simp [readArgument, multi, needed, description, prompt, bind, Except.bind, pure, Except.pure]
  simp [required, argumentTree]

/-- The elements of arguments read back as the arguments, in their order. -/
theorem readArgumentEntries_map (arguments : List Argument) :
    readArgumentEntries (arguments.map argumentTree) = .ok arguments := by
  -- The elements are read in order, each by itself.
  induction arguments with
  | nil => rfl
  | cons argument others ih =>
    simp [readArgumentEntries, readArgument_argumentTree, ih, bind, Except.bind, pure, Except.pure]

/-- The attributes below a root element are the map that they were written from, merged. -/
theorem readAttributes_of_child? {parent : Tree} {attributes : AttributeMap}
    (found : parent.child? "attributes" = some (attributesTree attributes)) :
    readAttributes parent = .ok attributes.merged := by
  -- Every child of the list is an attribute, so that none is passed over.
  have named : ∀ entry, (attributeTree entry).name.base = "attribute" := by
    rintro ⟨key, value⟩
    cases value <;> rfl
  have elements := childrenNamed_map named (.plain "attributes") [] attributes
  simp only [readAttributes, found, attributesTree]
  rw [elements, readAttributeEntries_map]
  rfl

/-- A list of arguments below a signature is the one that it was written from. -/
theorem readArguments_of_child? {signature : Tree} {name : String} {arguments : List Argument}
    (found : signature.child? name = some (argumentsTree name arguments)) :
    readArguments signature name = .ok arguments := by
  -- Every child of the list is an argument, so that none is passed over.
  have named : ∀ argument, (argumentTree argument).name.base = "argument" := fun _ => rfl
  have elements := childrenNamed_map named (.plain name) [] arguments
  simp only [readArguments, found, argumentsTree]
  rw [elements, readArgumentEntries_map]

/-- The signature below a root element is the one that it was written from. -/
theorem readSignature_of_child? {parent : Tree} {signature : Signature}
    (found : parent.child? "signature" = some (signatureTree signature)) :
    readSignature parent = .ok signature := by
  -- The two lists differ in their names, and the type stands in the tag.
  have arguments : readArguments (signatureTree signature) "arguments" = .ok signature.arguments :=
    readArguments_of_child? (by simp [signatureTree, argumentsTree, Name.plain])
  have returns : readArguments (signatureTree signature) "returns" = .ok signature.returns :=
    readArguments_of_child? (by simp [signatureTree, argumentsTree, Name.plain])
  have returnType : (signatureTree signature).attribute? "returnType" = signature.returnType := by
    cases claimed : signature.returnType <;> simp [signatureTree, optionalEntry, claimed]
  simp [readSignature, found, arguments, returns, returnType, bind, Except.bind, pure, Except.pure]

/-- The root element of an artifact's document reads as the artifact with its attributes merged. -/
theorem readRoot_root (artifact : Artifact) : readRoot (root artifact) = .ok artifact.merged := by
  -- The name of the root tells the kind of artifact, and each part has a place of its own below it.
  cases artifact with
  | rule rule =>
    have attributes : readAttributes (root (.rule rule)) = .ok rule.attributes.merged :=
      readAttributes_of_child? (by simp [root, attributesNode_eq, attributesTree, Name.plain])
    have signature : readSignature (root (.rule rule)) = .ok rule.signature :=
      readSignature_of_child?
        (by simp [root, attributesNode_eq, signatureNode_eq, attributesTree, signatureTree,
          Name.plain])
    have description : childText? (root (.rule rule)) "description" = rule.description := by
      simp [root, attributesNode_eq, signatureNode_eq, attributesTree, signatureTree, Name.plain,
        childText?, Function.comp_def]
    have name : required (root (.rule rule)) "name" = .ok rule.name := by
      simp [required, root]
    have language : required (root (.rule rule)) "language" = .ok rule.language := by
      simp [required, root]
    have type : (root (.rule rule)).attribute? "type" = rule.type := by
      simp [root]
    have base : (root (.rule rule)).name.base = "rule" := rfl
    simp [readRoot, base, name, language, attributes, signature, type, description, bind,
      Except.bind, pure, Except.pure, Artifact.merged]
  | namedObject object =>
    have attributes : readAttributes (root (.namedObject object)) = .ok object.attributes.merged :=
      readAttributes_of_child? (by simp [root, attributesNode_eq, attributesTree, Name.plain])
    have description : childText? (root (.namedObject object)) "description" =
        object.description := by
      simp [root, attributesNode_eq, attributesTree, Name.plain, childText?, Function.comp_def]
    have name : required (root (.namedObject object)) "name" = .ok object.name := by
      simp [required, root]
    have base : (root (.namedObject object)).name.base = "named-object" := rfl
    simp [readRoot, base, name, attributes, description, bind, Except.bind, pure, Except.pure,
      Artifact.merged]

/-! ### Writing as records -/

/-- A tag is simple as soon as its name and those of its attributes are, whatever their values. -/
theorem isSimpleTag_of_names {name : String} {attributes : Attributes} (names : List String)
    (named : attributes.map (·.1) = names.map .plain)
    (simple : ∀ own ∈ name :: names, (Name.plain own).isSimple)
    (distinct : distinctNames (names.map .plain)) : isSimpleTag (.plain name) attributes := by
  -- Neither test looks at the values, so that it is enough to decide both for the names.
  have all_simple : ∀ entry ∈ attributes, entry.1.isSimple := by
    intro entry member
    have inside : entry.1 ∈ names.map .plain := named ▸ List.mem_map_of_mem member
    obtain ⟨name, present, same⟩ := List.mem_map.mp inside
    exact same ▸ simple name (List.mem_cons_of_mem _ present)
  simp only [isSimpleTag, named, distinct, simple name List.mem_cons_self, Bool.and_true,
    Bool.true_and, List.all_eq_true]
  exact all_simple

/-- A text under a simple name is a record. -/
theorem textNode?_isRecord {name : String} (simple : (Name.plain name).isSimple)
    (text : Option String) : ∀ node ∈ textNode? name text, node.IsRecord := by
  -- There is one element with one text, or none.
  cases text with
  | none => simp [textNode?]
  | some text =>
    have tag : isSimpleTag (.plain name) [] := by simp [isSimpleTag, simple, distinctNames]
    simpa [textNode?, textNode, node] using Node.IsRecord.leaf text.toList tag

/-- The element of an attribute is a record, of items if it holds a list. -/
theorem attributeNode_isRecord (key : String) (value : AttributeValue) :
    (attributeNode (key, value)).IsRecord := by
  -- A single value stands in the tag, and the values of a list each have an element.
  cases value with
  | single value =>
    exact .branch (isSimpleTag_of_names ["key", "value"] rfl (by decide) rfl) (by simp)
  | list values =>
    refine .branch (isSimpleTag_of_names ["key"] rfl (by decide) rfl) fun child member => ?_
    obtain ⟨value, _, rfl⟩ := List.mem_map.mp member
    exact textNode?_isRecord (by rfl : (Name.plain "item").isSimple) (some value) _
      List.mem_cons_self

/-- The element of an argument is a record of its texts. -/
theorem argumentNode_isRecord (argument : Argument) : (argumentNode argument).IsRecord := by
  -- The tag has the same four names for every argument.
  refine .branch (isSimpleTag_of_names ["name", "type", "multi", "required"] (by rfl) (by decide)
    rfl) fun child member => ?_
  rcases List.mem_append.mp member with description | prompt
  · exact textNode?_isRecord rfl _ child description
  · exact textNode?_isRecord rfl _ child prompt

/-- The element of a list of arguments is a record under either of its names. -/
theorem argumentsNode_isRecord {name : String} (simple : (Name.plain name).isSimple)
    (arguments : List Argument) : (argumentsNode name arguments).IsRecord := by
  -- The children are the elements of the arguments.
  refine .branch (by simp [isSimpleTag, simple, distinctNames]) fun child member => ?_
  obtain ⟨argument, _, rfl⟩ := List.mem_map.mp member
  exact argumentNode_isRecord argument

/-- The element of all attributes is a record. -/
theorem attributesNode_isRecord (attributes : AttributeMap) :
    (attributesNode attributes).IsRecord := by
  -- The children are the elements of the attributes.
  refine .branch rfl fun child member => ?_
  obtain ⟨⟨key, value⟩, _, rfl⟩ := List.mem_map.mp member
  exact attributeNode_isRecord key value

/-- The element of a signature is a record of its two lists. -/
theorem signatureNode_isRecord (signature : Signature) : (signatureNode signature).IsRecord := by
  -- The tag has one attribute or none, and below it there are the two lists.
  have tag : isSimpleTag (.plain "signature")
      (optionalEntry "returnType" signature.returnType) := by
    cases signature.returnType with
    | none => rfl
    | some type => exact isSimpleTag_of_names ["returnType"] rfl (by decide) rfl
  refine .branch tag fun child member => ?_
  simp only [List.mem_cons, List.not_mem_nil, or_false] at member
  rcases member with rfl | rfl
  · exact argumentsNode_isRecord rfl _
  · exact argumentsNode_isRecord rfl _

/-- The names in a document are fixed by the format, so that its root is a record. -/
theorem root_isRecord (artifact : Artifact) : (root artifact).toNode.IsRecord := by
  -- Only the type of a rule may be missing from a tag.
  cases artifact with
  | rule rule =>
    have tag : isSimpleTag (.plain "rule")
        (entry "name" rule.name :: optionalEntry "type" rule.type ++
          [entry "language" rule.language]) := by
      cases rule.type with
      | none => exact isSimpleTag_of_names ["name", "language"] rfl (by decide) rfl
      | some type => exact isSimpleTag_of_names ["name", "type", "language"] rfl (by decide) rfl
    refine .branch tag fun child member => ?_
    rcases List.mem_append.mp member with description | below
    · exact textNode?_isRecord rfl _ child description
    · simp only [List.mem_cons, List.not_mem_nil, or_false] at below
      rcases below with rfl | rfl
      · exact attributesNode_isRecord _
      · exact signatureNode_isRecord _
  | namedObject object =>
    refine .branch (isSimpleTag_of_names ["name"] rfl (by decide) rfl) fun child member => ?_
    rcases List.mem_append.mp member with description | below
    · exact textNode?_isRecord rfl _ child description
    · rw [List.mem_singleton.mp below]
      exact attributesNode_isRecord _

/-- However the document of an artifact is laid out, it reads back as the artifact with its
attributes merged. -/
theorem parse_eq_of_isLayout {artifact : Artifact} {text : String}
    (layout : IsLayout isLoose (root artifact) text.toList) : parse text = .ok artifact.merged := by
  -- Parsing restores the root but for text that does not matter and the order of attributes.
  obtain ⟨tree, document, alike⟩ := layout.exists_isDocument (root_isRecord artifact)
  rw [parse, parse?_eq_some_iff.2 document]
  exact (readRoot_eq_of_alike alike).trans (readRoot_root artifact)

/-- The document of an artifact is one of its layouts. -/
theorem isLayout_render (artifact : Artifact) :
    IsLayout isLoose (root artifact) (render artifact).toList := by
  -- The written document of a record is a layout, and the root element is one.
  rw [render, String.toList_ofList]
  exact isLayout_writeDocument (root_isRecord artifact)

/-- The document of an artifact reads back as the artifact with its attributes merged. -/
theorem parse_render_eq (artifact : Artifact) : parse (render artifact) = .ok artifact.merged :=
  parse_eq_of_isLayout (isLayout_render artifact)

/-- The document of an artifact with distinct attributes reads back as the artifact. -/
theorem parse_render {artifact : Artifact} (distinct : artifact.attributes.IsDistinct) :
    parse (render artifact) = .ok artifact := by
  rw [parse_render_eq, artifact.merged_eq distinct]

end Document

/-- Every artifact with distinct attributes has a document, and reads back from it unchanged,
whatever its texts hold and whichever of its parts are absent or empty. -/
theorem DocumentFormat.xml_roundTrip (artifact : Artifact)
    (distinct : artifact.attributes.IsDistinct) :
    ∃ text, DocumentFormat.xml.render artifact = .ok text ∧ Document.parse text = .ok artifact :=
  ⟨Document.render artifact, rfl, Document.parse_render distinct⟩

/-- A rule whose texts hold every mark of the format, next to empty texts and lists. -/
def markedRule : Artifact :=
  .rule {
    name := "<a & 'b'>", type := some "", language := "]]>", description := some "\r\n\t"
    attributes :=
      [("\"", .list []), ("", .single ""), ("one", .list [""]), ("two", .list ["é", "</x>"])]
    signature := {
      arguments := [{ name := "", type := "\x00", description := some "", prompt := none }]
      returns := [], returnType := some "&amp;" } }

/-- A rule whose texts look like markup, or like nothing at all, is read back as it was written. -/
theorem xml_roundTrip_markedRule :
    markedRule.attributes.IsDistinct ∧
      ∃ text, DocumentFormat.xml.render markedRule = .ok text ∧
        Document.parse text = .ok markedRule :=
  -- Only the keys of the attributes matter to whether it can be read back.
  ⟨by decide, DocumentFormat.xml_roundTrip markedRule (by decide)⟩

end RuleMetadata

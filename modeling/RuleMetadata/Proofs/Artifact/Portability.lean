import RuleMetadata.Model.Build
import RuleMetadata.Proofs.Artifact.RoundTrip
import RuleMetadata.Proofs.Xml.Conformance

/-! Which artifacts a conforming reader of their documents finds unchanged: the strings of an
artifact come into its document escaped, but are not tested for characters that are not kept. -/

namespace RuleMetadata

open Xml

/-! ### The strings of an artifact -/

/-- A string that stands in a tag. -/
def Xml.Piece.ofValue (value : String) : Piece := ⟨.value, value.toList⟩

/-- A string that stands between two tags. -/
def Xml.Piece.ofText (text : String) : Piece := ⟨.text, text.toList⟩

/-- The strings of an argument, of which two are words for its truth values. -/
def Argument.strings (argument : Argument) : List Piece :=
  [.ofValue argument.name, .ofValue argument.type,
      .ofValue (Document.flagText argument.multiValued),
      .ofValue (Document.flagText argument.required)] ++
    -- Only what stands between tags is text; all else is a value in a tag.
    (argument.description.toList.map .ofText ++ argument.prompt.toList.map .ofText)

/-- The strings of a signature. -/
def Signature.strings (signature : Signature) : List Piece :=
  signature.returnType.toList.map .ofValue ++
    (signature.arguments ++ signature.returns).flatMap Argument.strings

/-- The strings of an attribute: a single value stands in its tag, and the values of a list below
it. -/
def AttributeMap.entryStrings : String × AttributeValue → List Piece
  | (key, .single value) => [.ofValue key, .ofValue value]
  | (key, .list values) => .ofValue key :: values.map .ofText

/-- The strings of an artifact, each with its place in the document. -/
def Artifact.strings : Artifact → List Piece
  | .rule artifact =>
    .ofValue artifact.name :: artifact.type.toList.map .ofValue ++
      .ofValue artifact.language :: (artifact.description.toList.map .ofText ++
        (artifact.attributes.flatMap AttributeMap.entryStrings ++ artifact.signature.strings))
  | .namedObject artifact =>
    .ofValue artifact.name :: (artifact.description.toList.map .ofText ++
      artifact.attributes.flatMap AttributeMap.entryStrings)

/-- Whether every reader takes each character in the strings of an artifact as it is. -/
def Artifact.IsPortable (artifact : Artifact) : Prop :=
  ∀ piece ∈ artifact.strings, ∀ char ∈ piece.string, isKept piece.place char

instance (artifact : Artifact) : Decidable artifact.IsPortable :=
  decidable_of_iff (artifact.strings.all fun piece => piece.string.all (isKept piece.place))
    (by simp [Artifact.IsPortable])

/-- Whether the strings of an artifact hold legal characters alone. -/
def Artifact.isLegal (artifact : Artifact) : Bool :=
  artifact.strings.all fun piece => piece.string.all Xml.isLegal

/-- An artifact is legal if each character of its strings is. -/
theorem Artifact.isLegal_iff {artifact : Artifact} : artifact.isLegal ↔
    ∀ piece ∈ artifact.strings, ∀ char ∈ piece.string, Xml.isLegal char := by
  simp [Artifact.isLegal]

namespace Document

/-- The text of a node is its one string. -/
theorem strings_textNode? (name : String) (text : Option String) :
    (textNode? name text).flatMap Node.strings = text.toList.map Piece.ofText := by
  cases text <;> simp [textNode?, textNode, node, Piece.ofText]

/-- An optional attribute is one string, if it is there. -/
theorem strings_optionalEntry (name : String) (value : Option String) :
    (optionalEntry name value).map (fun entry => (⟨.value, entry.2⟩ : Piece)) =
      value.toList.map Piece.ofValue := by
  cases value <;> rfl

/-- The strings below the element of all attributes are those of each attribute. -/
theorem strings_attributesNode (attributes : AttributeMap) :
    (attributesNode attributes).strings = attributes.flatMap AttributeMap.entryStrings := by
  -- A single value stands in an attribute, and a list in texts of its own.
  have each : ∀ entry, (attributeNode entry).strings = AttributeMap.entryStrings entry := by
    rintro ⟨key, value⟩
    cases value with
    | single value =>
      simp [attributeNode, node, entry, AttributeMap.entryStrings, Piece.ofValue]
    | list values =>
      have items : (values.map (textNode "item")).flatMap Node.strings = values.map .ofText := by
        rw [List.flatMap_map, List.map_eq_flatMap]
        simp [textNode, node, Piece.ofText]
      simp [attributeNode, node, entry, AttributeMap.entryStrings, Piece.ofValue, items]
  simp [attributesNode, node, List.flatMap_map, each]

/-- The strings below a list of arguments are those of each argument. -/
theorem strings_argumentsNode (name : String) (arguments : List Argument) :
    (argumentsNode name arguments).strings = arguments.flatMap Argument.strings := by
  -- Names and words stand in attributes, and descriptions in texts.
  have each (argument : Argument) : (argumentNode argument).strings = argument.strings := by
    simp [argumentNode, node, entry, Argument.strings, Piece.ofValue, strings_textNode?]
  simp [argumentsNode, node, List.flatMap_map, each]

/-- The strings of a document are those of its artifact. -/
theorem strings_root (artifact : Artifact) :
    (root artifact).toNode.strings = artifact.strings := by
  -- Each part of a document has its own strings, in the order of the parts.
  cases artifact with
  | rule rule =>
    simp [root, Tree.toNode, Artifact.strings, strings_textNode?, strings_optionalEntry,
      strings_attributesNode, strings_argumentsNode, signatureNode, node, Signature.strings,
      entry, Piece.ofValue]
  | namedObject object =>
    simp [root, Tree.toNode, Artifact.strings, strings_textNode?, strings_attributesNode, entry,
      Piece.ofValue]

/-! ### Clean artifacts -/

end Document

/-- A string as a conforming reader takes it at a place. -/
def cleanString (place : Place) (string : String) : String :=
  String.ofList (cleanAt place string.toList)

/-- An argument with clean strings. -/
def Argument.cleaned (argument : Argument) : Argument :=
  { argument with
    name := cleanString .value argument.name
    type := cleanString .value argument.type
    -- The longer texts stand between tags, where other characters are lost.
    description := argument.description.map (cleanString .text)
    prompt := argument.prompt.map (cleanString .text) }

/-- A signature with clean strings. -/
def Signature.cleaned (signature : Signature) : Signature :=
  { arguments := signature.arguments.map Argument.cleaned
    returns := signature.returns.map Argument.cleaned
    returnType := signature.returnType.map (cleanString .value) }

namespace AttributeMap

/-- An attribute with clean strings. -/
def cleanEntry : String × AttributeValue → String × AttributeValue
  | (key, .single value) => (cleanString .value key, .single (cleanString .value value))
  | (key, .list values) => (cleanString .value key, .list (values.map (cleanString .text)))

end AttributeMap

/-- An artifact with clean strings. -/
def Artifact.cleaned : Artifact → Artifact
  | .rule artifact =>
    .rule {
      name := cleanString .value artifact.name
      type := artifact.type.map (cleanString .value)
      language := cleanString .value artifact.language
      description := artifact.description.map (cleanString .text)
      attributes := artifact.attributes.map AttributeMap.cleanEntry
      signature := artifact.signature.cleaned }
  | .namedObject artifact =>
    .namedObject {
      name := cleanString .value artifact.name
      description := artifact.description.map (cleanString .text)
      attributes := artifact.attributes.map AttributeMap.cleanEntry }

namespace Document

/-- A node of one text is cleaned in its text. -/
theorem map_textNode? (name : String) (text : Option String) :
    (textNode? name text).map (Node.map cleanAt) =
      textNode? name (text.map (cleanString .text)) := by
  cases text <;> simp [textNode?, textNode, node, mapNodes_eq, Node.map, cleanString]

/-- An optional attribute is cleaned in its value. -/
theorem map_optionalEntry (name : String) (value : Option String) :
    (optionalEntry name value).map (fun entry => (entry.1, cleanAt .value entry.2)) =
      optionalEntry name (value.map (cleanString .value)) := by
  cases value <;> simp [optionalEntry, entry, cleanString]

/-- The element of all attributes is cleaned in each of them. -/
theorem map_attributesNode (attributes : AttributeMap) :
    (attributesNode attributes).map cleanAt =
      attributesNode (attributes.map AttributeMap.cleanEntry) := by
  -- A single value is cleaned as a value, and those of a list as texts.
  have each : ∀ entry, (attributeNode entry).map cleanAt =
      attributeNode (AttributeMap.cleanEntry entry) := by
    rintro ⟨key, value⟩
    cases value with
    | single value =>
      simp [attributeNode, node, entry, AttributeMap.cleanEntry, Node.map, mapNodes, cleanString]
    | list values =>
      simp [attributeNode, node, entry, AttributeMap.cleanEntry, Node.map, mapNodes_eq, cleanString,
        textNode]
  simp [attributesNode, node, Node.map, mapNodes_eq, each]

/-- A list of arguments is cleaned in each of them. -/
theorem map_argumentsNode (name : String) (arguments : List Argument) :
    (argumentsNode name arguments).map cleanAt =
      argumentsNode name (arguments.map Argument.cleaned) := by
  -- The words for truth values are clean.
  have flag (value : Bool) : cleanAt .value (flagText value).toList = (flagText value).toList := by
    cases value <;> decide
  have each (argument : Argument) : (argumentNode argument).map cleanAt =
      argumentNode argument.cleaned := by
    simp [argumentNode, node, Node.map, Argument.cleaned, entry, cleanString, flag, mapNodes_eq,
      map_textNode?]
  simp [argumentsNode, node, Node.map, mapNodes_eq, each]

/-- The document of a clean artifact is that of the artifact with its strings cleaned. -/
theorem root_cleaned (artifact : Artifact) :
    root artifact.cleaned = (root artifact).map cleanAt := by
  -- Every string is cleaned for the place where it stands in the document.
  cases artifact with
  | rule rule =>
    simp [root, Xml.Tree.map, Artifact.cleaned, mapNodes_eq, map_textNode?, map_optionalEntry,
      map_attributesNode, map_argumentsNode, signatureNode, node, Node.map, Signature.cleaned,
      entry, cleanString]
  | namedObject object =>
    simp [root, Xml.Tree.map, Artifact.cleaned, mapNodes_eq, map_textNode?, map_attributesNode,
      entry, cleanString]

end Document

/-- Merging attributes leaves no strings but those of the artifact. -/
theorem Artifact.mem_strings_of_mem_merged {artifact : Artifact} {piece : Piece}
    (member : piece ∈ artifact.merged.strings) : piece ∈ artifact.strings := by
  -- Only attributes are merged, and each that is left was there before.
  have entries {attributes : AttributeMap}
      (inside : piece ∈ attributes.merged.flatMap AttributeMap.entryStrings) :
      piece ∈ attributes.flatMap AttributeMap.entryStrings := by
    obtain ⟨entry, merged, inside⟩ := List.mem_flatMap.1 inside
    exact List.mem_flatMap.2 ⟨entry, AttributeMap.mem_of_mem_merged merged, inside⟩
  cases artifact with
  | rule rule =>
    simp only [Artifact.merged, Artifact.strings, List.mem_append, List.mem_cons] at member ⊢
    tauto
  | namedObject object =>
    simp only [Artifact.merged, Artifact.strings, List.mem_append, List.mem_cons] at member ⊢
    tauto

namespace Document

/-- The artifact of a document as a conforming reader finds it. -/
def readConforming (text : String) : Except DocumentError Artifact :=
  if text.toList.all isLegal then parse (String.ofList (normalize text.toList))
  else .error .malformed

/-- A conforming reader finds an artifact with clean strings, if all of them are legal. -/
theorem readConforming_render (artifact : Artifact) : readConforming (render artifact) =
    if artifact.isLegal then .ok artifact.cleaned.merged else .error .malformed := by
  -- Cleaning the strings in the document gives the document of the clean artifact.
  have record := root_isRecord artifact
  have clean : ((root artifact).map cleanAt).toNode.IsRecord :=
    root_cleaned artifact ▸ root_isRecord artifact.cleaned
  have legal := isLegal_writeDocument_iff record
  rw [strings_root, ← Artifact.isLegal_iff, ← List.all_eq_true] at legal
  have read : parse (String.ofList (normalize (writeDocument (root artifact)))) =
      .ok artifact.cleaned.merged := by
    rw [normalize_writeDocument record clean, ← root_cleaned]
    exact parse_render_eq artifact.cleaned
  rw [readConforming, render, String.toList_ofList, read, Bool.eq_iff_iff.2 legal]

/-- The strings of a clean artifact are those of the artifact, cleaned. -/
theorem strings_cleaned (artifact : Artifact) :
    artifact.cleaned.strings = artifact.strings.map (Piece.map cleanAt) := by
  -- The strings of an artifact are those of its document, where they are cleaned in their places.
  rw [← strings_root, ← strings_root, root_cleaned, ← (root_isRecord artifact).strings_map]
  rfl

/-- An artifact that is portable is clean. -/
theorem merged_cleaned {artifact : Artifact} (kept : artifact.IsPortable) :
    artifact.cleaned.merged = artifact.merged := by
  -- Both have the same document, and it is read in one way.
  have fixed : ((root artifact).toNode.map cleanAt) = (root artifact).toNode := by
    refine (root_isRecord artifact).map_eq_self fun piece member => ?_
    have string : piece.place ≠ .markup := by simpa using (List.mem_filter.1 member).2
    exact cleanAt_eq_self string (kept piece (strings_root artifact ▸ member))
  have same : render artifact.cleaned = render artifact := by
    rw [render, render, root_cleaned]
    exact congrArg
      (fun node => String.ofList (writeTokens (.declaration :: Node.tokens node))) fixed
  exact Except.ok.inj ((parse_render_eq _).symm.trans (same ▸ parse_render_eq artifact))

/-- A conforming reader finds an artifact of distinct attributes unchanged exactly if it is
portable. -/
theorem readConforming_render_eq_iff {artifact : Artifact}
    (distinct : artifact.attributes.IsDistinct) :
    readConforming (render artifact) = .ok artifact ↔ artifact.IsPortable := by
  rw [readConforming_render]
  constructor
  · intro read piece member char inside
    split at read
    · rename_i legal
      -- Each string is found again, but only after it was cleaned.
      have found : piece ∈ artifact.cleaned.merged.strings := by rwa [Except.ok.inj read]
      have cleaned := Artifact.mem_strings_of_mem_merged found
      rw [strings_cleaned] at cleaned
      obtain ⟨before, -, rfl⟩ := List.mem_map.1 cleaned
      have legal_char := Artifact.isLegal_iff.1 legal _ member char inside
      exact Piece.isKept_of_mem_map_cleanAt legal_char inside
    · cases read
  · intro kept
    have legal : artifact.isLegal := Artifact.isLegal_iff.2 fun piece member char inside =>
      isLegal_of_isKept (kept piece member char inside)
    rw [if_pos legal, merged_cleaned kept, artifact.merged_eq distinct]

end Document

/-- An artifact that is assembled from an element of a model, as a rule or as a named object, in
some state of what the descriptions come from. -/
def Extraction.Assembles {σ : Type} (extraction : Extraction (StateM σ)) (artifact : Artifact) :
    Prop :=
  ∃ position element state, extraction.model.elements[position]? = some element ∧
    ((∃ implementationAttribute marker rule warnings,
      ((extraction.rule implementationAttribute position element marker).run state).1 =
          .ok (rule, warnings) ∧
        artifact = .rule rule) ∨
    -- There are no warnings about a named object.
    ∃ marker object,
      ((extraction.namedObject position element marker).run state).1 = .ok object ∧
        artifact = .namedObject object)

/-- In the document of an artifact, a character that is not kept at its place stands exactly where
a string of the artifact holds it, and a conforming reader finds the artifact unchanged exactly if
no string holds such a character. -/
theorem Extraction.isPortable_iff {σ : Type} {extraction : Extraction (StateM σ)}
    {artifact : Artifact} (assembled : extraction.Assembles artifact) :
    (∀ place char, ¬ isKept place char →
      ((place, char) ∈ places .text (Document.render artifact).toList ↔
        ∃ piece ∈ artifact.strings, piece.place = place ∧ char ∈ piece.string)) ∧
    (Document.readConforming (Document.render artifact) = .ok artifact ↔
      artifact.IsPortable) := by
  -- Both kinds of artifacts list each key once.
  have distinct : artifact.attributes.IsDistinct := by
    obtain ⟨_, _, _, -, ⟨_, _, _, _, made, rfl⟩ | ⟨_, _, made, rfl⟩⟩ := assembled
    · exact (of_rule_eq_ok made).2.1
    · exact (of_namedObject_eq_ok made).2
  refine ⟨fun place char unkept => ?_, Document.readConforming_render_eq_iff distinct⟩
  have found := mem_places_iff (Document.root_isRecord artifact) unkept
  rwa [Document.strings_root, ← String.toList_ofList (l := writeDocument _)] at found

/-- A rule with an attribute, the value of which is given. -/
def valuedRule (value : String) : TypeDeclaration :=
  { name := "p.R", markers := [.rule {}]
    members := [.method { name := "x", markers := [.attribute { value := [value] }] }] }

/-- The model of the rule, with one description for every element. -/
def valuedExtraction (value : String) : Extraction (StateM Unit) where
  model := (Model.build [valuedRule value] []).toOption.getD ⟨#[]⟩
  containers := defaultContainers
  describe := fun _ => pure (some "two\nlines")

/-- The type of the rule in its model. -/
def valuedElement : Element :=
  { kind := .type, simpleName := "R", qualifiedName := "p.R", enclosed := [1]
    markers := [.rule {}], origin := .source, package := some "p", ownerName := some "p" }

/-- The artifact of the rule. -/
def valuedArtifact (value : String) : Artifact :=
  .rule {
    name := "R", language := "java", description := some "two\nlines"
    -- The reference to the implementation is added by the assembly, behind all others.
    attributes := [("x", .single value), ("implementation", .single "p.R")] }

/-- Marks in the value of an attribute are escaped, so that the value is read as it was given. -/
theorem isPortable_iff_markedValue :
    (valuedExtraction "<a> & 'b'").Assembles (valuedArtifact "<a> & 'b'") ∧
      Document.readConforming (Document.render (valuedArtifact "<a> & 'b'")) =
        .ok (valuedArtifact "<a> & 'b'") := by
  -- The marked value is that of an attribute of the only type.
  have assembled : (valuedExtraction "<a> & 'b'").Assembles (valuedArtifact "<a> & 'b'") :=
    ⟨0, valuedElement, (), by decide +kernel,
      .inl ⟨"implementation", {}, _, [], by decide +kernel, rfl⟩⟩
  refine ⟨assembled, (Extraction.isPortable_iff assembled).2.2 ?_⟩
  decide +kernel

/-- A tab in the value of an attribute comes into the document as it is, where a conforming reader
takes it for a space. -/
theorem readConforming_tab :
    (valuedExtraction "a\tb").Assembles (valuedArtifact "a\tb") ∧
      (.value, '\t') ∈ places .text (Document.render (valuedArtifact "a\tb")).toList ∧
      Document.readConforming (Document.render (valuedArtifact "a\tb")) =
        .ok (valuedArtifact "a b") := by
  refine ⟨⟨0, valuedElement, (), ?_, .inl ⟨"implementation", {}, _, [], ?_, rfl⟩⟩, ?_, ?_⟩
  · decide +kernel
  · decide +kernel
  · -- A value does not keep a tab, so that it is found where the string stands.
    have unkept : ¬ isKept .value '\t' := by decide
    have found := mem_places_iff (Document.root_isRecord (valuedArtifact "a\tb")) unkept
    rw [Document.strings_root] at found
    rw [Document.render, String.toList_ofList, found]
    decide +kernel
  · rw [Document.readConforming_render]
    decide +kernel

end RuleMetadata

import RuleMetadata.Proofs.Artifact.RoundTrip
import RuleMetadata.Proofs.Xml.Truncation

/-! Which documents are read as artifacts, and as which ones. What is not of the shape of an
artifact is refused for its shape, and only what is not well-formed is refused as such, like a
document that is cut off. -/

namespace RuleMetadata

open Xml

namespace Document

/-! ### The shape of an artifact -/

/-- The children of a name in the first child of another name. -/
def elementsIn (element : Tree) (list base : String) : List Tree :=
  match element.child? list with
  | none => []
  | some list => list.childrenNamed base

/-- The elements of attributes below a root element. -/
def attributeElements (root : Tree) : List Tree :=
  elementsIn root "attributes" "attribute"

/-- The elements of arguments below a root element, in a list of its first signature. -/
def argumentElements (root : Tree) (list : String) : List Tree :=
  match root.child? "signature" with
  | none => []
  | some signature => elementsIn signature list "argument"

/-- Whether an element has an attribute. -/
def Has (element : Tree) (name : String) : Prop :=
  ∃ value, element.attribute? name = some value

/-- Whether an element has an attribute that is a truth value. -/
def HasFlag (element : Tree) (name : String) : Prop :=
  ∃ value, element.attribute? name = some (flagText value)

/-- What the element of an argument has to have. -/
structure IsArgumentElement (element : Tree) : Prop where
  name : Has element "name"
  type : Has element "type"
  -- Only the two words for truth values can be read here.
  multiValued : HasFlag element "multi"
  required : HasFlag element "required"

/-- What the elements of arguments have to have in both lists of a signature. -/
def IsSignatureOf (root : Tree) : Prop :=
  (∀ element ∈ argumentElements root "arguments", IsArgumentElement element) ∧
    ∀ element ∈ argumentElements root "returns", IsArgumentElement element

/-- The shape of an artifact. -/
structure HasShape (root : Tree) : Prop where
  kind : root.name.base = "rule" ∨ root.name.base = "named-object"
  name : Has root "name"
  keys : ∀ element ∈ attributeElements root, Has element "key"
  -- A named object has neither a language nor a signature.
  language : root.name.base = "rule" → Has root "language"
  signature : root.name.base = "rule" → IsSignatureOf root

/-! ### What elements describe -/

/-- Whether an attribute has the value of its element: the one in the tag, or else the texts of its
items. -/
inductive DescribesValue (element : Tree) : AttributeValue → Prop where
  | single {value : String} : element.attribute? "value" = some value →
      DescribesValue element (.single value)
  -- The items are only looked at if there is no value in the tag.
  | list : element.attribute? "value" = none →
      DescribesValue element (.list ((element.childrenNamed "item").map Tree.content))

/-- Whether a map holds what elements of attributes describe: each key where it stood first, with
the value that it had last. -/
structure DescribesAttributes (elements : List Tree) (attributes : AttributeMap) : Prop where
  keys : attributes.map (·.1) = (elements.filterMap (·.attribute? "key")).eraseDups
  -- The element that sets the final value is the last one of its key.
  last : ∀ before element behind key, elements = before ++ element :: behind →
    element.attribute? "key" = some key →
    (∀ other ∈ behind, other.attribute? "key" ≠ some key) →
      ∃ value, attributes.get? key = some value ∧ DescribesValue element value

/-- Whether an argument is the one that an element describes. -/
structure DescribesArgument (element : Tree) (argument : Argument) : Prop where
  name : element.attribute? "name" = some argument.name
  type : element.attribute? "type" = some argument.type
  multiValued : element.attribute? "multi" = some (flagText argument.multiValued)
  required : element.attribute? "required" = some (flagText argument.required)
  description : argument.description = (element.child? "description").map Tree.content
  prompt : argument.prompt = (element.child? "prompt").map Tree.content

/-- Whether a signature is the one below a root element, which is empty if it is absent. -/
structure DescribesSignature (root : Tree) (signature : Signature) : Prop where
  arguments :
    List.Forall₂ DescribesArgument (argumentElements root "arguments") signature.arguments
  returns : List.Forall₂ DescribesArgument (argumentElements root "returns") signature.returns
  returnType : signature.returnType = (root.child? "signature").bind (·.attribute? "returnType")
  -- Without the element there is nothing that the other fields could be about.
  absent : root.child? "signature" = none → signature = {}

/-- Whether a rule is the one that a root element describes. -/
structure DescribesRule (root : Tree) (rule : RuleArtifact) : Prop where
  kind : root.name.base = "rule"
  name : root.attribute? "name" = some rule.name
  -- The type may be missing, the language may not.
  type : rule.type = root.attribute? "type"
  language : root.attribute? "language" = some rule.language
  description : rule.description = (root.child? "description").map Tree.content
  attributes : DescribesAttributes (attributeElements root) rule.attributes
  signature : DescribesSignature root rule.signature

/-- Whether a named object is the one that a root element describes. -/
structure DescribesObject (root : Tree) (object : NamedObjectArtifact) : Prop where
  kind : root.name.base = "named-object"
  name : root.attribute? "name" = some object.name
  description : object.description = (root.child? "description").map Tree.content
  attributes : DescribesAttributes (attributeElements root) object.attributes

/-- Whether an artifact is the one that a root element describes. -/
def Describes (root : Tree) : Artifact → Prop
  | .rule rule => DescribesRule root rule
  | .namedObject object => DescribesObject root object

/-! ### Readers that decide a shape -/

/-- Whether a result is right: what has a shape gives a right value, and everything else is refused
for its shape. -/
def Decides {α : Type} (shape : Prop) (right : α → Prop) : Except DocumentError α → Prop
  | .ok value => shape ∧ right value
  | .error error => ¬ shape ∧ error ≠ .malformed

namespace Decides

variable {α β : Type} {shape other : Prop} {right good : α → Prop}

/-- A shape can be put in other words, and less can be said of the value. -/
theorem imp {result : Except DocumentError α} (decides : Decides shape right result)
    (same : shape ↔ other) (weaker : ∀ value, right value → good value) :
    Decides other good result := by
  -- Success and failure are told apart by the shape, so it may be any other one that holds alike.
  cases result with
  | ok value => exact ⟨same.1 decides.1, weaker value decides.2⟩
  | error error => exact ⟨mt same.2 decides.1, decides.2⟩

/-- A reader that goes on behind another one decides both shapes. -/
theorem bind {result : Except DocumentError α} {rest : α → Except DocumentError β}
    {wanted : β → Prop} (first : Decides shape right result)
    (second : ∀ value, right value → Decides other wanted (rest value)) :
    Decides (shape ∧ other) wanted (result >>= rest) := by
  -- If the first reader fails, the first shape fails, and with it both.
  cases result with
  | ok value =>
    exact (second value first.2).imp (and_iff_right first.1).symm fun _ => id
  | error error => exact ⟨fun both => first.1 both.1, first.2⟩

/-- A reader that is done decides nothing more. -/
theorem done {value : α} (holds : right value) : Decides True right (.ok value) :=
  ⟨trivial, holds⟩

end Decides

/-- An attribute that must be there is asked for. -/
theorem decides_required (element : Tree) (name : String) :
    Decides (Has element name) (element.attribute? name = some ·) (required element name) := by
  -- The reader fails just where the attribute is missing.
  unfold required
  split
  · rename_i value found
    exact ⟨⟨value, found⟩, found⟩
  · rename_i missing
    refine ⟨?_, by simp⟩
    rintro ⟨value, found⟩
    rw [missing] at found
    cases found

/-- A truth value that must be there is asked for. -/
theorem decides_requiredFlag (element : Tree) (name : String) :
    Decides (HasFlag element name) (fun value => element.attribute? name = some (flagText value))
      (requiredFlag element name) := by
  have present := decides_required element name
  unfold requiredFlag
  cases given : required element name with
  | error error =>
    rw [given] at present
    exact ⟨fun ⟨value, found⟩ => present.1 ⟨_, found⟩, present.2⟩
  | ok value =>
    rw [given] at present
    obtain ⟨-, found⟩ := present
    simp only [bind, Except.bind]
    split
    · rename_i yes
      exact ⟨⟨true, found.trans (congrArg some yes)⟩, found.trans (congrArg some yes)⟩
    · split
      · rename_i no
        exact ⟨⟨false, found.trans (congrArg some no)⟩, found.trans (congrArg some no)⟩
      · -- Any other word is no truth value.
        rename_i not_true not_false
        refine ⟨?_, by simp⟩
        rintro ⟨flag, flagged⟩
        rw [found, Option.some_inj] at flagged
        cases flag
        · exact not_false flagged
        · exact not_true flagged

/-- An argument is read from what is its element. -/
theorem decides_readArgument (element : Tree) :
    Decides (IsArgumentElement element) (DescribesArgument element) (readArgument element) := by
  -- The reader asks for one attribute after the other, and for nothing else.
  have reads : Decides (Has element "name" ∧ Has element "type" ∧ HasFlag element "multi" ∧
      HasFlag element "required" ∧ True) (DescribesArgument element) (readArgument element) :=
    (decides_required element "name").bind fun _ named =>
      (decides_required element "type").bind fun _ typed =>
        (decides_requiredFlag element "multi").bind fun _ multi =>
          (decides_requiredFlag element "required").bind fun _ needed =>
            .done ⟨named, typed, multi, needed, rfl, rfl⟩
  refine reads.imp ⟨?_, ?_⟩ fun _ => id
  · rintro ⟨name, type, multi, needed, -⟩
    exact ⟨name, type, multi, needed⟩
  · rintro ⟨name, type, multi, needed⟩
    exact ⟨name, type, multi, needed, trivial⟩

/-- Arguments are read in the order of their elements. -/
theorem decides_readArgumentEntries (elements : List Tree) :
    Decides (∀ element ∈ elements, IsArgumentElement element)
      (List.Forall₂ DescribesArgument elements) (readArgumentEntries elements) := by
  -- The induction is on the elements, each of which is read in front of the others.
  induction elements with
  | nil => exact ⟨by simp, .nil⟩
  | cons element rest ih =>
    have reads : Decides (IsArgumentElement element ∧
        (∀ other ∈ rest, IsArgumentElement other) ∧ True)
        (List.Forall₂ DescribesArgument (element :: rest))
        (readArgumentEntries (element :: rest)) :=
      (decides_readArgument element).bind fun _ described =>
        ih.bind fun _ others => .done (.cons described others)
    exact reads.imp (by simp) fun _ => id

/-- A list of arguments is read from the first list of its name. -/
theorem decides_readArguments (signature : Tree) (name : String) :
    Decides (∀ element ∈ elementsIn signature name "argument", IsArgumentElement element)
      (List.Forall₂ DescribesArgument (elementsIn signature name "argument"))
      (readArguments signature name) := by
  unfold readArguments elementsIn
  -- Where there is no list, there are no elements, and no arguments are read.
  cases signature.child? name with
  | none => exact ⟨by simp, .nil⟩
  | some list => exact decides_readArgumentEntries (list.childrenNamed "argument")

/-- A signature is read from the first one below the root. -/
theorem decides_readSignature (root : Tree) :
    Decides (IsSignatureOf root) (DescribesSignature root) (readSignature root) := by
  -- Without a signature there are no argument elements, and the empty signature is read.
  cases found : root.child? "signature" with
  | none =>
    have elements (list : String) : argumentElements root list = [] := by
      simp [argumentElements, found]
    have reads : readSignature root = .ok {} := by simp [readSignature, found]
    rw [reads]
    refine ⟨by simp [IsSignatureOf, elements], ?_⟩
    exact ⟨by simp [elements], by simp [elements], by simp [found], fun _ => rfl⟩
  | some element =>
    have elements (list : String) :
        argumentElements root list = elementsIn element list "argument" := by
      simp [argumentElements, found]
    have reads : Decides
        ((∀ argument ∈ elementsIn element "arguments" "argument", IsArgumentElement argument) ∧
          (∀ argument ∈ elementsIn element "returns" "argument", IsArgumentElement argument) ∧ True)
        (DescribesSignature root) (readSignature root) := by
      simp only [readSignature, found]
      refine (decides_readArguments element "arguments").bind fun _ arguments =>
        (decides_readArguments element "returns").bind fun _ returns => .done ⟨?_, ?_, ?_, ?_⟩
      · rwa [elements]
      · rwa [elements]
      · rw [found, Option.bind_some]
      · simp [found]
    exact reads.imp (by simp [IsSignatureOf, elements]) fun _ => id

/-! ### Attributes -/

/-- The value that the element of an attribute gives. -/
def elementValue (element : Tree) : AttributeValue :=
  match element.attribute? "value" with
  | some value => .single value
  | none => .list ((element.childrenNamed "item").map Tree.content)

/-- The value of an element is the one that it describes. -/
theorem describesValue_elementValue (element : Tree) :
    DescribesValue element (elementValue element) := by
  -- An element with a value attribute is single, and any other one is a list of its items.
  unfold elementValue
  split
  · rename_i found
    exact .single found
  · rename_i absent
    exact .list absent

/-- The key and value of an element, if it has a key. -/
def entryOf? (element : Tree) : Option (String × AttributeValue) :=
  (element.attribute? "key").map (·, elementValue element)

/-- Attributes are inserted in the order of their elements. -/
theorem decides_readAttributeEntries (elements : List Tree) (map : AttributeMap) :
    Decides (∀ element ∈ elements, Has element "key")
      (· = (elements.filterMap entryOf?).foldl (fun map entry => map.insert entry.1 entry.2)
        map) (readAttributeEntries map elements) := by
  -- The induction is on the elements, each of which is inserted in front of the others.
  induction elements generalizing map with
  | nil => exact ⟨by simp, rfl⟩
  | cons element rest ih =>
    have reads : Decides (Has element "key" ∧ ∀ other ∈ rest, Has other "key")
        (· = ((element :: rest).filterMap entryOf?).foldl
          (fun map entry => map.insert entry.1 entry.2) map)
        (readAttributeEntries map (element :: rest)) := by
      refine (decides_required element "key").bind fun key found => ?_
      have entry : entryOf? element = some (key, elementValue element) := by
        simp [entryOf?, found]
      rw [List.filterMap_cons_some entry]
      exact ih (map.insert key (elementValue element))
    exact reads.imp (by simp) fun _ => id

/-- Attributes that are inserted in the order of their elements are those that the elements
describe: the names are in the order in which they come first, and the last value of a name
counts. -/
theorem describesAttributes_merged (elements : List Tree) :
    DescribesAttributes elements (AttributeMap.merged (elements.filterMap entryOf?)) where
  keys := by
    -- Merging keeps a name where it stood first.
    rw [AttributeMap.names_merged, List.map_filterMap]
    simp [entryOf?, Function.comp_def]
  last := by
    rintro before element behind key rfl found last
    have entry : entryOf? element = some (key, elementValue element) := by
      simp [entryOf?, found]
    -- No entry of the key is inserted behind that of the element.
    have absent : ∀ entry ∈ behind.filterMap entryOf?, entry.1 ≠ key := by
      simp only [List.mem_filterMap, entryOf?, Option.map_eq_some_iff]
      rintro entry ⟨other, inside, other_key, other_found, rfl⟩ rfl
      exact last other inside other_found
    refine ⟨elementValue element, ?_, describesValue_elementValue element⟩
    rw [List.filterMap_append, List.filterMap_cons_some entry]
    exact AttributeMap.get?_foldl_insert _ _ absent []

/-- Attributes are read from the first list below the root. -/
theorem decides_readAttributes (root : Tree) :
    Decides (∀ element ∈ attributeElements root, Has element "key")
      (DescribesAttributes (attributeElements root)) (readAttributes root) := by
  unfold readAttributes attributeElements elementsIn
  -- Where there is no list, there are no elements, and no attributes are read.
  cases root.child? "attributes" with
  | none => exact ⟨by simp, describesAttributes_merged []⟩
  | some list =>
    refine (decides_readAttributeEntries (list.childrenNamed "attribute") []).imp Iff.rfl ?_
    rintro _ rfl
    exact describesAttributes_merged _

/-! ### Documents -/

/-- A root element is read as an artifact if it has the shape of one. -/
theorem decides_readRoot (root : Tree) :
    Decides (HasShape root) (Describes root) (readRoot root) := by
  -- The name of the root tells which of its parts are asked for.
  by_cases rule : root.name.base = "rule"
  · have reads : Decides (Has root "name" ∧ Has root "language" ∧
        (∀ element ∈ attributeElements root, Has element "key") ∧ IsSignatureOf root ∧ True)
        (Describes root) (readRoot root) := by
      rw [readRoot, if_pos rule]
      exact (decides_required root "name").bind fun _ name =>
        (decides_required root "language").bind fun _ language =>
          (decides_readAttributes root).bind fun _ attributes =>
            (decides_readSignature root).bind fun _ signature =>
              .done ⟨rule, name, rfl, language, rfl, attributes, signature⟩
    refine reads.imp ⟨?_, ?_⟩ fun _ => id
    · rintro ⟨name, language, keys, signature, -⟩
      exact ⟨.inl rule, name, keys, fun _ => language, fun _ => signature⟩
    · rintro ⟨-, name, keys, language, signature⟩
      exact ⟨name, language rule, keys, signature rule, trivial⟩
  · by_cases object : root.name.base = "named-object"
    · have reads : Decides (Has root "name" ∧
          (∀ element ∈ attributeElements root, Has element "key") ∧ True)
          (Describes root) (readRoot root) := by
        rw [readRoot, if_neg rule, if_pos object]
        exact (decides_required root "name").bind fun _ name =>
          (decides_readAttributes root).bind fun _ attributes =>
            .done ⟨object, name, rfl, attributes⟩
      refine reads.imp ⟨?_, ?_⟩ fun _ => id
      · rintro ⟨name, keys, -⟩
        exact ⟨.inr object, name, keys, (absurd · rule), (absurd · rule)⟩
      · rintro ⟨-, name, keys, -, -⟩
        exact ⟨name, keys, trivial⟩
    · -- No other element is the root of an artifact.
      rw [readRoot, if_neg rule, if_neg object]
      exact ⟨fun shape => shape.kind.elim rule object, by simp⟩

/-- A document is read as the artifact that its root element describes if that has the shape of an
artifact, and is refused for its shape if it has not. Only a text that is no document is refused as
one that is not well-formed. -/
theorem parse_decides_shape (text : String) :
    (∀ root, IsDocument root text.toList →
      (HasShape root → ∃ artifact, parse text = .ok artifact ∧ Describes root artifact) ∧
        (¬ HasShape root → ∃ error, parse text = .error error ∧ error ≠ .malformed)) ∧
      ((¬ ∃ root, IsDocument root text.toList) → parse text = .error .malformed) := by
  refine ⟨fun root document => ?_, fun absent => ?_⟩
  · -- The root element by the grammar is the one that is read.
    have reads : parse text = readRoot root := by
      rw [parse, parse?_eq_some_iff.2 document]
    have decides := decides_readRoot root
    rw [reads]
    cases result : readRoot root with
    | ok artifact =>
      rw [result] at decides
      exact ⟨fun _ => ⟨artifact, rfl, decides.2⟩, fun absent => absurd decides.1 absent⟩
    | error error =>
      rw [result] at decides
      exact ⟨fun shape => absurd shape decides.1, fun _ => ⟨error, rfl, decides.2⟩⟩
  · rw [parse, parse?_eq_none_iff.2 absent]

/-- The root element of a document with a note in front of it, and inside of it a text and an
element of a name that means nothing. -/
def notedRoot : Tree :=
  ⟨.plain "named-object", [entry "name" "Thing"],
    [.text "& ".toList, .element (.plain "other") [] []]⟩

/-- The document with the note. -/
def notedText : String :=
  "<?note?><named-object name='Thing'>&#38; <other/></named-object><!-- end -->"

/-- The document with the note is one by the grammar. -/
theorem isDocument_notedText : IsDocument notedRoot notedText.toList := by
  -- Filler stands in front of the root element and behind it, and text and an element inside.
  have front : IsFiller _ :=
    @IsFiller.aside (.instruction "note".toList []) [] (by decide +kernel) .nil
  have back : IsFiller _ := @IsFiller.aside (.comment " end ".toList) [] (by decide +kernel) .nil
  have root_simple : isSimpleTag (.plain "named-object") [entry "name" "Thing"] := by
    decide +kernel
  have other_simple : isSimpleTag (.plain "other") [] := by decide +kernel
  have other := isElement_empty other_simple (spellsStart_write other_simple true)
  have reference : SpellsText "&#38; ".toList "& ".toList :=
    .cons (.reference "#38".toList '&' (by decide +kernel) (by decide +kernel))
      (.cons (.plain ' ' (by decide)) .nil)
  have inside (spaces : List String) : IsContent spaces notedRoot.children _ :=
    .text_of_absent (by decide) (by decide) (by decide) reference (stopsText_bracket _)
      (other spaces [] [] .nil)
  have laid := isElement_full root_simple (spellsStart_write root_simple false) inside [] [] [] .nil
  exact ⟨_, _, _, ⟨[], _, .filler front, rfl, .inr ⟨rfl, by decide +kernel⟩⟩, laid, back,
    by decide +kernel⟩

/-- The document with the note is read as the object without attributes that it describes. -/
theorem parse_decides_shape_notedText : IsDocument notedRoot notedText.toList ∧ HasShape notedRoot ∧
    ∃ artifact, parse notedText = .ok artifact ∧ Describes notedRoot artifact := by
  -- Only what is asked of a named object is asked of it.
  have shape : HasShape notedRoot :=
    { kind := .inr rfl
      name := ⟨"Thing", by decide +kernel⟩
      keys := fun element inside => absurd inside (by simp [attributeElements, elementsIn,
        Tree.child?, Tree.childrenNamed, notedRoot, Name.plain])
      language := fun rule => absurd rule (by decide)
      signature := fun rule => absurd rule (by decide) }
  exact ⟨isDocument_notedText, shape,
    ((parse_decides_shape notedText).1 notedRoot isDocument_notedText).1 shape⟩

/-- By the standard, a document may begin with a document type. Such a document is not read, though
its root element has the shape of an artifact. -/
theorem parse_doctypeFirst : ∃ root,
    IsDocumentWith IsStandardProlog root
      "<!DOCTYPE rule><rule name='n' language='java'/>".toList ∧ HasShape root ∧
        parse "<!DOCTYPE rule><rule name='n' language='java'/>" = .error .malformed := by
  have simple : isSimpleTag (.plain "rule") [entry "name" "n", entry "language" "java"] := by
    decide +kernel
  have laid := isElement_empty simple (spellsStart_write simple true) [] [] [] .nil
  have types : SpellsDoctype "<!DOCTYPE rule>".toList :=
    ⟨[' '], "rule".toList, [], [], [], by decide, by decide, by decide +kernel, .inl rfl, .inl rfl,
      rfl, rfl⟩
  have standard : IsDocumentWith IsStandardProlog
      ⟨.plain "rule", [entry "name" "n", entry "language" "java"], []⟩
        "<!DOCTYPE rule><rule name='n' language='java'/>".toList :=
    ⟨_, _, [], ⟨[], [], _, [], .inl rfl, .nil, .inr types, .nil, rfl⟩, laid, .nil,
      by decide +kernel⟩
  refine ⟨_, standard, ?_, ?_⟩
  · exact
      { kind := .inl rfl
        name := ⟨"n", by decide +kernel⟩
        keys := by simp [attributeElements, elementsIn, Tree.child?, Tree.childrenNamed]
        language := fun _ => ⟨"java", by decide +kernel⟩
        signature := fun _ => by
          simp [IsSignatureOf, argumentElements, Tree.child?, Tree.childrenNamed] }
  · -- Whatever its root element were, a document would not begin with a document type.
    rw [parse, parse?_eq_none_iff.2]
    rintro ⟨root, document⟩
    exact document.not_doctype_prefix (by decide +kernel)

/-- Prefixes of names do not count, and of repeated keys the last counts. -/
example : parse ("<x:named-object xmlns:x='u' name='n'><attributes>" ++
      "<attribute key='k' value='v'/><x:attribute key='k'/></attributes></x:named-object>") =
    .ok (.namedObject { name := "n", attributes := [("k", .list [])] }) := by
  decide +kernel

end Document

/-- Every artifact has a document, of which no beginning but the whole is taken for a document:
wherever it is cut off, what is left is not well-formed. -/
theorem DocumentFormat.xml_refuses_cut (artifact : Artifact) :
    ∃ document, DocumentFormat.xml.render artifact = .ok document ∧
      ∀ text : String, text.toList <+: document.toList → text ≠ document →
        Document.parse text = .error .malformed := by
  refine ⟨Document.render artifact, rfl, fun text begins short => ?_⟩
  rw [Document.render, String.toList_ofList] at begins
  have cut : text.toList ≠ writeDocument (Document.root artifact) := by
    intro whole
    rw [Document.render, ← whole, String.ofList_toList] at short
    exact short rfl
  -- The parser gives up on what is left, and so does the reader.
  rw [Document.parse, parse?_eq_none_of_cut (Document.root_isRecord artifact) begins cut]

/-- The document of an object whose name needs escapes is refused when it is cut inside of one. -/
theorem xml_refuses_cut_markedName :
    Document.parse "<?xml version='1.0'?><named-object name='a &l" = .error .malformed := by
  obtain ⟨document, rendered, refused⟩ :=
    DocumentFormat.xml_refuses_cut (.namedObject { name := "a <b/>" })
  obtain rfl : Document.render _ = document := Except.ok.inj rendered
  -- The text is a beginning of the document, and not all of it.
  refine refused _ ?_ ?_
  · rw [Document.render, String.toList_ofList]
    decide +kernel
  · decide +kernel

end RuleMetadata

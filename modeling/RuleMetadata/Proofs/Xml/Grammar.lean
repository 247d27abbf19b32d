import RuleMetadata.Proofs.Xml.Lexing
import RuleMetadata.Xml.Parser

/-! The grammar of the documents that are read. It says which texts are documents, and of which root
element, in the order in which a document is written and without a way to find it out. -/

namespace RuleMetadata.Xml

/-! ### Comments and instructions -/

/-- A comment, or an instruction with its target and data. -/
inductive Aside where
  | comment (text : List Char)
  | instruction (target data : List Char)

namespace Aside

/-- The spelling of a comment or an instruction. -/
def write : Aside → List Char
  | comment text => "<!--".toList ++ (text ++ "-->".toList)
  | instruction target data => "<?".toList ++ ((target ++ data) ++ "?>".toList)

/-- Whether a comment or an instruction is a proper one. Two hyphens do not meet in a comment, and
none stands in front of its end. The target of an instruction is a name, but not `xml` in whatever
case; its data stand behind a blank, and do not hold its end. -/
def IsProper : Aside → Prop
  -- The hyphen behind the text is the first one of the end.
  | comment text => ¬ ['-', '-'] <:+: text ++ ['-']
  -- Without data there need not be a blank.
  | instruction target data => isFullName target ∧ isReservedTarget target = false ∧
      data.head?.all isSpace ∧ ¬ ['?', '>'] <:+: data

instance (aside : Aside) : Decidable aside.IsProper :=
  match aside with
  | comment text => inferInstanceAs (Decidable (¬ ['-', '-'] <:+: text ++ ['-']))
  | instruction target data => inferInstanceAs (Decidable (isFullName target ∧
      isReservedTarget target = false ∧ data.head?.all isSpace ∧ ¬ ['?', '>'] <:+: data))

end Aside

/-- Blanks, comments and instructions in a row. -/
inductive IsFiller : List Char → Prop where
  | nil : IsFiller []
  | blank {char : Char} {chars : List Char} : isSpace char → IsFiller chars →
    IsFiller (char :: chars)
  -- Two of them may follow one another without a blank between them.
  | aside {aside : Aside} {chars : List Char} : aside.IsProper → IsFiller chars →
    IsFiller (aside.write ++ chars)

/-- Blanks alone are filler. -/
theorem isFiller_blanks {blanks : List Char} (blank : blanks.all isSpace) : IsFiller blanks := by
  -- Each blank is filler in front of the others.
  induction blanks with
  | nil => exact .nil
  | cons char rest ih =>
    rw [List.all_cons, Bool.and_eq_true] at blank
    exact .blank blank.1 (ih blank.2)

/-! ### Names with quoted values -/

/-- The two kinds of quotes. -/
inductive Quote where
  | single
  | double

/-- The character of a quote. -/
def Quote.char : Quote → Char
  | .single => '\''
  | .double => '"'

/-- Whether characters are a value in quotes of one kind, which does not stand in the value. -/
def SpellsQuoted (value chars : List Char) : Prop :=
  ∃ quote : Quote, quote.char ∉ value ∧ chars = quote.char :: (value ++ [quote.char])

/-- Whether characters are a name with a value behind blanks. There may be blanks on both sides of
the equals sign as well. -/
def SpellsSetting (name value chars : List Char) : Prop :=
  -- At least one blank parts the setting from what stands in front of it.
  ∃ blanks before after quoted, blanks ≠ [] ∧ blanks.all isSpace ∧ before.all isSpace ∧
    after.all isSpace ∧ SpellsQuoted value quoted ∧
      chars = blanks ++ (name ++ (before ++ '=' :: (after ++ quoted)))

/-- Whether characters are spelled in a way, or are none at all. -/
def Optionally (spells : List Char → Prop) (chars : List Char) : Prop :=
  chars = [] ∨ spells chars

/-! ### In front of the root element -/

/-- Whether characters set a name to a value that is accepted for it. -/
def Sets (name : String) (accepts : List Char → Bool) (chars : List Char) : Prop :=
  ∃ value, accepts value ∧ SpellsSetting name.toList value chars

/-- Whether characters are the declaration of XML. The version comes first, and each of the other
two settings may be missing. -/
def SpellsDeclaration (chars : List Char) : Prop :=
  -- The order of the settings is fixed.
  ∃ version encoding standalone blanks, Sets "version" isVersion version ∧
    Optionally (Sets "encoding" isEncoding) encoding ∧
    Optionally (Sets "standalone" isYesOrNo) standalone ∧ blanks.all isSpace ∧
      chars = "<?xml".toList ++ (version ++ (encoding ++ (standalone ++ (blanks ++ "?>".toList))))

/-- Whether characters are the system identifier of a document type, in which there are neither
references nor brackets. -/
def SpellsSystem (chars : List Char) : Prop :=
  -- Both the word and the identifier have a blank in front of them.
  ∃ front behind identifier quoted, front ≠ [] ∧ front.all isSpace ∧ behind ≠ [] ∧
    behind.all isSpace ∧ identifier ≠ [] ∧ '&' ∉ identifier ∧ '<' ∉ identifier ∧
      SpellsQuoted identifier quoted ∧ chars = front ++ ("SYSTEM".toList ++ (behind ++ quoted))

/-- Whether characters are an internal subset, which ends at its first closing bracket. -/
def SpellsSubset (chars : List Char) : Prop :=
  ∃ blanks inside, blanks.all isSpace ∧ ']' ∉ inside ∧ chars = blanks ++ '[' :: (inside ++ [']'])

/-- Whether characters are a document type. -/
def SpellsDoctype (chars : List Char) : Prop :=
  ∃ blanks name system subset last, blanks ≠ [] ∧ blanks.all isSpace ∧ isFullName name ∧
    -- There is no way to write a public identifier here.
    Optionally SpellsSystem system ∧ Optionally SpellsSubset subset ∧ last.all isSpace ∧
      chars = "<!DOCTYPE".toList ++ (blanks ++ (name ++ (system ++ (subset ++ (last ++ ['>'])))))

/-- What may stand between the declaration and the root element: filler, and document types in the
midst of it. -/
inductive IsPreface : List Char → Prop where
  | filler {front : List Char} : IsFiller front → IsPreface front
  -- Several document types are accepted, while the standard allows for one.
  | doctype {front doctype rest : List Char} : IsFiller front → SpellsDoctype doctype →
    IsPreface rest → IsPreface (front ++ (doctype ++ rest))

/-- What may stand in front of the root element. The declaration may be missing; then a document
type is not the first thing to come. -/
def IsProlog (chars : List Char) : Prop :=
  ∃ declaration preface, IsPreface preface ∧ chars = declaration ++ preface ∧
    (SpellsDeclaration declaration ∨ declaration = [] ∧ ¬ "<!DOCTYPE".toList <+: preface)

/-- What may stand in front of the root element by the standard of XML: the declaration may be
missing or not, and among filler there may be one document type, wherever it is. -/
def IsStandardProlog (chars : List Char) : Prop :=
  -- Nothing stands in front of the declaration, not even a blank.
  ∃ declaration front doctype back, Optionally SpellsDeclaration declaration ∧ IsFiller front ∧
    Optionally SpellsDoctype doctype ∧ IsFiller back ∧
      chars = declaration ++ (front ++ (doctype ++ back))

/-! ### Tags -/

/-- The attributes of a tag in a row, whose values are spelled without brackets. -/
inductive SpellsAttributes : Attributes → List Char → Prop where
  | nil : SpellsAttributes [] []
  -- Entities are resolved in a value, so its spelling differs from it.
  | cons {name : Name} {spelling value first rest : List Char} {others : Attributes} :
    name.isSpellable → '<' ∉ spelling → SpellsText spelling value →
      SpellsSetting name.write spelling first → SpellsAttributes others rest →
        SpellsAttributes ((name, value) :: others) (first ++ rest)

/-- The end of an opening tag, of an element without or with content. -/
def tagEnd (closed : Bool) : List Char :=
  if closed then ['/', '>'] else ['>']

/-- Whether characters are an opening tag. -/
def SpellsStart (name : Name) (attributes : Attributes) (closed : Bool) (chars : List Char) :
    Prop :=
  -- Blanks may stand behind the last attribute, but not behind the bracket.
  ∃ inside blanks, name.isSpellable ∧ SpellsAttributes attributes inside ∧ blanks.all isSpace ∧
    chars = '<' :: (name.write ++ (inside ++ (blanks ++ tagEnd closed)))

/-- Whether characters are a closing tag. -/
def SpellsFinish (name : Name) (chars : List Char) : Prop :=
  ∃ blanks, name.isSpellable ∧ blanks.all isSpace ∧
    chars = '<' :: '/' :: (name.write ++ (blanks ++ ['>']))

/-- The attributes of a tag without those that declare namespaces. -/
def properAttributes (attributes : Attributes) : Attributes :=
  attributes.filter (!·.1.declaresSpace)

/-- The tags of namespaces that are known inside of an element. -/
def innerSpaces (spaces : List String) (attributes : Attributes) : List String :=
  "xml" :: (declaredSpaces attributes ++ spaces)

/-- Whether a tag obeys the rules of namespaces where some are known: its names are distinct and of
known namespaces, the default namespace is declared once at most, and no other one is declared to
be empty. -/
structure IsBoundTag (spaces : List String) (name : Name) (attributes : Attributes) : Prop where
  distinct : (attributes.map (·.1)).Nodup
  -- An element may use a namespace that its own tag declares.
  known : ∀ space, name.space = some space → space ∈ declaredSpaces attributes ++ spaces
  attributesKnown : ∀ entry ∈ properAttributes attributes, ∀ space, entry.1.space = some space →
    space ∈ innerSpaces spaces attributes
  default : (attributes.filter (·.1.declaresDefault)).length ≤ 1
  present : ∀ entry ∈ attributes, entry.1.space = some "xmlns" → entry.2 ≠ []

/-! ### Elements -/

/-- Whether no text goes on in front of some characters: markup follows, or nothing at all. -/
def StopsText (rest : List Char) : Prop :=
  ∀ char, rest.head? = some char → char = '<'

/-- What may stand inside of an element in which some namespaces are known, as the nodes that it
holds: texts, verbatim sections, comments, instructions and elements in any order. A text goes on up
to the next of the others, and does not hold the end of a verbatim section. -/
inductive IsContent : List String → List Node → List Char → Prop where
  | nil {spaces : List String} : IsContent spaces [] []
  -- The bracket of what follows ends the text, so two texts cannot meet.
  | text {spaces : List String} {nodes : List Node} {spelling value rest : List Char} :
    spelling ≠ [] → '<' ∉ spelling → ¬ "]]>".toList <:+: spelling → SpellsText spelling value →
      StopsText rest → IsContent spaces nodes rest →
        IsContent spaces (.text value :: nodes) (spelling ++ rest)
  -- References are not resolved in a verbatim section.
  | verbatim {spaces : List String} {nodes : List Node} {value rest : List Char} :
    ¬ "]]>".toList <:+: value → IsContent spaces nodes rest →
      IsContent spaces (.text value :: nodes)
        ("<![CDATA[".toList ++ (value ++ ("]]>".toList ++ rest)))
  -- These leave no node.
  | aside {spaces : List String} {nodes : List Node} {aside : Aside} {rest : List Char} :
    aside.IsProper → IsContent spaces nodes rest → IsContent spaces nodes (aside.write ++ rest)
  | empty {spaces : List String} {name : Name} {attributes : Attributes} {nodes : List Node}
      {tag rest : List Char} :
    SpellsStart name attributes true tag → IsBoundTag spaces name attributes →
      IsContent spaces nodes rest →
        IsContent spaces (.element name (properAttributes attributes) [] :: nodes) (tag ++ rest)
  -- The children know the namespaces that this tag declares; what stands behind it does not.
  | element {spaces : List String} {name : Name} {attributes : Attributes}
      {children nodes : List Node} {tag inside last rest : List Char} :
    SpellsStart name attributes false tag → IsBoundTag spaces name attributes →
      IsContent (innerSpaces spaces attributes) children inside → SpellsFinish name last →
        IsContent spaces nodes rest →
          IsContent spaces (.element name (properAttributes attributes) children :: nodes)
            (tag ++ (inside ++ (last ++ rest)))

/-- Whether characters are a document with a root element, in front of which there is a prolog of
some kind. No namespaces are known around the root, and filler may stand behind it. -/
def IsDocumentWith (prolog : List Char → Prop) (root : Tree) (chars : List Char) : Prop :=
  ∃ front laid back, prolog front ∧ IsContent [] [root.toNode] laid ∧ IsFiller back ∧
    chars = front ++ (laid ++ back)

/-- Whether characters are a document with a root element. -/
def IsDocument (root : Tree) (chars : List Char) : Prop :=
  IsDocumentWith IsProlog root chars

end RuleMetadata.Xml

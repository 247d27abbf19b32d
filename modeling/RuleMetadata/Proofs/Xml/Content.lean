import Mathlib.Data.List.Find
import Mathlib.Data.List.Nodup
import RuleMetadata.Proofs.Xml.Parsing

/-! Elements with simple tags that hold either one text or elements alone. -/

namespace RuleMetadata.Xml

/-- A name without a namespace that declares none either. -/
def Name.isSimple (name : Name) : Bool :=
  name.space.isNone && isBaseName name.base.toList && name.base != "xmlns"

/-- A tag with simple names, of which no two attributes share one. -/
def isSimpleTag (name : Name) (attributes : Attributes) : Bool :=
  name.isSimple && attributes.all (·.1.isSimple) && distinctNames (attributes.map (·.1))

/-- An element with a simple tag that holds one text, or such elements in a row. -/
inductive Node.IsRecord : Node → Prop where
  -- A text is alone in its element, so no blanks can be taken for a part of it.
  | leaf {name : Name} {attributes : Attributes} (value : List Char) :
    isSimpleTag name attributes → IsRecord (.element name attributes [.text value])
  | branch {name : Name} {attributes : Attributes} {children : List Node} :
    isSimpleTag name attributes → (∀ child ∈ children, child.IsRecord) →
      IsRecord (.element name attributes children)

/-- An element with children is written between an opening and a closing tag. -/
theorem tokens_element {name : Name} {attributes : Attributes} {children : List Node}
    (present : children ≠ []) : (Node.element name attributes children).tokens =
      .start name attributes false :: nodesTokens children ++ [.finish name] := by
  -- An element without children would be written as one tag.
  cases children with
  | nil => exact absurd rfl present
  | cons child rest => simp [Node.tokens, nodesTokens]

/-- An element without children is written as one tag. -/
theorem tokens_empty (name : Name) (attributes : Attributes) :
    (Node.element name attributes []).tokens = [.start name attributes true] := by
  simp [Node.tokens]

/-! ### Written tokens -/

/-- An opening tag holds its name and its attributes. -/
theorem Token.write_start (name : Name) (attributes : Attributes) (closed : Bool) :
    (Token.start name attributes closed).write =
      '<' :: name.write ++ writeAttributes attributes ++ tagEnd closed := rfl

/-- A closing tag holds its name. -/
theorem Token.write_finish (name : Name) :
    (Token.finish name).write = '<' :: '/' :: (name.write ++ ['>']) := rfl

/-- Text is written as it is spelled. -/
theorem Token.write_text (spelling : List Char) : (Token.text spelling).write = spelling := rfl

/-- The declaration is spelled as it is written, with a version alone. -/
theorem spellsDeclaration_write : SpellsDeclaration Token.declaration.write := by
  -- A blank stands in front of the version, and the version in single quotes.
  have version : Sets "version" isVersion " version='1.0'".toList :=
    ⟨"1.0".toList, by decide, [' '], [], [], "'1.0'".toList, by decide, by decide, rfl, rfl,
      ⟨.single, by decide, rfl⟩, rfl⟩
  exact ⟨_, [], [], [], version, .inl rfl, .inl rfl, rfl, rfl⟩

/-- A closing tag is spelled as it is written, without blanks. -/
theorem spellsFinish_write {name : Name} (spellable : name.isSpellable) :
    SpellsFinish name (Token.finish name).write :=
  ⟨[], spellable, rfl, rfl⟩

/-! ### Simple tags -/

/-- A simple name is spellable. -/
theorem Name.isSpellable_of_isSimple {name : Name} (simple : name.isSimple) : name.isSpellable := by
  -- A simple name has no tag that could be missing.
  simp only [Name.isSimple, Bool.and_eq_true, Option.isNone_iff_eq_none] at simple
  simp [Name.isSpellable, simple.1.1, simple.1.2]

/-- A simple name is spelled in characters of names. -/
theorem Name.isNameChar_of_isSimple {name : Name} (simple : name.isSimple) :
    ∀ char ∈ name.write, isNameChar char := by
  obtain ⟨space, base⟩ := name
  simp only [Name.isSimple, Bool.and_eq_true, Option.isNone_iff_eq_none] at simple
  obtain ⟨⟨rfl, named⟩, -⟩ := simple
  intro char member
  simp only [Name.write] at member
  -- The first character of a name could stand further behind as well.
  cases spelled : base.toList with
  | nil => simp [spelled] at member
  | cons first rest =>
    simp only [spelled, isBaseName, Bool.and_eq_true, List.all_eq_true] at named member
    rcases List.mem_cons.1 member with rfl | behind
    · simp [isNameChar, named.1]
    · exact named.2 char behind

/-- The names of a simple tag are spellable. -/
theorem isSpellable_of_isSimpleTag {name : Name} {attributes : Attributes}
    (simple : isSimpleTag name attributes) :
    name.isSpellable ∧ ∀ entry ∈ attributes, entry.1.isSpellable := by
  -- Simple names are spellable.
  simp only [isSimpleTag, Bool.and_eq_true, List.all_eq_true] at simple
  exact ⟨Name.isSpellable_of_isSimple simple.1.1, fun entry member =>
    Name.isSpellable_of_isSimple (simple.1.2 entry member)⟩

/-- A tag stays simple when its attributes change places. -/
theorem isSimpleTag_of_perm {name : Name} {attributes others : Attributes}
    (perm : others.Perm attributes) (simple : isSimpleTag name attributes) :
    isSimpleTag name others := by
  -- Neither the names nor whether they are distinct depends on the order.
  simp only [isSimpleTag, Bool.and_eq_true, distinctNames_iff, (perm.map (·.1)).nodup_iff,
    perm.all_eq] at simple ⊢
  exact simple

/-- Attributes of distinct names have their values wherever they stand. -/
theorem attribute?_of_perm {name : Name} {attributes others : Attributes}
    (simple : isSimpleTag name attributes) (perm : others.Perm attributes)
    (children below : List Node) (wanted : String) :
    Tree.attribute? ⟨name, others, children⟩ wanted =
      Tree.attribute? ⟨name, attributes, below⟩ wanted := by
  simp only [isSimpleTag, Bool.and_eq_true, distinctNames_iff] at simple
  have distinct : (others.map (·.1)).Nodup := (perm.map (·.1)).nodup_iff.2 simple.2
  -- Only one of the attributes can have the name.
  have single : others.find? (·.1 = .plain wanted) = attributes.find? (·.1 = .plain wanted) := by
    refine List.find?_eq_find?_of_perm perm fun one found other others_found => ?_
    obtain ⟨one_inside, one_named⟩ := found
    obtain ⟨other_inside, other_named⟩ := others_found
    have same : one.1 = other.1 :=
      (of_decide_eq_true one_named).trans (of_decide_eq_true other_named).symm
    exact List.inj_on_of_nodup_map distinct one_inside other_inside same
  simp only [Tree.attribute?, single]

/-- All attributes of a simple tag are proper ones. -/
theorem properAttributes_of_isSimpleTag {name : Name} {attributes : Attributes}
    (simple : isSimpleTag name attributes) : properAttributes attributes = attributes := by
  simp only [isSimpleTag, Name.isSimple, Bool.and_eq_true, List.all_eq_true, bne_iff_ne,
    Option.isNone_iff_eq_none] at simple
  -- Without a namespace, only the default one could be declared.
  rw [properAttributes, List.filter_eq_self]
  intro entry member
  have entry_simple := simple.1.2 entry member
  simp [Name.declaresSpace, Name.declaresDefault, entry_simple.1.1, entry_simple.2]

/-- A simple tag obeys the rules of namespaces wherever it stands. -/
theorem isBoundTag_of_isSimpleTag {name : Name} {attributes : Attributes}
    (simple : isSimpleTag name attributes) (spaces : List String) :
    IsBoundTag spaces name attributes := by
  have proper := properAttributes_of_isSimpleTag simple
  simp only [isSimpleTag, Name.isSimple, Bool.and_eq_true, List.all_eq_true, bne_iff_ne,
    Option.isNone_iff_eq_none, distinctNames_iff] at simple
  obtain ⟨⟨⟨⟨name_space, _⟩, _⟩, names⟩, distinct⟩ := simple
  -- There are no namespaces that would have to be known, and none is declared.
  have none_default : attributes.filter (·.1.declaresDefault) = [] := by
    rw [List.filter_eq_nil_iff]
    intro entry member
    simp [Name.declaresDefault, (names entry member).2]
  refine ⟨distinct, fun space named => ?_, fun entry member space named => ?_, ?_,
    fun entry member named => ?_⟩
  · rw [name_space] at named
    cases named
  · rw [proper] at member
    rw [(names entry member).1.1] at named
    cases named
  · simp [none_default]
  · rw [(names entry member).1.1] at named
    cases named

end RuleMetadata.Xml

import RuleMetadata.Proofs.Artifact.RoundTrip

/-! However the document of an artifact is laid out, it reads back as the artifact. -/

namespace RuleMetadata

open Xml

namespace Document

/-- The layout of a document does not matter. Blanks, comments and instructions may be added between
the tags inside of elements that hold no text, around the root element, and the attributes of every
tag may change their order and quotes: the document reads back as the artifact. -/
theorem parse_of_isLayout {artifact : Artifact} (distinct : artifact.attributes.IsDistinct)
    {text : String} (layout : IsLayout isLoose (root artifact) text.toList) :
    parse text = .ok artifact := by
  rw [parse_eq_of_isLayout layout, artifact.merged_eq distinct]

/-- An object with a description and an attribute. -/
def reviewed : Artifact :=
  .namedObject { name := "Thing", description := some "A & B", attributes := [("k", .single "v")] }

/-- The document of the object, laid out by hand. -/
def reviewedText : String :=
  "<?xml version='1.0'?>\n<!-- a thing --><named-object name=\"Thing\">\n" ++
    -- A gap can be anything here but the text of a description.
    "<description>A &amp; B</description><?keep order?>\n" ++
    "<attributes><attribute value=\"v\" key='k'/> <!----></attributes></named-object>\n<?end?>"

/-- The text is a layout: there are blanks, comments and instructions in several places, and the
attributes of a tag have changed their order and quotes. -/
theorem isLayout_reviewedText : IsLayout isLoose (root reviewed) reviewedText.toList := by
  -- What stands between the tags is filler, in one way or another.
  have line : IsFiller ['\n'] := isFiller_blanks rfl
  have noted : IsFiller _ :=
    .blank (rfl : isSpace '\n')
      (@IsFiller.aside (.comment " a thing ".toList) [] (by decide +kernel) .nil)
  have kept : IsFiller _ :=
    @IsFiller.aside (.instruction "keep".toList " order".toList) _ (by decide +kernel) line
  have unsaid : IsFiller _ :=
    .blank (rfl : isSpace ' ') (@IsFiller.aside (.comment []) [] (by decide +kernel) .nil)
  have ended : IsFiller _ :=
    .blank (rfl : isSpace '\n')
      (@IsFiller.aside (.instruction "end".toList []) [] (by decide +kernel) .nil)
  -- The elements are laid out from the innermost ones outward.
  have described : (textTree "description" "A & B").IsLaidOut isLoose _ :=
    .leaf "A & B".toList ⟨[], .nil, rfl⟩
  have valued : (attributeTree ("k", .single "v")).IsLaidOut isLoose _ :=
    .empty ⟨[(.double, entry "value" "v"), (.single, entry "key" "k")], .swap .., rfl⟩
  have listed : (attributesTree [("k", .single "v")]).IsLaidOut isLoose _ :=
    @Tree.IsLaidOut.branch isLoose (.plain "attributes") [] _ _
      [⟨[], attributeTree ("k", .single "v"), _⟩] ⟨[], .nil, rfl⟩ (List.cons_ne_nil _ _)
      (List.forall_mem_singleton.2 (isGap_nil true)) (List.forall_mem_singleton.2 valued)
      ⟨unsaid, nofun⟩
  have laid : (root reviewed).IsLaidOut isLoose _ :=
    @Tree.IsLaidOut.branch isLoose (.plain "named-object") [entry "name" "Thing"] _ _
      [⟨_, textTree "description" "A & B", _⟩, ⟨_, attributesTree [("k", .single "v")], _⟩]
      ⟨[(.double, entry "name" "Thing")], .refl _, rfl⟩ (List.cons_ne_nil _ _)
      (List.forall_mem_cons.2 ⟨⟨line, nofun⟩, List.forall_mem_singleton.2 ⟨kept, nofun⟩⟩)
      (List.forall_mem_cons.2 ⟨described, List.forall_mem_singleton.2 listed⟩)
      (isGap_nil true)
  exact ⟨_, _, _, noted, laid, ended, by decide +kernel⟩

/-- The edited document is read as the artifact that it was written from. -/
theorem parse_of_isLayout_reviewed : reviewed.attributes.IsDistinct ∧
    IsLayout isLoose (root reviewed) reviewedText.toList ∧ parse reviewedText = .ok reviewed :=
  ⟨by decide +kernel, isLayout_reviewedText,
    parse_of_isLayout (by decide +kernel) isLayout_reviewedText⟩

end Document

end RuleMetadata

import RuleMetadata.Model.Element

/-! The keys under which the descriptions of elements are kept. -/

namespace RuleMetadata.Element

/-- The last segment of an element's key: its trimmed name and its kind. -/
def keyFile (element : Element) : String :=
  Text.trim element.simpleName ++ "." ++ element.kind.label ++ ".txt"

/-- The key of an element's description: its owner's name and its own, each one segment.

Constructors have none, nor do elements whose name or owner is no plain segment. -/
def resourceKey? (element : Element) : Option String :=
  -- The key becomes a path, so each of its parts has to be the name of a file.
  if element.kind = .constructor || !Text.isPlainSegment (Text.trim element.simpleName) then none
  else match element.ownerName with
    | none => some element.keyFile
    | some owner =>
      if owner = "" then some element.keyFile
      else if Text.isPlainSegment owner then some (owner ++ "/" ++ element.keyFile)
      else none

/-- The live documentation of an element, trimmed, unless it is blank. -/
def liveText? (element : Element) : Option String :=
  element.doc.bind Text.nonBlank?

end RuleMetadata.Element

import RuleMetadata.Text.Blank

/-! Paths as text: joining them, and going up from them. -/

namespace RuleMetadata.Path

open Text

/-- Whether a path starts at the root of all files. -/
def isAbsolute (path : String) : Bool :=
  path.toList.head? == some '/'

/-- A path behind another one; an absolute path stands for itself. -/
def join (base path : String) : String :=
  if isAbsolute path then path
  -- A slash is added only where the base does not end in one.
  else if base = "" || base.toList.getLast? == some '/' then base ++ path
  else base ++ "/" ++ path

/-- Trailing pieces that name nothing: empty ones, and dots that are not the first piece. -/
def trimPieces (pieces : List String) : List String :=
  match pieces with
  | [] => []
  | first :: rest =>
    -- Going on from the last piece, the first proper name ends the search.
    first :: (rest.reverse.dropWhile fun piece => piece == "" || piece == ".").reverse

/-- The pieces of a path between its slashes; the first one is empty if the path is absolute. -/
def pieces (path : String) : List String :=
  trimPieces (segments path)

/-- The path without its last name; there is none above the root and above the empty path. -/
def parent? (path : String) : Option String :=
  match pieces path with
  | [] => none
  -- An absolute path without names is the root.
  | [single] => if single = "" then none else some ""
  | several =>
    match trimPieces several.dropLast with
    | [] => none
    | [single] => some (if single = "" then "/" else single)
    | front => some ("/".intercalate front)

end RuleMetadata.Path

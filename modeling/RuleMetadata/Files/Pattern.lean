import RuleMetadata.Files.Path
import RuleMetadata.Files.System

/-! File patterns: a path in which names may hold wildcards, and the files that match it. -/

namespace RuleMetadata

/-- One or several characters of a set. -/
inductive CharRange where
  | single (char : Char)
  | span (first last : Char)
  deriving DecidableEq, Repr

/-- A part of a name in a pattern. -/
inductive NamePart where
  | char (char : Char)
  | anyChar
  | anyRun
  | within (ranges : List CharRange)
  | except (ranges : List CharRange)
  deriving DecidableEq, Repr

/-- A name in a pattern: literal, with wildcards, or any number of directories. -/
inductive NamePattern where
  | literal (name : String)
  | wild (parts : List NamePart)
  | recursive
  deriving DecidableEq, Repr

/-- What keeps a text from being a pattern. -/
inductive PatternFault where
  | tooManyStars
  | joinedStars
  | openRange
  deriving DecidableEq, Repr

/-- A text that is no pattern, with the position of the fault. -/
structure PatternError where
  position : Nat
  fault : PatternFault
  deriving DecidableEq, Repr

/-- The wording of a pattern error. -/
def PatternError.message (error : PatternError) : String :=
  s!"Pattern syntax error near position {error.position}: " ++
    -- The position is counted in characters from the start of the pattern.
    match error.fault with
    | .tooManyStars => "wildcards are either regular `*` or recursive `**`"
    | .joinedStars => "recursive wildcards must form a single path component"
    | .openRange => "invalid range pattern"

/-- A file pattern: the directory in which it starts, the patterns of its names, and whether only
directories match. -/
structure FilePattern where
  base : String
  names : List NamePattern
  onlyDirectories : Bool
  deriving Repr

namespace FilePattern

/-- Whether a path is meant as a pattern. -/
def isPattern (path : String) : Bool :=
  path.toList.any fun char => char == '*' || char == '?' || char == '[' || char == '\x7b'

/-- The members of a character set; a hyphen between two characters spans those in between. -/
def charRanges : List Char → List CharRange
  -- A hyphen at either end stands for itself.
  | first :: '-' :: last :: rest => .span first last :: charRanges rest
  | char :: rest => .single char :: charRanges rest
  | [] => []

/-- The parts in a text that begins at a position; `before` is the character in front of it, and
the fuel bounds the number of parts. -/
def partsFrom (fuel position : Nat) (before : Option Char) (chars : List Char) :
    Except PatternError (List NamePart × Bool) :=
  match fuel with
  | 0 => .ok ([], false)
  | fuel + 1 =>
    match chars with
    | [] => .ok ([], false)
    | '?' :: rest => do
      let (parts, stars) ← partsFrom fuel (position + 1) (some '?') rest
      return (.anyChar :: parts, stars)
    | '*' :: _ => do
      let count := (chars.takeWhile (· == '*')).length
      let rest := chars.drop count
      if 2 < count then throw ⟨position + 2, .tooManyStars⟩
      if count = 2 then
        -- Two stars stand alone between slashes.
        if before.isSome && before != some '/' then throw ⟨position - 1, .joinedStars⟩
        match rest with
        | [] => return ([], true)
        | '/' :: rest => do
          let (parts, _) ← partsFrom fuel (position + 3) (some '/') rest
          return (parts, true)
        | _ => throw ⟨position + 2, .joinedStars⟩
      else
        let (parts, stars) ← partsFrom fuel (position + 1) (some '*') rest
        return (.anyRun :: parts, stars)
    | '[' :: '!' :: first :: rest =>
      -- The first character of a set belongs to it even if it is a bracket.
      match rest.dropWhile (· != ']') with
      | [] => .error ⟨position, .openRange⟩
      | _ :: behind => do
        let inside := first :: rest.takeWhile (· != ']')
        let (parts, stars) ← partsFrom fuel (position + inside.length + 3) (some ']') behind
        return (.except (charRanges inside) :: parts, stars)
    | '[' :: first :: rest =>
      if first = '!' then .error ⟨position, .openRange⟩
      else match rest.dropWhile (· != ']') with
        | [] => .error ⟨position, .openRange⟩
        | _ :: behind => do
          let inside := first :: rest.takeWhile (· != ']')
          let (parts, stars) ← partsFrom fuel (position + inside.length + 2) (some ']') behind
          return (.within (charRanges inside) :: parts, stars)
    | '[' :: [] => .error ⟨position, .openRange⟩
    | char :: rest => do
      let (parts, stars) ← partsFrom fuel (position + 1) (some char) rest
      return (.char char :: parts, stars)

/-- The text of parts without wildcards. -/
def literal? (parts : List NamePart) : Option (List Char) :=
  parts.mapM fun
    | .char char => some char
    | _ => none

/-- The pattern of one name. -/
def namePattern (name : List Char) : Except PatternError NamePattern := do
  let (parts, stars) ← partsFrom (name.length + 1) 0 none name
  -- Two stars make up a whole name, so the parts beside them are empty.
  if stars then return .recursive
  match literal? parts with
  | some chars => return .literal (String.ofList chars)
  | none => return .wild parts

/-- The file pattern that a text spells. -/
def ofText (text : String) : Except PatternError FilePattern := do
  let chars := text.toList
  -- A fault in the text as a whole comes before the faults of its names.
  let _ ← partsFrom (chars.length + 1) 0 none chars
  let pieces := Text.splitOn (· == '/') (chars.dropWhile (· == '/'))
  let onlyDirectories := chars.getLast? == some '/'
  let names ← (if onlyDirectories then pieces.dropLast else pieces).mapM namePattern
  return ⟨if Path.isAbsolute text then "/" else ".", names, onlyDirectories⟩

/-- Whether a character belongs to a set. -/
def inRanges (ranges : List CharRange) (char : Char) : Bool :=
  ranges.any fun
    | .single other => other == char
    | .span first last => decide (first ≤ char) && decide (char ≤ last)

/-- Whether one of the endings of a text satisfies a test, the text itself included. -/
def anyEnding (test : List Char → Bool) : List Char → Bool
  | [] => test []
  | char :: rest => test (char :: rest) || anyEnding test rest

/-- Whether a name matches the parts of a pattern. -/
def matchesParts : List NamePart → List Char → Bool
  | [], chars => chars.isEmpty
  -- A run may match nothing, or all that is left.
  | .anyRun :: parts, chars => anyEnding (matchesParts parts) chars
  | .char expected :: parts, char :: chars => expected == char && matchesParts parts chars
  | .anyChar :: parts, _ :: chars => matchesParts parts chars
  | .within ranges :: parts, char :: chars => inRanges ranges char && matchesParts parts chars
  | .except ranges :: parts, char :: chars => !inRanges ranges char && matchesParts parts chars
  | _ :: _, [] => false

/-- Whether a name matches the pattern of one name. -/
def matchesName (pattern : NamePattern) (name : String) : Bool :=
  match pattern with
  | .literal expected => expected == name
  | .wild parts => matchesParts parts name.toList
  -- The pattern of any number of directories matches each of them.
  | .recursive => true

/-- The dot entries of a directory that a pattern names; only one that begins with a dot does. -/
def dotEntries (parts : List NamePart) : List String :=
  match parts with
  | .char '.' :: _ => ["..", "."].filter fun name => matchesParts parts name.toList
  | _ => []

/-- A name behind a path; the directory in which relative patterns start adds nothing, however it is
spelled. -/
def childPath (path name : String) : String :=
  if Path.pieces path = ["."] then name else Path.join path name

variable [Monad m] (system : FileSystem m) (onlyDirectories : Bool)

/-- The answers of an action for the members of a list, in order. -/
def collect (action : α → m (List String)) : List α → m (List String)
  | [] => pure []
  | item :: rest => do
    -- The answers of the first member come first.
    let found ← action item
    let others ← collect action rest
    return found ++ others

mutual

/-- The paths below a path that match the remaining names; the fuel bounds the depth. -/
def expandBelow (fuel : Nat) (names : List NamePattern) (path : String) : m (List String) :=
  match fuel with
  | 0 => pure []
  | fuel + 1 =>
    match names with
    | [] => do
      let kind ← system.kind? path
      return if onlyDirectories && kind != some .directory then [] else [path]
    | .literal name :: rest => do
      let next := childPath path name
      -- The dot names are no entries, so the directory itself is asked for.
      let special := name == "." || name == ".."
      let kind ← system.kind? (if special then path else next)
      let found := if special then kind == some .directory else kind.isSome
      if found then expandBelow fuel rest next else pure []
    | pattern :: rest => do
      if (← system.kind? path) != some .directory then return []
      let children ← system.names path
      let dots := match pattern with
        | .wild parts => dotEntries parts
        | _ => []
      let special ← collect (fun name => expandBelow fuel rest (Path.join path name)) dots
      let found ← collect (fun name => expandAt fuel (pattern :: rest) (childPath path name) name)
        children
      return special ++ found

/-- The paths at or below a path whose own name has to match the first of the names. -/
def expandAt (fuel : Nat) (names : List NamePattern) (path name : String) : m (List String) :=
  match fuel with
  | 0 => pure []
  | fuel + 1 =>
    match names.dropWhile (· matches .recursive), names with
    | [], [] => pure []
    | [], _ => do
      -- Recursive wildcards at the end match directories, and everything below them.
      if (← system.kind? path) != some .directory then return []
      -- A recursive wildcard may also skip the name and go on below it.
      let below ← expandBelow fuel [.recursive] path
      return path :: below
    | pattern :: rest, first :: _ => do
      -- A name that matches is followed by the patterns that remain.
      let own ← if matchesName pattern name then
          match rest with
          | [] => expandBelow fuel [] path
          | _ => expandBelow fuel rest path
        else pure []
      let below ← if (first matches .recursive) && (← system.kind? path) == some .directory then
          expandBelow fuel (.recursive :: pattern :: rest) path
        else pure []
      return own ++ below
    | _ :: _, [] => pure []

end

/-- The paths that match a pattern, directory by directory in ascending order. -/
def expand (pattern : FilePattern) : m (List String) :=
  -- No path is longer than its limit, so none is deeper either.
  expandBelow system pattern.onlyDirectories 8192 pattern.names pattern.base

end FilePattern

end RuleMetadata

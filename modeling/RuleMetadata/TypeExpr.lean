import RuleMetadata.Text.Blank

/-! Type expressions as text: the erased form, the head, and the first type argument. -/

namespace RuleMetadata

open Text

/-- A type expression as declared, without outer blanks. -/
structure TypeExpr where
  text : String
  deriving DecidableEq, Repr

namespace TypeExpr

/-- The type expression that a text declares. -/
def ofText (text : String) : TypeExpr :=
  ⟨trim text⟩

/-- The characters outside of all brackets, blanks left out; a bracket that closes nothing is
skipped. -/
def eraseChars : Nat → List Char → List Char
  | _, [] => []
  | depth, '<' :: rest => eraseChars (depth + 1) rest
  -- Below zero the depth stays at zero, so that a stray bracket changes nothing.
  | depth, '>' :: rest => eraseChars (depth - 1) rest
  | 0, char :: rest =>
    if isBlank char then eraseChars 0 rest else char :: eraseChars 0 rest
  | depth + 1, _ :: rest => eraseChars (depth + 1) rest

/-- The name of a type with its argument lists and blanks left out; array brackets stay. -/
def erase (type : TypeExpr) : String :=
  String.ofList (eraseChars 0 (trimChars type.text.toList))

/-- The arguments between the first bracket and its partner, cut at the commas in between.

`depth` counts the brackets opened inside of the first one, and `done` holds the current argument
backwards. An argument that is never closed does not count. -/
def argumentChars (depth : Nat) (done : List Char) : List Char → List (List Char)
  | [] => []
  | '<' :: rest => argumentChars (depth + 1) ('<' :: done) rest
  | '>' :: rest =>
    match depth with
    | 0 => [trimChars done.reverse]
    | depth + 1 => argumentChars depth ('>' :: done) rest
  | ',' :: rest =>
    -- A comma between inner brackets belongs to the argument.
    if depth = 0 then trimChars done.reverse :: argumentChars 0 [] rest
    else argumentChars depth (',' :: done) rest
  | char :: rest => argumentChars depth (char :: done) rest

/-- The top-level arguments of the first argument list; blank ones are left out. -/
def arguments (type : TypeExpr) : List (List Char) :=
  match type.text.toList.dropWhile (· != '<') with
  | [] => []
  | _ :: rest => (argumentChars 0 [] rest).filter (!·.isEmpty)

/-- What is left of a text behind the given characters. -/
def dropPart? : List Char → List Char → Option (List Char)
  | [], chars => some chars
  -- The text has ended too early.
  | _ :: _, [] => none
  | expected :: part, char :: chars =>
    if expected = char then dropPart? part chars else none

/-- The type that an argument names: the bound of a wildcard, and nothing for a bare one. -/
def wildcardBound? (argument : List Char) : Option (List Char) :=
  match argument with
  | '?' :: rest =>
    let rest := trimStart rest
    -- A wildcard with neither word names no type.
    let bound := dropPart? "extends".toList rest <|> dropPart? "super".toList rest
    (bound.map trimChars).filter (!·.isEmpty)
  | _ => some argument

/-- The first type argument, with a wildcard replaced by its bound. -/
def firstArgument? (type : TypeExpr) : Option TypeExpr :=
  match type.arguments with
  | [] => none
  | argument :: _ => (wildcardBound? argument).map fun chars => ofText (String.ofList chars)

/-- The characters in front of the first bracket of either kind. -/
def headChars (type : TypeExpr) : List Char :=
  type.text.toList.takeWhile fun char => char != '<' && char != '['

/-- The part of a type expression in front of its arguments and array brackets. -/
def head (type : TypeExpr) : String :=
  String.ofList (trimChars type.headChars)

/-- The arguments and array brackets of a type expression. -/
def tail (type : TypeExpr) : String :=
  String.ofList (type.text.toList.dropWhile fun char => char != '<' && char != '[')

/-- Whether an erased type is an array. -/
def isArrayName (erased : String) : Bool :=
  -- The last two characters decide.
  match erased.toList.reverse with
  | ']' :: '[' :: _ => true
  | _ => false

end TypeExpr

end RuleMetadata

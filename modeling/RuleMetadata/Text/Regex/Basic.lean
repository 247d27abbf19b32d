import RuleMetadata.Text.CharSet

/-! Regular expressions over characters: sets of characters, places, and repetitions that prefer
more or fewer turns. -/

namespace RuleMetadata.Text

/-- A place between two characters. -/
inductive Place where
  | textStart
  | textEnd
  | lineStart
  | lineEnd
  /-- The start of a line where a carriage return also ends lines. -/
  | fullLineStart
  /-- The end of a line where a carriage return also ends lines. -/
  | fullLineEnd
  | wordBoundary
  | noWordBoundary
  | wordStart
  | wordEnd
  /-- There is no word in front. -/
  | noWordBefore
  /-- There is no word behind. -/
  | noWordAfter

/-- Whether a character can be part of a word; outside of a text there is none. -/
def isWordPart (char : Option Char) : Bool :=
  char.any fun char => char.isAlphanum || char == '_'

/-- Whether a place lies between two characters, each of which is missing at an end of the text. -/
def Place.holds (place : Place) (before after : Option Char) : Bool :=
  match place with
  | .textStart => before.isNone
  | .textEnd => after.isNone
  | .lineStart => before.all (· == '\n')
  | .lineEnd => after.all (· == '\n')
  -- A carriage return and a line feed end a line together, so there is no place between them.
  | .fullLineStart => before.all (· == '\n') || (before == some '\r' && after != some '\n')
  | .fullLineEnd => after.all (· == '\r') || (after == some '\n' && before != some '\r')
  | .wordBoundary => isWordPart before != isWordPart after
  | .noWordBoundary => isWordPart before == isWordPart after
  | .wordStart => !isWordPart before && isWordPart after
  | .wordEnd => isWordPart before && !isWordPart after
  | .noWordBefore => !isWordPart before
  | .noWordAfter => !isWordPart after

/-- A regular expression. -/
inductive Regex where
  | empty
  | just (char : Char)
  | oneOf (set : CharSet)
  | boundary (place : Place)
  | repeated (body : Regex) (least : Nat) (most : Option Nat) (greedy : Bool)
  | group (name : Option String) (body : Regex)
  | sequence (parts : List Regex)
  | choice (branches : List Regex)

namespace Regex

/-- Expressions one after the other. -/
def ofParts : List Regex → Regex
  | [] => .empty
  | [part] => part
  | parts => .sequence parts

/-- Expressions one of which is to match. -/
def ofBranches : List Regex → Regex
  | [branch] => branch
  | branches => .choice branches

/-- An expression that follows so many times; there is nothing to repeat if it follows never or
once. -/
def ofTurns (body : Regex) (least : Nat) (most : Option Nat) (greedy : Bool) : Regex :=
  if least = 0 && most = some 0 then .empty
  else if least = 1 && most = some 1 then body
  else .repeated body least most greedy

mutual

/-- Whether an expression matches the empty text somewhere. -/
def isNullable : Regex → Bool
  | .empty => true
  | .just _ => false
  | .oneOf _ => false
  | .boundary _ => true
  -- No turn at all matches the empty text.
  | .repeated body least _ _ => least = 0 || body.isNullable
  | .group _ body => body.isNullable
  | .sequence parts => areNullable parts
  | .choice branches => isOneNullable branches

/-- Whether all of some expressions match the empty text somewhere. -/
def areNullable : List Regex → Bool
  | [] => true
  | part :: rest => part.isNullable && areNullable rest

/-- Whether one of some expressions matches the empty text somewhere. -/
def isOneNullable : List Regex → Bool
  | [] => false
  | branch :: rest => branch.isNullable || isOneNullable rest

end

mutual

/-- How many expressions are inside each other at most, without the innermost one. -/
def depth : Regex → Nat
  | .empty => 0
  | .just _ => 0
  | .oneOf _ => 0
  | .boundary _ => 0
  | .repeated body _ _ _ => body.depth + 1
  | .group _ body => body.depth + 1
  -- The parts of a row are all inside of it, however many there are.
  | .sequence parts => greatestDepth parts + 1
  | .choice branches => greatestDepth branches + 1

/-- The depth of the deepest of some expressions. -/
def greatestDepth : List Regex → Nat
  | [] => 0
  | regex :: rest => max regex.depth (greatestDepth rest)

end

mutual

/-- The size of the automaton of an expression in bytes: 32 for a state, 8 for a range of
characters, and 4 for each way out of a fork. -/
def size : Regex → Nat
  | .empty => 32
  | .just _ => 32
  | .oneOf set => 32 + 8 * set.ranges.length
  | .boundary _ => 32
  | .repeated body least most _ =>
    let bodySize := body.size
    match most with
    | none =>
      -- A body that may be empty needs a fork of its own.
      if least = 0 then (if body.isNullable then 112 else 40) + bodySize
      else least * bodySize + 40
    | some most =>
      let required := if least = 0 then 32 else least * bodySize
      if least = 0 && most = 1 then 72 + bodySize
      else if least = most then required
      else required + 32 + (most - least) * (40 + bodySize)
  | .group _ body => 64 + body.size
  | .sequence parts => totalSize parts
  | .choice branches => 64 + 4 * branches.length + totalSize branches

/-- The size of the automata of some expressions. -/
def totalSize : List Regex → Nat
  | [] => 0
  | regex :: rest => regex.size + totalSize rest

end

mutual

/-- The size of the table of an expression's groups in bytes: 16 for a group, and a name with 4. -/
def groupsSize : Regex → Nat
  | .empty => 0
  | .just _ => 0
  | .oneOf _ => 0
  | .boundary _ => 0
  -- A group is counted once, however often it is repeated.
  | .repeated body _ _ _ => body.groupsSize
  | .group name body => 16 + (name.map (·.utf8ByteSize + 4)).getD 0 + body.groupsSize
  | .sequence parts => totalGroupsSize parts
  | .choice branches => totalGroupsSize branches

/-- The size of the tables of some expressions' groups. -/
def totalGroupsSize : List Regex → Nat
  | [] => 0
  | regex :: rest => regex.groupsSize + totalGroupsSize rest

end

/-- How many expressions may be inside each other. -/
def depthLimit : Nat := 50

/-- How many bytes the automaton of an expression may have. -/
def sizeLimit : Nat := 10 * Nat.pow 2 20

/-- Whether an expression is too large. The whole expression is one more group, and a match is one
more state. -/
def isTooLarge (regex : Regex) : Bool :=
  sizeLimit < regex.size + 96 + regex.groupsSize + 16

end Regex

end RuleMetadata.Text

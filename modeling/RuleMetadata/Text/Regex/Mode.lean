import RuleMetadata.Text.Blank
import RuleMetadata.Text.Regex.Fault

/-! How the parts of a regular expression are read, and what is passed over while reading them. -/

namespace RuleMetadata.Text.Regex

/-- How the parts of an expression are read. -/
structure Mode where
  ignoresCase : Bool := false
  manyLines : Bool := false
  /-- A point also stands for the end of a line. -/
  wholeText : Bool := false
  /-- Repetitions prefer fewer turns, unless they are marked. -/
  swapsGreed : Bool := false
  /-- A carriage return also ends lines. -/
  endsAtReturn : Bool := false
  /-- Blanks and comments stand for nothing. -/
  skipsBlanks : Bool := false

namespace Mode

/-- The mode with a letter switched on or off, if there is such a letter. -/
def withLetter (mode : Mode) (value : Bool) : Char → Option Mode
  | 'i' => some { mode with ignoresCase := value }
  | 'm' => some { mode with manyLines := value }
  | 's' => some { mode with wholeText := value }
  | 'U' => some { mode with swapsGreed := value }
  | 'R' => some { mode with endsAtReturn := value }
  | 'x' => some { mode with skipsBlanks := value }
  -- Characters are those of Unicode in any case.
  | 'u' => some mode
  | _ => none

/-- Takes the letters of a mode up to what ends them. Letters behind a hyphen are switched off;
there is one hyphen at most and a letter behind it, and no letter stands there twice. -/
def takeLetters (mode : Mode) (value : Bool) (seen : List Char) :
    List Char → Except Fault (Mode × List Char)
  | [] => .error .openLetters
  | char :: rest =>
    if char == ':' || char == ')' then
      if seen.head? = some '-' then .error .danglingHyphen else .ok (mode, char :: rest)
    -- The hyphen is kept among the letters seen, so that it is told if it comes last.
    else if char == '-' then
      if seen.contains '-' then .error .repeatedHyphen
      else takeLetters mode false ('-' :: seen) rest
    else
      match mode.withLetter value char with
      | none => .error .unknownLetter
      | some mode =>
        if seen.contains char then .error .repeatedLetter
        else takeLetters mode value (char :: seen) rest

end Mode

/-- What is left behind blanks and comments; a comment goes up to the end of its line. -/
def dropGap (comment : Bool) : List Char → List Char
  | [] => []
  | char :: rest =>
    if comment then dropGap (char != '\n') rest
    else if isBlank char then dropGap false rest
    -- A comment may follow a comment.
    else if char == '#' then dropGap true rest
    else char :: rest

/-- What is left behind blanks and comments, if the mode passes over them. -/
def Mode.skip (mode : Mode) (chars : List Char) : List Char :=
  if mode.skipsBlanks then dropGap false chars else chars

/-- The character behind the first one, found without looking into comments. -/
def Mode.second? (mode : Mode) (chars : List Char) : Option Char :=
  if mode.skipsBlanks then
    match (chars.drop 1).dropWhile isBlank with
    -- Only the mark of a comment is passed over, and not what is in it.
    | '#' :: rest => (rest.dropWhile isBlank).head?
    | rest => rest.head?
  else (chars.drop 1).head?

end RuleMetadata.Text.Regex

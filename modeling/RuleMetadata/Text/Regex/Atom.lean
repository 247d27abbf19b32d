import RuleMetadata.Text.Digit
import RuleMetadata.Text.Regex.Basic
import RuleMetadata.Text.Regex.Mode

/-! Reading the parts of a regular expression that have no parts of their own: characters, escapes,
and sets in brackets. -/

namespace RuleMetadata.Text.Regex

/-- The expression of one character. -/
def ofChar (mode : Mode) (char : Char) : Regex :=
  match CharSet.otherCase? (char.toNat, char.toNat) with
  | some other => if mode.ignoresCase then .oneOf (.ofRanges [(char.toNat, char.toNat), other])
    else .just char
  | none => .just char

/-- Takes so many digits of a hexadecimal code. -/
def takeHexDigits (mode : Mode) : Nat → List Char → Except Fault (List Nat × List Char)
  | 0, chars => .ok ([], chars)
  | _ + 1, [] => .error .openFixedHex
  | count + 1, char :: rest =>
    match hexDigit? char with
    | none => .error .invalidFixedHex
    | some digit => do
      -- Between the digits there may be blanks, if the mode says so.
      let (digits, rest) ← takeHexDigits mode count (mode.skip rest)
      return (digit :: digits, rest)

/-- Takes the digits of a hexadecimal code up to a closing brace; the fuel bounds their number. -/
def takeBracedDigits (mode : Mode) : Nat → List Char → Except Fault (List Nat × List Char)
  | 0, _ => .error .openBracedHex
  | fuel + 1, chars =>
    match mode.skip chars with
    | [] => .error .openBracedHex
    -- Whether there are any digits at all is asked later on.
    | '\x7d' :: rest => .ok ([], mode.skip rest)
    | char :: rest =>
      match hexDigit? char with
      | none => .error .invalidBracedHex
      | some digit => do
        let (digits, rest) ← takeBracedDigits mode fuel rest
        return (digit :: digits, rest)

/-- Takes a hexadecimal code of so many digits, or of any number of them in braces. -/
def takeCode (mode : Mode) (count : Nat) (chars : List Char) :
    Except Fault (Char × List Char) := do
  match mode.skip chars with
  | [] => throw .noHex
  | '\x7b' :: rest =>
    let (digits, rest) ← takeBracedDigits mode (rest.length + 1) rest
    if digits.isEmpty then throw .emptyBracedHex
    match charOfCode? (valueOf 16 digits) with
    | some char => return (char, rest)
    | none => throw .bracedHexOutOfRange
  | chars =>
    let (digits, rest) ← takeHexDigits mode count chars
    match charOfCode? (valueOf 16 digits) with
    | some char => return (char, rest)
    -- Not every number is the code of a character.
    | none => throw .fixedHexOutOfRange

/-- The ranges of a named class of characters. -/
def classRanges? : String → Option (List (Nat × Nat))
  -- All classes are of ASCII characters.
  | "alnum" => some [(48, 57), (65, 90), (97, 122)]
  | "alpha" => some [(65, 90), (97, 122)]
  | "ascii" => some [(0, 127)]
  | "blank" => some [(9, 9), (32, 32)]
  | "cntrl" => some [(0, 31), (127, 127)]
  | "digit" => some [(48, 57)]
  | "graph" => some [(33, 126)]
  | "lower" => some [(97, 122)]
  | "print" => some [(32, 126)]
  | "punct" => some [(33, 47), (58, 64), (91, 96), (123, 126)]
  | "space" => some [(9, 13), (32, 32)]
  | "upper" => some [(65, 90)]
  | "word" => some [(48, 57), (65, 90), (95, 95), (97, 122)]
  | "xdigit" => some [(48, 57), (65, 70), (97, 102)]
  | _ => none

/-- The set of a named class of characters. -/
def classSet? (name : String) : Option CharSet :=
  (classRanges? name).map CharSet.mk

/-- The set that a letter stands for; a capital letter stands for all other characters. -/
def setOfLetter? : Char → Option CharSet
  | 'd' => classSet? "digit"
  | 's' => classSet? "space"
  | 'w' => classSet? "word"
  -- All other characters include those beyond ASCII.
  | 'D' => (classSet? "digit").map CharSet.complement
  | 'S' => (classSet? "space").map CharSet.complement
  | 'W' => (classSet? "word").map CharSet.complement
  | _ => none

/-- The character that a letter stands for. -/
def charOfLetter? : Char → Option Char
  -- No letter stands for a backspace, since that letter is a place.
  | 'a' => some '\x07'
  | 'f' => some '\x0c'
  | 't' => some '\t'
  | 'n' => some '\n'
  | 'r' => some '\r'
  | 'v' => some '\x0b'
  | _ => none

/-- The place that a letter or a mark stands for. -/
def placeOfLetter? : Char → Option Place
  | 'A' => some .textStart
  | 'z' => some .textEnd
  -- This letter may have a kind in braces behind it, which is read before.
  | 'b' => some .wordBoundary
  | 'B' => some .noWordBoundary
  | '<' => some .wordStart
  | '>' => some .wordEnd
  | _ => none

/-- The place of a kind of word boundary. -/
def placeOfName? : String → Option Place
  | "start" => some .wordStart
  | "end" => some .wordEnd
  -- Half a boundary looks at one side only.
  | "start-half" => some .noWordBefore
  | "end-half" => some .noWordAfter
  | _ => none

/-- Takes the letters and hyphens of a name; the fuel bounds their number. -/
def takeBoundaryName (mode : Mode) : Nat → List Char → List Char × List Char
  | 0, chars => ([], chars)
  | _ + 1, [] => ([], [])
  | fuel + 1, char :: rest =>
    -- Any other character ends the name, not only the brace.
    if char.isAlpha || char == '-' then
      let (name, rest) := takeBoundaryName mode fuel (mode.skip rest)
      (char :: name, rest)
    else ([], char :: rest)

/-- Takes the kind of a word boundary in braces, if there is one; other braces say how often the
boundary is to be repeated. -/
def takeWordBoundary (mode : Mode) (chars : List Char) : Except Fault (Place × List Char) :=
  match chars with
  | '\x7b' :: inner =>
    match mode.skip inner with
    | [] => .error .openBoundaryOrCount
    | first :: rest =>
      if first.isAlpha || first == '-' then
        match takeBoundaryName mode (rest.length + 1) (first :: rest) with
        | (name, '\x7d' :: rest) =>
          match placeOfName? (String.ofList name) with
          | some place => .ok (place, rest)
          | none => .error .unknownBoundary
        | _ => .error .openBoundary
      -- The brace is left for the repetition.
      else .ok (.wordBoundary, chars)
  | _ => .ok (.wordBoundary, chars)

/-- Takes an escape behind its backslash. -/
def takeEscape (mode : Mode) : List Char → Except Fault (Regex × List Char)
  | [] => .error .openEscape
  | 'b' :: rest => (takeWordBoundary mode rest).map fun (place, rest) => (.boundary place, rest)
  | 'x' :: rest => (takeCode mode 2 rest).map fun (char, rest) => (ofChar mode char, rest)
  | 'u' :: rest => (takeCode mode 4 rest).map fun (char, rest) => (ofChar mode char, rest)
  | 'U' :: rest => (takeCode mode 8 rest).map fun (char, rest) => (ofChar mode char, rest)
  -- Classes by properties are not known, which is a fault of its own.
  | 'p' :: _ => .error .unicodeClass
  | 'P' :: _ => .error .unicodeClass
  | letter :: rest =>
    match setOfLetter? letter, placeOfLetter? letter, charOfLetter? letter with
    | some set, _, _ => .ok (.oneOf set, rest)
    | _, some place, _ => .ok (.boundary place, rest)
    | _, _, some char => .ok (ofChar mode char, rest)
    | none, none, none =>
      if letter.isDigit then .error .backReference
      else if letter.toNat < 128 && !letter.isAlphanum then .ok (ofChar mode letter, rest)
      else .error .unknownEscape

/-- Takes a named class in brackets behind the first bracket, if there is one. -/
def takeClass? (chars : List Char) : Option (CharSet × List Char) :=
  match chars with
  | ':' :: rest =>
    let (negated, rest) := match rest with
      | '^' :: rest => (true, rest)
      | _ => (false, rest)
    let name := rest.takeWhile (· != ':')
    match rest.drop name.length with
    | ':' :: ']' :: rest =>
      -- A name that is not known makes no class, so the bracket is one inside a set.
      (classSet? (String.ofList name)).map fun set =>
        (if negated then set.complement else set, rest)
    | _ => none
  | _ => none

/-- Takes one item of a set in brackets: a character or an escape. -/
def takeItem (mode : Mode) : List Char → Except Fault (Regex × List Char)
  | [] => .error .openSet
  | '\\' :: rest => takeEscape mode rest
  | char :: rest => .ok (.just char, rest)

/-- The ranges of an item; a place has none. -/
def itemRanges : Regex → Except Fault (List (Nat × Nat))
  | .just char => .ok [(char.toNat, char.toNat)]
  | .oneOf set => .ok set.ranges
  | _ => .error .invalidSetItem

/-- The code at an end of a range, which must be that of a single character. -/
def itemCode : Regex → Except Fault Nat
  | .just char => .ok char.toNat
  | _ => .error .invalidRangeEnd

/-- Takes an item, or a range between two of them, and gives its ranges. A hyphen is an item by
itself in front of a closing bracket or another hyphen. -/
def takeRange (mode : Mode) (chars : List Char) :
    Except Fault (List (Nat × Nat) × List Char) := do
  let (first, rest) ← takeItem mode chars
  let rest := mode.skip rest
  -- The character behind the hyphen decides what the hyphen is.
  let single := match mode.second? rest with
    | some char => char == ']' || char == '-'
    | none => false
  match rest with
  | [] => throw .openSetAfterItem
  | '-' :: behind =>
    if single then return (← itemRanges first, rest)
    match mode.skip behind with
    | [] => throw .openSetAfterHyphen
    | behind =>
      let (last, rest) ← takeItem mode behind
      let start ← itemCode first
      let stop ← itemCode last
      if start ≤ stop then return ([(start, stop)], rest) else throw .descendingRange
  | _ => return (← itemRanges first, rest)

/-- Takes the items of a set in brackets up to the closing one; the fuel bounds their number. -/
def takeItems (mode : Mode) : Nat → List (Nat × Nat) → List Char →
    Except Fault (List (Nat × Nat) × List Char)
  | 0, _, _ => .error .openSet
  | fuel + 1, ranges, chars =>
    match mode.skip chars with
    | [] => .error .openSet
    | ']' :: rest => .ok (ranges, rest)
    | '[' :: rest =>
      match takeClass? rest with
      | some (set, rest) => takeItems mode fuel (ranges ++ set.ranges) rest
      | none => .error .nestedSet
    -- What would be an operation on sets is refused, not taken as two characters.
    | '&' :: '&' :: _ => .error .setIntersection
    | '-' :: '-' :: _ => .error .setDifference
    | '~' :: '~' :: _ => .error .setSymmetricDifference
    | chars => do
      let (found, rest) ← takeRange mode chars
      takeItems mode fuel (ranges ++ found) rest

/-- Takes the hyphens at the beginning of a set, which stand for themselves; the fuel bounds their
number. -/
def takeHyphens (mode : Mode) : Nat → List Char → List (Nat × Nat) × List Char
  | 0, chars => ([], chars)
  | fuel + 1, chars =>
    match chars with
    | '-' :: rest =>
      -- Blanks between them may have been skipped.
      let (hyphens, rest) := takeHyphens mode fuel (mode.skip rest)
      (('-'.toNat, '-'.toNat) :: hyphens, rest)
    | _ => ([], chars)

/-- The rest of a text that must go on. -/
def continued (fault : Fault) : List Char → Except Fault (List Char)
  | [] => .error fault
  | chars => .ok chars

/-- Takes a set behind its opening bracket. -/
def takeBrackets (mode : Mode) (chars : List Char) : Except Fault (Regex × List Char) := do
  let chars ← continued .openSet (mode.skip chars)
  let (negated, chars) ← match chars with
    | '^' :: rest => (continued .openSetAfterNegation (mode.skip rest)).map (true, ·)
    | _ => .ok (false, chars)
  let (hyphens, chars) := takeHyphens mode chars.length chars
  let chars ← continued .openSetAfterHyphen chars
  -- A closing bracket stands for itself where the set would be empty.
  let (start, chars) ← match hyphens, chars with
    | [], ']' :: rest =>
      (continued .openSetAfterBracket (mode.skip rest)).map ([(']'.toNat, ']'.toNat)], ·)
    | _, _ => .ok (hyphens, chars)
  let (ranges, rest) ← takeItems mode (chars.length + 1) start chars
  let set := CharSet.ofRanges ranges
  let set := if mode.ignoresCase then set.ignoringCase else set
  return (.oneOf (if negated then set.complement else set), rest)

/-- The set that a point stands for: all characters that do not end lines. -/
def pointSet (mode : Mode) : CharSet :=
  if mode.wholeText then .all
  else if mode.endsAtReturn then CharSet.complement ⟨[(10, 10), (13, 13)]⟩
  else CharSet.complement ⟨[(10, 10)]⟩

/-- The place at the start of the text or of a line. -/
def startPlace (mode : Mode) : Place :=
  if !mode.manyLines then .textStart
  else if mode.endsAtReturn then .fullLineStart else .lineStart

/-- The place at the end of the text or of a line. -/
def endPlace (mode : Mode) : Place :=
  if !mode.manyLines then .textEnd
  else if mode.endsAtReturn then .fullLineEnd else .lineEnd

/-- Takes an expression that begins with a character and has no parts. -/
def takeAtom (mode : Mode) (char : Char) (rest : List Char) : Except Fault (Regex × List Char) :=
  match char with
  | '\\' => takeEscape mode rest
  | '[' => takeBrackets mode rest
  | '.' => .ok (.oneOf (pointSet mode), rest)
  | '^' => .ok (.boundary (startPlace mode), rest)
  | '$' => .ok (.boundary (endPlace mode), rest)
  -- A closing bracket or brace stands for itself here.
  | _ => .ok (ofChar mode char, rest)

end RuleMetadata.Text.Regex

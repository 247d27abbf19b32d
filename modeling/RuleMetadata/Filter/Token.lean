import RuleMetadata.Text.Blank
import RuleMetadata.Text.Digit

/-! The tokens of the filter language. Brackets come in pairs, so what they enclose is a token by
itself, and so is a text with the filters inside it. -/

namespace RuleMetadata.Filter

mutual

/-- A token. -/
inductive Token where
  | word (name : String)
  | variable (name : String)
  | format (name : String)
  | numeral (text : String)
  | symbol (text : String)
  /-- A point with the key behind it. -/
  | key (name : String)
  | text (pieces : List Piece)
  | block (opening : Char) (content : List Token)

/-- A piece of a text: characters, or a filter whose output stands there. -/
inductive Piece where
  | literal (text : String)
  | inner (content : List Token)

end

namespace Token

/-- The characters that a name begins with. -/
def startsName (char : Char) : Bool :=
  char.isAlpha || char == '_'

/-- The characters behind the first one of a name. -/
def continuesName (char : Char) : Bool :=
  startsName char || char.isDigit

/-- The characters that operators are made of; the minus sign stands by itself. -/
def isOperator (char : Char) : Bool :=
  "|=!<>+*/%".toList.contains char

/-- Whether a comment goes on in the next line: its line ends in an odd number of backslashes. -/
def continuesComment (line : List Char) : Bool :=
  let ending := match line.reverse with
    | '\r' :: rest => rest
    | ending => ending
  (ending.takeWhile (· == '\\')).length % 2 = 1

/-- The rest of a text behind a comment. -/
def skipComment : Nat → List Char → List Char
  | 0, chars => chars
  | fuel + 1, chars =>
    let line := chars.takeWhile (· != '\n')
    match chars.drop line.length with
    | [] => []
    -- The end of the line is left, as it may end more than the comment.
    | lineEnd :: rest => if continuesComment line then skipComment fuel rest else lineEnd :: rest

/-- The rest of a text behind blanks and comments. -/
def skipBlanks : Nat → List Char → List Char
  | 0, chars => chars
  | fuel + 1, chars =>
    match chars.dropWhile Text.isBlank with
    -- Behind a comment there may be blanks and comments again.
    | '#' :: rest => skipBlanks fuel (skipComment (rest.length + 1) rest)
    | rest => rest

/-- Takes a name off the front of a text, if there is one. -/
def takeName (chars : List Char) : Option (String × List Char) :=
  match chars with
  | first :: rest =>
    -- A name goes on as far as it can.
    if startsName first then
      some (String.ofList (first :: rest.takeWhile continuesName), rest.dropWhile continuesName)
    else none
  | [] => none

/-- Takes the token that begins with a name. Behind a double colon, the name of a module has the
name of something in it. -/
def takeWord (chars : List Char) : Option (Token × List Char) :=
  match takeName chars with
  | some (scope, ':' :: ':' :: rest) =>
    match rest with
    -- A module may hold variables and formats as well.
    | '$' :: rest => (takeName rest).map fun (name, rest) => (.variable s!"{scope}::{name}", rest)
    | '@' :: rest => (takeName rest).map fun (name, rest) => (.format s!"{scope}::{name}", rest)
    | _ => (takeName rest).map fun (name, rest) => (.word s!"{scope}::{name}", rest)
  | taken => taken.map fun (name, rest) => (.word name, rest)

/-- Whether a name stands by itself, and not for something in a module. -/
def isPlainName (name : String) : Bool :=
  !name.toList.contains ':'

/-- Takes digits, of which there is at least one. -/
private def takeDigits (chars : List Char) : Option (List Char × List Char) :=
  let digits := chars.takeWhile Char.isDigit
  if digits.isEmpty then none else some (digits, chars.dropWhile Char.isDigit)

/-- Takes the exponent of a numeral, if it has one. -/
private def takeNumeralExponent (chars : List Char) : Option (List Char × List Char) :=
  match chars with
  | letter :: rest =>
    if letter == 'e' || letter == 'E' then
      match rest with
      | '+' :: rest => (takeDigits rest).map fun (d, rest) => (letter :: '+' :: d, rest)
      | '-' :: rest => (takeDigits rest).map fun (d, rest) => (letter :: '-' :: d, rest)
      -- The spelling is kept as it is, with its sign or without one.
      | _ => (takeDigits rest).map fun (d, rest) => (letter :: d, rest)
    else some ([], chars)
  | [] => some ([], [])

/-- Takes the fraction of a numeral, if it has one. -/
private def takeNumeralFraction (chars : List Char) : Option (List Char × List Char) :=
  match chars with
  | '.' :: rest => (takeDigits rest).map fun (digits, rest) => ('.' :: digits, rest)
  | _ => some ([], chars)

/-- Takes a numeral off the front of a text. -/
def takeNumeral (chars : List Char) : Option (String × List Char) := do
  let (whole, rest) ← takeDigits chars
  let (fraction, rest) ← takeNumeralFraction rest
  let (exponent, rest) ← takeNumeralExponent rest
  return (String.ofList (whole ++ fraction ++ exponent), rest)

/-- The number that four hexadecimal digits spell. -/
private def takeHex (chars : List Char) : Option (Nat × List Char) :=
  match chars with
  | a :: b :: c :: d :: rest => do
    let a ← Text.hexDigit? a
    let b ← Text.hexDigit? b
    let c ← Text.hexDigit? c
    let d ← Text.hexDigit? d
    return (((a * 16 + b) * 16 + c) * 16 + d, rest)
  -- All four digits have to be there.
  | _ => none

/-- Takes the digits behind the letter of an escape; halves of a pair are no characters. -/
private def takeUnicode (chars : List Char) : Option (Char × List Char) := do
  let (code, rest) ← takeHex chars
  if code.isValidChar then some (Char.ofNat code, rest) else none

/-- Takes the character behind a backslash. -/
def takeEscape (chars : List Char) : Option (Char × List Char) :=
  match chars with
  | '"' :: rest => some ('"', rest)
  | '\\' :: rest => some ('\\', rest)
  | '/' :: rest => some ('/', rest)
  | 'b' :: rest => some ('\x08', rest)
  | 'f' :: rest => some ('\x0c', rest)
  | 'n' :: rest => some ('\n', rest)
  | 'r' :: rest => some ('\r', rest)
  | 't' :: rest => some ('\t', rest)
  -- The only escape that is longer than a character.
  | 'u' :: rest => takeUnicode rest
  | _ => none

/-- The bracket that closes another one. -/
def closing : Char → Char
  | '(' => ')'
  | '[' => ']'
  | _ => '\x7d'

/-- The pieces of a text with some characters in front of them. -/
private def addLiteral (done : List Char) (pieces : List Piece) : List Piece :=
  if done.isEmpty then pieces else .literal (String.ofList done.reverse) :: pieces

mutual

/-- Takes tokens off the front of a text, as long as one begins there. -/
def takeAll : Nat → List Char → Option (List Token × List Char)
  | 0, _ => none
  | fuel + 1, chars =>
    match skipBlanks (chars.length + 1) chars with
    | [] => some ([], [])
    | char :: rest =>
      -- A closing bracket ends the tokens of its block, and stays for that.
      if char == ')' || char == ']' || char == '\x7d' then some ([], char :: rest)
      else do
        let (token, rest) ← take fuel char rest
        let (tokens, rest) ← takeAll fuel rest
        return (token :: tokens, rest)

/-- Takes the token that begins with a character. -/
def take : Nat → Char → List Char → Option (Token × List Char)
  | 0, _, _ => none
  | fuel + 1, char, rest =>
    if startsName char then takeWord (char :: rest)
    else if char.isDigit then
      (takeNumeral (char :: rest)).map fun (spelling, rest) => (.numeral spelling, rest)
    else if isOperator char then
      some (.symbol (String.ofList (char :: rest.takeWhile isOperator)), rest.dropWhile isOperator)
    else match char with
      | '$' => (takeName rest).map fun (name, rest) => (.variable name, rest)
      | '@' => (takeName rest).map fun (name, rest) => (.format name, rest)
      -- A minus sign is never a part of a longer operator but this one.
      | '-' =>
        match rest with
        | '=' :: rest => some (.symbol "-=", rest)
        | _ => some (.symbol "-", rest)
      | '.' =>
        match rest with
        | '.' :: rest => some (.symbol "..", rest)
        | _ =>
          match takeName rest with
          | some (name, rest) => some (.key name, rest)
          | none => some (.symbol ".", rest)
      | '"' => (takePieces fuel [] rest).map fun (pieces, rest) => (.text pieces, rest)
      | _ =>
        if char == ':' || char == ';' || char == ',' || char == '?' then
          some (.symbol (String.singleton char), rest)
        else if char == '(' || char == '[' || char == '\x7b' then
          takeBlock fuel char rest
        else none

/-- Takes the tokens behind an opening bracket up to the closing one. -/
def takeBlock : Nat → Char → List Char → Option (Token × List Char)
  | 0, _, _ => none
  | fuel + 1, opening, chars =>
    match takeAll fuel chars with
    | some (content, char :: rest) =>
      -- Brackets of two kinds may not cross.
      if char = closing opening then some (.block opening content, rest) else none
    | _ => none

/-- Takes the pieces of a text behind its opening quote. -/
def takePieces : Nat → List Char → List Char → Option (List Piece × List Char)
  | 0, _, _ => none
  | fuel + 1, done, chars =>
    match chars with
    | [] => none
    | '"' :: rest => some (addLiteral done [], rest)
    -- A term inside of a text stands between an escaped bracket and a closing one.
    | '\\' :: '(' :: rest =>
      match takeAll fuel rest with
      | some (content, ')' :: rest) => do
        let (pieces, rest) ← takePieces fuel [] rest
        return (addLiteral done (.inner content :: pieces), rest)
      | _ => none
    | '\\' :: rest => do
      let (char, rest) ← takeEscape rest
      takePieces fuel (char :: done) rest
    | char :: rest => takePieces fuel (char :: done) rest

end

/-- The tokens of a text, if it consists of tokens. -/
def ofText? (text : String) : Option (List Token) :=
  -- Every step but those into a token takes a character away.
  match takeAll (3 * text.length + 3) text.toList with
  | some (tokens, []) => some tokens
  | _ => none

end Token

end RuleMetadata.Filter

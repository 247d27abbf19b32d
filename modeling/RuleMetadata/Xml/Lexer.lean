import RuleMetadata.Xml.Token

/-! Splitting XML text into tokens. -/

namespace RuleMetadata.Xml

/-- What is left behind an expected beginning. -/
def dropFront? : List Char → List Char → Option (List Char)
  | [], chars => some chars
  -- The text has ended too early.
  | _ :: _, [] => none
  | expected :: front, char :: chars =>
    if expected = char then dropFront? front chars else none

/-- The text in front of a mark, and what follows the mark. -/
def cutAt? (mark : List Char) : List Char → Option (List Char × List Char)
  | [] => if mark.isEmpty then some ([], []) else none
  | char :: rest =>
    -- The first mark counts, so it is looked for at every character.
    match dropFront? mark (char :: rest) with
    | some behind => some ([], behind)
    | none => (cutAt? mark rest).map fun (front, behind) => (char :: front, behind)

/-- What is left behind blanks, of which there must be one. -/
def dropSpaces? : List Char → Option (List Char)
  | char :: rest => if isSpace char then some (rest.dropWhile isSpace) else none
  | [] => none

/-- A name without a colon, and what follows it. -/
def lexBase? : List Char → Option (List Char × List Char)
  | char :: rest =>
    -- The name goes on as far as it can.
    if isNameStart char then some (char :: rest.takeWhile isNameChar, rest.dropWhile isNameChar)
    else none
  | [] => none

/-- A name with at most one colon, and what follows it. -/
def lexName? (chars : List Char) : Option (Name × List Char) :=
  match lexBase? chars with
  | none => none
  | some (first, ':' :: rest) =>
    match lexBase? rest with
    | some (second, rest) => some (⟨some (String.ofList first), String.ofList second⟩, rest)
    -- A colon that no name follows does not belong to the name.
    | none => some (.plain (String.ofList first), ':' :: rest)
  | some (first, rest) => some (.plain (String.ofList first), rest)

/-- What is left behind an equals sign with blanks around it. -/
def dropEquals? (chars : List Char) : Option (List Char) :=
  match chars.dropWhile isSpace with
  | '=' :: rest => some (rest.dropWhile isSpace)
  | _ => none

/-- A text between quotes of either kind, and what follows it. -/
def lexQuoted? : List Char → Option (List Char × List Char)
  | '\'' :: rest => cutAt? ['\''] rest
  | '"' :: rest => cutAt? ['"'] rest
  | _ => none

/-- An attribute behind its leading blanks, and what follows it. -/
def lexAttribute? (chars : List Char) : Option ((Name × List Char) × List Char) := do
  let (name, rest) ← lexName? chars
  let rest ← dropEquals? rest
  let (spelling, rest) ← lexQuoted? rest
  -- A bracket may only be spelled as a reference.
  if '<' ∈ spelling then none
  let value ← decode spelling
  return ((name, value), rest)

/-- The attributes of a tag up to its end; the fuel bounds their number. -/
def lexAttributes? : Nat → List Char → Option (Attributes × Bool × List Char)
  | 0, _ => none
  | fuel + 1, chars =>
    match chars.dropWhile isSpace with
    | '>' :: rest => some ([], false, rest)
    | '/' :: '>' :: rest => some ([], true, rest)
    | rest => do
      -- Another attribute stands behind a blank.
      let _ ← dropSpaces? chars
      let (first, rest) ← lexAttribute? rest
      let (others, closed, rest) ← lexAttributes? fuel rest
      return (first :: others, closed, rest)

/-- Whether a text is a name, colons included. -/
def isFullName : List Char → Bool
  | [] => false
  | char :: rest =>
    (isNameStart char || char == ':') && rest.all fun char => isNameChar char || char == ':'

/-- Whether letters spell `xml` in whatever case. -/
def isReservedTarget (target : List Char) : Bool :=
  target.map Char.toLower == ['x', 'm', 'l']

/-- Whether the inside of an instruction is a target with data behind blanks. -/
def isInstruction (inside : List Char) : Bool :=
  let target := inside.takeWhile (!isSpace ·)
  isFullName target && !isReservedTarget target

/-- What is left behind a named setting of a declaration whose value satisfies a test. -/
def dropSetting? (name : String) (accepts : List Char → Bool) (chars : List Char) :
    Option (List Char) := do
  let rest ← dropSpaces? chars
  -- The name and its value may have blanks around the sign between them.
  let rest ← dropFront? name.toList rest
  let rest ← dropEquals? rest
  let (value, rest) ← lexQuoted? rest
  if accepts value then return rest else none

/-- The versions are `1.` and digits. -/
def isVersion : List Char → Bool
  | '1' :: '.' :: digits => !digits.isEmpty && digits.all Char.isDigit
  | _ => false

/-- Encodings are named by a letter and further letters, digits and marks. -/
def isEncoding : List Char → Bool
  | first :: rest => first.isAlpha && rest.all fun char =>
      char.isAlphanum || char == '.' || char == '_' || char == '-'
  | [] => false

/-- A document stands alone or does not. -/
def isYesOrNo (value : List Char) : Bool :=
  value == "yes".toList || value == "no".toList

/-- Whether the inside of an instruction is the declaration of XML itself. -/
def isDeclaration (inside : List Char) : Bool :=
  match dropFront? "xml".toList inside with
  | none => false
  | some rest =>
    match dropSetting? "version" isVersion rest with
    | none => false
    | some rest =>
      -- The version has to be there, and each of the other two may be missing.
      let rest := (dropSetting? "encoding" isEncoding rest).getD rest
      let rest := (dropSetting? "standalone" isYesOrNo rest).getD rest
      rest.all isSpace

/-- What is left behind the name of a document type, an identifier and a subset. -/
def dropDoctype? (chars : List Char) : Option (List Char) := do
  let rest ← dropSpaces? chars
  let name := rest.takeWhile fun char => isNameChar char || char == ':'
  if !isFullName name then none
  let rest := rest.drop name.length
  -- Identifier and subset may both be missing.
  let rest := (dropSystem? rest).getD rest
  let rest := (dropSubset? rest).getD rest
  dropFront? ['>'] (rest.dropWhile isSpace)
where
  /-- What is left behind a system identifier, which is written like a value without references. -/
  dropSystem? (chars : List Char) : Option (List Char) := do
    let rest ← dropSpaces? chars
    let rest ← dropFront? "SYSTEM".toList rest
    let rest ← dropSpaces? rest
    let (identifier, rest) ← lexQuoted? rest
    if identifier.isEmpty || '&' ∈ identifier || '<' ∈ identifier then none
    return rest
  /-- What is left behind an internal subset. -/
  dropSubset? (chars : List Char) : Option (List Char) := do
    let rest ← dropFront? ['['] (chars.dropWhile isSpace)
    let (_, rest) ← cutAt? [']'] rest
    return rest

/-- The first token of a text, and what follows it. -/
def lexToken? (chars : List Char) : Option (Token × List Char) :=
  match chars with
  | '<' :: '!' :: '-' :: '-' :: rest => do
    -- Two hyphens end a comment, so the bracket has to follow them.
    let (_, rest) ← cutAt? ['-', '-'] rest
    let rest ← dropFront? ['>'] rest
    return (.comment, rest)
  | '<' :: '!' :: '[' :: rest => do
    let rest ← dropFront? "CDATA[".toList rest
    let (value, rest) ← cutAt? [']', ']', '>'] rest
    return (.verbatim value, rest)
  | '<' :: '!' :: rest => do
    let rest ← dropFront? "DOCTYPE".toList rest
    let rest ← dropDoctype? rest
    return (.doctype, rest)
  | '<' :: '?' :: rest => do
    let (inside, rest) ← cutAt? ['?', '>'] rest
    -- The name of the declaration is reserved, so it is no instruction.
    if isInstruction inside then return (.instruction, rest)
    else if isDeclaration inside then return (.declaration, rest)
    else none
  | '<' :: '/' :: rest => do
    let (name, rest) ← lexName? rest
    let rest ← dropFront? ['>'] (rest.dropWhile isSpace)
    return (.finish name, rest)
  | '<' :: rest => do
    let (name, rest) ← lexName? rest
    let (attributes, closed, rest) ← lexAttributes? (rest.length + 1) rest
    return (.start name attributes closed, rest)
  | _ => some (.text (chars.takeWhile (· != '<')), chars.dropWhile (· != '<'))

/-- The tokens of a text; the fuel bounds their number. -/
def lexFrom? : Nat → List Char → Option (List Token)
  | _, [] => some []
  -- The fuel is never used up, as long as it covers the characters.
  | 0, _ :: _ => none
  | fuel + 1, chars => do
    let (token, rest) ← lexToken? chars
    let tokens ← lexFrom? fuel rest
    return token :: tokens

/-- The tokens of a text, if it is made of tokens. -/
def lex? (chars : List Char) : Option (List Token) :=
  -- Every token has at least one character.
  lexFrom? chars.length chars

end RuleMetadata.Xml

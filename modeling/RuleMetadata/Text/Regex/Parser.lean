import RuleMetadata.Text.Alphabetic
import RuleMetadata.Text.Regex.Atom

/-! Reading regular expressions. -/

namespace RuleMetadata.Text.Regex

/-- The number that decimal digits spell; it has 32 bits at most. -/
def takeDecimal (mode : Mode) (chars : List Char) : Except Fault (Nat × List Char) :=
  let (digits, rest) := takeDigits chars.length (chars.dropWhile isBlank)
  let value := valueOf 10 digits
  -- The number is read to its end before it is found too large.
  if digits.isEmpty then .error .noDigits
  else if value < Nat.pow 2 32 then .ok (value, rest.dropWhile isBlank)
  else .error .decimalOutOfRange
where
  /-- Takes digits; the fuel bounds their number. -/
  takeDigits : Nat → List Char → List Nat × List Char
    | 0, chars => ([], chars)
    | fuel + 1, chars =>
      match chars with
      | [] => ([], [])
      | char :: rest =>
        if char.isDigit then
          let (digits, rest) := takeDigits fuel (mode.skip rest)
          ((char.toNat - '0'.toNat) :: digits, rest)
        else ([], char :: rest)

/-- Takes the bounds of a repetition behind their opening brace. -/
def takeBounds (mode : Mode) (chars : List Char) :
    Except Fault ((Nat × Option Nat) × List Char) := do
  let (least, rest) ← takeDecimal mode (← continued .openCount (mode.skip chars))
  let (most, rest) ← match ← continued .openCountLeast rest with
    | ',' :: rest => do
      match ← continued .openCountComma (mode.skip rest) with
      | '\x7d' :: rest => pure (none, '\x7d' :: rest)
      | rest =>
        let (most, rest) ← takeDecimal mode rest
        pure (some most, ← continued .openCountMost rest)
    -- Without a comma, the number is both bounds.
    | rest => pure (some least, rest)
  match rest with
  | '\x7d' :: rest =>
    if most.all (least ≤ ·) then return ((least, most), rest) else throw .descendingCount
  | _ => throw .unexpectedInCount

/-- Whether a repetition prefers more turns, and what is left behind its mark. -/
def takeGreed (mode : Mode) (chars : List Char) : Bool × List Char :=
  match chars with
  | '?' :: rest => (mode.swapsGreed, rest)
  | _ => (!mode.swapsGreed, chars)

/-- Takes the repetition of an expression that begins with a character. -/
def takeRepetition (mode : Mode) (body : Regex) (char : Char) (rest : List Char) :
    Except Fault (Regex × List Char) := do
  let ((least, most), rest) ← match char with
    | '*' => .ok ((0, none), rest)
    | '+' => .ok ((1, none), rest)
    | '?' => .ok ((0, some 1), rest)
    | _ => (takeBounds mode rest).map fun (bounds, rest) => (bounds, mode.skip rest)
  -- Whether as much or as little as possible is taken is said behind the bounds.
  let (greedy, rest) := takeGreed mode rest
  return (ofTurns body least most greedy, rest)

/-- Takes the name of a group up to its closing angle bracket. -/
def takeGroupName (chars : List Char) : Except Fault (String × List Char) :=
  let begins (char : Char) := char == '_' || isAlphabetic char
  let continues (char : Char) := isAlphanumeric char || "_.[]".toList.contains char
  match chars with
  | [] => .error .missingGroupName
  | '>' :: _ => .error .emptyGroupName
  | first :: rest =>
    -- A digit may not come first.
    if begins first then
      match rest.dropWhile continues with
      | [] => .error .openGroupName
      | '>' :: behind => .ok (String.ofList (first :: rest.takeWhile continues), behind)
      | _ => .error .invalidGroupName
    else .error .invalidGroupName

/-- An expression that is being read: its branches and the parts of its last branch, the last ones
first, and the names of the groups so far. -/
structure Draft where
  mode : Mode
  names : List String
  branches : List Regex := []
  parts : List Regex := []

namespace Draft

/-- The expression of a draft. -/
def regex (draft : Draft) : Regex :=
  ofBranches (ofParts draft.parts.reverse :: draft.branches).reverse

/-- The draft with one more part. -/
def add (draft : Draft) (part : Regex) : Draft :=
  { draft with parts := part :: draft.parts }

/-- The draft with another branch begun. -/
def branch (draft : Draft) : Draft :=
  { draft with branches := ofParts draft.parts.reverse :: draft.branches, parts := [] }

/-- The draft with its last part repeated, and what is left behind that. -/
def repeatLast (draft : Draft) (char : Char) (rest : List Char) :
    Except Fault (Draft × List Char) :=
  match draft.parts with
  | [] => .error (if char == '\x7b' then .nothingToCount else .nothingToRepeat)
  -- What has been repeated may be repeated again.
  | part :: parts => do
    let (part, rest) ← takeRepetition draft.mode part char rest
    return ({ draft with parts := part :: parts }, rest)

end Draft

mutual

/-- Takes parts and branches up to the end of their group, which is inside of so many others. -/
def takeParts : Nat → Nat → Draft → List Char → Except Fault (Draft × List Char)
  | 0, _, _, _ => .error .tooDeep
  | fuel + 1, level, draft, chars =>
    match draft.mode.skip chars with
    | [] => .ok (draft, [])
    | ')' :: rest => .ok (draft, ')' :: rest)
    | '|' :: rest => takeParts fuel level draft.branch rest
    | '(' :: rest => do
      let (part, inner, rest) ← takeGroup fuel level draft (draft.mode.skip rest)
      match rest, part with
      | ')' :: rest, some part =>
        takeParts fuel level { draft with names := inner.names, parts := part :: draft.parts } rest
      -- Letters in brackets are no part, and change the mode of what follows in the same group.
      | ')' :: rest, none => takeParts fuel level { draft with mode := inner.mode } rest
      | _, _ => throw .openGroup
    | char :: rest => do
      if char == '*' || char == '+' || char == '?' || char == '\x7b' then
        let (draft, rest) ← draft.repeatLast char rest
        takeParts fuel level draft rest
      else
        let (part, rest) ← takeAtom draft.mode char rest
        takeParts fuel level (draft.add part) rest

/-- Takes what stands behind an opening bracket up to the closing one: a group, or letters that
change the mode from here on. -/
def takeGroup : Nat → Nat → Draft → List Char →
    Except Fault (Option Regex × Draft × List Char)
  | 0, _, _, _ => .error .tooDeep
  | fuel + 1, level, draft, chars =>
    match chars with
    | '?' :: '=' :: _ => .error .lookAround
    | '?' :: '!' :: _ => .error .lookAround
    | '?' :: '<' :: '=' :: _ => .error .lookAround
    | '?' :: '<' :: '!' :: _ => .error .lookAround
    | '?' :: 'P' :: '<' :: rest => takeNamed fuel level draft rest
    | '?' :: '<' :: rest => takeNamed fuel level draft rest
    | '?' :: [] => .error .openGroupQuestion
    | '?' :: ')' :: _ => .error .noLetters
    | '?' :: rest => do
      let (mode, rest) ← draft.mode.takeLetters true [] rest
      match rest with
      -- The mode is changed inside of the brackets alone.
      | ':' :: rest =>
        let (body, names, rest) ← takeBody fuel level mode draft.names rest
        return (some body, { draft with names }, rest)
      | rest => return (none, { draft with mode }, rest)
    | _ => do
      let (body, names, rest) ← takeBody fuel level draft.mode draft.names chars
      return (some (.group none body), { draft with names }, rest)

/-- Takes a group behind the bracket in front of its name, which no other group has. -/
def takeNamed : Nat → Nat → Draft → List Char →
    Except Fault (Option Regex × Draft × List Char)
  | 0, _, _, _ => .error .tooDeep
  | fuel + 1, level, draft, chars => do
    let (name, rest) ← takeGroupName chars
    -- The name is known inside of its own group already.
    if draft.names.contains name then throw .duplicateGroupName
    let (body, names, rest) ← takeBody fuel level draft.mode (name :: draft.names) rest
    return (some (.group (some name) body), { draft with names }, rest)

/-- Takes the inside of a group with the names of the groups so far. -/
def takeBody : Nat → Nat → Mode → List String → List Char →
    Except Fault (Regex × List String × List Char)
  | 0, _, _, _, _ => .error .tooDeep
  | fuel + 1, level, mode, names, chars => do
    if level = depthLimit then throw .tooDeep
    -- The branches inside of a group end with it, and its mode as well.
    let (draft, rest) ← takeParts fuel (level + 1) { mode, names } chars
    return (draft.regex, draft.names, rest)

end

/-- The expression that a text spells, if it is one that is allowed. -/
def ofText (mode : Mode) (text : String) : Except Fault Regex := do
  -- Each character is taken after at most four calls.
  let (draft, rest) ← takeParts (4 * text.length + 4) 0 { mode, names := [] } text.toList
  if !rest.isEmpty then throw .unexpectedGroupEnd
  if depthLimit < draft.regex.depth then throw .tooDeep
  if draft.regex.isTooLarge then throw .tooLarge
  return draft.regex

end RuleMetadata.Text.Regex

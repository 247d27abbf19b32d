/-! Blank characters, control characters, and the trimming of text by them. -/

namespace RuleMetadata.Text

/-- The characters of the Unicode property White_Space. -/
def isBlank (char : Char) : Bool :=
  let code := char.val
  -- Tab to carriage return, the space, next line, no-break space, and the typographic spaces.
  (9 ≤ code && code ≤ 13) || code == 32 || code == 0x85 || code == 0xA0 || code == 0x1680 ||
  (0x2000 ≤ code && code ≤ 0x200A) || code == 0x2028 || code == 0x2029 || code == 0x202F ||
  code == 0x205F || code == 0x3000

/-- The characters of the Unicode general category Cc. -/
def isControl (char : Char) : Bool :=
  char.val < 32 || (127 ≤ char.val && char.val ≤ 159)

/-- A list of characters without its leading blanks. -/
def trimStart (chars : List Char) : List Char :=
  chars.dropWhile isBlank

/-- A list of characters without its trailing blanks. -/
def trimEnd (chars : List Char) : List Char :=
  (chars.reverse.dropWhile isBlank).reverse

/-- A list of characters without its outer blanks. -/
def trimChars (chars : List Char) : List Char :=
  trimEnd (trimStart chars)

/-- A text without its outer blanks. -/
def trim (text : String) : String :=
  String.ofList (trimChars text.toList)

/-- The trimmed text, unless nothing is left of it. -/
def nonBlank? (text : String) : Option String :=
  let trimmed := trim text
  if trimmed = "" then none else some trimmed

/-- A name that can stand as one component of a path: not empty, not a dot name, and free of
separators and control characters. -/
def isPlainSegment (name : String) : Bool :=
  -- The two dot names lead elsewhere, and separators lead below.
  !name.isEmpty && name != "." && name != ".." &&
    name.toList.all fun char => char != '/' && char != '\\' && !isControl char

/-- The pieces of a list of characters between the characters that satisfy a test. -/
def splitOn (separates : Char → Bool) : List Char → List (List Char)
  | [] => [[]]
  | char :: rest =>
    -- A separator ends a piece, even an empty one.
    if separates char then [] :: splitOn separates rest
    else match splitOn separates rest with
      | [] => [[char]]
      | piece :: pieces => (char :: piece) :: pieces

/-- The pieces of a text between its slashes. -/
def segments (text : String) : List String :=
  (splitOn (· == '/') text.toList).map String.ofList

end RuleMetadata.Text

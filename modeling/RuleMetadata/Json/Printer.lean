import RuleMetadata.Json.Number

/-! Printing JSON, on one line or indented. -/

namespace RuleMetadata.Json

/-- A hexadecimal digit. -/
private def hexDigit (value : Nat) : Char :=
  if value < 10 then Char.ofNat ('0'.toNat + value) else Char.ofNat ('a'.toNat + value - 10)

/-- The escape of a control character by its code. -/
def escapeCode (char : Char) : List Char :=
  ['\\', 'u', '0', '0', hexDigit (char.toNat / 16), hexDigit (char.toNat % 16)]

/-- The spelling of one character inside a quoted text. -/
def escapeChar (char : Char) : List Char :=
  match char with
  | '"' => ['\\', '"']
  | '\\' => ['\\', '\\']
  | '\x08' => ['\\', 'b']
  | '\x0c' => ['\\', 'f']
  | '\n' => ['\\', 'n']
  | '\r' => ['\\', 'r']
  | '\t' => ['\\', 't']
  -- All other control characters are written by their codes.
  | _ =>
    if char.val < 32 then escapeCode char else [char]

/-- A text in quotes. -/
def quote (text : String) : String :=
  String.ofList ('"' :: text.toList.flatMap escapeChar ++ ['"'])

mutual

/-- A value on one line without blanks. -/
def render : Json → String
  | .null => "null"
  | .boolean true => "true"
  | .boolean false => "false"
  | .number value => value.text
  | .text value => quote value
  | .array items => "[" ++ ",".intercalate (renderItems items) ++ "]"
  -- The braces are given by their codes, since they are marks inside of a text here.
  | .object entries => "\x7b" ++ ",".intercalate (renderEntries entries) ++ "\x7d"

/-- The items of an array, each on one line. -/
def renderItems : List Json → List String
  | [] => []
  | item :: rest => render item :: renderItems rest

/-- The entries of an object, each on one line. -/
def renderEntries : List (String × Json) → List String
  | [] => []
  | (key, value) :: rest => (quote key ++ ":" ++ render value) :: renderEntries rest

end

/-- Two blanks per level. -/
private def indent (level : Nat) : String :=
  String.ofList (List.replicate (2 * level) ' ')

/-- Parts on lines of their own between two brackets. -/
private def block (level : Nat) (opening closing : String) (parts : List String) : String :=
  if parts.isEmpty then opening ++ closing
  else opening ++ "\n" ++ ",\n".intercalate (parts.map (indent (level + 1) ++ ·)) ++ "\n" ++
    indent level ++ closing

mutual

/-- A value with each item and entry on a line of its own, indented by two blanks a level. -/
def pretty (level : Nat) : Json → String
  -- An enclosure without content stays on its line.
  | .array items => block level "[" "]" (prettyItems (level + 1) items)
  | .object entries => block level "\x7b" "\x7d" (prettyEntries (level + 1) entries)
  | .null => "null"
  | .boolean true => "true"
  | .boolean false => "false"
  | .number value => value.text
  | .text value => quote value

/-- The items of an array, each indented. -/
def prettyItems (level : Nat) : List Json → List String
  | [] => []
  | item :: rest => pretty level item :: prettyItems level rest

/-- The entries of an object, each indented. -/
def prettyEntries (level : Nat) : List (String × Json) → List String
  | [] => []
  | (key, value) :: rest => (quote key ++ ": " ++ pretty level value) :: prettyEntries level rest

end

end RuleMetadata.Json

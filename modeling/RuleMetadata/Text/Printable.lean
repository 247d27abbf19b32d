import RuleMetadata.Text.Hidden

/-! Texts in quotes as messages show them, with the characters that cannot be seen spelled out. -/

namespace RuleMetadata.Text

/-- The spelling of one character inside quotes. -/
private def shownChar (char : Char) : List Char :=
  match char with
  | '"' => ['\\', '"']
  | '\\' => ['\\', '\\']
  | '\t' => ['\\', 't']
  | '\n' => ['\\', 'n']
  | '\r' => ['\\', 'r']
  -- The null character has an escape of its own, of one digit.
  | '\x00' => ['\\', '0']
  | _ =>
    if isHidden char then
      ['\\', 'u', '\x7b'] ++ Nat.toDigits 16 char.toNat ++ ['\x7d']
    else [char]

/-- A text in quotes, with hidden characters as escapes. -/
def shown (text : String) : String :=
  String.ofList ('"' :: text.toList.flatMap shownChar ++ ['"'])

end RuleMetadata.Text

/-! The ways in which a text can stop being JSON. -/

namespace RuleMetadata.Json

/-- What is wrong at the first place where a text is not JSON. -/
inductive Fault where
  | endInValue
  | endInObject
  | endInList
  | endInText
  | expectedValue
  | expectedLiteral
  | expectedColon
  | expectedListContinuation
  | expectedObjectContinuation
  | keyNotText
  | trailingComma
  | trailingCharacters
  | invalidEscape
  | invalidNumber
  | numberOutOfRange
  | controlCharacter
  | loneSurrogate
  | incompleteSurrogatePair
  | tooDeep
  deriving DecidableEq, Repr

namespace Fault

/-- The wording of a fault. -/
def message : Fault → String
  | .endInValue => "EOF while parsing a value"
  | .endInObject => "EOF while parsing an object"
  | .endInList => "EOF while parsing a list"
  | .endInText => "EOF while parsing a string"
  | .expectedValue => "expected value"
  | .expectedLiteral => "expected ident"
  | .expectedColon => "expected `:`"
  | .expectedListContinuation => "expected `,` or `]`"
  | .expectedObjectContinuation => "expected `,` or `\x7d`"
  | .keyNotText => "key must be a string"
  | .trailingComma => "trailing comma"
  | .trailingCharacters => "trailing characters"
  | .invalidEscape => "invalid escape"
  | .invalidNumber => "invalid number"
  | .numberOutOfRange => "number out of range"
  | .controlCharacter => "control character (\\u0000-\\u001F) found while parsing a string"
  | .loneSurrogate => "lone leading surrogate in hex escape"
  | .incompleteSurrogatePair => "unexpected end of hex escape"
  | .tooDeep => "recursion limit exceeded"

end Fault

end RuleMetadata.Json

/-! The ways in which a text can fail to spell a regular expression. -/

namespace RuleMetadata.Text.Regex

/-- Why a text spells no regular expression: what is wrong at the first place that is not one. -/
inductive Fault where
  | openGroup
  | openGroupQuestion
  | unexpectedGroupEnd
  | duplicateGroupName
  | invalidGroupName
  | emptyGroupName
  | missingGroupName
  | openGroupName
  | lookAround
  | openLetters
  | noLetters
  | unknownLetter
  | repeatedLetter
  | repeatedHyphen
  | danglingHyphen
  | nothingToRepeat
  | nothingToCount
  | openCount
  | openCountLeast
  | openCountComma
  | openCountMost
  | unexpectedInCount
  | descendingCount
  | noDigits
  | decimalOutOfRange
  | openEscape
  | unknownEscape
  | backReference
  | unicodeClass
  | noHex
  | openFixedHex
  | invalidFixedHex
  | fixedHexOutOfRange
  | openBracedHex
  | invalidBracedHex
  | emptyBracedHex
  | bracedHexOutOfRange
  | openBoundaryOrCount
  | openBoundary
  | unknownBoundary
  | openSet
  | openSetAfterNegation
  | openSetAfterHyphen
  | openSetAfterBracket
  | openSetAfterItem
  | nestedSet
  | setIntersection
  | setDifference
  | setSymmetricDifference
  | invalidSetItem
  | invalidRangeEnd
  | descendingRange
  | tooDeep
  | tooLarge
  deriving DecidableEq, Repr

namespace Fault

/-- The wording of a fault. -/
def message : Fault → String
  | .openGroup => "found open group without closing ')'"
  | .openGroupQuestion => "expected closing ')', but got end of pattern"
  | .unexpectedGroupEnd => "found closing ')' without matching '('"
  | .duplicateGroupName => "duplicate capture group name"
  | .invalidGroupName => "invalid group name"
  | .emptyGroupName => "empty capture group names are not allowed"
  | .missingGroupName => "expected capture group name, but got end of pattern"
  | .openGroupName => "expected end of capture group name, but got end of pattern"
  | .lookAround => "look-around is not supported"
  | .openLetters => "expected ':' or ')' to end inline flags, but got end of pattern"
  | .noLetters => "empty flag directive '(?)' is not allowed"
  | .unknownLetter => "unrecognized inline flag"
  | .repeatedLetter => "duplicate inline flag is not allowed"
  | .repeatedHyphen => "inline flag negation cannot be repeated"
  | .danglingHyphen => "inline flags cannot end with negation directive"
  | .nothingToRepeat => "uncounted repetition operator must be applied to a sub-expression"
  | .nothingToCount => "counted repetition operator must be applied to a sub-expression"
  | .openCount => "found unclosed counted repetition operator"
  | .openCountLeast => "found incomplete and unclosed counted repetition operator"
  | .openCountComma => "found counted repetition operator with a comma that is unclosed"
  | .openCountMost => "found counted repetition with min and max that is unclosed"
  | .unexpectedInCount => "expected closing brace for counted repetition, but got something else"
  | .descendingCount => "found counted repetition with a min bigger than its max"
  | .noDigits => "expected decimal number, but found no digits"
  | .decimalOutOfRange => "got invalid decimal number"
  | .openEscape => "saw start of escape sequence, but saw end of pattern before it finished"
  | .unknownEscape => "unrecognized escape sequence"
  | .backReference => "backreferences are not supported"
  | .unicodeClass => "Unicode character classes are not supported"
  | .noHex => "expected hexadecimal number, but saw end of pattern first"
  | .openFixedHex => "expected fixed length hexadecimal number, but saw end of pattern first"
  | .invalidFixedHex => "expected fixed length hexadecimal number, but got non-hex digit"
  | .fixedHexOutOfRange => "got invalid fixed length hexadecimal number"
  | .openBracedHex => "expected hexadecimal number, but saw end of pattern before closing brace"
  | .invalidBracedHex => "expected hexadecimal number in braces, but got non-hex digit"
  | .emptyBracedHex => "expected hexadecimal number in braces, but got no digits"
  | .bracedHexOutOfRange => "got invalid hexadecimal number in braces"
  | .openBoundaryOrCount => "found start of special word boundary or repetition without an end"
  | .openBoundary => "special word boundary assertion is unclosed or has an invalid character"
  | .unknownBoundary => "special word boundary assertion is unrecognized"
  | .openSet => "found unclosed character class"
  | .openSetAfterNegation => "negated character class has no closing bracket"
  | .openSetAfterHyphen => "non-empty character class has no closing bracket after dash"
  | .openSetAfterBracket => "character class begins with literal ']' but has no closing bracket"
  | .openSetAfterItem => "non-empty character class has no closing bracket"
  | .nestedSet => "nested character classes are not supported"
  | .setIntersection => "character class intersection is not supported"
  | .setDifference => "character class difference is not supported"
  | .setSymmetricDifference => "character class symmetric difference is not supported"
  | .invalidSetItem => "invalid escape sequence in character class"
  | .invalidRangeEnd => "character class ranges must start and end with a single character"
  | .descendingRange => "invalid range in character class"
  | .tooDeep => "pattern has too much nesting"
  | .tooLarge => "compiled regex exceeded size limit"

end Fault

end RuleMetadata.Text.Regex

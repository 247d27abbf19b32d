import RuleMetadata.Filter.Term

/-! Arithmetic and comparison of values. -/

namespace RuleMetadata.Filter

/-- The symbol of an operation. -/
def Arithmetic.symbol : Arithmetic → String
  | .add => "+"
  | .subtract => "-"
  | .multiply => "*"
  | .divide => "/"
  | .remainder => "%"

/-- Whether a comparison holds of values in a given order. -/
def Comparison.holds : Comparison → Ordering → Bool
  | .equal, order => order == .eq
  | .unequal, order => order != .eq
  -- All comparisons go by one order of all values.
  | .less, order => order == .lt
  | .atMost, order => order != .gt
  | .greater, order => order == .gt
  | .atLeast, order => order != .lt

namespace Value

/-- A text as many times as a number says; none for a number that is not positive. -/
def repeatText (text : String) (count : Int) : Value :=
  if count ≤ 0 then .null
  else .text (String.join (List.replicate count.toNat text))

/-- The pieces of characters between the occurrences of a separator, which is not empty; the fuel is
the number of characters. -/
def pieces (separator : List Char) : Nat → List Char → List Char → List (List Char)
  | 0, piece, _ => [piece.reverse]
  | fuel + 1, piece, chars =>
    match chars with
    | [] => [piece.reverse]
    | char :: rest =>
      -- The separator is looked for at each character, and passed over where it is found.
      if separator.isPrefixOf chars then
        piece.reverse :: pieces separator fuel [] (chars.drop separator.length)
      else pieces separator fuel (char :: piece) rest

/-- The pieces of a text between the occurrences of a separator; an empty separator separates all
characters. -/
def split (text separator : String) : Value :=
  -- Nothing has no pieces, not even an empty one.
  if text = "" then .array []
  else if separator = "" then
    .array (text.toList.map fun char => .text (String.singleton char))
  else
    .array ((pieces separator.toList (text.length + 1) [] text.toList).map
      fun piece => .text (String.ofList piece))

mutual

/-- One object merged into another, and objects inside them likewise. -/
def mergeEntries (left : List (String × Value)) : List (String × Value) → List (String × Value)
  | [] => left
  | (key, value) :: rest =>
    mergeEntries (Json.insertEntry left key (mergeValue (Json.lookup? left key) value)) rest

/-- The value of a key that both objects may have. -/
def mergeValue : Option Value → Value → Value
  | some (.object left), .object right => .object (mergeEntries left right)
  | _, value => value

end

/-- The entries of one object in place of those of another. -/
def overlay (left right : List (String × Value)) : List (String × Value) :=
  right.foldl (fun entries (key, value) => Json.insertEntry entries key value) left

/-- The sum of two values; null adds nothing. -/
def add : Value → Value → Option Value
  | .null, value => some value
  | value, .null => some value
  | .number left, .number right => some (.number (left.add right))
  | .text left, .text right => some (.text (left ++ right))
  | .array left, .array right => some (.array (left ++ right))
  -- Entries of the right operand take over those of the left one.
  | .object left, .object right => some (.object (overlay left right))
  | _, _ => none

/-- The difference of two values; of arrays, the items that the other one does not have. -/
def subtract : Value → Value → Option Value
  | .number left, .number right => some (.number (left.subtract right))
  | .array left, .array right =>
    some (.array (left.filter fun item => !right.any item.equals))
  | _, _ => none

/-- The product of two values; a text is repeated, and objects are merged. -/
def multiply : Value → Value → Option Value
  | .number left, .number right => some (.number (left.multiply right))
  | .text repeated, .number (.whole count) => some (repeatText repeated count)
  -- The text may stand on either side.
  | .number (.whole count), .text repeated => some (repeatText repeated count)
  | .object left, .object right => some (.object (mergeEntries left right))
  | _, _ => none

/-- The quotient of two values; a text is split at another one. -/
def divide : Value → Value → Option Value
  | .number left, .number right => some (.number (left.divide right))
  | .text whole, .text separator => some (split whole separator)
  | _, _ => none

/-- The remainder of two values. -/
def remainder : Value → Value → Option Value
  | .number left, .number right => (left.remainder? right).map .number
  | _, _ => none

end Value

/-- A value as it is named in an error: numerals have been computed with by then. -/
def Value.computed : Value → Value
  | .number (.numeral spelling) => .number (.real (Number.numeral spelling).toFloat)
  | value => value

/-- The result of an operation on two values. -/
def Arithmetic.apply (operation : Arithmetic) (left right : Value) : Result :=
  let result := match operation with
    | .add => left.add right
    | .subtract => left.subtract right
    | .multiply => left.multiply right
    | .divide => left.divide right
    | .remainder => left.remainder right
  match result with
  | some value => .ok value
  -- The error names both operands as they were computed.
  | none => .error (.wrongOperands left.computed operation.symbol right.computed)

/-- The negative of a value. -/
def Value.negated : Value → Result
  | .number value => .ok (.number value.negate)
  | value => .error (.wrongKind value "number")

end RuleMetadata.Filter

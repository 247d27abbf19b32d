import RuleMetadata.Json.Basic
import RuleMetadata.Text.Blank

/-! JSON pointers: paths of keys and indices into a document. -/

namespace RuleMetadata.Json.Pointer

/-- The key that a piece of a pointer spells: `~1` stands for a slash, and `~0` for a tilde. -/
def unescape : List Char → List Char
  | '~' :: '1' :: rest => '/' :: unescape rest
  | '~' :: '0' :: rest => '~' :: unescape rest
  | char :: rest => char :: unescape rest
  | [] => []

/-- The largest index. -/
def indexLimit : Nat := Nat.pow 2 64 - 1

/-- The index that a piece of a pointer spells: digits without a leading zero. -/
def index? (piece : List Char) : Option Nat :=
  if piece.isEmpty || !piece.all Char.isDigit || (piece.length > 1 && piece.head? == some '0') then
    none
  else
    -- A number that is too large for an index names nothing.
    let value := piece.foldl (fun value char => value * 10 + (char.toNat - '0'.toNat)) 0
    if value ≤ indexLimit then some value else none

/-- The value below another one that a piece of a pointer names. -/
def step? (value : Json) (piece : List Char) : Option Json :=
  let key := unescape piece
  match value with
  | .object entries => lookup? entries (String.ofList key)
  | .array items => (index? key).bind (items[·]?)
  -- A scalar has nothing below it.
  | _ => none

/-- The value that the pieces of a pointer lead to. -/
def follow? (value : Json) : List (List Char) → Option Json
  | [] => some value
  | piece :: rest => (step? value piece).bind (follow? · rest)

/-- The value that a pointer selects: the empty pointer the document itself, and one that begins
with a slash what its pieces lead to. -/
def select? (pointer : String) (document : Json) : Option Json :=
  match pointer.toList with
  | [] => some document
  | '/' :: rest => follow? document (Text.splitOn (· == '/') rest)
  | _ => none

end RuleMetadata.Json.Pointer

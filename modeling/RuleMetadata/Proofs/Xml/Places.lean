import RuleMetadata.Proofs.Xml.Content

/-! The places of the characters in a document: in its markup, in the value of an attribute, or in
text.

A document of tags and text is a row of pieces, of which each stands at one place: markup is written
as it is, and a string is escaped for the place that it is written at. -/

namespace RuleMetadata.Xml

/-- Where a character of a document stands. -/
inductive Place where
  | markup
  | value
  | text
  deriving DecidableEq, Repr

/-- What a reader of a document has come to: text, a tag, or a value in it up to its quote. -/
inductive Spot where
  | text
  | tag
  | value (quote : Char)
  deriving DecidableEq, Repr

namespace Spot

/-- The place of the next character. -/
def place (spot : Spot) (char : Char) : Place :=
  match spot with
  | .text => if char = '<' then .markup else .text
  | .tag => .markup
  -- The other quote is an ordinary character of the value.
  | .value quote => if char = quote then .markup else .value

/-- What a reader comes to behind a character. -/
def next (spot : Spot) (char : Char) : Spot :=
  match spot with
  | .text => if char = '<' then .tag else .text
  | .tag =>
    if char = '>' then .text
    -- Either quote begins a value, which ends at the same one.
    else if char = '\'' || char = '"' then .value char
    else .tag
  | .value quote => if char = quote then .tag else .value quote

/-- What a reader comes to behind a row of characters. -/
def behind (spot : Spot) (run : List Char) : Spot :=
  run.foldl next spot

end Spot

/-- The characters of a document of tags and text, each with its place. -/
def places (spot : Spot) : List Char → List (Place × Char)
  | [] => []
  | char :: rest => (spot.place char, char) :: places (spot.next char) rest

/-- No character is lost. -/
theorem map_snd_places (spot : Spot) (chars : List Char) :
    (places spot chars).map (·.2) = chars := by
  -- The induction is on the characters, whatever spot they start from.
  induction chars generalizing spot with
  | nil => rfl
  | cons char rest ih => rw [places, List.map_cons, ih]

/-- The places go on from what a reader has come to. -/
theorem places_append (spot : Spot) (run rest : List Char) :
    places spot (run ++ rest) = places spot run ++ places (spot.behind run) rest := by
  -- What is behind the first part is what a reader has come to at its end.
  induction run generalizing spot with
  | nil => rfl
  | cons char run ih =>
    rw [List.cons_append, places, ih]
    rfl

/-- Characters that all stand at one place, and behind which a reader is where it was. -/
theorem places_of_stays {spot : Spot} {place : Place} {run : List Char}
    (stays : ∀ char ∈ run, spot.place char = place ∧ spot.next char = spot) :
    places spot run = run.map (place, ·) ∧ spot.behind run = spot := by
  -- The reader goes on from the same spot behind every character.
  induction run with
  | nil => exact ⟨rfl, rfl⟩
  | cons char rest ih =>
    obtain ⟨⟨here, next⟩, others⟩ := List.forall_mem_cons.1 stays
    obtain ⟨read, ends⟩ := ih others
    refine ⟨?_, ?_⟩
    · rw [places, here, next, read, List.map_cons]
    · rw [Spot.behind, List.foldl_cons, next]
      exact ends

/-- The characters that a document may consist of. -/
def isLegal (char : Char) : Bool :=
  let code := char.val
  char == '\t' || char == '\n' || char == '\r' || (0x20 ≤ code && code ≤ 0xD7FF) ||
  -- The surrogates between the two ranges are no characters at all.
  (0xE000 ≤ code && code ≤ 0xFFFD) || (0x10000 ≤ code && code ≤ 0x10FFFF)

/-- Whether every reader takes a character at a place as it is. -/
def isKept : Place → Char → Bool
  | .markup, char => isLegal char
  -- In a value, every blank is read as a space.
  | .value, char => isLegal char && !(['\t', '\n', '\r'].contains char)
  -- In a text, the end of a line is read as one character.
  | .text, char => isLegal char && char != '\r'

/-- Only legal characters are kept. -/
theorem isLegal_of_isKept {place : Place} {char : Char} (kept : isKept place char) :
    isLegal char := by
  -- At every place, legal characters are all that can be kept.
  cases place <;> simp_all [isKept]

/-- A value keeps no more characters than a text or markup. -/
theorem isKept_of_value {char : Char} (kept : isKept .value char) (place : Place) :
    isKept place char := by
  -- What texts and markup do not keep is among what values do not keep.
  simp only [isKept, Bool.and_eq_true] at kept
  obtain ⟨legal, plain⟩ := kept
  cases place <;> simp_all [isKept]

/-- The characters of names are taken as they are. -/
theorem isKept_of_isNameChar {char : Char} (named : isNameChar char) : isKept .value char := by
  have unmarked := isMark_eq_false_of_isNameChar named
  simp only [isMark, isSpace, Bool.or_eq_false_iff, beq_eq_false_iff_ne] at unmarked
  -- No range of the characters of names reaches beyond those of documents.
  have legal : isLegal char := by
    simp only [isNameChar, isNameStart, Char.isDigit, Char.le_def, Bool.or_eq_true,
      Bool.and_eq_true, beq_iff_eq, decide_eq_true_eq, UInt32.le_iff_toNat_le, Char.ext_iff,
      ← UInt32.toNat_inj, UInt32.reduceToNat, Char.reduceVal] at named
    simp only [isLegal, Bool.or_eq_true, Bool.and_eq_true, decide_eq_true_eq,
      UInt32.le_iff_toNat_le, UInt32.reduceToNat]
    omega
  simp [isKept, legal, unmarked.1]

/-! ### Markup -/

namespace Spot

/-- Characters that are all read as markup, up to a spot behind them. -/
structure Marks (spot : Spot) (run : List Char) (behind : Spot) : Prop where
  places : Xml.places spot run = run.map (.markup, ·)
  behind : spot.behind run = behind
  -- A conforming reader leaves these as they are, also in a value.
  kept : run.all (isKept .value)
  present : run ≠ []

/-- Markup can be read in parts. -/
theorem Marks.append {spot middle behind : Spot} {run rest : List Char}
    (first : spot.Marks run middle) (second : middle.Marks rest behind) :
    spot.Marks (run ++ rest) behind where
  -- The second run is read from where the first one ends.
  places := by rw [places_append, first.places, first.behind, second.places, List.map_append]
  behind := by
    rw [← second.behind, ← first.behind]
    exact List.foldl_append ..
  kept := by rw [List.all_append, first.kept, second.kept, Bool.and_self]
  present := by simp [first.present]

end Spot

/-- A simple name in a tag is markup. -/
theorem marks_name {name : Name} (simple : name.isSimple) :
    Spot.tag.Marks name.write .tag := by
  have named := Name.isNameChar_of_isSimple simple
  -- At none of its characters does the tag end or go over to a value.
  have stays : ∀ char ∈ name.write,
      Spot.tag.place char = .markup ∧ Spot.tag.next char = .tag := by
    intro char member
    have unmarked := isMark_eq_false_of_isNameChar (named char member)
    simp only [isMark, Bool.or_eq_false_iff, decide_eq_false_iff_not] at unmarked
    refine ⟨rfl, ?_⟩
    simp_all [Spot.next]
  obtain ⟨read, ends⟩ := places_of_stays stays
  obtain ⟨first, rest, spelled, -⟩ := name.write_eq_cons (Name.isSpellable_of_isSimple simple)
  exact {
    places := read
    behind := ends
    kept := List.all_eq_true.2 fun char member => isKept_of_isNameChar (named char member)
    present := by simp [spelled] }

/-! ### Pieces -/

/-- A piece of a document: markup as it is spelled, or a string before it is escaped. -/
structure Piece where
  place : Place
  string : List Char
  deriving DecidableEq, Repr

namespace Piece

/-- The spelling of a piece at its place. -/
def write (piece : Piece) : List Char :=
  match piece.place with
  -- Markup is not escaped.
  | .markup => piece.string
  | .value => escapeValue piece.string
  | .text => escapeText piece.string

/-- A piece with its string rewritten; markup stays as it is. -/
def map (rewrite : Place → List Char → List Char) (piece : Piece) : Piece :=
  match piece.place with
  | .markup => piece
  | place => ⟨place, rewrite place piece.string⟩

end Piece

/-- The spelling of pieces in a row. -/
def writePieces (pieces : List Piece) : List Char :=
  pieces.flatMap Piece.write

/-- Pieces from a spot on up to the end of a document. -/
inductive Laid : Spot → List Piece → Prop where
  | nil : Laid .text []
  | markup {spot behind : Spot} {run : List Char} {rest : List Piece} :
    spot.Marks run behind → Laid behind rest → Laid spot (⟨.markup, run⟩ :: rest)
  /-- A value is ended by markup. -/
  | value {value run : List Char} {rest : List Piece} :
    Laid (.value '\'') (⟨.markup, run⟩ :: rest) →
      Laid (.value '\'') (⟨.value, value⟩ :: ⟨.markup, run⟩ :: rest)
  /-- A text is ended by markup. -/
  | text {value run : List Char} {rest : List Piece} :
    Laid .text (⟨.markup, run⟩ :: rest) → Laid .text (⟨.text, value⟩ :: ⟨.markup, run⟩ :: rest)

/-- The characters of a value stand in it, up to its quote. -/
theorem places_value {quote : Char} {run : List Char} (inside : quote ∉ run) :
    places (.value quote) run = run.map (.value, ·) ∧
      (Spot.value quote).behind run = .value quote := by
  refine places_of_stays fun char member => ?_
  -- No character inside ends the value.
  have apart : char ≠ quote := fun same => inside (same ▸ member)
  exact ⟨if_neg apart, if_neg apart⟩

/-- The characters of a text stand in it, up to a tag. -/
theorem places_text {run : List Char} (inside : '<' ∉ run) :
    places .text run = run.map (.text, ·) ∧ Spot.text.behind run = .text := by
  refine places_of_stays fun char member => ?_
  -- No character inside ends the text.
  have apart : char ≠ '<' := fun same => inside (same ▸ member)
  exact ⟨if_neg apart, if_neg apart⟩

/-- A piece that is read at its own place is read in front of those behind it. -/
theorem places_cons {spot behind : Spot} {piece : Piece} {rest : List Piece}
    (read : places spot piece.write = piece.write.map (piece.place, ·))
    (ends : spot.behind piece.write = behind)
    (others : places behind (writePieces rest) =
      rest.flatMap fun piece => piece.write.map (piece.place, ·)) :
    places spot (writePieces (piece :: rest)) =
      (piece :: rest).flatMap fun piece => piece.write.map (piece.place, ·) := by
  -- The reader is where the next piece begins as soon as it has read this one.
  rw [writePieces, List.flatMap_cons, ← writePieces, places_append, read, ends, others]
  rfl

/-- Every character of a document stands at the place of its piece. -/
theorem Laid.places_writePieces {spot : Spot} {pieces : List Piece} (laid : Laid spot pieces) :
    places spot (writePieces pieces) =
      pieces.flatMap fun piece => piece.write.map (piece.place, ·) := by
  -- Each piece is read up to the spot that the next one begins at.
  induction laid with
  | nil => rfl
  | markup marks _ ih => exact places_cons marks.places marks.behind ih
  | @value value _ _ _ ih =>
    obtain ⟨read, ends⟩ := places_value (not_mem_escapeValue (by simp : '\'' ∈ _) value)
    exact places_cons read ends ih
  | @text value _ _ _ ih =>
    obtain ⟨read, ends⟩ := places_text (not_mem_escapeText (by simp : '<' ∈ _) value)
    exact places_cons read ends ih

/-- Rewriting strings leaves the pieces where they stand. -/
theorem Laid.map {spot : Spot} {pieces : List Piece} (laid : Laid spot pieces)
    (rewrite : Place → List Char → List Char) : Laid spot (pieces.map (Piece.map rewrite)) := by
  -- What ends a string is markup, which is not rewritten.
  induction laid with
  | nil => exact .nil
  | markup marks _ ih => exact .markup marks ih
  | value _ ih => exact .value ih
  | text _ ih => exact .text ih

end RuleMetadata.Xml

import RuleMetadata.Proofs.Xml.Pieces

/-! What a conforming reader makes of a document before it looks at the markup: it refuses some
characters, takes every end of a line as one character, and a blank in a value as a space. -/

namespace RuleMetadata.Xml

/-- A text with the end of each line as one character. -/
def lineEnds : List Char → List Char
  | [] => []
  | char :: rest =>
    if char = '\r' then
      -- A line feed behind a return ends the line by itself.
      if rest.head? = some '\n' then lineEnds rest else '\n' :: lineEnds rest
    else char :: lineEnds rest

/-- A character as it is read at a place. -/
def blankAt (place : Place) (char : Char) : Char :=
  if place = .value && isSpace char then ' ' else char

/-- A document as a conforming reader goes on to read it. -/
def normalize (document : List Char) : List Char :=
  -- The ends of lines are found before any markup is.
  (places .text (lineEnds document)).map fun (place, char) => blankAt place char

/-- A string as a conforming reader takes it at a place. -/
def cleanAt (place : Place) (string : List Char) : List Char :=
  (lineEnds string).map (blankAt place)

/-! ### Ends of lines -/

/-- The ends of lines are found apart on both sides of a point, unless a line feed stands there. -/
theorem lineEnds_append (run : List Char) {rest : List Char} (apart : rest.head? ≠ some '\n') :
    lineEnds (run ++ rest) = lineEnds run ++ lineEnds rest := by
  induction run with
  | nil => rfl
  | cons char run ih =>
    -- A return is followed by the same character, or by none and then by no line feed.
    have follows : (run ++ rest).head? = some '\n' ↔ run.head? = some '\n' := by
      cases run <;> simp [apart]
    rw [List.cons_append, lineEnds, lineEnds]
    by_cases returns : char = '\r'
    · rw [if_pos returns, if_pos returns]
      by_cases fed : run.head? = some '\n'
      · rw [if_pos (follows.2 fed), if_pos fed, ih]
      · rw [if_neg (mt follows.1 fed), if_neg fed, ih, List.cons_append]
    · rw [if_neg returns, if_neg returns, ih, List.cons_append]

/-- Characters other than returns are taken as they are. -/
theorem lineEnds_append_of_not_mem {run : List Char} (absent : '\r' ∉ run) (rest : List Char) :
    lineEnds (run ++ rest) = run ++ lineEnds rest := by
  -- The induction is on the characters, none of which is a return.
  induction run with
  | nil => rfl
  | cons char run ih =>
    obtain ⟨here, behind⟩ := not_or.1 (mt List.mem_cons.2 absent)
    rw [List.cons_append, lineEnds, if_neg (Ne.symm here), ih behind]
    rfl

/-- A text without returns is taken as it is. -/
theorem lineEnds_eq_self {run : List Char} (absent : '\r' ∉ run) : lineEnds run = run := by
  simpa [lineEnds] using lineEnds_append_of_not_mem absent []

/-- No return is left. -/
theorem not_mem_lineEnds (run : List Char) : '\r' ∉ lineEnds run := by
  fun_induction lineEnds run <;> simp_all [Ne.symm]

/-- Characters that are kept in values are no blanks but spaces. -/
theorem blankAt_of_isKept {char : Char} (kept : isKept .value char) (place : Place) :
    blankAt place char = char := by
  simp only [isKept, List.contains_cons, List.contains_nil, Bool.and_eq_true, Bool.not_eq_true',
    Bool.or_eq_false_iff, beq_eq_false_iff_ne] at kept
  -- The blanks that could be replaced are not kept, and a space is replaced by itself.
  by_cases space : char = ' ' <;> simp [blankAt, isSpace, kept, space]

/-! ### Spellings -/

/-- Each character is spelled as itself, or in characters that are kept in its stead. -/
structure KeepsBlanks (spell : Char → List Char) : Prop where
  space : spell ' ' = [' ']
  -- What stands for a character never vanishes, and holds nothing that would.
  each : ∀ char, spell char = [char] ∨
    isKept .value char ∧ spell char ≠ [] ∧ (spell char).all (isKept .value)

/-- Escaping in values leaves no blank but spaces in the stead of a character. -/
theorem keepsBlanks_escapeValueChar : KeepsBlanks escapeValueChar where
  space := rfl
  each char := by
    unfold escapeValueChar
    -- The last branch leaves the character alone, and all others spell it as a reference.
    split
    case h_6 => exact .inl rfl
    all_goals exact .inr (by decide)

/-- Escaping in texts leaves no blank but spaces in the stead of a character. -/
theorem keepsBlanks_escapeTextChar : KeepsBlanks escapeTextChar where
  space := rfl
  each char := by
    unfold escapeTextChar
    -- The last branch leaves the character alone, and all others spell it as a reference.
    split
    case h_4 => exact .inl rfl
    all_goals exact .inr (by decide)

namespace KeepsBlanks

variable {spell : Char → List Char}

/-- A character that is not kept is spelled exactly where it stands. -/
theorem mem_flatMap_iff (keeps : KeepsBlanks spell) {char : Char}
    (unkept : ¬ isKept .value char) (string : List Char) :
    char ∈ string.flatMap spell ↔ char ∈ string := by
  -- Whatever is not spelled as itself is spelled in characters that are kept.
  rw [List.mem_flatMap]
  constructor
  · rintro ⟨other, member, inside⟩
    rcases keeps.each other with plain | ⟨-, -, kept⟩
    · rw [plain, List.mem_singleton] at inside
      exact inside ▸ member
    · exact absurd (List.all_eq_true.1 kept char inside) unkept
  · intro member
    rcases keeps.each char with plain | ⟨kept, -, -⟩
    · exact ⟨char, member, by simp [plain]⟩
    · exact absurd kept unkept

/-- A character that is not kept is spelled as itself. -/
theorem spell_of_unkept (keeps : KeepsBlanks spell) {char : Char} (unkept : ¬ isKept .value char) :
    spell char = [char] :=
  (keeps.each char).resolve_right fun ⟨kept, _⟩ => unkept kept

/-- Blanks are found in the spelling of a string as they are in the string. -/
theorem map_blankAt (keeps : KeepsBlanks spell) (place : Place) (string : List Char) :
    (string.flatMap spell).map (blankAt place) = (string.map (blankAt place)).flatMap spell := by
  have each (char : Char) : (spell char).map (blankAt place) = spell (blankAt place char) := by
    rcases keeps.each char with plain | ⟨kept, -, parts⟩
    · -- Only a blank is changed, and then to a space, which is spelled as itself.
      by_cases blank : place = .value && isSpace char
      · simp only [blankAt, plain, blank, if_true, List.map_cons, List.map_nil, keeps.space]
      · simp only [blankAt, plain, blank, List.map_cons, List.map_nil, Bool.false_eq_true, if_false]
    · rw [blankAt_of_isKept kept, List.map_congr_left fun part inside =>
        blankAt_of_isKept (List.all_eq_true.1 parts part inside) place, List.map_id']
  simp [List.map_flatMap, List.flatMap_map, each]

/-- The spelling of a string begins with a line feed if the string does. -/
theorem head?_flatMap_iff (keeps : KeepsBlanks spell) (string : List Char) :
    (string.flatMap spell).head? = some '\n' ↔ string.head? = some '\n' := by
  cases string with
  | nil => rfl
  | cons char rest =>
    rw [List.flatMap_cons]
    rcases keeps.each char with plain | ⟨kept, present, parts⟩
    · simp [plain]
    · -- Neither the character nor the beginning of its spelling is a line feed.
      have other : char ≠ '\n' := by
        rintro rfl
        revert kept
        decide
      obtain ⟨part, more, spelled⟩ := List.exists_cons_of_ne_nil present
      have part_other : part ≠ '\n' := by
        rintro rfl
        have := List.all_eq_true.1 parts '\n' (by simp [spelled])
        revert this
        decide
      simp [spelled, other, part_other]

/-- Ends of lines are found in the spelling of a string as they are in the string. -/
theorem lineEnds_flatMap (keeps : KeepsBlanks spell) (string : List Char) :
    lineEnds (string.flatMap spell) = (lineEnds string).flatMap spell := by
  induction string with
  | nil => rfl
  | cons char rest ih =>
    rw [List.flatMap_cons, lineEnds]
    by_cases returns : char = '\r'
    · subst returns
      have feed : spell '\n' = ['\n'] := keeps.spell_of_unkept (by decide)
      rw [keeps.spell_of_unkept (by decide), List.singleton_append, lineEnds, if_pos rfl,
        if_pos rfl]
      by_cases fed : rest.head? = some '\n'
      · rw [if_pos ((keeps.head?_flatMap_iff rest).2 fed), if_pos fed, ih]
      · rw [if_neg (mt (keeps.head?_flatMap_iff rest).1 fed), if_neg fed, ih, List.flatMap_cons,
          feed]
        rfl
    · -- No part of any other spelling is a return.
      have absent : '\r' ∉ spell char := by
        rcases keeps.each char with plain | ⟨-, -, parts⟩
        · simpa [plain] using Ne.symm returns
        · intro inside
          have := List.all_eq_true.1 parts _ inside
          revert this
          decide
      rw [lineEnds_append_of_not_mem absent, ih, if_neg returns, List.flatMap_cons]

end KeepsBlanks

/-! ### Documents -/

namespace Piece

/-- The spelling of the characters of a piece. -/
def writeChar : Place → Char → List Char
  | .markup, char => [char]
  | .value, char => escapeValueChar char
  | .text, char => escapeTextChar char

/-- In every place, the spelling of a character keeps blanks. -/
theorem keepsBlanks_writeChar (place : Place) : KeepsBlanks (writeChar place) := by
  -- Markup is written as it is, and the other places have their own escapes.
  cases place with
  | markup => exact ⟨rfl, fun _ => .inl rfl⟩
  | value => exact keepsBlanks_escapeValueChar
  | text => exact keepsBlanks_escapeTextChar

/-- A piece is spelled character by character. -/
theorem write_eq (piece : Piece) : piece.write = piece.string.flatMap (writeChar piece.place) := by
  -- Only values and texts are escaped.
  obtain ⟨place, string⟩ := piece
  cases place with
  | markup => exact (List.flatMap_singleton' string).symm
  | value => rfl
  | text => rfl

/-- A character that is not kept at the place of a piece is spelled exactly where it stands. -/
theorem mem_write_iff {piece : Piece} {char : Char} (unkept : ¬ isKept piece.place char) :
    char ∈ piece.write ↔ char ∈ piece.string := by
  -- A spelling brings in none but characters that are kept everywhere.
  rw [write_eq]
  exact (keepsBlanks_writeChar _).mem_flatMap_iff (fun kept => unkept (isKept_of_value kept _)) _

/-- Ends of lines are found in the spelling of a piece as they are in its string. -/
theorem lineEnds_write (place : Place) (string : List Char) :
    lineEnds (write ⟨place, string⟩) = write ⟨place, lineEnds string⟩ := by
  -- The spelling is taken character by character.
  rw [write_eq, write_eq]
  exact (keepsBlanks_writeChar place).lineEnds_flatMap string

/-- Blanks are found in the spelling of a piece as they are in its string. -/
theorem map_blankAt_write (place : Place) (string : List Char) :
    (write ⟨place, string⟩).map (blankAt place) = write ⟨place, string.map (blankAt place)⟩ := by
  -- The spelling is taken character by character.
  rw [write_eq, write_eq]
  exact (keepsBlanks_writeChar place).map_blankAt place string

end Piece

/-- Markup does not begin with a line feed. -/
theorem Spot.Marks.head?_ne {spot behind : Spot} {run : List Char} (marks : spot.Marks run behind)
    (rest : List Char) : (run ++ rest).head? ≠ some '\n' := by
  -- The first character is kept in markup, and a line feed is not.
  obtain ⟨first, others, spelled⟩ := List.exists_cons_of_ne_nil marks.present
  have kept := List.all_eq_true.1 marks.kept first (by simp [spelled])
  rintro begins
  obtain rfl : first = '\n' := by simpa [spelled] using begins
  revert kept
  decide

/-- Ends of lines are found in each string by itself. -/
theorem Laid.lineEnds_writePieces {spot : Spot} {pieces : List Piece} (laid : Laid spot pieces) :
    lineEnds (writePieces pieces) = writePieces (pieces.map (Piece.map fun _ => lineEnds)) := by
  -- A string is followed by markup, which does not begin with a line feed.
  have string {place : Place} {value run : List Char} {rest : List Piece} {spot : Spot}
      (behind : Laid spot (⟨.markup, run⟩ :: rest)) :
      lineEnds (writePieces (⟨place, value⟩ :: ⟨.markup, run⟩ :: rest)) =
        Piece.write ⟨place, lineEnds value⟩ ++
          lineEnds (writePieces (⟨.markup, run⟩ :: rest)) := by
    cases behind with
    | markup marks _ =>
      rw [← Piece.lineEnds_write]
      exact lineEnds_append _ (marks.head?_ne (writePieces rest))
  induction laid with
  | nil => rfl
  | @markup _ _ run rest marks _ ih =>
    have absent : '\r' ∉ run := by
      intro inside
      have kept := List.all_eq_true.1 marks.kept _ inside
      revert kept
      decide
    have read := lineEnds_append_of_not_mem absent (writePieces rest)
    rw [ih] at read
    exact read
  | value behind ih =>
    rw [string behind, ih]
    rfl
  | text behind ih =>
    rw [string behind, ih]
    rfl

/-- A document is read as if its strings had been cleaned before they were written. -/
theorem Laid.normalize_writePieces {pieces : List Piece} (laid : Laid .text pieces) :
    normalize (writePieces pieces) = writePieces (pieces.map (Piece.map cleanAt)) := by
  -- The places of the strings are the same before and after.
  have each (piece : Piece) : (piece.map fun _ => lineEnds).write.map (blankAt piece.place) =
      (piece.map cleanAt).write := by
    obtain ⟨place, string⟩ := piece
    cases place with
    | markup =>
      have kept : blankAt .markup = id := by funext char; simp [blankAt]
      rw [kept, List.map_id]
      rfl
    | value => exact Piece.map_blankAt_write .value (lineEnds string)
    | text => exact Piece.map_blankAt_write .text (lineEnds string)
  rw [normalize, laid.lineEnds_writePieces, (laid.map _).places_writePieces]
  simp only [List.map_flatMap, List.flatMap_map, List.map_map, writePieces, Function.comp_def,
    Piece.place_map, each]

/-! ### Clean strings -/

/-- A string of characters that are kept is clean. -/
theorem cleanAt_eq_self {place : Place} {string : List Char} (other : place ≠ .markup)
    (kept : ∀ char ∈ string, isKept place char) : cleanAt place string = string := by
  -- Neither a return nor, in values, a blank other than a space is kept.
  have absent : '\r' ∉ string := by
    intro inside
    have returns := kept _ inside
    cases place <;> revert returns other <;> decide
  have plain : ∀ char ∈ string, blankAt place char = char := by
    intro char inside
    cases place with
    | value => exact blankAt_of_isKept (kept char inside) .value
    | _ => simp [blankAt]
  rw [cleanAt, lineEnds_eq_self absent, List.map_congr_left plain, List.map_id']

/-- The legal characters of a clean string are kept. -/
theorem isKept_of_mem_cleanAt {place : Place} {string : List Char} {char : Char}
    (legal : isLegal char) (member : char ∈ cleanAt place string) : isKept place char := by
  obtain ⟨before, inside, rfl⟩ := List.mem_map.1 member
  -- In values blanks have become spaces, and in texts no return is left.
  cases place with
  | markup => exact legal
  | value =>
    by_cases space : isSpace before
    · simp [blankAt, space, isKept]
      decide
    · simp_all [blankAt, isKept, isSpace]
  | text =>
    have other : before ≠ '\r' := fun same => not_mem_lineEnds string (same ▸ inside)
    simp_all [blankAt, isKept]

/-- The legal characters of a clean piece are kept. -/
theorem Piece.isKept_of_mem_map_cleanAt {piece : Piece} {char : Char} (legal : isLegal char)
    (member : char ∈ (piece.map cleanAt).string) : isKept (piece.map cleanAt).place char := by
  -- Markup keeps all legal characters, and the strings were cleaned for their place.
  obtain ⟨place, string⟩ := piece
  cases place with
  | markup => exact legal
  | value => exact isKept_of_mem_cleanAt legal member
  | text => exact isKept_of_mem_cleanAt legal member

/-! ### Characters of a document -/

/-- Markup holds no character that is not kept. -/
theorem Laid.isKept_of_mem {spot : Spot} {pieces : List Piece} (laid : Laid spot pieces) :
    ∀ piece ∈ pieces, piece.place = .markup → ∀ char ∈ piece.string, isKept .value char := by
  -- The layout says it of each markup in turn.
  induction laid with
  | nil => simp
  | markup marks _ ih => exact List.forall_mem_cons.2 ⟨fun _ => List.all_eq_true.1 marks.kept, ih⟩
  | value _ ih => exact List.forall_mem_cons.2 ⟨by simp, ih⟩
  | text _ ih => exact List.forall_mem_cons.2 ⟨by simp, ih⟩

/-- A character that is not kept comes into a document only with a string at its place. -/
theorem mem_places_iff {root : Tree} (record : root.toNode.IsRecord) {place : Place} {char : Char}
    (unkept : ¬ isKept place char) :
    (place, char) ∈ places .text (writeDocument root) ↔
      ∃ piece ∈ root.toNode.strings, piece.place = place ∧ char ∈ piece.string := by
  have laid := laid_tree record
  have declared : declarationPieces.all fun piece => piece.string.all (isKept .value) := by decide
  rw [← writePieces_tree record, laid.places_writePieces]
  simp only [List.mem_flatMap, List.mem_map, Prod.mk.injEq]
  constructor
  · rintro ⟨piece, member, _, written, rfl, rfl⟩
    have inside := (Piece.mem_write_iff unkept).1 written
    -- Neither the declaration nor other markup holds the character.
    have string : piece.place ≠ .markup := fun markup =>
      unkept (isKept_of_value (laid.isKept_of_mem piece member markup _ inside) _)
    rcases List.mem_append.1 member with front | own
    · have kept := List.all_eq_true.1 (List.all_eq_true.1 declared piece front) _ inside
      exact absurd (isKept_of_value kept _) unkept
    · exact ⟨piece, List.mem_filter.2 ⟨own, by simpa using string⟩, rfl, inside⟩
  · rintro ⟨piece, member, rfl, inside⟩
    exact ⟨piece, List.mem_append_right _ (List.mem_filter.1 member).1, char,
      (Piece.mem_write_iff unkept).2 inside, rfl, rfl⟩

/-- A document is legal exactly if all of its strings are. -/
theorem isLegal_writeDocument_iff {root : Tree} (record : root.toNode.IsRecord) :
    (∀ char ∈ writeDocument root, isLegal char) ↔
      ∀ piece ∈ root.toNode.strings, ∀ char ∈ piece.string, isLegal char := by
  -- No place keeps an illegal character, so that it stands in a string if anywhere.
  have unkept {place : Place} {char : Char} (illegal : ¬ isLegal char) : ¬ isKept place char := by
    cases place <;> simp_all [isKept]
  constructor
  · intro legal piece member char inside
    refine Decidable.byContradiction fun illegal => ?_
    have found := (mem_places_iff record (unkept illegal)).2 ⟨piece, member, rfl, inside⟩
    have written := List.mem_map_of_mem (f := (·.2)) found
    rw [map_snd_places] at written
    exact illegal (legal char written)
  · intro legal char written
    refine Decidable.byContradiction fun illegal => ?_
    rw [← map_snd_places .text (writeDocument root)] at written
    obtain ⟨⟨place, _⟩, found, rfl⟩ := List.mem_map.1 written
    obtain ⟨piece, member, -, inside⟩ := (mem_places_iff record (unkept illegal)).1 found
    exact illegal (legal piece member _ inside)

/-- The document of a record is read as that of the record with clean strings. -/
theorem normalize_writeDocument {root : Tree} (record : root.toNode.IsRecord)
    (clean : (root.map cleanAt).toNode.IsRecord) :
    normalize (writeDocument root) = writeDocument (root.map cleanAt) := by
  -- Only the strings are cleaned, and the declaration is as it was.
  have pieces : (root.map cleanAt).pieces = root.pieces.map (Piece.map cleanAt) := by
    have declared : declarationPieces.map (Piece.map cleanAt) = declarationPieces := by decide
    have below := record.pieces_map cleanAt
    rw [Tree.pieces, Tree.pieces, List.map_append, declared, ← below]
    rfl
  rw [← writePieces_tree record, (laid_tree record).normalize_writePieces, ← pieces,
    writePieces_tree clean]

end RuleMetadata.Xml

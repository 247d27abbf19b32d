import RuleMetadata.Xml.Token

/-! Escaped text decodes to what it was, and holds none of the characters that would end it. -/

namespace RuleMetadata.Xml

/-- The spellings of one character: itself, or a reference with a name that stands for it. -/
inductive SpellsChar : List Char → Char → Prop where
  | plain (char : Char) : char ≠ '&' → SpellsChar [char] char
  -- The name ends at the first semicolon.
  | reference (name : List Char) (char : Char) :
    ';' ∉ name → entity? name = some char → SpellsChar ('&' :: name ++ [';']) char

/-- Inside a reference, every character up to the semicolon joins its name. -/
theorem decodeFrom_pending (pending name rest : List Char) (inside : ';' ∉ name) :
    decodeFrom (some pending) (name ++ ';' :: rest) =
      (entity? (pending.reverse ++ name)).bind fun char =>
        (decodeFrom none rest).map (char :: ·) := by
  -- Each character moves from the text to the pending name, which is kept backwards.
  induction name generalizing pending with
  | nil => simp [decodeFrom]
  | cons head tail ih =>
    have other : head ≠ ';' := by rintro rfl; simp at inside
    have tail_inside : ';' ∉ tail := fun member => inside (List.mem_cons_of_mem _ member)
    rw [List.cons_append, decodeFrom]
    simp only [other, if_false]
    rw [ih _ tail_inside]
    simp

/-- A spelled character is decoded before whatever follows it. -/
theorem SpellsChar.decode {spelling : List Char} {char : Char} (spelled : SpellsChar spelling char)
    (rest : List Char) :
    decodeFrom none (spelling ++ rest) = (decodeFrom none rest).map (char :: ·) := by
  -- A plain character is taken as it is, and a reference is gathered up to its semicolon.
  cases spelled with
  | plain _ other => simp [decodeFrom, other]
  | reference name _ inside named =>
    rw [List.append_assoc, List.cons_append, decodeFrom]
    simpa [named] using decodeFrom_pending [] name rest inside

/-- The spellings of a text: those of its characters, in a row. -/
inductive SpellsText : List Char → List Char → Prop where
  | nil : SpellsText [] []
  | cons {spelling rest value : List Char} {char : Char} :
    SpellsChar spelling char → SpellsText rest value → SpellsText (spelling ++ rest) (char :: value)

/-- What is decoded spells its value. Behind the beginning of a reference there is first of all the
end of it. -/
theorem spellsText_of_decodeFrom (chars : List Char) :
    (∀ value, decodeFrom none chars = some value → SpellsText chars value) ∧
      ∀ pending value, decodeFrom (some pending) chars = some value →
        ∃ name rest char tail, chars = name ++ ';' :: rest ∧ ';' ∉ name ∧
          entity? (pending.reverse ++ name) = some char ∧ value = char :: tail ∧
            SpellsText rest tail := by
  -- The induction is on the characters; inside of a reference, the name takes them one by one.
  induction chars with
  | nil => exact ⟨by simp [decodeFrom, SpellsText.nil], by simp [decodeFrom]⟩
  | cons char chars ih =>
    obtain ⟨outside, inside⟩ := ih
    refine ⟨fun value decoded => ?_, fun pending value decoded => ?_⟩
    · by_cases begins : char = '&'
      · simp only [decodeFrom, begins, if_true] at decoded
        obtain ⟨name, rest, named, tail, rfl, ended, entity, rfl, spelled⟩ := inside [] _ decoded
        rw [begins, ← List.cons_append, List.append_cons]
        exact .cons (.reference name named ended entity) spelled
      · simp only [decodeFrom, begins, if_false] at decoded
        obtain ⟨tail, rest_decoded, rfl⟩ := Option.map_eq_some_iff.1 decoded
        exact .cons (.plain char begins) (outside tail rest_decoded)
    · by_cases ends : char = ';'
      · simp only [decodeFrom, ends, if_true] at decoded
        obtain ⟨named, entity, decoded⟩ := Option.bind_eq_some_iff.1 decoded
        obtain ⟨tail, rest_decoded, rfl⟩ := Option.map_eq_some_iff.1 decoded
        exact ⟨[], chars, named, tail, by rw [ends]; rfl, List.not_mem_nil, by simpa using entity,
          rfl, outside tail rest_decoded⟩
      · simp only [decodeFrom, ends, if_false] at decoded
        obtain ⟨name, rest, named, tail, rfl, ended, entity, rfl, spelled⟩ := inside _ _ decoded
        exact ⟨char :: name, rest, named, tail, rfl, by simp [ended, Ne.symm ends],
          by simpa using entity, rfl, spelled⟩

/-- A text is decoded to a value exactly if it spells the value. -/
theorem decode_eq_some_iff {spelling value : List Char} :
    decode spelling = some value ↔ SpellsText spelling value := by
  constructor
  · exact (spellsText_of_decodeFrom spelling).1 value
  · -- The characters are decoded from the front, each before the spellings of the others.
    intro spelled
    unfold Xml.decode
    induction spelled with
    | nil => rfl
    | cons first _ ih => rw [first.decode, ih, Option.map_some]

/-- Spelling every character of a text, each in one of its ways, is undone by decoding. -/
theorem decode_flatMap {spell : Char → List Char} (spells : ∀ char, SpellsChar (spell char) char)
    (value : List Char) : decode (value.flatMap spell) = some value := by
  rw [decode_eq_some_iff]
  -- The grammar of texts takes the characters one by one, as the spelling does.
  induction value with
  | nil => exact .nil
  | cons char rest ih => exact .cons (spells char) ih

/-- Inside an attribute value, a character that is not escaped spells itself. -/
theorem escapeValueChar_spells (char : Char) : SpellsChar (escapeValueChar char) char := by
  -- Only an ampersand would not spell itself, and it is one of the escaped characters.
  unfold escapeValueChar
  split
  · exact .reference ['l', 't'] '<' (by decide) (by decide)
  · exact .reference ['g', 't'] '>' (by decide) (by decide)
  · exact .reference ['a', 'm', 'p'] '&' (by decide) (by decide)
  · exact .reference ['a', 'p', 'o', 's'] '\'' (by decide) (by decide)
  · exact .reference ['q', 'u', 'o', 't'] '"' (by decide) (by decide)
  · rename_i ampersand _ _
    exact .plain char ampersand

/-- Inside text, a character that is not escaped spells itself. -/
theorem escapeTextChar_spells (char : Char) : SpellsChar (escapeTextChar char) char := by
  -- Quotes spell themselves here, for a text is not ended by one.
  unfold escapeTextChar
  split
  · exact .reference ['l', 't'] '<' (by decide) (by decide)
  · exact .reference ['g', 't'] '>' (by decide) (by decide)
  · exact .reference ['a', 'm', 'p'] '&' (by decide) (by decide)
  · rename_i ampersand
    exact .plain char ampersand

/-- An escaped attribute value decodes to the value. -/
theorem decode_escapeValue (value : List Char) : decode (escapeValue value) = some value :=
  decode_flatMap escapeValueChar_spells value

/-- An escaped text decodes to the text. -/
theorem decode_escapeText (value : List Char) : decode (escapeText value) = some value :=
  decode_flatMap escapeTextChar_spells value

/-- An escaped attribute value holds no bracket and no quote. -/
theorem not_mem_escapeValue {mark : Char} (marked : mark ∈ ['<', '>', '\'', '"'])
    (value : List Char) : mark ∉ escapeValue value := by
  simp only [escapeValue, List.mem_flatMap, not_exists, not_and]
  intro char _ member
  unfold escapeValueChar at member
  -- The references are words, and a character that stands for itself is none of the marks.
  split at member <;> simp at member marked <;> grind

/-- An escaped text holds no bracket. -/
theorem not_mem_escapeText {mark : Char} (marked : mark ∈ ['<', '>']) (value : List Char) :
    mark ∉ escapeText value := by
  -- As in values, the references are words.
  simp only [escapeText, List.mem_flatMap, not_exists, not_and]
  intro char _ member
  unfold escapeTextChar at member
  split at member <;> simp at member marked <;> grind

/-- The end of a verbatim section is looked for at every place. -/
theorem hasVerbatimEnd_iff {text : List Char} : hasVerbatimEnd text ↔ "]]>".toList <:+: text := by
  -- Each step looks at the next three characters.
  fun_induction hasVerbatimEnd text with
  | case1 => simp
  | case2 rest => simpa using (List.prefix_append "]]>".toList rest).isInfix
  | case3 first rest other ih =>
    rw [ih, List.infix_cons_iff]
    refine ⟨.inr, fun inside => inside.resolve_left ?_⟩
    rintro ⟨behind, begins⟩
    obtain ⟨rfl, rfl⟩ := List.cons.inj begins
    exact other behind rfl rfl

/-- Only the empty text is escaped as the empty text. -/
theorem escapeText_eq_nil_iff {value : List Char} : escapeText value = [] ↔ value = [] := by
  -- Every character has a spelling of at least one character.
  constructor
  · intro empty
    have decoded := decode_escapeText value
    rw [empty] at decoded
    simpa [Xml.decode, decodeFrom] using decoded.symm
  · rintro rfl
    rfl

end RuleMetadata.Xml

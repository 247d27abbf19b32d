import RuleMetadata.Proofs.Declaration.Rendering

/-! A record is read from whatever states its parts.

Entries and items are read one by one into a record that begins with nothing said. What has been
read agrees with the record that the document states, and stays so; when all parts agree, it is
that record. -/

namespace RuleMetadata

namespace Json

/-- A key under which an entry stands has a value. -/
theorem exists_lookup?_eq_some {entries : List (String × α)} {key : String}
    (listed : key ∈ entries.map (·.1)) : ∃ value, lookup? entries key = some value := by
  -- The induction is on the entries, the first of which with the key counts.
  induction entries with
  | nil => simp at listed
  | cons entry rest ih =>
    by_cases here : entry.1 = key
    · exact ⟨entry.2, by simp [lookup?, here]⟩
    · obtain ⟨value, found⟩ := ih (by simpa [Ne.symm here] using listed)
      exact ⟨value, by simp [lookup?, here, found]⟩

/-- The value of a key stands among the entries. -/
theorem mem_of_lookup? {entries : List (String × α)} {key : String} {value : α}
    (found : lookup? entries key = some value) : (key, value) ∈ entries := by
  -- The induction is on the entries, the first of which with the key counts.
  induction entries with
  | nil => simp [lookup?] at found
  | cons entry rest ih =>
    by_cases here : entry.1 = key
    · obtain rfl : entry.2 = value := by simpa [lookup?, here] using found
      simp [← here]
    · exact List.mem_cons_of_mem _ (ih (by simpa [lookup?, here] using found))

/-- A list is read once each of its items is. -/
theorem readItems_of_forall₂ {read : Json → Except Refusal α} {values : List α} {items : List Json}
    (readable : List.Forall₂ (fun value item => read item = .ok value) values items) (index : Nat) :
    readItems read index items = .ok values := by
  -- The induction is on the items, which are counted from any position.
  induction readable generalizing index with
  | nil => rfl
  | cons found _ ih =>
    simp [readItems, found, within, ih, Bind.bind, Except.bind, pure, Except.pure]

namespace Part

variable {α : Type} {value : Json}

/-- An optional text is read from what states it. -/
theorem readOptionalText_of_states {key : String} {text : Option String}
    (states : (optionalText key text).states value) : readOptionalText value = .ok text := by
  cases text <;> (obtain rfl : value = _ := states; rfl)

/-- A truth value is read from what states it. -/
theorem readFlag_of_states {key : String} {truth : Bool}
    (states : (flag key truth).states value) : readFlag value = .ok truth := by
  obtain rfl : value = _ := states
  rfl

/-- A list is read from what states it, if its elements are. -/
theorem readList_of_states {read : Json → Except Refusal α} {states : α → Json → Prop}
    (readable : ∀ element item, states element item → read item = .ok element) {key : String}
    {values : List α} (stated : (list key states values).states value) :
    readList read value = .ok values := by
  obtain ⟨items, rfl, stated⟩ := stated
  exact readItems_of_forall₂ (stated.imp readable) 0

/-- A list of texts is read from what states it. -/
theorem readList_of_states_texts {key : String} {values : List String}
    (stated : (texts key values).states value) : readList readText? value = .ok values :=
  readList_of_states (fun _ _ stated => by simp [stated, readText?]) stated

/-- One text or a list of texts is read from what states it. -/
theorem readTexts_of_states {key : String} {values : List String}
    (stated : (textOrTexts key values).states value) : readTexts value = .ok values := by
  -- A list of texts is read item by item, and one text as it stands.
  obtain rfl | ⟨text, rfl, rfl⟩ := stated
  · have readable : readItems readText? 0 (values.map .text) = .ok values :=
      readItems_of_forall₂ (by simp [List.forall₂_map_right_iff, List.forall₂_same, readText?]) 0
    simp [ofTexts, readTexts, readable]
  · rfl

end Part

/-- A text that is always there is found among the entries that state it. -/
theorem lookup?_of_statedBy_text {key text : String} {entries : List (String × Json)}
    (stated : (Part.text key text).StatedBy entries) :
    lookup? entries key = some (.text text) := by
  obtain ⟨states, omittable⟩ := stated
  -- It cannot be left out, and any entry under its key states it.
  have listed : key ∈ entries.map (·.1) := by
    by_contra missing
    exact omittable missing
  obtain ⟨value, found⟩ := exists_lookup?_eq_some listed
  rw [found, show value = .text text from states value (mem_of_lookup? found)]

end Json

open Json

/-- Whether a record comes next on the way from another one: it agrees at a key, and wherever the
one before did. -/
structure Advances (onWay : α → Prop) (agrees : String → α → Prop) (key : String)
    (record next : α) : Prop where
  goesOn : onWay next
  agreed : agrees key next
  -- What has been read once is not read over, for each key is taken once.
  kept : ∀ other, agrees other record → agrees other next

/-- Whether an entry is read into a record so that the next one agrees at its key. -/
def IsRead (readEntry : α → String → Json → Except Refusal α) (onWay : α → Prop)
    (agrees : String → α → Prop) (record : α) (key : String) (value : Json) : Prop :=
  ∃ next, readEntry record key value = .ok next ∧ Advances onWay agrees key record next

namespace IsRead

variable {readEntry : α → String → Json → Except Refusal α} {onWay : α → Prop}
  {agrees : String → α → Prop} {record : α} {key : String} {value : Json}

/-- An entry is read if its value is, and if a field of the record is set to that. -/
theorem of_read {read : Json → Except Refusal β} {field : β} (found : read value = .ok field)
    (set : β → α)
    (sets : ∀ field, read value = .ok field → readEntry record key value = .ok (set field))
    (advances : Advances onWay agrees key record (set field)) :
    IsRead readEntry onWay agrees record key value :=
  ⟨set field, sets field found, advances⟩

/-- A text that states a part is read into its field. -/
theorem of_text {text : String} (stated : (Part.text key text).states value) (set : String → α)
    (sets : ∀ field, readText? value = .ok field → readEntry record key value = .ok (set field))
    (advances : Advances onWay agrees key record (set text)) :
    IsRead readEntry onWay agrees record key value := by
  -- A text is read as it stands, so only one value states it.
  obtain rfl : value = _ := stated
  exact of_read (show readText? (.text text) = .ok text from rfl) set sets advances

/-- What states an optional text is read into its field. -/
theorem of_optionalText {text : Option String} (stated : (Part.optionalText key text).states value)
    (set : Option String → α)
    (sets : ∀ field, readOptionalText value = .ok field →
      readEntry record key value = .ok (set field))
    (advances : Advances onWay agrees key record (set text)) :
    IsRead readEntry onWay agrees record key value :=
  of_read (Part.readOptionalText_of_states stated) set sets advances

/-- A truth value that states a part is read into its field. -/
theorem of_flag {truth : Bool} (stated : (Part.flag key truth).states value) (set : Bool → α)
    (sets : ∀ field, readFlag value = .ok field → readEntry record key value = .ok (set field))
    (advances : Advances onWay agrees key record (set truth)) :
    IsRead readEntry onWay agrees record key value :=
  of_read (Part.readFlag_of_states stated) set sets advances

/-- One text or a list of texts that states a part is read into its field. -/
theorem of_texts {texts : List String} (stated : (Part.textOrTexts key texts).states value)
    (set : List String → α)
    (sets : ∀ field, readTexts value = .ok field → readEntry record key value = .ok (set field))
    (advances : Advances onWay agrees key record (set texts)) :
    IsRead readEntry onWay agrees record key value :=
  of_read (Part.readTexts_of_states stated) set sets advances

end IsRead

/-- How entries lead to a record, by way of some others: what states a part is read into its field,
which then agrees with the record, while all others stay as they are; any other entry changes
nothing; and a record that agrees at every part is the record. -/
structure Fills (readEntry : α → String → Json → Except Refusal α) (onWay : α → Prop)
    (agrees : String → α → Prop) (parts : List Part) (target : α) : Prop where
  read : ∀ part ∈ parts, ∀ record value, onWay record → part.states value →
    IsRead readEntry onWay agrees record part.key value
  -- Keys that the record does not know are passed over.
  skip : ∀ key, key ∉ parts.map (·.key) → ∀ record value, onWay record →
    readEntry record key value = .ok record
  -- No field is left out of the parts.
  complete : ∀ record, onWay record → (∀ part ∈ parts, agrees part.key record) → record = target

namespace Fills

variable {readEntry : α → String → Json → Except Refusal α} {onWay : α → Prop}
  {agrees : String → α → Prop} {parts : List Part} {target : α}

/-- Reading the entries of an object that states every part fills the record, if it starts with
what the missing parts leave unsaid. -/
theorem readEntries_eq (fills : Fills readEntry onWay agrees parts target) {record : α}
    {entries : List (String × Json)} (started : onWay record)
    (states : ∀ part ∈ parts, ∀ value, (part.key, value) ∈ entries → part.states value)
    (unsaid : ∀ part ∈ parts, part.key ∉ entries.map (·.1) → agrees part.key record) :
    readEntries readEntry record entries = .ok target := by
  -- A part that is read agrees from then on, so only what is still to come may disagree.
  induction entries generalizing record with
  | nil =>
    exact congrArg _ (fills.complete record started fun part mem => unsaid part mem (by simp))
  | cons entry rest ih =>
    obtain ⟨key, value⟩ := entry
    have later : ∀ part ∈ parts, ∀ value, (part.key, value) ∈ rest → part.states value :=
      fun part mem value listed => states part mem value (List.mem_cons_of_mem _ listed)
    by_cases known : key ∈ parts.map (·.key)
    -- A part's key: its field is filled, and later entries under the same key fill it alike.
    · obtain ⟨part, mem, rfl⟩ := List.mem_map.1 known
      obtain ⟨next, read, goesOn, agreed, kept⟩ := fills.read part mem record value started
        (states part mem value (by simp))
      have filled := ih goesOn later fun other otherMem missing => by
        by_cases same : other.key = part.key
        · exact same ▸ agreed
        · exact kept _ (unsaid other otherMem (by simp [same]; simpa using missing))
      simp [readEntries, read, filled, Bind.bind, Except.bind]
    -- No part's key: the record stays as it is, and no part becomes unsaid.
    · have filled := ih started later fun other otherMem missing =>
        unsaid other otherMem (by
          have differs : other.key ≠ key := fun same => known (same ▸ List.mem_map_of_mem otherMem)
          simp [differs]; simpa using missing)
      simp [readEntries, fills.skip key known record value started, filled, Bind.bind, Except.bind]

/-- Reading the items of an array that states the parts to come fills the record, if it agrees at
the others. -/
theorem readPositions_eq (fills : Fills readEntry onWay agrees parts target)
    {surplus : Except Refusal α} {record : α} {coming : List Part} {items : List Json}
    (started : onWay record) (states : List.Forall₂ Part.states coming items)
    (known : ∀ part ∈ coming, part ∈ parts)
    (agreed : ∀ part ∈ parts, part ∈ coming ∨ agrees part.key record) :
    readPositions readEntry surplus record (coming.map (·.key)) items = .ok target := by
  -- Each item moves its part from those to come to those that agree.
  induction states generalizing record with
  | nil =>
    exact congrArg _ (fills.complete record started fun part mem => by simpa using agreed part mem)
  | @cons part value coming items stated _ ih =>
    obtain ⟨next, read, goesOn, agreedNext, kept⟩ := fills.read part (known part (by simp)) record
      value started stated
    have filled := ih goesOn (fun other mem => known other (by simp [mem])) fun other mem => by
      rcases agreed other mem with listed | agreed
      · rcases List.mem_cons.1 listed with rfl | listed
        · exact .inr agreedNext
        · exact .inl listed
      · exact .inr (kept _ agreed)
    simp [readPositions, read, filled, Bind.bind, Except.bind]

/-- A record that starts with nothing said is read from an object that states its parts. -/
theorem readEntries_of_statedBy (fills : Fills readEntry onWay agrees parts target) {record : α}
    {entries : List (String × Json)} (started : onWay record)
    (unsaid : ∀ part ∈ parts, part.omittable → agrees part.key record)
    (stated : ∀ part ∈ parts, part.StatedBy entries) :
    readEntries readEntry record entries = .ok target :=
  -- What no entry states has been left out, and is as it was at the start.
  fills.readEntries_eq started (fun part mem => (stated part mem).1)
    fun part mem missing => unsaid part mem ((stated part mem).2 missing)

/-- A record is read from the array of its parts. -/
theorem readPositions_of_states (fills : Fills readEntry onWay agrees parts target)
    (surplus : Except Refusal α) (record : α) (started : onWay record) {items : List Json}
    (stated : List.Forall₂ Part.states parts items) :
    readPositions readEntry surplus record (parts.map (·.key)) items = .ok target :=
  -- In an array every part is stated, so that it does not matter what was there at the start.
  fills.readPositions_eq started stated (fun _ mem => mem) fun _ mem => .inl mem

end Fills

end RuleMetadata

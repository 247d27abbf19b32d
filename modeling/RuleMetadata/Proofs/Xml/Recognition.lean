import RuleMetadata.Proofs.Xml.Grammar

/-! The first token of a text is the one that the text begins with by the grammar: every spelling of
a token is read as that token, and nothing else is read as it. -/

namespace RuleMetadata.Xml

/-! ### Settings -/

/-- A quoted value is read up to its closing quote. -/
theorem SpellsQuoted.lexQuoted? {value chars : List Char} (spells : SpellsQuoted value chars)
    (rest : List Char) : lexQuoted? (chars ++ rest) = some (value, rest) := by
  obtain ⟨quote, absent, rfl⟩ := spells
  rw [List.cons_append, List.append_assoc]
  -- The closing quote is the first one of its kind.
  cases quote <;> exact cutAt?_single_eq_some_iff.2 ⟨rfl, absent⟩

/-- A quoted value does not begin with a blank. -/
theorem SpellsQuoted.stopsSpace {value chars : List Char} (spells : SpellsQuoted value chars)
    (rest : List Char) : stopsSpace (chars ++ rest) := by
  -- It begins with its quote.
  obtain ⟨quote, -, rfl⟩ := spells
  cases quote <;> rfl

/-- What is read as a quoted value is one. -/
theorem exists_spellsQuoted {chars value rest : List Char}
    (read : lexQuoted? chars = some (value, rest)) :
    ∃ quoted, SpellsQuoted value quoted ∧ chars = quoted ++ rest := by
  unfold lexQuoted? at read
  -- The first character tells the kind of the quotes.
  split at read
  · obtain ⟨rfl, absent⟩ := cutAt?_single_eq_some_iff.1 read
    exact ⟨_, ⟨.single, absent, rfl⟩, by simp [Quote.char]⟩
  · obtain ⟨rfl, absent⟩ := cutAt?_single_eq_some_iff.1 read
    exact ⟨_, ⟨.double, absent, rfl⟩, by simp [Quote.char]⟩
  · cases read

/-- A setting is passed over if its value is accepted. -/
theorem Sets.dropSetting? {name : String} {accepts : List Char → Bool} {chars : List Char}
    (sets : Sets name accepts chars) {first : Char} {others : List Char}
    (begins : name.toList = first :: others) (visible : isSpace first = false) (rest : List Char) :
    dropSetting? name accepts (chars ++ rest) = some rest := by
  obtain ⟨value, accepted, blanks, before, after, quoted, present, blank, before_blank, after_blank,
    spells, rfl⟩ := sets
  have stops (behind : List Char) : stopsSpace (name.toList ++ behind) := by
    simp [begins, stopsSpace, visible]
  -- Blanks, name, equals sign and value are passed over one after the other.
  simp only [List.append_assoc, List.cons_append]
  have spaces (behind : List Char) : dropSpaces? (blanks ++ (name.toList ++ behind)) =
      some (name.toList ++ behind) :=
    dropSpaces?_eq_some_iff.2 ⟨blanks, present, blank, stops behind, rfl⟩
  simp only [Xml.dropSetting?, spaces,
    dropFront?_eq_some_iff.2 rfl, Option.bind_eq_bind, Option.bind_some,
    dropEquals?_append before_blank after_blank (spells.stopsSpace rest), spells.lexQuoted? rest,
    accepted, if_true]
  rfl

/-- What is passed over as a setting is one, and its value is accepted. -/
theorem exists_sets {name : String} {accepts : List Char → Bool} {chars rest : List Char}
    (dropped : dropSetting? name accepts chars = some rest) :
    ∃ setting, Sets name accepts setting ∧ chars = setting ++ rest := by
  simp only [dropSetting?, Option.bind_eq_bind, Option.bind_eq_some_iff] at dropped
  -- Each step of the scanner has passed over one part of the setting.
  obtain ⟨first, spaces, second, named, third, equals, ⟨value, last⟩, read, dropped⟩ := dropped
  split at dropped
  · rename_i accepted
    cases dropped
    obtain ⟨blanks, present, blank, -, rfl⟩ := dropSpaces?_eq_some_iff.1 spaces
    obtain rfl := dropFront?_eq_some_iff.1 named
    obtain ⟨before, after, before_blank, after_blank, rfl⟩ := of_dropEquals?_eq_some equals
    obtain ⟨quoted, spells, rfl⟩ := exists_spellsQuoted read
    exact ⟨_, ⟨value, accepted, blanks, before, after, quoted, present, blank, before_blank,
      after_blank, spells, rfl⟩, by simp⟩
  · cases dropped

/-- Nothing is passed over for a setting of another name. -/
theorem dropSetting?_eq_none {name : String} {accepts : List Char → Bool} {chars : List Char}
    (other : ∀ rest, chars.dropWhile isSpace ≠ name.toList ++ rest) :
    dropSetting? name accepts chars = none := by
  rw [Option.eq_none_iff_forall_ne_some]
  intro rest dropped
  simp only [dropSetting?, Option.bind_eq_bind, Option.bind_eq_some_iff] at dropped
  obtain ⟨first, spaces, second, named, -⟩ := dropped
  -- What is left behind the blanks would begin with the name.
  obtain ⟨blanks, -, blank, stops, rfl⟩ := dropSpaces?_eq_some_iff.1 spaces
  refine other second ?_
  rw [dropWhile_isSpace_append blank stops, dropFront?_eq_some_iff.1 named]

/-! ### Attributes -/

/-- A name stops at a mark. -/
theorem stopsName_cons {mark : Char} (marked : isMark mark) (rest : List Char) :
    stopsName (mark :: rest) := by
  -- No mark is a character of a name, and the colon is no mark.
  have no_name : isNameChar mark = false := Bool.eq_false_iff.2 fun named => by
    rw [isMark_eq_false_of_isNameChar named] at marked
    cases marked
  have no_colon : mark ≠ ':' := by rintro rfl; revert marked; decide
  simp [stopsName, no_name, no_colon]

/-- A name stops at blanks, and where it stops it does so with blanks in front. -/
theorem stopsName_append {blanks rest : List Char} (blank : blanks.all isSpace)
    (stops : blanks = [] → stopsName rest) : stopsName (blanks ++ rest) := by
  -- The first character decides, be it a blank or that of the rest.
  cases blanks with
  | nil => exact stops rfl
  | cons char others =>
    rw [List.all_cons, Bool.and_eq_true] at blank
    exact stopsName_cons (by simp [isMark, blank.1]) _

/-- A name does not begin with a mark. -/
theorem Name.exists_write_eq_cons {name : Name} (spellable : name.isSpellable) :
    ∃ first rest, name.write = first :: rest ∧ isMark first = false := by
  -- What a name starts with is no mark.
  obtain ⟨first, rest, written, starts⟩ := Name.write_eq_cons spellable
  exact ⟨first, rest, written, isMark_eq_false_of_isNameStart starts⟩

/-- An attribute is read from its name up to the end of its value. -/
theorem lexAttribute?_append {name : Name} {spelling value before after quoted : List Char}
    (spellable : name.isSpellable) (open_free : '<' ∉ spelling)
    (decoded : SpellsText spelling value) (before_blank : before.all isSpace)
    (after_blank : after.all isSpace) (spells : SpellsQuoted spelling quoted) (rest : List Char) :
    lexAttribute? (name.write ++ (before ++ '=' :: (after ++ (quoted ++ rest)))) =
      some ((name, value), rest) := by
  -- The name stops at the equals sign, and the value at its closing quote.
  have named := lexName?_write spellable _
    (stopsName_append before_blank fun _ =>
      stopsName_cons (by decide : isMark '=') (after ++ (quoted ++ rest)))
  simp only [lexAttribute?, named, Option.bind_eq_bind, Option.bind_some,
    dropEquals?_append before_blank after_blank (spells.stopsSpace rest), spells.lexQuoted? rest,
    open_free, if_false, decode_eq_some_iff.2 decoded]
  rfl

/-- What is read as an attribute is one without the blanks in front of it. -/
theorem exists_of_lexAttribute? {chars rest value : List Char} {name : Name}
    (read : lexAttribute? chars = some ((name, value), rest)) :
    ∃ spelling before after quoted, name.isSpellable ∧ '<' ∉ spelling ∧
      SpellsText spelling value ∧ before.all isSpace ∧ after.all isSpace ∧
        SpellsQuoted spelling quoted ∧
          chars = name.write ++ (before ++ '=' :: (after ++ (quoted ++ rest))) := by
  simp only [lexAttribute?, Option.bind_eq_bind, Option.bind_eq_some_iff] at read
  -- Each step of the scanner has passed over one part of the attribute.
  obtain ⟨⟨other, first⟩, named, second, equals, ⟨spelling, third⟩, quotes, read⟩ := read
  split at read
  · cases read
  · rename_i open_free
    obtain ⟨decoded, spelled, made⟩ := Option.bind_eq_some_iff.1 read
    cases made
    obtain ⟨spellable, rfl⟩ := of_lexName?_eq_some named
    obtain ⟨before, after, before_blank, after_blank, rfl⟩ := of_dropEquals?_eq_some equals
    obtain ⟨quoted, spells, rfl⟩ := exists_spellsQuoted quotes
    exact ⟨spelling, before, after, quoted, spellable, open_free, decode_eq_some_iff.1 spelled,
      before_blank, after_blank, spells, rfl⟩

/-- Attributes are read up to the end of their tag. -/
theorem SpellsAttributes.lexAttributes? {attributes : Attributes} {inside blanks : List Char}
    (spells : SpellsAttributes attributes inside) (blank : blanks.all isSpace) (closed : Bool)
    (rest : List Char) (fuel : Nat) (enough : attributes.length < fuel) :
    lexAttributes? fuel (inside ++ (blanks ++ (tagEnd closed ++ rest))) =
      some (attributes, closed, rest) := by
  -- One attribute is read for each unit of fuel, and the last one for the end of the tag.
  induction spells generalizing fuel with
  | nil =>
    obtain ⟨fuel, rfl⟩ : ∃ less, fuel = less + 1 := ⟨fuel - 1, by simp at enough; omega⟩
    have stops : stopsSpace (tagEnd closed ++ rest) := by cases closed <;> rfl
    rw [List.nil_append, Xml.lexAttributes?, dropWhile_isSpace_append blank stops]
    cases closed <;> rfl
  | @cons name spelling value first behind others spellable open_free decoded setting _ ih =>
    obtain ⟨fuel, rfl⟩ : ∃ less, fuel = less + 1 := ⟨fuel - 1, by simp at enough; omega⟩
    have others_read := ih fuel (by simpa using enough)
    obtain ⟨spaces, before, after, quoted, present, spaces_blank, before_blank, after_blank,
      quotes, rfl⟩ := setting
    have entry_read := lexAttribute?_append spellable open_free decoded before_blank after_blank
      quotes (behind ++ (blanks ++ (tagEnd closed ++ rest)))
    -- Behind the blanks stands the name of an attribute, which ends no tag.
    obtain ⟨initial, letters, written, unmarked⟩ := name.exists_write_eq_cons spellable
    have visible : isSpace initial = false := by simp_all [isMark]
    have not_bracket : initial ≠ '>' := by rintro rfl; simp [isMark] at unmarked
    have not_slash : initial ≠ '/' := by rintro rfl; simp [isMark] at unmarked
    simp only [List.append_assoc, List.cons_append]
    rw [written, List.cons_append] at entry_read ⊢
    have stops (after : List Char) : stopsSpace (initial :: after) := by
      simp [stopsSpace, visible]
    have dropped (after : List Char) : dropSpaces? (spaces ++ initial :: after) =
        some (initial :: after) :=
      dropSpaces?_eq_some_iff.2 ⟨spaces, present, spaces_blank, stops after, rfl⟩
    simp only [Xml.lexAttributes?, dropWhile_isSpace_append spaces_blank (stops _), dropped]
    simp [not_bracket, not_slash, entry_read, others_read]

/-- What is read as the inside of a tag is a row of attributes, with blanks in front of the end of
the tag. -/
theorem exists_spellsAttributes {fuel : Nat} {chars rest : List Char} {attributes : Attributes}
    {closed : Bool} (read : lexAttributes? fuel chars = some (attributes, closed, rest)) :
    ∃ inside blanks, SpellsAttributes attributes inside ∧ blanks.all isSpace ∧
      chars = inside ++ (blanks ++ (tagEnd closed ++ rest)) := by
  induction fuel generalizing chars attributes closed rest with
  | zero => cases read
  | succ fuel ih =>
    obtain ⟨blanks, blank, whole, -⟩ := exists_blanks chars
    simp only [Xml.lexAttributes?] at read
    split at read
    · rename_i ended
      cases read
      exact ⟨[], blanks, .nil, blank, by rw [ended] at whole; exact whole⟩
    · rename_i ended
      cases read
      exact ⟨[], blanks, .nil, blank, by rw [ended] at whole; exact whole⟩
    · simp only [Option.bind_eq_bind, Option.bind_eq_some_iff] at read
      obtain ⟨left, spaces, ⟨⟨name, value⟩, behind⟩, one, ⟨others, ends, last⟩, more, made⟩ := read
      cases made
      -- All blanks in front of the attribute have been passed over.
      obtain ⟨blanks, present, blank, stops, rfl⟩ := dropSpaces?_eq_some_iff.1 spaces
      rw [dropWhile_isSpace_append blank stops] at one
      obtain ⟨inside, last_blanks, others_spelled, last_blank, rfl⟩ := ih more
      obtain ⟨spelling, before, after, quoted, spellable, open_free, decoded, before_blank,
        after_blank, quotes, named⟩ := exists_of_lexAttribute? one
      refine ⟨_, last_blanks, .cons spellable open_free decoded ⟨blanks, before, after, quoted,
        present, blank, before_blank, after_blank, quotes, rfl⟩ others_spelled, last_blank, ?_⟩
      rw [named]
      simp

/-! ### Instructions and the declaration -/

/-- No mark stands in a name, whether it has colons or not. -/
theorem isMark_eq_false_of_isFullName {name : List Char} (named : isFullName name) :
    ∀ char ∈ name, isMark char = false := by
  -- A colon is no mark either.
  have unmarked {char : Char} (allowed : isNameChar char ∨ char = ':') : isMark char = false := by
    rcases allowed with allowed | rfl
    · exact isMark_eq_false_of_isNameChar allowed
    · decide
  cases name with
  | nil => simp
  | cons first rest =>
    simp only [isFullName, Bool.and_eq_true, Bool.or_eq_true, beq_iff_eq, List.all_eq_true] at named
    refine List.forall_mem_cons.2 ⟨?_, fun char inside => unmarked (named.2 char inside)⟩
    exact named.1.elim isMark_eq_false_of_isNameStart fun colon => unmarked (.inr colon)

/-- The inside of an instruction is a target in front of its data. -/
theorem takeWhile_target {target data : List Char} (named : isFullName target)
    (blank_first : data.head?.all isSpace) :
    (target ++ data).takeWhile (!isSpace ·) = target := by
  -- The target is the part in front of the first blank.
  have visible : ∀ char ∈ target, (!isSpace char) = true := by
    intro char inside
    have plain := isMark_eq_false_of_isFullName named char inside
    simp only [isMark, Bool.or_eq_false_iff] at plain
    simp [plain.1]
  have stops : ∀ char, data.head? = some char → (!isSpace char) = false := by
    intro char begins
    rw [begins, Option.all_some] at blank_first
    simp [blank_first]
  exact takeWhile_append_stop visible stops

/-- The inside of a proper instruction is one, and holds no end of an instruction. -/
theorem isInstruction_append {target data : List Char}
    (proper : (Aside.instruction target data).IsProper) :
    isInstruction (target ++ data) ∧ ¬ ['?', '>'] <:+: target ++ data ++ ['?'] := by
  obtain ⟨named, not_reserved, blank_first, unended⟩ := proper
  refine ⟨by simp [isInstruction, takeWhile_target named blank_first, named, not_reserved], ?_⟩
  -- The target has no question mark, so that an end would stand in the data alone.
  have unquestioned : '?' ∉ target := fun inside =>
    absurd (isMark_eq_false_of_isFullName named _ inside) (by decide)
  refine not_infix_append rfl ?_ (by decide)
  rw [List.infix_append_iff]
  rintro (inside | inside | ⟨front, back, split, behind, begins⟩)
  · exact unquestioned (inside.subset List.mem_cons_self)
  · exact unended inside
  · cases front with
    | nil =>
      rw [List.nil_append] at split
      exact unended (split ▸ begins.isInfix)
    | cons first rest =>
      obtain ⟨rfl, -⟩ := List.cons.inj split
      exact unquestioned (behind.subset List.mem_cons_self)

/-- The inside of an instruction has a proper target. -/
theorem exists_isProper {inside : List Char} (instructs : isInstruction inside)
    (unended : ¬ ['?', '>'] <:+: inside) :
    ∃ target data, (Aside.instruction target data).IsProper ∧ inside = target ++ data := by
  simp only [isInstruction, Bool.and_eq_true, Bool.not_eq_true'] at instructs
  refine ⟨inside.takeWhile (!isSpace ·), inside.dropWhile (!isSpace ·),
    ⟨instructs.1, instructs.2, ?_, fun ended => unended ?_⟩,
    List.takeWhile_append_dropWhile.symm⟩
  · -- The data begin where the target ends, at a blank.
    cases left : inside.dropWhile (!isSpace ·) with
    | nil => rfl
    | cons char rest =>
      have first := List.head?_dropWhile_not (!isSpace ·) inside
      simpa [left] using first
  · exact ended.trans (List.dropWhile_suffix _).isInfix

/-- No question mark stands in a value that the declaration may set. -/
theorem not_mem_of_sets {name : String} {accepts : List Char → Bool} {chars : List Char}
    (sets : Sets name accepts chars) (name_free : '?' ∉ name.toList)
    (value_free : ∀ value, accepts value → '?' ∉ value) : '?' ∉ chars := by
  obtain ⟨value, accepted, blanks, before, after, quoted, -, blank, before_blank, after_blank,
    ⟨quote, -, rfl⟩, rfl⟩ := sets
  -- Of all parts of a setting, only the name and the value could have one.
  have no_blank {blanks : List Char} (blank : blanks.all isSpace) : '?' ∉ blanks := fun inside =>
    absurd (List.all_eq_true.1 blank _ inside) (by decide)
  have no_quote : '?' ≠ quote.char := by cases quote <;> decide
  simp [no_blank blank, no_blank before_blank, no_blank after_blank, name_free,
    value_free value accepted, no_quote]

/-- What may be missing is passed over where it is there. -/
theorem exists_optionally {spells : List Char → Prop} {chars : List Char}
    {dropped : Option (List Char)}
    (found : ∀ rest, dropped = some rest → ∃ front, spells front ∧ chars = front ++ rest) :
    ∃ front, Optionally spells front ∧ chars = front ++ dropped.getD chars := by
  -- Where nothing was passed over, the missing part is what is there.
  cases dropped with
  | none => exact ⟨[], .inl rfl, rfl⟩
  | some rest =>
    obtain ⟨front, spelled, whole⟩ := found rest rfl
    exact ⟨front, .inr spelled, whole⟩

/-- What may be missing is passed over, unless what follows could be taken for it. -/
theorem getD_of_optionally {spells : List Char → Prop} {drop : List Char → Option (List Char)}
    {chars rest : List Char} (optionally : Optionally spells chars)
    (dropped : spells chars → drop (chars ++ rest) = some rest)
    (missing : chars = [] → drop rest = none) :
    (drop (chars ++ rest)).getD (chars ++ rest) = rest := by
  -- Either the part is there and passed over, or it is missing and so is what it is told by.
  rcases optionally with rfl | spelled
  · rw [List.nil_append, missing rfl, Option.getD_none]
  · rw [dropped spelled, Option.getD_some]

/-- Behind the blanks of a setting stands its name. -/
theorem Sets.exists_dropWhile {name : String} {accepts : List Char → Bool} {chars : List Char}
    (sets : Sets name accepts chars) {first : Char} {others : List Char}
    (begins : name.toList = first :: others) (visible : isSpace first = false) (rest : List Char) :
    ∃ behind, (chars ++ rest).dropWhile isSpace = first :: behind := by
  obtain ⟨value, -, blanks, before, after, quoted, -, blank, -, -, -, rfl⟩ := sets
  rw [begins, List.append_assoc, List.append_assoc, List.cons_append]
  -- The blanks end where the name begins.
  exact ⟨_, dropWhile_isSpace_append blank (by simp [stopsSpace, visible])⟩

/-- A setting that may be missing is passed over, unless there is another one of its name. -/
theorem getD_dropSetting? {name : String} {accepts : List Char → Bool} {chars rest : List Char}
    (sets : Optionally (Sets name accepts) chars) {first : Char} {others : List Char}
    (begins : name.toList = first :: others) (visible : isSpace first = false)
    (other : ∀ behind, rest.dropWhile isSpace ≠ first :: behind) :
    (dropSetting? name accepts (chars ++ rest)).getD (chars ++ rest) = rest := by
  -- What follows begins otherwise, so that it is not taken for the setting.
  refine getD_of_optionally sets (fun spelled => spelled.dropSetting? begins visible rest) fun _ =>
    dropSetting?_eq_none fun behind named => other (others ++ behind) ?_
  rw [named, begins, List.cons_append]

/-- The inside of the declaration names the version and other settings. -/
theorem isDeclaration_iff {inside : List Char} : isDeclaration inside ↔
    ∃ version encoding standalone blanks, Sets "version" isVersion version ∧
      Optionally (Sets "encoding" isEncoding) encoding ∧
      Optionally (Sets "standalone" isYesOrNo) standalone ∧ blanks.all isSpace ∧
        inside = "xml".toList ++ (version ++ (encoding ++ (standalone ++ blanks))) := by
  constructor
  · intro declares
    unfold isDeclaration at declares
    split at declares
    · cases declares
    · rename_i behind begins
      split at declares
      · cases declares
      · -- What is passed over for a setting is one, and only blanks are left behind the last.
        rename_i second dropped
        obtain rfl := dropFront?_eq_some_iff.1 begins
        obtain ⟨version, sets, rfl⟩ := exists_sets dropped
        obtain ⟨encoding, encoded, first_split⟩ := exists_optionally fun rest =>
          @exists_sets "encoding" isEncoding second rest
        obtain ⟨standalone, alone, second_split⟩ := exists_optionally fun rest =>
          @exists_sets "standalone" isYesOrNo
            ((dropSetting? "encoding" isEncoding second).getD second) rest
        exact ⟨version, encoding, standalone, _, sets, encoded, alone, declares,
          by rw [← second_split, ← first_split]⟩
  · rintro ⟨version, encoding, standalone, blanks, sets, encoded, alone, blank, rfl⟩
    -- Blanks hold no setting, and the settings tell from each other by their first letters.
    have none_left (first : Char) : ∀ behind, blanks.dropWhile isSpace ≠ first :: behind := by
      intro behind
      have none_left : (blanks ++ []).dropWhile isSpace = [] := dropWhile_isSpace_append blank rfl
      rw [List.append_nil] at none_left
      rw [none_left]
      exact (List.cons_ne_nil _ _).symm
    have no_encoding : ∀ behind, (standalone ++ blanks).dropWhile isSpace ≠ 'e' :: behind := by
      rcases alone with rfl | sets_alone
      · exact none_left 'e'
      · have letters : "standalone".toList = 's' :: "tandalone".toList := rfl
        obtain ⟨tail, named⟩ := sets_alone.exists_dropWhile letters (by decide) blanks
        intro behind
        rw [named]
        simp
    have named : dropFront? "xml".toList ("xml".toList ++ (version ++ (encoding ++
        (standalone ++ blanks)))) = some (version ++ (encoding ++ (standalone ++ blanks))) :=
      dropFront?_eq_some_iff.2 rfl
    simp only [isDeclaration, named, sets.dropSetting? rfl (by decide : isSpace 'v' = false),
      getD_dropSetting? encoded rfl (by decide : isSpace 'e' = false) no_encoding,
      getD_dropSetting? alone rfl (by decide : isSpace 's' = false) (none_left 's'), blank]

/-- Behind a bracket with a question mark stands an instruction or the declaration. -/
theorem lexToken?_question (rest : List Char) :
    lexToken? ('<' :: '?' :: rest) = (do
      let (inside, rest) ← cutAt? ['?', '>'] rest
      if isInstruction inside then return (.instruction, rest)
      else if isDeclaration inside then return (.declaration, rest)
      else none) := rfl

/-- No question mark stands in the settings of the declaration. -/
theorem not_mem_of_settings {version encoding standalone : List Char}
    (sets : Sets "version" isVersion version) (encoded : Optionally (Sets "encoding" isEncoding)
    encoding) (alone : Optionally (Sets "standalone" isYesOrNo) standalone) :
    '?' ∉ version ++ (encoding ++ standalone) := by
  -- The values that are accepted are made of letters, digits and other marks.
  have version_free := not_mem_of_sets sets (by decide) fun value accepted inside => by
    unfold isVersion at accepted
    split at accepted
    · simp only [Bool.and_eq_true, List.all_eq_true] at accepted
      simp only [List.mem_cons, Char.reduceEq, false_or] at inside
      exact absurd (accepted.2 _ inside) (by decide)
    · cases accepted
  have encoding_free : '?' ∉ encoding := encoded.elim (fun none => none ▸ List.not_mem_nil)
    fun sets => not_mem_of_sets sets (by decide) fun value accepted inside => by
      unfold isEncoding at accepted
      split at accepted
      · simp only [Bool.and_eq_true, List.all_eq_true] at accepted
        rcases List.mem_cons.1 inside with rfl | inside
        · exact absurd accepted.1 (by decide)
        · exact absurd (accepted.2 _ inside) (by decide)
      · cases accepted
  have alone_free : '?' ∉ standalone := alone.elim (fun none => none ▸ List.not_mem_nil)
    fun sets => not_mem_of_sets sets (by decide) fun value accepted inside => by
      simp only [isYesOrNo, Bool.or_eq_true, beq_iff_eq] at accepted
      rcases accepted with rfl | rfl <;> revert inside <;> decide
  simp [version_free, encoding_free, alone_free]

/-- The declaration has an inside that is no instruction and holds no question mark. -/
theorem SpellsDeclaration.exists_inside {chars : List Char} (spells : SpellsDeclaration chars) :
    ∃ inside, chars = '<' :: '?' :: (inside ++ ['?', '>']) ∧ '?' ∉ inside ∧
      isInstruction inside = false ∧ isDeclaration inside := by
  obtain ⟨version, encoding, standalone, blanks, sets, encoded, alone, blank, rfl⟩ := spells
  refine ⟨"xml".toList ++ (version ++ (encoding ++ (standalone ++ blanks))), by simp, ?_, ?_,
    isDeclaration_iff.2 ⟨_, _, _, _, sets, encoded, alone, blank, rfl⟩⟩
  · have free := not_mem_of_settings sets encoded alone
    have no_blank : '?' ∉ blanks := fun inside =>
      absurd (List.all_eq_true.1 blank _ inside) (by decide)
    simp only [List.mem_append, not_or] at free ⊢
    exact ⟨by decide, free.1, free.2.1, free.2.2, no_blank⟩
  · -- The target of the instruction would be the reserved one.
    have blank_first : (version ++ (encoding ++ (standalone ++ blanks))).head?.all isSpace := by
      obtain ⟨_, _, spaces, _, _, _, present, space, -, -, -, rfl⟩ := sets
      obtain ⟨char, others, rfl⟩ := List.exists_cons_of_ne_nil present
      rw [List.all_cons, Bool.and_eq_true] at space
      exact space.1
    rw [isInstruction, takeWhile_target (by decide) blank_first]
    decide

/-- The declaration is read as such, whatever follows it. -/
theorem SpellsDeclaration.lexToken? {chars : List Char} (spells : SpellsDeclaration chars)
    (rest : List Char) : lexToken? (chars ++ rest) = some (.declaration, rest) := by
  obtain ⟨inside, rfl, free, no_instruction, declares⟩ := spells.exists_inside
  -- The end of the declaration is the first one, as there is no question mark inside.
  have cut := cutAt?_append (List.cons_ne_nil '?' ['>']) (not_infix_append rfl (fun within =>
    free (within.subset List.mem_cons_self)) (by decide)) rest
  have spelled : '<' :: '?' :: (inside ++ ['?', '>']) ++ rest =
      '<' :: '?' :: (inside ++ (['?', '>'] ++ rest)) := by simp
  rw [spelled, lexToken?_question, cut]
  simp [no_instruction, declares]

/-- Behind a bracket with two hyphens stands a comment. -/
theorem lexToken?_hyphens (rest : List Char) :
    lexToken? ('<' :: '!' :: '-' :: '-' :: rest) = (do
      let (_, rest) ← cutAt? ['-', '-'] rest
      let rest ← dropFront? ['>'] rest
      return (.comment, rest)) := rfl

/-- The token of a comment or an instruction, which holds nothing of it. -/
def Aside.token : Aside → Token
  | comment _ => .comment
  | instruction _ _ => .instruction

/-- A comment or an instruction is read as one, whatever follows it. -/
theorem Aside.lexToken? {aside : Aside} (proper : aside.IsProper) (rest : List Char) :
    lexToken? (aside.write ++ rest) = some (aside.token, rest) := by
  -- Each has its end only where it is written.
  cases aside with
  | comment text =>
    have cut := cutAt?_append (List.cons_ne_nil '-' ['-']) proper ('>' :: rest)
    have spelled : (comment text).write ++ rest =
        '<' :: '!' :: '-' :: '-' :: (text ++ (['-', '-'] ++ '>' :: rest)) := by
      simp [write]
    rw [spelled, lexToken?_hyphens, cut]
    rfl
  | instruction target data =>
    obtain ⟨instructs, unended⟩ := isInstruction_append proper
    have cut := cutAt?_append (List.cons_ne_nil '?' ['>']) unended rest
    have spelled : (instruction target data).write ++ rest =
        '<' :: '?' :: (target ++ data ++ (['?', '>'] ++ rest)) := by
      simp [write]
    rw [spelled, lexToken?_question, cut]
    simp [instructs, token]

/-! ### Document types -/

/-- A system identifier is passed over. -/
theorem SpellsSystem.dropSystem? {chars : List Char} (spells : SpellsSystem chars)
    (rest : List Char) : dropDoctype?.dropSystem? (chars ++ rest) = some rest := by
  obtain ⟨front, behind, identifier, quoted, front_present, front_blank, behind_present,
    behind_blank, present, no_reference, no_bracket, quotes, rfl⟩ := spells
  -- The word ends the blanks in front of it, and the quoted text those behind the word.
  have word : dropSpaces? (front ++ ("SYSTEM".toList ++ (behind ++ (quoted ++ rest)))) =
      some ("SYSTEM".toList ++ (behind ++ (quoted ++ rest))) :=
    dropSpaces?_eq_some_iff.2 ⟨front, front_present, front_blank, rfl, rfl⟩
  have value : dropSpaces? (behind ++ (quoted ++ rest)) = some (quoted ++ rest) :=
    dropSpaces?_eq_some_iff.2 ⟨behind, behind_present, behind_blank, quotes.stopsSpace rest, rfl⟩
  simp only [List.append_assoc]
  simp only [dropDoctype?.dropSystem?, word, dropFront?_eq_some_iff.2 rfl, value,
    quotes.lexQuoted? rest, Option.bind_eq_bind, Option.bind_some]
  simp [present, no_reference, no_bracket]

/-- What is passed over as a system identifier is one. -/
theorem exists_spellsSystem {chars rest : List Char}
    (dropped : dropDoctype?.dropSystem? chars = some rest) :
    ∃ system, SpellsSystem system ∧ chars = system ++ rest := by
  simp only [dropDoctype?.dropSystem?, Option.bind_eq_bind, Option.bind_eq_some_iff] at dropped
  -- Each step of the scanner has passed over one part, and the text was accepted.
  obtain ⟨first, spaces, second, word, third, more, ⟨identifier, last⟩, read, dropped⟩ := dropped
  split at dropped
  · cases dropped
  · rename_i accepted
    cases dropped
    simp only [Bool.or_eq_true, List.isEmpty_iff, decide_eq_true_eq, not_or] at accepted
    obtain ⟨front, front_present, front_blank, -, rfl⟩ := dropSpaces?_eq_some_iff.1 spaces
    obtain rfl := dropFront?_eq_some_iff.1 word
    obtain ⟨behind, behind_present, behind_blank, -, rfl⟩ := dropSpaces?_eq_some_iff.1 more
    obtain ⟨quoted, quotes, rfl⟩ := exists_spellsQuoted read
    exact ⟨_, ⟨front, behind, identifier, quoted, front_present, front_blank, behind_present,
      behind_blank, accepted.1.1, accepted.1.2, accepted.2, quotes, rfl⟩, by simp⟩

/-- An internal subset is passed over up to its first closing bracket. -/
theorem SpellsSubset.dropSubset? {chars : List Char} (spells : SpellsSubset chars)
    (rest : List Char) : dropDoctype?.dropSubset? (chars ++ rest) = some rest := by
  obtain ⟨blanks, inside, blank, absent, rfl⟩ := spells
  -- The opening bracket ends the blanks, and the closing one is the first of its kind.
  have bracket : dropFront? ['['] ((blanks ++ '[' :: (inside ++ ']' :: rest)).dropWhile isSpace) =
      some (inside ++ ']' :: rest) := by
    rw [dropWhile_isSpace_append blank rfl]
    exact dropFront?_eq_some_iff.2 rfl
  have cut : cutAt? [']'] (inside ++ ']' :: rest) = some (inside, rest) :=
    cutAt?_single_eq_some_iff.2 ⟨rfl, absent⟩
  have spelled : blanks ++ '[' :: (inside ++ [']']) ++ rest =
      blanks ++ '[' :: (inside ++ ']' :: rest) := by simp
  rw [spelled]
  simp only [dropDoctype?.dropSubset?, bracket, cut, Option.bind_eq_bind, Option.bind_some]
  rfl

/-- What is passed over as an internal subset is one. -/
theorem exists_spellsSubset {chars rest : List Char}
    (dropped : dropDoctype?.dropSubset? chars = some rest) :
    ∃ subset, SpellsSubset subset ∧ chars = subset ++ rest := by
  simp only [dropDoctype?.dropSubset?, Option.bind_eq_bind, Option.bind_eq_some_iff] at dropped
  obtain ⟨first, bracket, ⟨inside, second⟩, cut, made⟩ := dropped
  cases made
  -- The bracket was found behind blanks, and the text cut at the first closing one.
  obtain ⟨blanks, blank, whole, -⟩ := exists_blanks chars
  obtain ⟨rfl, absent⟩ := cutAt?_single_eq_some_iff.1 cut
  rw [dropFront?_eq_some_iff.1 bracket] at whole
  exact ⟨_, ⟨blanks, inside, blank, absent, rfl⟩, by simpa using whole⟩

/-- In front of the end of a document type, blanks and an internal subset stop its name, and are not
taken for a system identifier. -/
theorem doctype_stops {subset last : List Char} (bracketed : Optionally SpellsSubset subset)
    (blank : last.all isSpace) (rest : List Char) :
    stopsName (subset ++ (last ++ '>' :: rest)) ∧
      dropDoctype?.dropSystem? (subset ++ (last ++ '>' :: rest)) = none := by
  -- Behind blanks, there is one of two brackets.
  obtain ⟨blanks, bracket, behind, blanks_blank, whole, either⟩ : ∃ blanks bracket behind,
      blanks.all isSpace ∧ subset ++ (last ++ '>' :: rest) = blanks ++ bracket :: behind ∧
        (bracket = '[' ∨ bracket = '>') := by
    rcases bracketed with rfl | ⟨blanks, inside, blanks_blank, -, rfl⟩
    · exact ⟨last, '>', rest, blank, rfl, .inr rfl⟩
    · exact ⟨blanks, '[', inside ++ ']' :: (last ++ '>' :: rest), blanks_blank, by simp, .inl rfl⟩
  have visible : stopsSpace (bracket :: behind) := by rcases either with rfl | rfl <;> rfl
  rw [whole]
  constructor
  · exact stopsName_append blanks_blank fun _ => by
      rcases either with rfl | rfl <;> simp [stopsName] <;> decide
  · rw [Option.eq_none_iff_forall_ne_some]
    intro other dropped
    simp only [dropDoctype?.dropSystem?, Option.bind_eq_bind, Option.bind_eq_some_iff] at dropped
    obtain ⟨first, spaces, second, word, -⟩ := dropped
    obtain ⟨front, -, front_blank, stops, split⟩ := dropSpaces?_eq_some_iff.1 spaces
    have same := dropWhile_isSpace_append blanks_blank visible
    rw [split, dropWhile_isSpace_append front_blank stops, dropFront?_eq_some_iff.1 word] at same
    rcases either with rfl | rfl <;> simp at same

/-- A name with colons goes on up to where names stop. -/
theorem takeWhile_fullName {name rest : List Char} (named : isFullName name)
    (stops : stopsName rest) :
    (name ++ rest).takeWhile (fun char => isNameChar char || char == ':') = name := by
  refine takeWhile_append_stop (fun char inside => ?_) fun char begins => ?_
  · -- What may begin a name may go on with it as well.
    cases name with
    | nil => cases inside
    | cons first letters =>
      simp only [isFullName, Bool.and_eq_true, List.all_eq_true] at named
      rcases List.mem_cons.1 inside with rfl | behind
      · have starts := named.1
        simp only [isNameChar, Bool.or_eq_true] at starts ⊢
        tauto
      · exact named.2 char behind
  · cases rest with
    | nil => cases begins
    | cons first behind =>
      cases begins
      simpa [stopsName] using stops

/-- A name with colons does not begin with a blank. -/
theorem stopsSpace_fullName {name : List Char} (named : isFullName name) (rest : List Char) :
    stopsSpace (name ++ rest) := by
  -- Blanks are marks, and the first character of a name is none.
  cases name with
  | nil => cases named
  | cons first letters =>
    have unmarked := isMark_eq_false_of_isFullName named first List.mem_cons_self
    simp only [isMark, Bool.or_eq_false_iff] at unmarked
    simp [stopsSpace, unmarked.1]

/-- A document type is passed over behind its first word. -/
theorem SpellsDoctype.exists_dropDoctype? {chars : List Char} (spells : SpellsDoctype chars) :
    ∃ inside, chars = "<!DOCTYPE".toList ++ inside ∧ ∀ rest,
      dropDoctype? (inside ++ rest) = some rest := by
  obtain ⟨blanks, name, system, subset, last, present, blank, named, identified, bracketed,
    last_blank, rfl⟩ := spells
  refine ⟨_, rfl, fun rest => ?_⟩
  obtain ⟨subset_stops, no_system⟩ := doctype_stops bracketed last_blank rest
  have stops : stopsName (system ++ (subset ++ (last ++ '>' :: rest))) := by
    rcases identified with rfl | ⟨front, _, _, _, front_present, front_blank, -, -, -, -, -, -, rfl⟩
    · exact subset_stops
    · rw [List.append_assoc]
      exact stopsName_append front_blank (absurd · front_present)
  -- Blanks, name, identifier and subset are passed over one after the other.
  have name_left (behind : List Char) : dropSpaces? (blanks ++ (name ++ behind)) =
      some (name ++ behind) :=
    dropSpaces?_eq_some_iff.2 ⟨blanks, present, blank, stopsSpace_fullName named behind, rfl⟩
  have bracket_left : (last ++ '>' :: rest).dropWhile isSpace = '>' :: rest :=
    dropWhile_isSpace_append last_blank rfl
  have subset_left := getD_of_optionally identified
    (fun spelled => spelled.dropSystem? (subset ++ (last ++ '>' :: rest))) fun _ => no_system
  have last_left := getD_of_optionally bracketed
    (fun spelled => spelled.dropSubset? (last ++ '>' :: rest)) fun _ => by
      simp [dropDoctype?.dropSubset?, bracket_left, dropFront?]
  have whole : blanks ++ (name ++ (system ++ (subset ++ (last ++ ['>'])))) ++ rest =
      blanks ++ (name ++ (system ++ (subset ++ (last ++ '>' :: rest)))) := by simp
  rw [whole]
  simp only [dropDoctype?, name_left, takeWhile_fullName named stops, named, Option.bind_eq_bind,
    Option.bind_some, List.drop_left, subset_left, last_left, bracket_left]
  simp [dropFront?]

/-- What is passed over as a document type behind its first word is one. -/
theorem exists_spellsDoctype {chars rest : List Char} (dropped : dropDoctype? chars = some rest) :
    ∃ inside, SpellsDoctype ("<!DOCTYPE".toList ++ inside) ∧ chars = inside ++ rest := by
  simp only [dropDoctype?, Option.bind_eq_bind, Option.bind_eq_some_iff] at dropped
  obtain ⟨first, spaces, dropped⟩ := dropped
  split at dropped
  · cases dropped
  · rename_i named
    obtain ⟨blanks, present, blank, -, rfl⟩ := dropSpaces?_eq_some_iff.1 spaces
    rw [Bool.not_eq_true', Bool.not_eq_false] at named
    -- What was taken for the name, the identifier and the subset stands in front of what is left.
    have split := List.takeWhile_append_dropWhile (p := fun char => isNameChar char || char == ':')
      (l := first)
    generalize first.takeWhile (fun char => isNameChar char || char == ':') = name at *
    generalize first.dropWhile (fun char => isNameChar char || char == ':') = behind at *
    subst split
    rw [List.drop_left] at dropped
    obtain ⟨system, identified, system_split⟩ := exists_optionally fun rest =>
      @exists_spellsSystem behind rest
    generalize (dropDoctype?.dropSystem? behind).getD behind = second at *
    obtain ⟨subset, bracketed, subset_split⟩ := exists_optionally fun rest =>
      @exists_spellsSubset second rest
    generalize (dropDoctype?.dropSubset? second).getD second = third at *
    obtain ⟨last, last_blank, whole, -⟩ := exists_blanks third
    rw [dropFront?_eq_some_iff.1 dropped] at whole
    refine ⟨blanks ++ (name ++ (system ++ (subset ++ (last ++ ['>'])))),
      ⟨blanks, name, system, subset, last, present, blank, named, identified, bracketed, last_blank,
        rfl⟩, ?_⟩
    rw [system_split, subset_split, whole]
    simp

end RuleMetadata.Xml

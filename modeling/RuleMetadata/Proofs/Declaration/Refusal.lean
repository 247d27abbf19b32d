import RuleMetadata.Proofs.Declaration.Record
import RuleMetadata.Proofs.State

/-! Where a model document is refused. The path of a refusal leads to a value that is refused on its
own, for the same reason, by what reads the place that it stands at; and whatever stands before it
in a list is accepted.

One step of the path is taken at a time: a value that is refused is so as a whole or for one of its
parts, and the rest of the path leads on from that part. -/

namespace RuleMetadata

open Json

/-! ### Places of a document -/

/-- What a place of a model document is read as. -/
inductive Slot where
  | declaration
  | member
  | marker
  | text
  | optionalText
  | tag (known : List String)
  | list (slot : Slot)

namespace Slot

/-- What a place holds. -/
def Content : Slot → Type
  | .declaration => TypeDeclaration
  | .member => MemberDeclaration
  | .marker => Marker
  | .text => String
  | .optionalText => Option String
  -- A tag is read as its place among those that are known.
  | .tag _ => Nat
  | .list slot => List slot.Content

/-- Reads a value on its own as what stands at a place. -/
def read : (slot : Slot) → Json → Except Refusal slot.Content
  | .declaration => TypeDeclaration.read .document
  | .member => TypeDeclaration.readMember .document
  | .marker => Marker.read .document
  | .text => readText?
  | .optionalText => readOptionalText
  | .tag known => readTag .document known
  | .list slot => readList slot.read

/-- Whether a value is accepted on its own. -/
def Accepts (slot : Slot) (value : Json) : Prop :=
  ∃ content, slot.read value = .ok content

/-- The place of a field. Of members and markers only the tag is read where it stands. -/
def field? : Slot → String → Option Slot
  | .declaration, "name" => some .text
  | .declaration, "extends" => some .optionalText
  | .declaration, "implements" => some (.list .text)
  | .declaration, "doc" => some .optionalText
  | .declaration, "markers" => some (.list .marker)
  | .declaration, "members" => some (.list .member)
  | .member, "kind" => some (.tag memberTags)
  -- The other fields of these two are refused without a step of their own.
  | .marker, "kind" => some (.tag Marker.tags)
  | _, _ => none

/-- The fields of a record, in their order in an array. -/
def fields : Slot → List String
  | .declaration => TypeDeclaration.fields
  | .member | .marker => ["kind"]
  | _ => []

/-- The parts of a value, with the places that they stand at: the items of a list, and the fields of
a record that is written as an object or as an array. -/
inductive Part : Slot → Json → Step → Slot → Json → Prop where
  | item {slot : Slot} {items : List Json} {index : Nat} {value : Json} :
    items[index]? = some value → Part (.list slot) (.array items) (.item index) slot value
  | entry {slot inner : Slot} {entries : List (String × Json)} {name : String} {value : Json} :
    (name, value) ∈ entries → slot.field? name = some inner →
      Part slot (.object entries) (.key name) inner value
  -- An array has the fields in the order in which the type declares them.
  | position {slot inner : Slot} {items : List Json} {index : Nat} {name : String} {value : Json} :
    items[index]? = some value → slot.fields[index]? = some name → slot.field? name = some inner →
      Part slot (.array items) (.item index) inner value

/-- Whether all items before the one that a step leads to are accepted. -/
def PassesBefore (slot : Slot) (value : Json) : Step → Prop
  -- The tag of an object is read first, wherever it stands, so that its entries have no order here.
  | .key _ => True
  | .item index => ∀ earlier < index, ∀ inner part, Part slot value (.item earlier) inner part →
    inner.Accepts part

/-- The way from a value along a path to a part of it, past items that are all accepted. -/
inductive Leads : Slot → Json → List Step → Slot → Json → Prop where
  | here (slot : Slot) (value : Json) : Leads slot value [] slot value
  -- On each level, the items in front were accepted before this one was refused.
  | step {slot inner last : Slot} {value part final : Json} {step : Step} {path : List Step} :
    Part slot value step inner part → PassesBefore slot value step →
      Leads inner part path last final → Leads slot value (step :: path) last final

/-- Whether a refusal is of one of the parts of a value, behind items that are all accepted. -/
def BlamesPart (slot : Slot) (value : Json) (refusal : Refusal) : Prop :=
  -- One step is taken off the path, and the cause stays the same.
  ∃ step inner part path, refusal.path = step :: path ∧ Part slot value step inner part ∧
    PassesBefore slot value step ∧ inner.read part = .error ⟨path, refusal.cause⟩

end Slot

/-! ### Refusals of readers -/

section

variable {α β : Type} {refusal : Refusal}

/-- Work whose value is put into something larger is refused as it is by itself. -/
theorem of_bind_pure_eq_error {work : Except Refusal α} {wrap : α → β}
    (refused : (work >>= fun value => pure (wrap value)) = .error refusal) :
    work = .error refusal := by
  -- Putting a value into something else never fails.
  obtain early | ⟨value, -, late⟩ := bind_eq_error_iff.1 refused
  · exact early
  · cases late

/-- Work whose value is changed is refused as it is by itself. -/
theorem of_map_eq_error {work : Except Refusal α} {change : α → β}
    (refused : work.map change = .error refusal) : work = .error refusal := by
  -- Only a value is changed, so a refusal is left as it is.
  cases work with
  | ok value => cases refused
  | error inner => exact congrArg Except.error (Except.error.inj refused)

/-- Work whose refusal is put into something larger is refused by itself. -/
theorem of_mapError_eq_error {work : Except Refusal α} {wrap : Refusal → β} {failure : β}
    (refused : work.mapError wrap = .error failure) :
    ∃ refusal, work = .error refusal ∧ wrap refusal = failure := by
  -- Only a refusal is wrapped, so there must be one.
  cases work with
  | ok value => cases refused
  | error inner => exact ⟨inner, rfl, Except.error.inj refused⟩

/-- What is refused inside of a part has the step to the part in front of its path. -/
theorem of_within_eq_error {step : Step} {work : Except Refusal α}
    (refused : within step work = .error refusal) :
    ∃ path, refusal.path = step :: path ∧ work = .error ⟨path, refusal.cause⟩ := by
  -- The step is all that is added to the refusal.
  cases work with
  | ok value => cases refused
  | error inner =>
    cases refused
    exact ⟨inner.path, rfl, rfl⟩

/-- What is accepted inside of a part is accepted by itself. -/
theorem of_within_eq_ok {step : Step} {work : Except Refusal α} {value : α}
    (accepted : within step work = .ok value) : work = .ok value := by
  -- Nothing is added where nothing is refused.
  cases work with
  | ok value => exact accepted
  | error inner => cases accepted

/-- What is reported for a value as a whole has no path. -/
theorem path_of_atWhole {work : Except Refusal α} (refused : atWhole work = .error refusal) :
    refusal.path = [] := by
  -- The path is dropped from the refusal.
  cases work with
  | ok value => cases refused
  | error inner =>
    cases refused
    rfl

/-- What is refused itself has no path. -/
theorem path_of_refuse {cause : Cause}
    (refused : (refuse cause : Except Refusal α) = .error refusal) : refusal.path = [] := by
  cases refused
  rfl

/-! Texts and tags have no parts, and are refused themselves. -/

/-- A value that is no text is refused where it stands. -/
theorem path_of_readText? {value : Json} (refused : readText? value = .error refusal) :
    refusal.path = [] := by
  unfold readText? at refused
  split at refused
  · cases refused
  · -- What is no text is refused at once.
    exact path_of_refuse refused

/-- A value that is neither a text nor null is refused where it stands. -/
theorem path_of_readOptionalText {value : Json}
    (refused : readOptionalText value = .error refusal) : refusal.path = [] := by
  unfold readOptionalText at refused
  split at refused
  · cases refused
  · -- What is not null is read as a text.
    exact path_of_readText? (of_map_eq_error refused)

/-- A value that is no known tag is refused where it stands. -/
theorem path_of_readTag {setting : Setting} {known : List String} {value : Json}
    (refused : readTag setting known value = .error refusal) : refusal.path = [] := by
  -- A tag is accepted as one of the known texts or numbers, and refused in all other branches.
  unfold readTag at refused
  split at refused
  · split at refused
    · cases refused
    · exact path_of_refuse refused
  · split at refused
    · split at refused
      · cases refused
      · exact path_of_refuse refused
    · exact path_of_refuse refused
  · exact path_of_refuse refused

/-- An array with too many items is refused itself. -/
theorem path_of_refuseSurplus {setting : Setting} {count fields : Nat}
    (refused : (refuseSurplus setting count fields : Except Refusal α) = .error refusal) :
    refusal.path = [] := by
  cases setting <;> exact path_of_refuse refused

/-- Of a list that is refused for its items, the first one that is refused by itself decides. -/
theorem of_readItems_eq_error {read : Json → Except Refusal α} {index : Nat} {items : List Json}
    (refused : readItems read index items = .error refusal) :
    ∃ position item path, items[position]? = some item ∧
      refusal.path = .item (index + position) :: path ∧
      read item = .error ⟨path, refusal.cause⟩ ∧
      ∀ earlier < position, ∀ other, items[earlier]? = some other →
        ∃ value, read other = .ok value := by
  -- Either the first item is refused, or it is accepted and the refusal is behind it.
  induction items generalizing index with
  | nil => cases refused
  | cons item rest ih =>
    rw [readItems] at refused
    obtain here | ⟨value, accepted, refused⟩ := bind_eq_error_iff.1 refused
    · obtain ⟨path, same, refused⟩ := of_within_eq_error here
      exact ⟨0, item, path, rfl, same, refused, by simp⟩
    · obtain ⟨position, found, path, there, same, refused, before⟩ :=
        ih (of_bind_pure_eq_error refused)
      have moved : index + 1 + position = index + (position + 1) := by omega
      refine ⟨position + 1, found, path, there, by rw [same, moved], refused, ?_⟩
      rintro (_ | earlier) within other inside
      · cases inside
        exact ⟨value, of_within_eq_ok accepted⟩
      · exact before earlier (by omega) other inside

end

namespace TypeDeclaration

/-- The members of a type are a list of members. -/
theorem readMembers_eq (setting : Setting) (value : Json) :
    readMembers setting value = readList (readMember setting) value := by
  -- The items are read by the same recursion, written out for members.
  have items (index : Nat) (items : List Json) :
      readMemberItems setting index items = readItems (readMember setting) index items := by
    induction items generalizing index with
    | nil => rfl
    | cons item rest ih => rw [readMemberItems, readItems, ih]
  cases value <;> simp [readMembers, readList, items]

/-- Reads one field of a type, its members like any other. -/
def readField (declaration : TypeDeclaration) (name : String) (value : Json) :
    Except Refusal TypeDeclaration :=
  if name = "members" then
    (readMembers .document value).map fun members => { declaration with members }
  else declaration.readEntry .document name value

/-- The entries of an object are read as fields one by one. -/
theorem readObject_cons (declaration : TypeDeclaration) (name : String) (value : Json)
    (rest : List (String × Json)) :
    readObject .document declaration ((name, value) :: rest) =
      within (.key name) (declaration.readField name value) >>= (readObject .document · rest) := by
  rw [readObject, readField]
  -- Members are read by the recursion, and every other field by itself.
  split
  · cases readMembers .document value <;> rfl
  · rfl

/-- The items of an array are read as fields one by one. -/
theorem readArray_cons (count index : Nat) (declaration : TypeDeclaration) (name : String)
    (names : List String) (value : Json) (rest : List Json) :
    readArray .document count index declaration (name :: names) (value :: rest) =
      within (.item index) (declaration.readField name value) >>=
        (readArray .document count (index + 1) · names rest) := by
  rw [readArray, readField]
  -- Members are read by the recursion, and every other field by itself.
  split
  · cases readMembers .document value <;> rfl
  · rfl

end TypeDeclaration

namespace Slot

/-! ### The first refused part -/

/-- A field is refused as what it holds. -/
theorem of_readField_eq_error {declaration : TypeDeclaration} {name : String} {value : Json}
    {refusal : Refusal} (refused : declaration.readField name value = .error refusal) :
    ∃ slot, field? .declaration name = some slot ∧ slot.read value = .error refusal := by
  -- Members are a list of members, and every other field has one reader of its own.
  unfold TypeDeclaration.readField at refused
  split at refused
  · rename_i named
    rw [TypeDeclaration.readMembers_eq] at refused
    exact ⟨.list .member, by rw [named]; rfl, of_map_eq_error refused⟩
  · unfold TypeDeclaration.readEntry at refused
    split at refused
    · exact ⟨.text, rfl, of_bind_pure_eq_error refused⟩
    · exact ⟨.optionalText, rfl, of_bind_pure_eq_error refused⟩
    · exact ⟨.list .text, rfl, of_bind_pure_eq_error refused⟩
    · exact ⟨.optionalText, rfl, of_bind_pure_eq_error refused⟩
    · exact ⟨.list .marker, rfl, of_bind_pure_eq_error refused⟩
    · cases refused

/-- A value is accepted if work goes on behind it. -/
theorem accepts_of_bind_eq_ok {α : Type} {slot : Slot} {value : Json}
    {rest : slot.Content → Except Refusal α} {result : α}
    (accepted : (slot.read value >>= rest) = .ok result) : slot.Accepts value := by
  -- Work goes on with the content that was read.
  obtain ⟨content, read, _⟩ := bind_eq_ok_iff.1 accepted
  exact ⟨content, read⟩

/-- A value is accepted if its content is put into something larger. -/
theorem accepts_of_map_eq_ok {α : Type} {slot : Slot} {value : Json} {change : slot.Content → α}
    {result : α} (accepted : (slot.read value).map change = .ok result) : slot.Accepts value := by
  -- A refusal would have been left as it is.
  cases read : slot.read value with
  | ok content => exact ⟨content, read⟩
  | error inner =>
    rw [read] at accepted
    cases accepted

/-- A field is accepted as what it holds. -/
theorem accepts_of_readField {declaration next : TypeDeclaration} {name : String} {value : Json}
    (accepted : declaration.readField name value = .ok next) {slot : Slot}
    (known : field? .declaration name = some slot) : slot.Accepts value := by
  -- Members are a list, and every other known field is read as its slot says.
  unfold TypeDeclaration.readField at accepted
  split at accepted
  · rename_i named
    rw [named] at known
    cases known
    rw [TypeDeclaration.readMembers_eq] at accepted
    exact accepts_of_map_eq_ok accepted
  · unfold TypeDeclaration.readEntry at accepted
    split at accepted
    · cases known
      exact accepts_of_bind_eq_ok accepted
    · cases known
      exact accepts_of_bind_eq_ok accepted
    · cases known
      exact accepts_of_bind_eq_ok accepted
    · cases known
      exact accepts_of_bind_eq_ok accepted
    · cases known
      exact accepts_of_bind_eq_ok accepted
    · simp_all [field?]

/-- Of an object that is refused for its entries, one entry is refused as the field that it is. -/
theorem of_readObject_eq_error {declaration : TypeDeclaration} {entries : List (String × Json)}
    {refusal : Refusal}
    (refused : TypeDeclaration.readObject .document declaration entries = .error refusal) :
    ∃ name value slot path, (name, value) ∈ entries ∧ field? .declaration name = some slot ∧
      refusal.path = .key name :: path ∧ slot.read value = .error ⟨path, refusal.cause⟩ := by
  -- The induction is on the entries; either the first one is refused, or one behind it.
  induction entries generalizing declaration with
  | nil => cases refused
  | cons entry rest ih =>
    rw [TypeDeclaration.readObject_cons] at refused
    obtain here | ⟨_, _, behind⟩ := bind_eq_error_iff.1 refused
    · obtain ⟨path, same, refused⟩ := of_within_eq_error here
      obtain ⟨slot, known, refused⟩ := of_readField_eq_error refused
      exact ⟨entry.1, entry.2, slot, path, List.mem_cons_self, known, same, refused⟩
    · obtain ⟨name, value, slot, path, inside, others⟩ := ih behind
      exact ⟨name, value, slot, path, List.mem_cons_of_mem _ inside, others⟩

/-- Of an array that is refused for its items, the first one that is refused as its field decides,
unless there are too many. -/
theorem of_readArray_eq_error {count index : Nat} {declaration : TypeDeclaration}
    {names : List String} {items : List Json} {refusal : Refusal}
    (refused : TypeDeclaration.readArray .document count index declaration names items =
      .error refusal) :
    refusal.path = [] ∨ ∃ position name value slot path, items[position]? = some value ∧
      names[position]? = some name ∧ field? .declaration name = some slot ∧
      refusal.path = .item (index + position) :: path ∧
      slot.read value = .error ⟨path, refusal.cause⟩ ∧
      ∀ earlier < position, ∀ other value slot, names[earlier]? = some other →
        items[earlier]? = some value → field? .declaration other = some slot →
          slot.Accepts value := by
  -- The names of the fields are used up along with the items.
  induction items generalizing index declaration names with
  | nil => simp [TypeDeclaration.readArray] at refused
  | cons item rest ih =>
    cases names with
    | nil => exact .inl (path_of_refuseSurplus refused)
    | cons name names =>
      rw [TypeDeclaration.readArray_cons] at refused
      obtain here | ⟨next, accepted, behind⟩ := bind_eq_error_iff.1 refused
      · obtain ⟨path, same, refused⟩ := of_within_eq_error here
        obtain ⟨slot, known, refused⟩ := of_readField_eq_error refused
        exact .inr ⟨0, name, item, slot, path, rfl, rfl, known, same, refused, by simp⟩
      · obtain nowhere | ⟨position, other, value, slot, path, there, named, known, same, refused,
          before⟩ := ih behind
        · exact .inl nowhere
        · have moved : index + 1 + position = index + (position + 1) := by omega
          refine .inr ⟨position + 1, other, value, slot, path, there, named, known,
            by rw [same, moved], refused, ?_⟩
          rintro (_ | earlier) within other value slot named there known
          · cases named
            cases there
            exact accepts_of_readField (of_within_eq_ok accepted) known
          · exact before earlier (by omega) other value slot named there known

/-- The tag of an object that is refused is missing, or refused as a tag. -/
theorem of_readObjectTag_eq_error {slot : Slot} {known : List String}
    (tagged : slot.field? "kind" = some (.tag known)) {entries : List (String × Json)}
    {refusal : Refusal} (refused : readObjectTag .document known entries = .error refusal) :
    refusal.path = [] ∨ BlamesPart slot (.object entries) refusal := by
  unfold readObjectTag at refused
  -- A tag that is missing is missed in the object itself.
  split at refused
  · exact .inl (path_of_refuse refused)
  · rename_i value found
    obtain ⟨path, same, refused⟩ := of_within_eq_error refused
    exact .inr ⟨.key "kind", .tag known, value, path, same, .entry (mem_of_lookup? found) tagged,
      trivial, refused⟩

/-- The tag of an array that is refused is refused as a tag. -/
theorem blamesPart_of_tag {slot : Slot} {known : List String}
    (tagged : slot.field? "kind" = some (.tag known)) (first : slot.fields[0]? = some "kind")
    {tag : Json} {items : List Json} {refusal : Refusal}
    (refused : within (.item 0) (readTag .document known tag) = .error refusal) :
    BlamesPart slot (.array (tag :: items)) refusal := by
  obtain ⟨path, same, refused⟩ := of_within_eq_error refused
  -- The tag stands first, so no item is read before it.
  exact ⟨.item 0, .tag known, tag, path, same, .position rfl first tagged,
    fun earlier before => absurd before (Nat.not_lt_zero earlier), refused⟩

/-- A list is refused as a whole, or for the first of its items that is refused. -/
theorem of_readList_eq_error {slot : Slot} {value : Json} {refusal : Refusal}
    (refused : (list slot).read value = .error refusal) :
    refusal.path = [] ∨ BlamesPart (list slot) value refusal := by
  cases value with
  | array items =>
    obtain ⟨position, item, path, there, same, refused, before⟩ := of_readItems_eq_error refused
    rw [Nat.zero_add] at same
    refine .inr ⟨.item position, slot, item, path, same, .item there, ?_, refused⟩
    -- All items in front of the refused one were accepted by the reader of items.
    intro earlier within inner part stands
    cases stands with
    | item stands => exact before earlier within part stands
    | position _ named => cases named
  | _ => exact .inl (path_of_refuse refused)

/-- A declaration is refused as a whole, or for one of its fields. -/
theorem of_readDeclaration_eq_error {value : Json} {refusal : Refusal}
    (refused : declaration.read value = .error refusal) :
    refusal.path = [] ∨ BlamesPart declaration value refusal := by
  change TypeDeclaration.read .document value = .error refusal at refused
  unfold TypeDeclaration.read at refused
  split at refused
  · -- Every field is read before one can be missing.
    rename_i entries
    obtain inside | ⟨_, _, missing⟩ := bind_eq_error_iff.1 refused
    · obtain ⟨name, value, slot, path, there, known, same, refused⟩ :=
        of_readObject_eq_error inside
      exact .inr ⟨.key name, slot, value, path, same, .entry there known, trivial, refused⟩
    · split at missing
      · exact .inl (path_of_refuse missing)
      · cases missing
  · exact .inl (path_of_refuse refused)
  · rename_i items _
    obtain nowhere | ⟨position, name, value, slot, path, there, named, known, same, refused,
      before⟩ := of_readArray_eq_error refused
    · exact .inl nowhere
    · rw [Nat.zero_add] at same
      refine .inr ⟨.item position, slot, value, path, same, .position there named known, ?_,
        refused⟩
      intro earlier within inner part stands
      cases stands with
      | position stands named known => exact before earlier within _ part inner named stands known
  · exact .inl (path_of_refuse refused)

/-- A member is refused as a whole, or for its tag. -/
theorem of_readMember_eq_error {value : Json} {refusal : Refusal}
    (refused : member.read value = .error refusal) :
    refusal.path = [] ∨ BlamesPart member value refusal := by
  change TypeDeclaration.readMember .document value = .error refusal at refused
  unfold TypeDeclaration.readMember at refused
  split at refused
  · obtain untagged | ⟨kind, _, inside⟩ := bind_eq_error_iff.1 refused
    · exact of_readObjectTag_eq_error rfl untagged
    · -- What is wrong inside of a member is reported for the whole.
      left
      split at inside
      · obtain whole | ⟨_, _, missing⟩ := bind_eq_error_iff.1 inside
        · exact path_of_atWhole whole
        · split at missing
          · exact path_of_refuse missing
          · cases missing
      · exact path_of_atWhole inside
  · exact .inl (path_of_refuse refused)
  · obtain untagged | ⟨kind, _, inside⟩ := bind_eq_error_iff.1 refused
    · exact .inr (blamesPart_of_tag rfl rfl untagged)
    · left
      split at inside
      · split at inside
        · exact path_of_refuse inside
        · exact path_of_atWhole (of_bind_pure_eq_error inside)
      · exact path_of_atWhole inside
  · exact .inl (path_of_refuse refused)

/-- A marker is refused as a whole, or for its tag. -/
theorem of_readMarker_eq_error {value : Json} {refusal : Refusal}
    (refused : marker.read value = .error refusal) :
    refusal.path = [] ∨ BlamesPart marker value refusal := by
  change Marker.read .document value = .error refusal at refused
  unfold Marker.read at refused
  -- What is wrong inside of a marker is reported for the whole.
  split at refused
  · obtain untagged | ⟨index, _, inside⟩ := bind_eq_error_iff.1 refused
    · exact of_readObjectTag_eq_error rfl untagged
    · exact .inl (path_of_atWhole inside)
  · exact .inl (path_of_refuse refused)
  · obtain untagged | ⟨index, _, inside⟩ := bind_eq_error_iff.1 refused
    · exact .inr (blamesPart_of_tag rfl rfl untagged)
    · exact .inl (path_of_atWhole inside)
  · exact .inl (path_of_refuse refused)

/-- Whatever stands at a place, it is refused as a whole or for one of its parts. -/
theorem of_read_eq_error {slot : Slot} {value : Json} {refusal : Refusal}
    (refused : slot.read value = .error refusal) :
    refusal.path = [] ∨ BlamesPart slot value refusal := by
  -- Texts and tags have no parts, and each other kind of place has its reader.
  cases slot with
  | declaration => exact of_readDeclaration_eq_error refused
  | member => exact of_readMember_eq_error refused
  | marker => exact of_readMarker_eq_error refused
  | text => exact .inl (path_of_readText? refused)
  | optionalText => exact .inl (path_of_readOptionalText refused)
  | tag known => exact .inl (path_of_readTag refused)
  | list slot => exact of_readList_eq_error refused

/-- The path of a refusal leads to a value that is refused on its own for the same reason. -/
theorem exists_leads {slot : Slot} {value : Json} {path : List Step} {cause : Cause}
    (refused : slot.read value = .error ⟨path, cause⟩) :
    ∃ last final, Leads slot value path last final ∧ last.read final = .error (.here cause) := by
  -- The first step of the path is taken into a part, and the rest of it from there.
  induction path generalizing slot value with
  | nil => exact ⟨slot, value, .here slot value, refused⟩
  | cons step path ih =>
    obtain nowhere | ⟨_, inner, part, _, same, stands, before, refused⟩ := of_read_eq_error refused
    · cases nowhere
    · cases same
      obtain ⟨last, final, leads, refused⟩ := ih refused
      exact ⟨last, final, .step stands before leads, refused⟩

end Slot

/-! ### Documents -/

/-- Where the path of a refused document starts: at the list under `types` if there is one, and
otherwise at the document, which is a list of declarations or a single one. -/
inductive StartsAt : Json → Bool → Slot → Json → Prop where
  | types {entries : List (String × Json)} {types : Json} : lookup? entries "types" = some types →
    StartsAt (.object entries) true (.list .declaration) types
  | list (items : List Json) : StartsAt (.array items) false (.list .declaration) (.array items)
  -- A text or a number comes here too, and is refused as a declaration.
  | single {document : Json} : document.get? "types" = none → (∀ items, document ≠ .array items) →
    StartsAt document false .declaration document

/-- A single declaration is refused where its path starts. -/
theorem exists_startsAt_single {document : Json} {refused : DocumentRefusal}
    (alone : document.get? "types" = none) (other : ∀ items, document ≠ .array items)
    (rejected : ((TypeDeclaration.read .document document).map ([·])).mapError (⟨false, ·⟩) =
      .error refused) :
    ∃ start root, StartsAt document refused.underTypes start root ∧
      start.read root = .error refused.refusal := by
  -- The refusal is the one of the declaration, put into that of the document.
  obtain ⟨refusal, inside, rfl⟩ := of_mapError_eq_error rejected
  exact ⟨.declaration, document, .single alone other, of_map_eq_error inside⟩

/-- A refused document is refused where its path starts. -/
theorem exists_startsAt {document : Json} {refused : DocumentRefusal}
    (rejected : readDocument document = .error refused) :
    ∃ start root, StartsAt document refused.underTypes start root ∧
      start.read root = .error refused.refusal := by
  -- A list is read as types, an object as well if it has types, and anything else as one type.
  cases document with
  | object entries =>
    simp only [readDocument] at rejected
    split at rejected
    · rename_i types found
      obtain ⟨refusal, inside, rfl⟩ := of_mapError_eq_error rejected
      exact ⟨.list .declaration, types, .types found, inside⟩
    · rename_i missing
      exact exists_startsAt_single missing (fun _ same => by cases same) rejected
  | array items =>
    obtain ⟨refusal, inside, rfl⟩ := of_mapError_eq_error rejected
    exact ⟨.list .declaration, .array items, .list items, inside⟩
  | _ => exact exists_startsAt_single rfl (fun _ same => by cases same) rejected

/-- The path of a refused document leads from where it starts to a value of the document. On its
own, that value is refused for the same reason by what reads its place, and all items that stand
before those on the path are accepted. -/
theorem readDocument_leads {document : Json} {refused : DocumentRefusal}
    (rejected : readDocument document = .error refused) :
    ∃ start root last final, StartsAt document refused.underTypes start root ∧
      Slot.Leads start root refused.refusal.path last final ∧
      last.read final = .error (.here refused.refusal.cause) := by
  -- From where the path starts, it leads down as long as a part is to blame.
  obtain ⟨start, root, starts, refused⟩ := exists_startsAt rejected
  obtain ⟨last, final, leads, refused⟩ := Slot.exists_leads refused
  exact ⟨start, root, last, final, starts, leads, refused⟩

/-- A document with a type as an array, behind one as an object. The second of its markers is an
array with an unknown tag. -/
def mistakenDocument : Json :=
  .object [("types", .array [
    -- This one is read without a fault.
    .object [("name", .text "p.A")],
    .array [.text "p.B", .null, .array [], .null,
      .array [.object [("kind", .text "rule")], .array [.text "rules"]]]])]

/-- Its refusal is of that tag. -/
def mistakenRefusal : DocumentRefusal :=
  ⟨true, [.item 1, .item 4, .item 1, .item 0], .unknownChoice "rules" Marker.tags⟩

/-- The refusal of the mistaken document leads to the unknown tag. -/
theorem readDocument_leads_mistaken :
    readDocument mistakenDocument = .error mistakenRefusal ∧
      ∃ start root last final, StartsAt mistakenDocument true start root ∧
        Slot.Leads start root [.item 1, .item 4, .item 1, .item 0] last final ∧
        last.read final = .error (.here (.unknownChoice "rules" Marker.tags)) := by
  -- The refusal is computed, and the theorem says where it leads.
  have rejected : readDocument mistakenDocument = .error mistakenRefusal := rfl
  exact ⟨rejected, readDocument_leads rejected⟩

end RuleMetadata

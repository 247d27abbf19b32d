import RuleMetadata.Proofs.Declaration.Marker

/-! A model document is read faithfully whatever its layout. -/

namespace RuleMetadata

open Json

/-! ### Fields, methods and constructors -/

namespace FieldDeclaration

/-- Whether a field has what another one has under a key. -/
def AgreesWith (target : FieldDeclaration) (key : String) (declaration : FieldDeclaration) : Prop :=
  (key = "name" → declaration.name = target.name) ∧
    (key = "type" → declaration.type = target.type) ∧
    (key = "doc" → declaration.doc = target.doc) ∧
    (key = "markers" → declaration.markers = target.markers)

/-- The entries and items of a field fill it. -/
theorem fills (target : FieldDeclaration) :
    Fills readEntry (fun _ => True) target.AgreesWith target.parts target where
  -- Each part is read into its own field, and leaves the other ones alone.
  read part mem record value _ stated := by
    simp only [parts, List.mem_cons, List.not_mem_nil, or_false] at mem
    rcases mem with rfl | rfl | rfl | rfl
    · exact .of_text stated (fun name => { record with name })
        (fun _ found => by simp [readEntry, found])
        ⟨trivial, by simp [AgreesWith], by simp +contextual [AgreesWith]⟩
    · exact .of_optionalText stated (fun type => { record with type })
        (fun _ found => by simp [readEntry, found])
        ⟨trivial, by simp [AgreesWith], by simp +contextual [AgreesWith]⟩
    · exact .of_optionalText stated (fun doc => { record with doc })
        (fun _ found => by simp [readEntry, found])
        ⟨trivial, by simp [AgreesWith], by simp +contextual [AgreesWith]⟩
    · exact .of_read (readMarkers_of_states .tagged stated) (fun markers => { record with markers })
        (fun _ found => by simp [readEntry, found])
        ⟨trivial, by simp [AgreesWith], by simp +contextual [AgreesWith]⟩
  skip key unknown record value _ := by
    unfold readEntry
    split <;> simp_all [parts]
  complete record _ agrees := by
    cases target; cases record
    simp_all [parts, AgreesWith]

/-- What may be left out of a field is as in a field that says nothing. -/
theorem agreesWith_unsaid (target : FieldDeclaration) :
    ∀ part ∈ target.parts, part.omittable → target.AgreesWith part.key { name := "" } := by
  simp +contextual [parts, AgreesWith]

end FieldDeclaration

namespace MethodDeclaration

/-- Whether a method has what another one has under a key. -/
def AgreesWith (target : MethodDeclaration) (key : String) (declaration : MethodDeclaration) :
    Prop :=
  (key = "name" → declaration.name = target.name) ∧
    (key = "returns" → declaration.returns = target.returns) ∧
    (key = "doc" → declaration.doc = target.doc) ∧
    (key = "markers" → declaration.markers = target.markers)

/-- The entries and items of a method fill it. -/
theorem fills (target : MethodDeclaration) :
    Fills readEntry (fun _ => True) target.AgreesWith target.parts target where
  -- Each part is read into its own field, and leaves the other ones alone.
  read part mem record value _ stated := by
    simp only [parts, List.mem_cons, List.not_mem_nil, or_false] at mem
    rcases mem with rfl | rfl | rfl | rfl
    · exact .of_text stated (fun name => { record with name })
        (fun _ found => by simp [readEntry, found])
        ⟨trivial, by simp [AgreesWith], by simp +contextual [AgreesWith]⟩
    · exact .of_text stated (fun returns => { record with returns })
        (fun _ found => by simp [readEntry, found])
        ⟨trivial, by simp [AgreesWith], by simp +contextual [AgreesWith]⟩
    · exact .of_optionalText stated (fun doc => { record with doc })
        (fun _ found => by simp [readEntry, found])
        ⟨trivial, by simp [AgreesWith], by simp +contextual [AgreesWith]⟩
    · exact .of_read (readMarkers_of_states .tagged stated) (fun markers => { record with markers })
        (fun _ found => by simp [readEntry, found])
        ⟨trivial, by simp [AgreesWith], by simp +contextual [AgreesWith]⟩
  skip key unknown record value _ := by
    unfold readEntry
    split <;> simp_all [parts]
  complete record _ agrees := by
    cases target; cases record
    simp_all [parts, AgreesWith]

/-- What may be left out of a method is as in a method that says nothing. -/
theorem agreesWith_unsaid (target : MethodDeclaration) :
    ∀ part ∈ target.parts, part.omittable → target.AgreesWith part.key { name := "" } := by
  simp +contextual [parts, AgreesWith]

end MethodDeclaration

namespace ConstructorDeclaration

/-- Whether a constructor has what another one has under a key. -/
def AgreesWith (target : ConstructorDeclaration) (key : String)
    (declaration : ConstructorDeclaration) : Prop :=
  (key = "doc" → declaration.doc = target.doc) ∧
    (key = "markers" → declaration.markers = target.markers)

/-- The entries and items of a constructor fill it. -/
theorem fills (target : ConstructorDeclaration) :
    Fills readEntry (fun _ => True) target.AgreesWith target.parts target where
  -- Each part is read into its own field, and leaves the other ones alone.
  read part mem record value _ stated := by
    simp only [parts, List.mem_cons, List.not_mem_nil, or_false] at mem
    rcases mem with rfl | rfl
    · exact .of_optionalText stated (fun doc => { record with doc })
        (fun _ found => by simp [readEntry, found])
        ⟨trivial, by simp [AgreesWith], by simp +contextual [AgreesWith]⟩
    · exact .of_read (readMarkers_of_states .tagged stated) (fun markers => { record with markers })
        (fun _ found => by simp [readEntry, found])
        ⟨trivial, by simp [AgreesWith], by simp +contextual [AgreesWith]⟩
  skip key unknown record value _ := by
    unfold readEntry
    split <;> simp_all [parts]
  complete record _ agrees := by
    cases target; cases record
    simp_all [parts, AgreesWith]

/-- What may be left out of a constructor is as in a constructor that says nothing. -/
theorem agreesWith_unsaid (target : ConstructorDeclaration) :
    ∀ part ∈ target.parts, part.omittable → target.AgreesWith part.key {} := by
  simp +contextual [parts, AgreesWith]

end ConstructorDeclaration

/-! ### Types and their members -/

namespace TypeDeclaration

/-- Reads one entry of a type, its members included. -/
def readPart (setting : Setting) (declaration : TypeDeclaration) (name : String) (value : Json) :
    Except Refusal TypeDeclaration :=
  -- The members are read apart, since they can hold types again.
  if name = "members" then
    (readMembers setting value).map fun members => { declaration with members }
  else readEntry setting declaration name value

/-- The entries of a type are read like those of any record, as long as none is refused. -/
theorem readObject_of_readEntries {setting : Setting} {target : TypeDeclaration}
    {entries : List (String × Json)} {declaration : TypeDeclaration}
    (read : readEntries (readPart setting) declaration entries = .ok target) :
    readObject setting declaration entries = .ok target := by
  induction entries generalizing declaration with
  | nil => exact read
  | cons entry rest ih =>
    obtain ⟨name, value⟩ := entry
    simp only [readEntries, readPart] at read
    simp only [readObject]
    -- The way to a refusal is added on both sides of the case split, and there is none here.
    split at read
    · cases members : readMembers setting value with
      | error refusal => simp [members, Except.map, Bind.bind, Except.bind] at read
      | ok members => simp_all [within, Except.map, Bind.bind, Except.bind]
    · cases next : readEntry setting declaration name value with
      | error refusal => simp [next, Bind.bind, Except.bind] at read
      | ok next => simp_all [within, Bind.bind, Except.bind]

/-- The items of a type are read like those of any record, as long as none is refused. -/
theorem readArray_of_readPositions {setting : Setting} {count index : Nat}
    {target declaration : TypeDeclaration} {names : List String} {items : List Json}
    (read : readPositions (readPart setting) (refuseSurplus setting count fields.length) declaration
      names items = .ok target) :
    readArray setting count index declaration names items = .ok target := by
  -- The induction is on the items; the names that are left go along with them.
  induction items generalizing declaration names index with
  | nil => cases names <;> exact read
  | cons value rest ih =>
    cases names with
    | nil => exact read
    | cons name names =>
      simp only [readPositions, readPart] at read
      simp only [readArray]
      split at read
      · cases members : readMembers setting value with
        | error refusal => simp [members, Except.map, Bind.bind, Except.bind] at read
        | ok members => simp_all [within, Except.map, Bind.bind, Except.bind]
      · cases next : readEntry setting declaration name value with
        | error refusal => simp [next, Bind.bind, Except.bind] at read
        | ok next => simp_all [within, Bind.bind, Except.bind]

/-- Whether a type has what another one has under a key. -/
def AgreesWith (target : TypeDeclaration) (key : String) (declaration : TypeDeclaration) : Prop :=
  (key = "name" → declaration.name = target.name) ∧
    (key = "extends" → declaration.superclass = target.superclass) ∧
    (key = "implements" → declaration.interfaces = target.interfaces) ∧
    (key = "doc" → declaration.doc = target.doc) ∧
    (key = "markers" → declaration.markers = target.markers) ∧
    (key = "members" → declaration.members = target.members)

/-- Whether the members of a type are read from whatever states them. -/
def MembersReadable (setting : Setting) (members : List MemberDeclaration) : Prop :=
  ∀ index items, membersStatedBy members items → readMemberItems setting index items = .ok members

/-- The entries and items of a type fill it, once its members are read. -/
theorem fills {setting : Setting} (target : TypeDeclaration)
    (readable : MembersReadable setting target.members) :
    Fills (readPart setting) (fun _ => True) target.AgreesWith target.parts target where
  -- Each part sets its own field and no other.
  read part mem record value _ stated := by
    obtain ⟨name, superclass, interfaces, doc, markers, members⟩ := target
    simp only [parts, List.mem_cons, List.not_mem_nil, or_false] at mem
    rcases mem with rfl | rfl | rfl | rfl | rfl | rfl
    · exact .of_text stated (fun name => { record with name })
        (fun _ found => by simp [readPart, readEntry, found])
        ⟨trivial, by simp [AgreesWith], by simp +contextual [AgreesWith]⟩
    · exact .of_optionalText stated (fun superclass => { record with superclass })
        (fun _ found => by simp [readPart, readEntry, found])
        ⟨trivial, by simp [AgreesWith], by simp +contextual [AgreesWith]⟩
    · exact .of_read (Part.readList_of_states_texts stated)
        (fun interfaces => { record with interfaces })
        (fun _ found => by simp [readPart, readEntry, found])
        ⟨trivial, by simp [AgreesWith], by simp +contextual [AgreesWith]⟩
    · exact .of_optionalText stated (fun doc => { record with doc })
        (fun _ found => by simp [readPart, readEntry, found])
        ⟨trivial, by simp [AgreesWith], by simp +contextual [AgreesWith]⟩
    · exact .of_read (readMarkers_of_states setting stated) (fun markers => { record with markers })
        (fun _ found => by simp [readPart, readEntry, found])
        ⟨trivial, by simp [AgreesWith], by simp +contextual [AgreesWith]⟩
    · obtain ⟨items, rfl, stated⟩ := stated
      have found : readMembers setting (.array items) = .ok members := readable 0 items stated
      exact .of_read found (fun members => { record with members })
        (fun _ found => by simp [readPart, found, Except.map])
        ⟨trivial, by simp [AgreesWith], by simp +contextual [AgreesWith]⟩
  skip key unknown record value _ := by
    obtain ⟨name, superclass, interfaces, doc, markers, members⟩ := target
    simp only [parts, List.map_cons, List.map_nil, List.mem_cons, List.not_mem_nil,
      not_or] at unknown
    unfold readPart readEntry
    rw [if_neg (by simp_all)]
    split <;> simp_all
  complete record _ agrees := by
    cases target; cases record
    simp_all [parts, AgreesWith]

/-- What may be left out of a type is as in a type that says nothing. -/
theorem agreesWith_unsaid (target : TypeDeclaration) :
    ∀ part ∈ target.parts, part.omittable → target.AgreesWith part.key { name := "" } := by
  cases target
  simp +contextual [parts, AgreesWith]

/-- The parts of a type stand under the names of its fields, in order. -/
theorem map_key_parts (target : TypeDeclaration) : target.parts.map (·.key) = fields := by
  cases target
  rfl

/-- A type is read from the entries that state its parts. -/
theorem readObject_of_statedBy {setting : Setting} {target : TypeDeclaration}
    (readable : MembersReadable setting target.members) {entries : List (String × Json)}
    (stated : ∀ part ∈ target.parts, part.StatedBy entries) :
    readObject setting { name := "" } entries = .ok target :=
  -- The members are entries like any other, once they can be read.
  readObject_of_readEntries
    ((target.fills readable).readEntries_of_statedBy trivial target.agreesWith_unsaid stated)

/-- A type is read from the items that state its parts. -/
theorem readArray_of_states {setting : Setting} {target : TypeDeclaration}
    (readable : MembersReadable setting target.members) {items : List Json}
    (stated : List.Forall₂ Part.states target.parts items) (count index : Nat) :
    readArray setting count index { name := "" } fields items = .ok target := by
  -- The names of the fields are the keys of the parts, in the same order.
  refine readArray_of_readPositions ?_
  rw [← map_key_parts target]
  exact (target.fills readable).readPositions_of_states _ _ trivial stated

/-- The name of a type is found among the entries that state its parts. -/
theorem lookup?_name {target : TypeDeclaration} {entries : List (String × Json)}
    (stated : ∀ part ∈ target.parts, part.StatedBy entries) :
    lookup? entries "name" = some (.text target.name) := by
  cases target
  exact lookup?_of_statedBy_text (stated _ (by simp [parts]))

/-- A type is read from whatever states it, once its members are read. -/
theorem read_of_statedBy {setting : Setting} {target : TypeDeclaration}
    (readable : MembersReadable setting target.members) {value : Json}
    (stated : target.StatedBy value) : read setting value = .ok target := by
  -- Both layouts are filled in; an object has to bear a name besides.
  cases value with
  | object entries =>
    simp [read, readObject_of_statedBy readable stated, lookup?_name stated, Bind.bind, Except.bind,
      pure, Except.pure]
  | array items =>
    have filled := readArray_of_states readable stated items.length 0
    cases items with
    | nil =>
      cases target
      cases stated
    | cons => exact filled
  | _ => exact stated.elim

end TypeDeclaration

/-! ### Members -/

/-- A field is read from whatever states it behind its tag. -/
theorem readSimpleEntries_field {declaration : FieldDeclaration} {entries : List (String × Json)}
    (stated : ∀ part ∈ declaration.parts, part.StatedBy entries) :
    readSimpleEntries entries 0 = .ok (.field declaration) := by
  -- The name is asked for before the record is filled.
  have named := lookup?_of_statedBy_text (stated _ List.mem_cons_self)
  simp [readSimpleEntries, named, Bind.bind, Except.bind, pure, Except.pure,
    declaration.fills.readEntries_of_statedBy trivial declaration.agreesWith_unsaid stated]

/-- A method is read from the entries that state it. -/
theorem readSimpleEntries_method {declaration : MethodDeclaration} {entries : List (String × Json)}
    (stated : ∀ part ∈ declaration.parts, part.StatedBy entries) :
    readSimpleEntries entries 1 = .ok (.method declaration) := by
  -- The name is asked for before the record is filled.
  have named := lookup?_of_statedBy_text (stated _ List.mem_cons_self)
  simp [readSimpleEntries, named, Bind.bind, Except.bind, pure, Except.pure,
    declaration.fills.readEntries_of_statedBy trivial declaration.agreesWith_unsaid stated]

/-- A constructor is read from the entries that state it. -/
theorem readSimpleEntries_constructor {declaration : ConstructorDeclaration}
    {entries : List (String × Json)}
    (stated : ∀ part ∈ declaration.parts, part.StatedBy entries) :
    readSimpleEntries entries 2 = .ok (.constructor declaration) := by
  -- A constructor has no name that would be asked for first.
  simp [readSimpleEntries, Bind.bind, Except.bind, pure, Except.pure,
    declaration.fills.readEntries_of_statedBy trivial declaration.agreesWith_unsaid stated]

/-- A field is read from the items that state it. -/
theorem readSimpleItems_field {declaration : FieldDeclaration} {items : List Json}
    (stated : List.Forall₂ Part.states declaration.parts items) :
    readSimpleItems items 0 = .ok (.field declaration) := by
  have filled := declaration.fills.readPositions_of_states
    (refuseSurplus .tagged items.length 4) { name := "" } trivial stated
  -- The array has a first item, as it must.
  cases stated
  simp_all [readSimpleItems, FieldDeclaration.parts, Bind.bind, Except.bind, pure, Except.pure]

/-- A method is read from the items that state it. -/
theorem readSimpleItems_method {declaration : MethodDeclaration} {items : List Json}
    (stated : List.Forall₂ Part.states declaration.parts items) :
    readSimpleItems items 1 = .ok (.method declaration) := by
  have filled := declaration.fills.readPositions_of_states
    (refuseSurplus .tagged items.length 4) { name := "" } trivial stated
  -- The array has a first item, as it must.
  cases stated
  simp_all [readSimpleItems, MethodDeclaration.parts, Bind.bind, Except.bind, pure, Except.pure]

/-- A constructor is read from the items that state it. -/
theorem readSimpleItems_constructor {declaration : ConstructorDeclaration} {items : List Json}
    (stated : List.Forall₂ Part.states declaration.parts items) :
    readSimpleItems items 2 = .ok (.constructor declaration) := by
  -- No item must be there, so the array may be empty.
  have filled := declaration.fills.readPositions_of_states
    (refuseSurplus .tagged items.length 2) {} trivial stated
  simp_all [readSimpleItems, ConstructorDeclaration.parts, Bind.bind, Except.bind, pure,
    Except.pure]

namespace TypeDeclaration

/-- A member is read from a tagged value that states its parts, if its entries and its items are
each read as the kind that the tag leads to. -/
theorem readMember_of_simple {setting : Setting} {label : String} {kind : Nat} {parts : List Part}
    {member : MemberDeclaration} (tagged : readTag setting memberTags (.text label) = .ok kind)
    (simple : kind ≠ 3)
    (entriesRead : ∀ entries, (∀ part ∈ parts, part.StatedBy entries) →
      readSimpleEntries entries kind = .ok member)
    (itemsRead : ∀ items, List.Forall₂ Part.states parts items →
      readSimpleItems items kind = .ok member) {value : Json}
    (stated : States (.tag label :: parts) value) : readMember setting value = .ok member := by
  -- The tag stands under a key of an object, or in front of the items of an array.
  cases value with
  | object entries =>
    obtain ⟨tag, stated⟩ := List.forall_mem_cons.1 stated
    simp [readMember, readObjectTag, lookup?_of_statedBy_text tag, tagged, simple,
      entriesRead entries stated, within, atWhole, Bind.bind, Except.bind]
  | array items =>
    cases stated with
    | @cons _ tag _ items tagStated stated =>
    obtain rfl : tag = .text label := tagStated
    simp [readMember, tagged, simple, itemsRead items stated, within, atWhole, Bind.bind,
      Except.bind]
  | _ => exact stated.elim

/-- A nested type is read from a tagged value that states it, once its members are read. -/
theorem readMember_of_type {setting : Setting} {target : TypeDeclaration}
    (readable : MembersReadable .tagged target.members) {value : Json}
    (stated : States (.tag "type" :: target.parts) value) :
    readMember setting value = .ok (.type target) := by
  have tagged : readTag setting memberTags (.text "type") = .ok 3 := rfl
  cases value with
  -- An object is asked for its tag, wherever the entry of this stands.
  | object entries =>
    obtain ⟨tag, stated⟩ := List.forall_mem_cons.1 stated
    simp [readMember, readObjectTag, lookup?_of_statedBy_text tag, tagged, lookup?_name stated,
      readObject_of_statedBy readable stated, within, atWhole, Bind.bind, Except.bind, pure,
      Except.pure]
  | array items =>
    cases stated with
    -- An array has its tag in front of the items of the type.
    | @cons _ tag _ items tagStated stated =>
    obtain rfl : tag = .text "type" := tagStated
    have filled := readArray_of_states readable stated items.length 0
    have some : items.isEmpty = false := by
      cases target
      cases stated
      rfl
    simp [readMember, tagged, some, filled, within, atWhole, Bind.bind, Except.bind, pure,
      Except.pure]
  | _ => exact stated.elim

end TypeDeclaration

open TypeDeclaration

mutual

/-- A member is read from whatever states it. -/
theorem readMember_of_statedBy (setting : Setting) : ∀ (member : MemberDeclaration) (value : Json),
    member.StatedBy value → readMember setting value = .ok member
  | .field _, _, stated =>
    readMember_of_simple rfl (by decide) (fun _ => readSimpleEntries_field)
      (fun _ => readSimpleItems_field) stated
  | .method _, _, stated =>
    readMember_of_simple rfl (by decide) (fun _ => readSimpleEntries_method)
      (fun _ => readSimpleItems_method) stated
  | .constructor _, _, stated =>
    readMember_of_simple rfl (by decide) (fun _ => readSimpleEntries_constructor)
      (fun _ => readSimpleItems_constructor) stated
  -- A nested type is read as one inside a tagged value, and so are its members.
  | .type ⟨_, _, _, _, _, members⟩, _, stated =>
    readMember_of_type (membersReadable .tagged members) stated

/-- Members are read from whatever states them. -/
theorem membersReadable (setting : Setting) : ∀ members : List MemberDeclaration,
    MembersReadable setting members
  | [], index, items, stated => by
    obtain rfl : items = [] := stated
    rfl
  | member :: rest, index, items, stated => by
    -- The recursion is on the members, as the reader goes through them.
    obtain ⟨item, others, rfl, stated, restStated⟩ := stated
    simp [readMemberItems, readMember_of_statedBy setting member item stated,
      membersReadable setting rest (index + 1) others restStated, within, Bind.bind, Except.bind,
      pure, Except.pure]

end

/-! ### Documents -/

/-- A model document is read faithfully whatever its layout: as a bare list of declarations, as an
object with that list under `types`, and a single declaration, written as an object without such a
key, on its own. -/
theorem readDocument_of_statedBy {declarations : List TypeDeclaration} {items : List Json}
    (stated : List.Forall₂ TypeDeclaration.StatedBy declarations items) :
    readDocument (.array items) = .ok declarations ∧
      (∀ entries, lookup? entries "types" = some (.array items) →
        readDocument (.object entries) = .ok declarations) ∧
      ∀ entries, items = [.object entries] → lookup? entries "types" = none →
        readDocument (.object entries) = .ok declarations := by
  -- One list of declarations is read in all three layouts.
  have each : List.Forall₂ (fun declaration item => read .document item = .ok declaration)
      declarations items :=
    stated.imp fun declaration _ => read_of_statedBy (membersReadable .document declaration.members)
  have listed := readItems_of_forall₂ each 0
  refine ⟨?_, ?_, ?_⟩
  · simp [readDocument, readList, listed, Except.mapError]
  · intro entries found
    simp [readDocument, found, readList, listed, Except.mapError]
  · rintro entries rfl missing
    cases each with
    | cons single none =>
    cases none
    simp [readDocument, missing, single, Except.map, Except.mapError]

/-- A type with a rule marker and an attribute marker, and with a nested type among its members. -/
def mixedDeclaration : TypeDeclaration where
  name := "p.A"
  interfaces := ["I"]
  markers := [.rule { types := ["t"] }, .attribute { name := some "n", value := ["x", "y"] }]
  members := [
    -- The nested type is a member between others, and has members of its own.
    .type {
      name := "N", superclass := some "B",
      markers := [.argument { required := true, role := .returns }],
      members := [.constructor {}, .method { name := "m", doc := some "d" }] },
    .field { name := "f" }]

/-- The entries of that type with its keys in another order. Below it, some records are objects too,
others are arrays, and a nested type is an array that holds an object. -/
def mixedEntries : List (String × Json) := [
  ("members", .array [
    .array [.text "type", .text "N", .text "B", .array [], .null,
      .array [.array [.text "argument", .null, .null, .boolean true, .text "returns",
        .boolean false]],
      .array [.array [.text "constructor", .null, .array []],
        .object [("doc", .text "d"), ("name", .text "m"), ("kind", .text "method")]]],
    .array [.text "field", .text "f", .null, .null, .array []]]),
  ("markers", .array [
    -- An unknown key is passed over, whatever its value is.
    .object [("type", .text "t"), ("unknown", .array [.null]), ("kind", .text "rule")],
    .array [.text "attribute", .text "n", .ofTexts ["x", "y"], .boolean false]]),
  -- A null states the same as a missing key.
  ("doc", .null),
  ("name", .text "p.A"),
  ("implements", .array [.text "I"])]

/-- The type is read from its entries in a list, from a list under `types`, and on its own. -/
theorem readDocument_mixedEntries :
    List.Forall₂ TypeDeclaration.StatedBy [mixedDeclaration] [.object mixedEntries] ∧
      readDocument (.array [.object mixedEntries]) = .ok [mixedDeclaration] ∧
      readDocument (.object [("version", .null), ("types", .array [.object mixedEntries])]) =
        .ok [mixedDeclaration] ∧
      readDocument (.object mixedEntries) = .ok [mixedDeclaration] := by
  -- Each entry states its part, in one of the forms that the part may have.
  have stated : List.Forall₂ TypeDeclaration.StatedBy [mixedDeclaration]
      [.object mixedEntries] := by
    simp [mixedDeclaration, mixedEntries, TypeDeclaration.StatedBy, TypeDeclaration.parts, States,
      membersStatedBy, MemberDeclaration.StatedBy, FieldDeclaration.parts, MethodDeclaration.parts,
      ConstructorDeclaration.parts, Marker.StatedBy, Marker.parts, Marker.kind, MarkerKind.label,
      ArgumentRole.label, Part.StatedBy, Part.text, Part.optionalText, Part.list, Part.texts,
      Part.textOrTexts, Part.flag, Part.tag, ofText?, ofTexts]
  have read := readDocument_of_statedBy stated
  exact ⟨stated, read.1, read.2.1 _ rfl, read.2.2 _ rfl rfl⟩

/-- Only in markers may a list of one text be that text alone: the supertypes of a type are always a
list. -/
theorem readDocument_interfaces_text :
    (Part.textOrTexts "implements" ["I"]).states (.text "I") ∧
      readDocument (.array [.object [("name", .text "p.A"), ("implements", .ofTexts ["I"])]]) =
        .ok [{ name := "p.A", interfaces := ["I"] }] ∧
      ∃ cause, readDocument (.array [.object [("name", .text "p.A"), ("implements", .text "I")]]) =
        .error ⟨false, [.item 0, .key "implements"], cause⟩ := by
  refine ⟨.inr ⟨"I", rfl, rfl⟩, rfl, _, rfl⟩

end RuleMetadata

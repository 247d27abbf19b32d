import RuleMetadata.Proofs.Declaration.Record

/-! Markers are read from whatever states them. -/

namespace RuleMetadata

open Json

namespace Marker

/-- The entries of a marker are read like those of any record. -/
theorem readEntries_eq (marker : Marker) (entries : List (String × Json)) :
    Marker.readEntries marker entries = RuleMetadata.readEntries readField marker entries := by
  -- The induction is on the entries, which are read into the marker one after the other.
  induction entries generalizing marker with
  | nil => rfl
  | cons entry rest ih => simp only [Marker.readEntries, RuleMetadata.readEntries, ih]

/-- As long as there are no more items than fields, the items of a marker are read like those of any
record. -/
theorem readItems_eq {names : List String} {items : List Json} (few : items.length ≤ names.length)
    (count : Nat) (surplus : Except Refusal Marker) (marker : Marker) :
    readItems count marker names items = readPositions readField surplus marker names items := by
  -- Each position has one field, and the fields are read in order.
  induction items generalizing names marker with
  | nil => cases names <;> rfl
  | cons item rest ih =>
    cases names with
    | nil => simp at few
    | cons name names =>
      have few : rest.length ≤ names.length := by simpa using few
      simp only [readItems, readPositions, ih few]

/-- Whether a marker has the field of another one that stands under a key. -/
def AgreesWith (target : Marker) (key : String) (marker : Marker) : Prop :=
  match target, marker with
  | .rule target, .rule marker =>
    (key = "value" → marker.value = target.value) ∧ (key = "type" → marker.types = target.types)
  | .namedObject target, .namedObject marker => key = "value" → marker.value = target.value
  | .argument target, .argument marker =>
    (key = "name" → marker.name = target.name) ∧ (key = "prompt" → marker.prompt = target.prompt) ∧
      (key = "required" → marker.required = target.required) ∧
      (key = "role" → marker.role = target.role) ∧
      (key = "returnType" → marker.returnType = target.returnType)
  | .attribute target, .attribute marker =>
    (key = "name" → marker.name = target.name) ∧ (key = "value" → marker.value = target.value) ∧
      (key = "collection" → marker.collection = target.collection)
  -- Markers of different kinds have no field in common.
  | _, _ => False

/-- The role of an argument is read from its name. -/
theorem readRole_label (role : ArgumentRole) : readRole (.text role.label) = .ok role := by
  cases role <;> rfl

section Fields

variable {part : Part} {value : Json}

/-- What states a field of a rule marker is read into it. -/
theorem isRead_rule {target marker : RuleMarker} (mem : part ∈ (Marker.rule target).parts)
    (stated : part.states value) :
    IsRead readField (·.kind = .rule) (AgreesWith (.rule target)) (.rule marker)
      part.key value := by
  -- Each field is set on its own, so that the other one goes on agreeing.
  simp only [parts, List.mem_cons, List.not_mem_nil, or_false] at mem
  rcases mem with rfl | rfl
  · refine .of_optionalText stated (fun value => .rule { marker with value }) ?_ ⟨rfl, ?_, ?_⟩ <;>
      simp +contextual [readField, AgreesWith]
  · refine .of_texts stated (fun types => .rule { marker with types }) ?_ ⟨rfl, ?_, ?_⟩ <;>
      simp +contextual [readField, AgreesWith]

/-- What states the field of a named object's marker is read into it. -/
theorem isRead_namedObject {target marker : NamedObjectMarker}
    (mem : part ∈ (Marker.namedObject target).parts) (stated : part.states value) :
    IsRead readField (·.kind = .namedObject) (AgreesWith (.namedObject target))
      (.namedObject marker) part.key value := by
  -- There is only this one.
  simp only [parts, List.mem_cons, List.not_mem_nil, or_false] at mem
  obtain rfl := mem
  refine .of_optionalText stated (fun value => .namedObject { marker with value }) ?_
      ⟨rfl, ?_, ?_⟩ <;>
    simp +contextual [readField, AgreesWith]

/-- What states a field of an argument marker is read into it. -/
theorem isRead_argument {target marker : ArgumentMarker}
    (mem : part ∈ (Marker.argument target).parts) (stated : part.states value) :
    IsRead readField (·.kind = .argument) (AgreesWith (.argument target)) (.argument marker)
      part.key value := by
  simp only [parts, List.mem_cons, List.not_mem_nil, or_false] at mem
  rcases mem with rfl | rfl | rfl | rfl | rfl
  · refine .of_optionalText stated (fun name => .argument { marker with name }) ?_
        ⟨rfl, ?_, ?_⟩ <;>
      simp +contextual [readField, AgreesWith]
  · refine .of_optionalText stated (fun prompt => .argument { marker with prompt }) ?_
        ⟨rfl, ?_, ?_⟩ <;>
      simp +contextual [readField, AgreesWith]
  · refine .of_flag stated (fun required => .argument { marker with required }) ?_
        ⟨rfl, ?_, ?_⟩ <;>
      simp +contextual [readField, AgreesWith]
  · -- The role is the one field that is neither a text nor a truth value.
    obtain rfl : value = _ := stated
    refine .of_read (readRole_label target.role) (fun role => .argument { marker with role }) ?_
        ⟨rfl, ?_, ?_⟩ <;>
      simp +contextual [readField, AgreesWith]
  · refine .of_flag stated (fun returnType => .argument { marker with returnType }) ?_
        ⟨rfl, ?_, ?_⟩ <;>
      simp +contextual [readField, AgreesWith]

/-- What states a field of an attribute marker is read into it. -/
theorem isRead_attribute {target marker : AttributeMarker}
    (mem : part ∈ (Marker.attribute target).parts) (stated : part.states value) :
    IsRead readField (·.kind = .attribute) (AgreesWith (.attribute target)) (.attribute marker)
      part.key value := by
  -- Each field is set on its own, so that the others go on agreeing.
  simp only [parts, List.mem_cons, List.not_mem_nil, or_false] at mem
  rcases mem with rfl | rfl | rfl
  · refine .of_optionalText stated (fun name => .attribute { marker with name }) ?_
        ⟨rfl, ?_, ?_⟩ <;>
      simp +contextual [readField, AgreesWith]
  · refine .of_texts stated (fun value => .attribute { marker with value }) ?_ ⟨rfl, ?_, ?_⟩ <;>
      simp +contextual [readField, AgreesWith]
  · refine .of_flag stated (fun collection => .attribute { marker with collection }) ?_
        ⟨rfl, ?_, ?_⟩ <;>
      simp +contextual [readField, AgreesWith]

end Fields

/-- The entries and items of a marker fill it, starting from any marker of its kind. -/
theorem fills (target : Marker) :
    Fills readField (·.kind = target.kind) target.AgreesWith target.parts target where
  read part mem record value kind stated := by
    -- A record on the way is a marker of the same kind.
    cases target <;> cases record <;> simp only [Marker.kind, reduceCtorEq] at kind
    case rule.rule => exact isRead_rule mem stated
    case namedObject.namedObject => exact isRead_namedObject mem stated
    case argument.argument => exact isRead_argument mem stated
    case attribute.attribute => exact isRead_attribute mem stated
  skip key unknown record value kind := by
    cases target <;> cases record <;> simp only [Marker.kind, reduceCtorEq] at kind <;>
      simp [parts] at unknown <;> unfold readField <;> split <;> simp_all
  complete record kind agrees := by
    cases target <;> cases record <;> simp only [Marker.kind, reduceCtorEq] at kind <;>
      rename_i target marker <;> cases target <;> cases marker <;>
      simp_all [parts, AgreesWith]

/-- The parts of a marker stand under the names of its kind's fields, in order. -/
theorem map_key_parts (marker : Marker) : marker.parts.map (·.key) = fields marker.kind := by
  cases marker <;> rfl

/-- What may be left out of a marker is as in a marker that says nothing besides its kind. -/
theorem agreesWith_plain (marker : Marker) :
    ∀ part ∈ marker.parts, part.omittable → marker.AgreesWith part.key (plain marker.kind) := by
  cases marker <;> simp +contextual [parts, plain, Marker.kind, AgreesWith]

/-- The tag of a kind is known by its name, in whatever setting. -/
theorem readTag_label (setting : Setting) (kind : MarkerKind) :
    ∃ index, readTag setting tags (.text kind.label) = .ok index ∧
      MarkerKind.all.getD index .rule = kind := by
  cases kind <;> exact ⟨_, rfl, rfl⟩

/-- A marker is read from whatever states it. -/
theorem read_of_statedBy (setting : Setting) (marker : Marker) (value : Json)
    (stated : marker.StatedBy value) : read setting value = .ok marker := by
  obtain ⟨index, tagged, kind⟩ := readTag_label setting marker.kind
  -- Either layout gives the kind, and the fields of that kind fill a plain marker of it.
  have started : (plain marker.kind).kind = marker.kind := by cases marker <;> rfl
  cases value with
  | object entries =>
    obtain ⟨tag, stated⟩ := List.forall_mem_cons.1 stated
    have filled := marker.fills.readEntries_of_statedBy started marker.agreesWith_plain stated
    simp only [read, readObjectTag, lookup?_of_statedBy_text tag, tagged, kind, readEntries_eq,
      filled, within, atWhole, Bind.bind, Except.bind]
  | array items =>
    cases stated with
    | @cons _ tag _ items tagStated stated =>
    obtain rfl : tag = .text marker.kind.label := tagStated
    -- No item is left over, so that the refusal of one does not matter.
    let surplus := refuseSurplus (α := Marker) .tagged items.length (fields marker.kind).length
    have filled := marker.fills.readPositions_of_states surplus _ started stated
    rw [map_key_parts] at filled
    have few : items.length ≤ (fields marker.kind).length := by
      simp [← stated.length_eq, ← map_key_parts]
    simp only [read, tagged, kind, readItems_eq few _ surplus, filled, within, atWhole, Bind.bind,
      Except.bind]
  | _ => exact stated.elim

end Marker

/-- Markers are read from the list that states them. -/
theorem readMarkers_of_states (setting : Setting) {markers : List Marker} {value : Json}
    (stated : (Part.list "markers" Marker.StatedBy markers).states value) :
    readList (Marker.read setting) value = .ok markers :=
  Part.readList_of_states (fun marker item => marker.read_of_statedBy setting item) stated

end RuleMetadata

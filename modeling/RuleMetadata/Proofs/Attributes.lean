import Mathlib.Data.List.Induction
import Mathlib.Data.List.Nodup
import RuleMetadata.Attributes

/-! Laws of attribute maps: what insertion does to their names and values. -/

namespace RuleMetadata

/-- Whether no attribute name occurs twice, as in every map that is built by insertion. -/
def AttributeMap.IsDistinct (map : AttributeMap) : Prop :=
  (map.map (·.1)).Nodup

instance (map : AttributeMap) : Decidable map.IsDistinct :=
  inferInstanceAs (Decidable (map.map (·.1)).Nodup)

namespace AttributeMap

/-- Inserting a new name puts it behind the others. -/
theorem insert_of_not_mem {map : AttributeMap} {name : String} (absent : name ∉ map.map (·.1))
    (value : AttributeValue) : map.insert name value = map ++ [(name, value)] := by
  -- The search for the name passes every entry.
  induction map with
  | nil => rfl
  | cons entry others ih =>
    simp only [List.map_cons, List.mem_cons, not_or] at absent
    have others_inserted := ih absent.2
    simp only [insert] at others_inserted ⊢
    simp [Json.insertEntry, Ne.symm absent.1, others_inserted]

/-- Inserting a name keeps the names that are there, and adds it unless it is one of them. -/
theorem names_insert (map : AttributeMap) (name : String) (value : AttributeValue) :
    (map.insert name value).map (·.1) =
      if name ∈ map.map (·.1) then map.map (·.1) else map.map (·.1) ++ [name] := by
  -- The search stops at the first entry of the name, whose value alone is replaced.
  induction map with
  | nil => rfl
  | cons entry others ih =>
    simp only [insert] at ih
    by_cases here : entry.1 = name
    · simp [insert, Json.insertEntry, here]
    · simp only [insert, Json.insertEntry, here, if_false, List.map_cons, ih, List.mem_cons,
        Ne.symm here, false_or]
      split <;> rfl

/-- Insertion keeps the names of a map distinct. -/
theorem IsDistinct.insert {map : AttributeMap} (distinct : map.IsDistinct) (name : String)
    (value : AttributeValue) : (map.insert name value).IsDistinct := by
  -- A name is added only if it is new.
  rw [IsDistinct, names_insert]
  split
  · exact distinct
  · rename_i absent
    refine List.nodup_append.2 ⟨distinct, List.nodup_singleton name, fun other inside _ added => ?_⟩
    rw [List.mem_singleton.1 added]
    rintro rfl
    exact absent inside

/-- A value that was inserted is found under its name. -/
theorem get?_insert_self (map : AttributeMap) (name : String) (value : AttributeValue) :
    (map.insert name value).get? name = some value := by
  -- The entry is found where it was put: in the place of an old one, or at the end.
  induction map with
  | nil => simp [get?, insert, Json.insertEntry, Json.lookup?]
  | cons entry others ih =>
    simp only [get?, insert] at ih ⊢
    by_cases here : entry.1 = name
    · simp [Json.insertEntry, Json.lookup?, here]
    · simp [Json.insertEntry, Json.lookup?, here, ih]

/-- Inserting a value leaves the values of other names. -/
theorem get?_insert_of_ne {name other : String} (apart : other ≠ name) (map : AttributeMap)
    (value : AttributeValue) : (map.insert name value).get? other = map.get? other := by
  -- The entry that changes, or is added, has another name than the one that is looked up.
  induction map with
  | nil => simp [get?, insert, Json.insertEntry, Json.lookup?, apart.symm]
  | cons entry others ih =>
    simp only [get?, insert] at ih ⊢
    by_cases here : entry.1 = name
    · simp [Json.insertEntry, Json.lookup?, here, apart.symm]
    · simp [Json.insertEntry, Json.lookup?, here, ih]

/-- Inserting entries of other names leaves the value of a name. -/
theorem get?_foldl_insert_of_absent {name : String} {entries : AttributeMap}
    (absent : ∀ entry ∈ entries, entry.1 ≠ name) (map : AttributeMap) :
    (entries.foldl (fun map entry => map.insert entry.1 entry.2) map).get? name =
      map.get? name := by
  -- The induction is on the entries, none of which touches the value.
  induction entries generalizing map with
  | nil => rfl
  | cons entry others ih =>
    obtain ⟨first, others_absent⟩ := List.forall_mem_cons.1 absent
    rw [List.foldl_cons, ih others_absent, get?_insert_of_ne first.symm]

/-- Of the entries of one name that are inserted in turn, the last one counts. -/
theorem get?_foldl_insert {name : String} (before : AttributeMap) (value : AttributeValue)
    {behind : AttributeMap} (absent : ∀ entry ∈ behind, entry.1 ≠ name) (map : AttributeMap) :
    ((before ++ (name, value) :: behind).foldl (fun map entry => map.insert entry.1 entry.2)
      map).get? name = some value := by
  -- What is inserted behind the entry does not change its value.
  rw [List.foldl_append, List.foldl_cons, get?_foldl_insert_of_absent absent, get?_insert_self]

/-- Inserting distinct entries in turn gives the map that they make up. -/
theorem foldl_insert {map entries : AttributeMap} (distinct : (map ++ entries).IsDistinct) :
    entries.foldl (fun map entry => map.insert entry.1 entry.2) map = map ++ entries := by
  -- Every entry is new to those before it, so that each comes to stand at the end.
  induction entries generalizing map with
  | nil => simp
  | cons entry others ih =>
    have fresh : entry.1 ∉ map.map (·.1) := by
      intro member
      simp only [IsDistinct, List.map_append, List.nodup_append] at distinct
      exact distinct.2.2 _ member _ (by simp) rfl
    have others_distinct : (map ++ [(entry.1, entry.2)] ++ others).IsDistinct := by
      simpa using distinct
    rw [List.foldl_cons, insert_of_not_mem fresh, ih others_distinct]
    simp

/-- A map with each name once: a later entry of a name counts in the place of the first one. -/
def merged (map : AttributeMap) : AttributeMap :=
  map.foldl (fun map entry => map.insert entry.1 entry.2) []

/-- A map of distinct names is merged already. -/
theorem IsDistinct.merged_eq {map : AttributeMap} (distinct : map.IsDistinct) : map.merged = map :=
  @foldl_insert [] map distinct

/-- The names of a merged map are those of the map, each where it stood first. -/
theorem names_merged (map : AttributeMap) :
    map.merged.map (·.1) = (map.map (·.1)).eraseDups := by
  -- Each further entry adds its name only if it is new.
  induction map using List.reverseRecOn with
  | nil => rfl
  | append_singleton before entry ih =>
    have step : merged (before ++ [entry]) = insert (merged before) entry.1 entry.2 := by
      simp [merged]
    rw [step, names_insert, ih, List.map_append, List.eraseDups_append]
    by_cases known : entry.1 ∈ before.map (·.1)
    · simp [known, List.removeAll]
    · simp [known, List.removeAll, List.eraseDups_cons]

/-- Inserting an entry adds no other one. -/
theorem mem_insert {map : AttributeMap} {name : String} {value : AttributeValue}
    {entry : String × AttributeValue} (member : entry ∈ map.insert name value) :
    entry ∈ map ∨ entry = (name, value) := by
  -- The induction is on the map; an entry of the name is replaced, or the new one is the last.
  induction map with
  | nil => exact .inr (List.mem_singleton.1 member)
  | cons first others ih =>
    simp only [insert] at ih
    by_cases here : first.1 = name <;>
      simp only [insert, Json.insertEntry, here, if_true, if_false, List.mem_cons] at member ⊢ <;>
      tauto

/-- Merging a map leaves no entries but those of the map. -/
theorem mem_of_mem_merged {map : AttributeMap} {entry : String × AttributeValue}
    (member : entry ∈ map.merged) : entry ∈ map := by
  -- An entry stood in the map before, or it is one of those inserted.
  have inserted (entries before : AttributeMap) :
      entry ∈ entries.foldl (fun map entry => map.insert entry.1 entry.2) before →
        entry ∈ before ++ entries := by
    induction entries generalizing before with
    | nil => simp
    | cons next others ih =>
      intro member
      rcases List.mem_append.1 (ih _ member) with earlier | later
      · rcases mem_insert earlier with old | rfl <;> simp [*]
      · simp [later]
  simpa using inserted map [] member

end AttributeMap

/-- The attributes of a type have distinct names, since each is inserted. -/
theorem Model.isDistinct_attributes (model : Model) (root : Nat) :
    (model.attributes root).IsDistinct := by
  -- Inserting keeps names distinct, since an entry of the name is replaced.
  have inserted (entries map : AttributeMap) (distinct : map.IsDistinct) :
      (entries.foldl (fun map entry => map.insert entry.1 entry.2) map).IsDistinct := by
    induction entries generalizing map with
    | nil => exact distinct
    | cons entry others ih => exact ih _ (distinct.insert _ _)
  exact inserted _ [] List.nodup_nil

end RuleMetadata

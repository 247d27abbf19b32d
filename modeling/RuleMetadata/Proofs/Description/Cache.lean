import RuleMetadata.Description.Cache
import RuleMetadata.Proofs.State

/-! Descriptions that are kept in memory: what saving changes and what reading finds. -/

namespace RuleMetadata

namespace MemoryStore

/-- The text under a key, as far as it can be read. -/
def text? (memory : MemoryStore) (key : String) : Option String :=
  match memory.read key with
  | .ok found => found
  -- An error when a description is read counts as none.
  | .error _ => none

/-- The store after an attempt to save the description of an element. -/
def saved (memory : MemoryStore) (element : Element) : MemoryStore :=
  match element.resourceKey?, element.liveText? with
  | some key, some text =>
    match memory.write key text with
    | .ok written => written
    -- A text that cannot be saved leaves the store as it was.
    | .error _ => memory
  -- Without a key or a text there is nothing to be saved.
  | _, _ => memory

/-- The description of an element: its live documentation, or what is kept under its key. -/
def description (memory : MemoryStore) (element : Element) : Option String :=
  match element.liveText? with
  | some text => some text
  -- What is kept may be blank, and then it is no description.
  | none => element.resourceKey?.bind fun key => (memory.text? key).bind Text.nonBlank?

/-- The descriptions of the elements of a model. -/
def describe (memory : MemoryStore) (model : Model) : Descriptions := fun position =>
  model.elements[position]?.bind memory.description

/-- A write puts its text in front of the others and takes the earlier one away. -/
theorem write_eq_ok_iff {memory written : MemoryStore} {key text : String} :
    memory.write key text = .ok written ↔ memory.failsWriting = false ∧
      written = { memory with texts := (key, text) :: memory.texts.filter (·.1 ≠ key) } := by
  cases fails : memory.failsWriting <;> simp [write, fails, eq_comm]

/-- Writing a text leaves the texts under other keys. -/
theorem text?_write_of_ne {memory written : MemoryStore} {key text other : String}
    (done : memory.write key text = .ok written) (apart : key ≠ other) :
    written.text? other = memory.text? other := by
  obtain ⟨_, rfl⟩ := write_eq_ok_iff.1 done
  -- The search passes the new entry, and what was taken out is not what it looks for.
  have unseen : (memory.texts.filter (·.1 ≠ key)).find? (·.1 = other) =
      memory.texts.find? (·.1 = other) := by
    rw [List.find?_filter]
    congr 1
    funext entry
    by_cases found : entry.1 = other <;> simp [found, apart.symm]
  simp only [text?, read, List.find?_cons, apart, decide_false, unseen]

/-- A text that was written is found under its key. -/
theorem text?_write_self {memory written : MemoryStore} {key text : String}
    (done : memory.write key text = .ok written) (reads : memory.failsReading = false) :
    written.text? key = some text := by
  -- The new entry stands in front, where the search begins.
  obtain ⟨_, rfl⟩ := write_eq_ok_iff.1 done
  simp [text?, read, reads]

/-- Saving an element leaves the texts under other keys than its own. -/
theorem text?_saved_of_ne {memory : MemoryStore} {element : Element} {key : String}
    (apart : element.resourceKey? ≠ some key) :
    (memory.saved element).text? key = memory.text? key := by
  -- Only a key with a text is written under, and it is another one.
  simp only [saved]
  split
  · rename_i own text keyed live
    split
    · rename_i written done
      exact text?_write_of_ne done fun same => apart (same ▸ keyed)
    · rfl
  · rfl

/-- Whether neither reading nor writing is made to fail. -/
def IsWorking (memory : MemoryStore) : Prop :=
  memory.failsReading = false ∧ memory.failsWriting = false

/-- A working store takes every text. -/
theorem IsWorking.write_eq {memory : MemoryStore} (working : memory.IsWorking) (key text : String) :
    memory.write key text =
      .ok { memory with texts := (key, text) :: memory.texts.filter (·.1 ≠ key) } :=
  write_eq_ok_iff.2 ⟨working.2, rfl⟩

/-- Saving an element into a working store leaves it working. -/
theorem IsWorking.saved {memory : MemoryStore} (working : memory.IsWorking) (element : Element) :
    (memory.saved element).IsWorking := by
  -- A write changes the texts alone.
  simp only [MemoryStore.saved]
  split
  · split
    · rename_i written done
      obtain ⟨_, rfl⟩ := write_eq_ok_iff.1 done
      exact working
    · exact working
  · exact working

/-- Saving several elements leaves what is kept under a key that none of them would write to. -/
theorem text?_foldl_saved_of_silent {elements : List Element} {memory : MemoryStore} {key : String}
    (silent : ∀ element ∈ elements, element.resourceKey? = some key → element.liveText? = none) :
    (elements.foldl MemoryStore.saved memory).text? key = memory.text? key := by
  induction elements generalizing memory with
  | nil => rfl
  | cons element rest ih =>
    obtain ⟨first, others⟩ := List.forall_mem_cons.1 silent
    rw [List.foldl_cons, ih others]
    -- Either the element has another key, or it has nothing to write.
    by_cases keyed : element.resourceKey? = some key
    · simp [MemoryStore.saved, keyed, first keyed]
    · exact text?_saved_of_ne keyed

/-- Saving several elements keeps the text of each under its key, if no other one has the key. -/
theorem text?_foldl_saved {elements : List Element} {memory : MemoryStore}
    (working : memory.IsWorking) {element : Element} {key text : String}
    (inside : element ∈ elements) (keyed : element.resourceKey? = some key)
    (live : element.liveText? = some text)
    (alone : ∀ other ∈ elements, other.resourceKey? = some key → other = element) :
    (elements.foldl MemoryStore.saved memory).text? key = some text := by
  -- What is saved before the element does not matter, and what is saved behind it has other keys.
  induction elements generalizing memory with
  | nil => cases inside
  | cons first rest ih =>
    obtain ⟨_, others⟩ := List.forall_mem_cons.1 alone
    rw [List.foldl_cons]
    by_cases again : element ∈ rest
    · exact ih (working.saved first) again others
    · -- The element is the first one, and nothing behind it has its key.
      obtain rfl : element = first := by simpa [again] using inside
      have silent : ∀ other ∈ rest, other.resourceKey? = some key → other.liveText? = none := by
        intro other member other_keyed
        exact absurd (others other member other_keyed ▸ member) again
      have written := working.write_eq key text
      rw [text?_foldl_saved_of_silent silent]
      simp only [MemoryStore.saved, keyed, live, written]
      exact text?_write_self written working.1

/-- Saving one element leaves the description of every element with another key. -/
theorem description_saved_of_ne {memory : MemoryStore} {one other : Element}
    (apart : one.resourceKey? ≠ other.resourceKey?) :
    (memory.saved one).description other = memory.description other := by
  -- Without live documentation, the description is the text under the element's own key.
  simp only [description]
  cases keyed : other.resourceKey? with
  | none => rfl
  | some key =>
    -- The element that was saved wrote to another key, if it wrote at all.
    rw [keyed] at apart
    simp only [Option.bind_some, text?_saved_of_ne apart]

end MemoryStore

namespace DescriptionCache

open MemoryStore

/-- The cache that keeps descriptions in memory, beside whatever other state there is. -/
def inMemory (Other : Type) (location : String) : DescriptionCache (StateM (MemoryStore × Other)) :=
  { output := MemoryStore.store Prod.fst (fun memory state => (memory, state.2)) location }

variable {Other : Type} {location : String}

/-- Asking the store in memory finds what the memory has under the key, and changes nothing. -/
theorem output_read_run (location key : String) (memory : MemoryStore) (other : Other) :
    ((inMemory Other location).output.read key).run (memory, other) =
      (memory.read key, (memory, other)) := rfl

/-- Writing to the store in memory replaces the memory, unless the memory refuses the text. -/
theorem output_write_run (location key text : String) (memory : MemoryStore) (other : Other) :
    ((inMemory Other location).output.write key text).run (memory, other) =
      match memory.write key text with
      | .ok written => (.ok (), (written, other))
      | .error cause => (.error cause, (memory, other)) := by
  -- The operation is written out, since it takes the memory apart before it writes.
  show (match memory.write key text with
    | .ok written => do
      modify fun state : MemoryStore × Other => (written, state.2)
      return .ok ()
    | .error cause => return .error cause : StateM _ (Except FileError Unit)).run
      (memory, other) = _
  cases memory.write key text <;> rfl

/-- Saving in memory changes the memory alone. -/
theorem save_inMemory (element : Element) (memory : MemoryStore) (other : Other) :
    (((inMemory Other location).save element).run (memory, other)).2 =
      (memory.saved element, other) := by
  cases keyed : element.resourceKey? with
  | none => simp only [save, saved, keyed]; rfl
  | some key =>
    cases live : element.liveText? with
    | none => simp only [save, saved, keyed, live]; rfl
    | some text =>
      -- The memory is replaced only if the write succeeds.
      have written := output_write_run location key text memory other
      simp only [save, saved, keyed, live]
      cases done : memory.write key text <;>
        (rw [done] at written; rw [run_bind_of_ended written]; rfl)

/-- Saving into a store that takes every write succeeds. -/
theorem save_inMemory_succeeds (location : String) (element : Element) {memory : MemoryStore}
    (other : Other) (working : memory.IsWorking) : ∃ kept,
      (((inMemory Other location).save element).run (memory, other)).1 = .ok kept := by
  -- Without a key or a text nothing is written, and else the store takes it.
  cases keyed : element.resourceKey? with
  | none => exact ⟨false, by simp only [save, keyed]; rfl⟩
  | some key =>
    cases live : element.liveText? with
    | none => exact ⟨false, by simp only [save, keyed, live]; rfl⟩
    | some text =>
      have written := output_write_run location key text memory other
      rw [working.write_eq] at written
      refine ⟨true, ?_⟩
      simp only [save, keyed, live]
      rw [run_bind_of_ended written]
      rfl

/-- Reading in memory finds the description of an element and changes nothing. -/
theorem read_inMemory (element : Element) (memory : MemoryStore) (other : Other) :
    ((inMemory Other location).read element).run (memory, other) =
      (memory.description element, (memory, other)) := by
  cases live : element.liveText? with
  | some text => simp only [read, description, live]; rfl
  | none =>
    cases keyed : element.resourceKey? with
    | none => simp only [read, description, live, keyed]; rfl
    | some key =>
      -- The output is the one store that is asked, and it has a text, has none or cannot be read.
      have stores : (inMemory Other location).input.toList ++ [(inMemory Other location).output] =
          [(inMemory Other location).output] := rfl
      have found := output_read_run location key memory other
      simp only [read, description, keyed, live, stores, readStores, Option.bind_some, text?]
      rw [run_bind_of_ended found]
      rcases memory.read key with cause | _ | text
      · rfl
      · rfl
      · simp only [Option.bind_some]
        cases Text.nonBlank? text <;> rfl

/-- Reading at a position in memory finds the description of the element there, and changes
nothing. -/
theorem readAt_inMemory (model : Model) (position : Nat) (memory : MemoryStore) (other : Other) :
    ((inMemory Other location).readAt model position).run (memory, other) =
      (memory.describe model position, (memory, other)) := by
  -- Where there is no element, nothing is asked for.
  rw [readAt, describe]
  cases model.elements[position]? with
  | none => rfl
  | some element => exact read_inMemory element memory other

end DescriptionCache

end RuleMetadata

import Mathlib.Data.List.Zip
import RuleMetadata.Description.Cache
import RuleMetadata.Files.Tree
import RuleMetadata.Proofs.Artifact.Assembly

/-! Reading descriptions: it changes nothing, and finds the same as long as the stores have the same
texts. -/

namespace RuleMetadata

/-- Whether reading a key leaves a store alone in two states and finds one text in both, or none;
why nothing is found does not matter. -/
def Store.FindsAlike {σ : Type} (store : Store (StateM σ)) (key : String) (one other : σ) : Prop :=
  ∃ found found_other, (store.read key).run one = (found, one) ∧
    (store.read key).run other = (found_other, other) ∧
    -- A failure and a missing text are the same to a reader.
    found.toOption.join = found_other.toOption.join

namespace DescriptionCache

variable {σ : Type} {one other : σ}

/-- Behind a store without a text that is not blank, the other ones are asked. -/
theorem readStores_cons_run {store : Store (StateM σ)} {key : String} {state : σ}
    {found : Except FileError (Option String)} (read : (store.read key).run state = (found, state))
    (rest : List (Store (StateM σ))) : (readStores key (store :: rest)).run state =
      match found.toOption.join.bind Text.nonBlank? with
      | some text => (some text, state)
      | none => (readStores key rest).run state := by
  -- A failure to read and a missing text are passed over in the same way.
  rw [readStores, run_bind_of_ended read]
  rcases found with cause | _ | text
  · rfl
  · rfl
  · have joined : (Except.ok (some text) : Except FileError (Option String)).toOption.join =
        some text := rfl
    rw [joined, Option.bind_some]
    dsimp only
    cases Text.nonBlank? text <;> rfl

/-- Asking stores in turn finds the same if each of them does. -/
theorem readsAlike_readStores {key : String} {stores : List (Store (StateM σ))}
    (reads : ∀ store ∈ stores, store.FindsAlike key one other) :
    ReadsAlike (readStores key stores) one other := by
  -- The stores are asked one by one.
  induction stores with
  | nil => exact readsAlike_pure none
  | cons store rest ih =>
    obtain ⟨⟨found, found_other, one_read, other_read, same⟩, others⟩ :=
      List.forall_mem_cons.1 reads
    rw [ReadsAlike, readStores_cons_run one_read, readStores_cons_run other_read, same]
    -- The other stores are asked unless a text is found that is not blank.
    cases found_other.toOption.join.bind Text.nonBlank? with
    | some text => exact ⟨some text, rfl, rfl⟩
    | none => exact ih others

variable {cache : DescriptionCache (StateM σ)}
  (reads : ∀ (element : Element) (key : String), element.resourceKey? = some key →
    ∀ store ∈ cache.input.toList ++ [cache.output], store.FindsAlike key one other)
include reads

/-- The description of an element is the same if the stores have the same text under its key. -/
theorem readsAlike_read (element : Element) : ReadsAlike (cache.read element) one other := by
  -- The stores are asked only for an element with a key that has no live documentation.
  unfold read
  split
  · exact readsAlike_pure _
  · split
    · exact readsAlike_pure _
    · exact readsAlike_readStores (reads element _ ‹_›)

/-- The description at a position is the same if the stores have the same texts. -/
theorem readsAlike_readAt (model : Model) (position : Nat) :
    ReadsAlike (cache.readAt model position) one other := by
  -- A position without an element has no description in either state.
  unfold readAt
  split
  · exact readsAlike_read reads _
  · exact readsAlike_pure none

end DescriptionCache

/-- What an artifact shows is found in the descriptions as they are kept at the moment, if reading
them leaves the stores alone. -/
theorem DescriptionCache.shows_descriptions {σ : Type} {cache : DescriptionCache (StateM σ)}
    {model : Model} {state : σ}
    (reads : ∀ position, ReadsAlike (cache.readAt model position) state state)
    (containers : List String) (root : Nat) :
    ∃ texts, (cache.descriptions model root).run state = (texts, state) ∧
      (⟨model, containers, cache.readAt model⟩ : Extraction (StateM σ)).Shows texts root state := by
  choose kept read _ using reads
  refine ⟨_, run_bind_of_ended (run_mapM_of_ended fun position _ => read position),
    fun position inside => ?_⟩
  -- The first entry of a position that is shown has the text that is found there.
  have first : (model.visits .argument root ++ [root]).find? (fun other => other = position) =
      some position := by
    cases found : (model.visits .argument root ++ [root]).find? fun other => other = position with
    | none => simpa using List.find?_eq_none.1 found position inside
    | some other => simpa using List.find?_some found
  have entry := List.find?_map (f := fun other => (other, kept other))
    (p := fun entry : Nat × Option String => entry.1 = position)
    (l := model.visits .argument root ++ [root])
  simp only [Function.comp_def, first] at entry
  rw [read, ← List.map_prod_left_eq_zip, entry]
  rfl

/-- A store in files finds the same if the files under a key can be read with the same text. -/
theorem Store.findsAlike_inFiles {root key : String} {one other : FileTree}
    (same : ∀ path, keyPath root key = .ok path →
      (one.readText path).toOption = (other.readText path).toOption) :
    (inFiles FileTree.system root).FindsAlike key one other := by
  cases led : keyPath root key with
  | error cause =>
    -- Nothing is read under a key that is refused.
    exact ⟨.error cause, .error cause, by simp only [inFiles, led]; rfl,
      by simp only [inFiles, led]; rfl, rfl⟩
  | ok path =>
    have read (tree : FileTree) : ∃ found,
        ((inFiles FileTree.system root).read key).run tree = (found, tree) ∧
          found.toOption.join = (tree.readText path).toOption := by
      have reading : (FileTree.system.readText path).run tree = (tree.readText path, tree) := rfl
      simp only [inFiles, led]
      rw [run_bind_of_ended reading]
      -- A missing file is no text, and so is one that cannot be read.
      rcases tree.readText path with cause | text
      · cases cause <;> exact ⟨_, rfl, rfl⟩
      · exact ⟨_, rfl, rfl⟩
    obtain ⟨found, one_read, one_found⟩ := read one
    obtain ⟨found_other, other_read, other_found⟩ := read other
    exact ⟨found, found_other, one_read, other_read, by rw [one_found, other_found, same path led]⟩

end RuleMetadata

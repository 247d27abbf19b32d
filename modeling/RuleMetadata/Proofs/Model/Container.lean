import Mathlib.Data.List.Basic
import RuleMetadata.Model.Container

/-! The search for a container among ancestors comes to its end by itself. -/

namespace RuleMetadata.Model

variable {model : Model} {containers : List String} {fuel : Nat} {free left : List Nat}
  {position : Nat} {element : Element} {package : Option String} {parent : TypeExpr}

/-- Searches one parent of a type: nothing is left as soon as it is a container by name, and what it
resolves to is searched with the types that are still free. -/
def searchParent (model : Model) (containers : List String) (fuel : Nat) (package : Option String)
    (free : List Nat) (parent : TypeExpr) : Option (List Nat) :=
  if parent.erase ∈ containers then none
  else match model.resolve? package parent.erase with
    -- A type that is not in the model has no ancestors to search.
    | none => some free
    | some next => model.searchAncestors containers fuel free next

/-- A type that is free is entered, and its parents are searched in turn. -/
theorem searchAncestors_of_mem (found : model.elements[position]? = some element)
    (isFree : position ∈ free) :
    model.searchAncestors containers (fuel + 1) free position =
      element.parents.foldlM (model.searchParent containers fuel element.package)
        (free.erase position) := by
  -- The parents are searched by a fold that stops at the first container.
  rw [List.foldlM_eq_foldl]
  simp only [searchAncestors, found, isFree, if_true]
  rfl

/-- A type that is not free is not entered again. -/
theorem searchAncestors_of_not_mem (taken : position ∉ free) :
    model.searchAncestors containers fuel free position = some free := by
  -- Whether there is fuel or not, the free types stay as they are.
  cases fuel with
  | zero => rfl
  | succ fuel =>
    simp only [searchAncestors, taken, if_false]
    split <;> rfl

/-- Where there is no type, nothing is searched. -/
theorem searchAncestors_of_none (missing : model.elements[position]? = none) :
    model.searchAncestors containers fuel free position = some free := by
  -- Whether there is fuel or not, the free types stay as they are.
  cases fuel with
  | zero => rfl
  | succ fuel => simp only [searchAncestors, missing]

/-- A parent that is passed is no container by name, and what it resolves to was searched. -/
theorem searchParent_eq_some
    (searched : model.searchParent containers fuel package free parent = some left) :
    parent.erase ∉ containers ∧
      ((model.resolve? package parent.erase = none ∧ left = free) ∨
        ∃ next, model.resolve? package parent.erase = some next ∧
          model.searchAncestors containers fuel free next = some left) := by
  unfold searchParent at searched
  -- The name is compared first, and what it resolves to is searched only then.
  split at searched
  · cases searched
  · rename_i unnamed
    refine ⟨unnamed, ?_⟩
    split at searched
    · rename_i unresolved
      exact .inl ⟨unresolved, (Option.some.inj searched).symm⟩
    · rename_i next resolved
      exact .inr ⟨next, resolved, searched⟩

/-- Searches that leave fewer types each leave fewer types one after the other. -/
theorem foldlM_sublist {search : List Nat → TypeExpr → Option (List Nat)}
    (fewer : ∀ {free left parent}, search free parent = some left → left.Sublist free)
    {parents : List TypeExpr} (searched : parents.foldlM search free = some left) :
    left.Sublist free := by
  -- The induction is on the parents, each of which is searched with what is left.
  induction parents generalizing free with
  | nil => exact Option.some.inj searched ▸ .refl free
  | cons parent rest ih =>
    rw [List.foldlM_cons] at searched
    obtain ⟨middle, first, searched⟩ := Option.bind_eq_some_iff.1 searched
    exact (ih searched).trans (fewer first)

/-- A search leaves some of the types that were free. -/
theorem searchAncestors_sublist
    (searched : model.searchAncestors containers fuel free position = some left) :
    left.Sublist free := by
  induction fuel generalizing free left position with
  | zero => exact Option.some.inj searched ▸ .refl free
  | succ fuel ih =>
    cases found : model.elements[position]? with
    | none =>
      rw [searchAncestors_of_none found] at searched
      exact Option.some.inj searched ▸ .refl free
    | some element =>
      by_cases isFree : position ∈ free
      · -- The type itself is no longer free, and each of its parents leaves fewer types.
        rw [searchAncestors_of_mem found isFree] at searched
        refine (foldlM_sublist (fun first => ?_) searched).trans List.erase_sublist
        obtain ⟨-, ⟨-, rfl⟩ | ⟨next, -, entered⟩⟩ := searchParent_eq_some first
        · exact .refl _
        · exact ih entered
      · rw [searchAncestors_of_not_mem isFree] at searched
        exact Option.some.inj searched ▸ .refl free

/-- From as much fuel as there are free types on, a search does not depend on its fuel. -/
theorem searchAncestors_of_le {more : Nat} (enough : free.length ≤ fuel) (further : fuel ≤ more)
    (position : Nat) :
    model.searchAncestors containers more free position =
      model.searchAncestors containers fuel free position := by
  induction fuel generalizing more free position with
  | zero =>
    -- Without a free type, none is entered, whatever the fuel.
    obtain rfl : free = [] := List.length_eq_zero_iff.1 (Nat.le_zero.1 enough)
    rw [searchAncestors_of_not_mem List.not_mem_nil, searchAncestors_of_not_mem List.not_mem_nil]
  | succ fuel ih =>
    obtain ⟨more, rfl⟩ : ∃ less, more = less + 1 := ⟨more - 1, by omega⟩
    cases found : model.elements[position]? with
    | none => rw [searchAncestors_of_none found, searchAncestors_of_none found]
    | some element =>
      by_cases isFree : position ∈ free
      · rw [searchAncestors_of_mem found isFree, searchAncestors_of_mem found isFree]
        -- Entering the type pays for a step, and no parent gives a type back.
        have shorter : (free.erase position).length ≤ fuel := by
          rw [List.length_erase_of_mem isFree]
          omega
        generalize free.erase position = before at shorter
        induction element.parents generalizing before with
        | nil => rfl
        | cons parent rest behind =>
          have same : model.searchParent containers more element.package before parent =
              model.searchParent containers fuel element.package before parent := by
            simp only [searchParent, ih shorter (show fuel ≤ more by omega)]
          rw [List.foldlM_cons, List.foldlM_cons, same]
          refine Option.bind_congr fun middle passed => behind middle ?_
          obtain ⟨-, ⟨-, rfl⟩ | ⟨next, -, entered⟩⟩ := searchParent_eq_some passed
          · exact shorter
          · exact Nat.le_trans (searchAncestors_sublist entered).length_le shorter
      · rw [searchAncestors_of_not_mem isFree, searchAncestors_of_not_mem isFree]

end RuleMetadata.Model

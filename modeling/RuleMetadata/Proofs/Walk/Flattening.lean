import RuleMetadata.Proofs.Walk.Ways

/-! Walks without cycles: the guard never stops them, so that they list a hierarchy as it is
declared, ancestors first. -/

namespace RuleMetadata

namespace Model

/-- What a walk lists at an element: what is listed for its supertype, for its members in order, and
then the element itself if it is marked. -/
def flattenAt (model : Model) (kind : MarkerKind) (below : Nat → List Nat) (position : Nat) :
    List Nat :=
  match model.elements[position]? with
  | none => []
  | some element =>
    -- An element comes behind all that it inherits or holds.
    element.supertype.toList.flatMap below ++ element.enclosed.flatMap below ++
      (if element.carries kind then [position] else [])

/-- Whether a function lists everything that can be reached from a root without looking out for
cycles. -/
def IsFlattening (model : Model) (kind : MarkerKind) (root : Nat) (flatten : Nat → List Nat) :
    Prop :=
  -- What cannot be reached from the root may be listed in any way.
  ∀ position, model.Reaches root position →
    flatten position = model.flattenAt kind flatten position

/-- Whether nothing that can be reached from a root can be reached from itself again. -/
def IsAcyclicFrom (model : Model) (root : Nat) : Prop :=
  ∀ position, model.Reaches root position →
    ∀ step ∈ model.steps position, ¬ model.Reaches step.target position

variable {model : Model} {kind : MarkerKind} {position start next : Nat} {step : Step}

/-! ### Steps -/

/-- An element reaches itself. -/
theorem Reaches.refl (position : Nat) : model.Reaches position position :=
  ⟨[], trivial, rfl⟩

/-- What a step leads to reaches less than the element that it is taken from. -/
theorem Reaches.head (taken : step ∈ model.steps start)
    (reaches : model.Reaches step.target position) : model.Reaches start position := by
  -- The step is put in front of the way.
  obtain ⟨way, isWay, ends⟩ := reaches
  exact ⟨step :: way, ⟨taken, isWay⟩, ends⟩

/-- What can be reached from something that can be reached can be reached. -/
theorem Reaches.trans (first : model.Reaches start position)
    (second : model.Reaches position next) : model.Reaches start next := by
  obtain ⟨way, isWay, ends⟩ := first
  -- The second way goes on where each rest of the first one ends.
  induction way generalizing start with
  | nil =>
    obtain rfl : start = position := ends
    exact second
  | cons step rest ih => exact .head isWay.1 (ih isWay.2 ends)

/-- What can be reached from a root without cycles has none itself. -/
theorem IsAcyclicFrom.of_reaches (acyclic : model.IsAcyclicFrom start)
    (reaches : model.Reaches start position) : model.IsAcyclicFrom position :=
  fun _ further => acyclic _ (reaches.trans further)

/-- A supertype is one step away. -/
theorem up_mem_steps {element : Element} (found : model.elements[position]? = some element)
    (above : next ∈ element.supertype) : .up next ∈ model.steps position := by
  simpa [steps, found, Element.steps] using above

/-- A member is one step away. -/
theorem into_mem_steps {element : Element} (found : model.elements[position]? = some element)
    (inside : next ∈ element.enclosed) : .into next ∈ model.steps position := by
  simpa [steps, found, Element.steps] using inside

/-- What is listed at an element depends on what is listed one step away. -/
theorem flattenAt_congr {below other : Nat → List Nat}
    (alike : ∀ step ∈ model.steps position, below step.target = other step.target) :
    model.flattenAt kind below position = model.flattenAt kind other position := by
  unfold flattenAt
  split
  · rfl
  · rename_i element found
    -- One step leads up to the supertype, or into a member.
    have above : element.supertype.toList.flatMap below =
        element.supertype.toList.flatMap other := by
      simp only [List.flatMap]
      exact congrArg _ (List.map_congr_left fun next inside =>
        alike _ (up_mem_steps found (Option.mem_toList.1 inside)))
    have members : element.enclosed.flatMap below = element.enclosed.flatMap other := by
      simp only [List.flatMap]
      exact congrArg _ (List.map_congr_left fun next inside =>
        alike _ (into_mem_steps found inside))
    rw [above, members]

/-! ### The guard against cycles -/

/-- The walk lists an element as long as it is free. -/
theorem visitsFrom_succ (fuel : Nat) (free : List Nat) :
    model.visitsFrom kind (fuel + 1) free position =
      if position ∈ free then
        model.flattenAt kind (model.visitsFrom kind fuel (free.erase position)) position
      else [] := by
  cases found : model.elements[position]? <;> simp [visitsFrom, flattenAt, found]

/-- Where there is no element, nothing is listed. -/
theorem flattenAt_of_size_le (outside : model.size ≤ position) (below : Nat → List Nat) :
    model.flattenAt kind below position = [] := by
  have missing : model.elements[position]? = none := Array.getElem?_eq_none outside
  rw [flattenAt, missing]

/-- Where there is no element, a walk lists nothing. -/
theorem visitsFrom_of_size_le (outside : model.size ≤ position) (fuel : Nat) (free : List Nat) :
    model.visitsFrom kind fuel free position = [] := by
  -- Whether there is fuel or not, there is nothing to list.
  cases fuel with
  | zero => rfl
  | succ fuel => rw [visitsFrom_succ, flattenAt_of_size_le outside, ite_self]

/-- Whether everything that can be reached from an element is free. -/
def LeavesFree (model : Model) (free : List Nat) (position : Nat) : Prop :=
  ∀ reached < model.size, model.Reaches position reached → reached ∈ free

/-- At the start of a walk, everything is free. -/
theorem leavesFree_range (position : Nat) :
    model.LeavesFree (List.range model.size) position :=
  fun _ inside _ => List.mem_range.2 inside

/-- Without cycles, whatever lies behind an element is free even after this is taken. -/
theorem LeavesFree.erase {free : List Nat} (leaves : model.LeavesFree free position)
    (acyclic : model.IsAcyclicFrom position) (taken : step ∈ model.steps position) :
    model.LeavesFree (free.erase position) step.target := by
  intro reached inside reaches
  -- The element itself does not lie behind the step.
  have other : reached ≠ position := by
    rintro rfl
    exact acyclic reached (.refl reached) step taken reaches
  exact (List.mem_erase_of_ne other).2 (leaves reached inside (.head taken reaches))

/-- Without cycles, a walk does not depend on what is free, as long as that is enough. -/
theorem visitsFrom_congr {fuel : Nat} {free other : List Nat}
    (acyclic : model.IsAcyclicFrom position) (leaves : model.LeavesFree free position)
    (other_leaves : model.LeavesFree other position) :
    model.visitsFrom kind fuel free position = model.visitsFrom kind fuel other position := by
  -- The induction is on the fuel; a step leads where no cycle comes back to the position.
  induction fuel generalizing free other position with
  | zero => rfl
  | succ fuel ih =>
    rcases Nat.lt_or_ge position model.size with inside | outside
    · rw [visitsFrom_succ, visitsFrom_succ, if_pos (leaves position inside (.refl position)),
        if_pos (other_leaves position inside (.refl position))]
      refine flattenAt_congr fun step taken => ?_
      exact ih (acyclic.of_reaches (.head taken (.refl _))) (leaves.erase acyclic taken)
        (other_leaves.erase acyclic taken)
    · rw [visitsFrom_of_size_le outside, visitsFrom_of_size_le outside]

/-- Without cycles, the walk lists everything as if there were no guard. -/
theorem isFlattening_visits {root : Nat} (acyclic : model.IsAcyclicFrom root) :
    model.IsFlattening kind root (model.visits kind) := by
  intro position reaches
  have acyclic_here := acyclic.of_reaches reaches
  rcases Nat.lt_or_ge position model.size with inside | outside
  · obtain ⟨fuel, size⟩ : ∃ fuel, model.size = fuel + 1 := ⟨model.size - 1, by omega⟩
    have isFree : position ∈ List.range model.size := List.mem_range.2 inside
    have shorter : ((List.range model.size).erase position).length ≤ fuel := by
      rw [List.length_erase_of_mem isFree, List.length_range]
      omega
    -- One position less is free behind the element, and none of those that matter.
    have behind : ∀ step ∈ model.steps position,
        model.visitsFrom kind fuel ((List.range model.size).erase position) step.target =
          model.visits kind step.target := by
      intro step taken
      rw [← visitsFrom_of_le kind shorter (Nat.le_succ fuel), ← Nat.add_one, ← size]
      exact visitsFrom_congr (acyclic_here.of_reaches (.head taken (.refl _)))
        ((leavesFree_range position).erase acyclic_here taken) (leavesFree_range _)
    calc model.visits kind position
        = model.visitsFrom kind (fuel + 1) (List.range model.size) position := by
          rw [visits, size]
      _ = model.flattenAt kind
            (model.visitsFrom kind fuel ((List.range model.size).erase position)) position := by
          rw [visitsFrom_succ, if_pos isFree]
      _ = model.flattenAt kind (model.visits kind) position := flattenAt_congr behind
  · rw [visits, visitsFrom_of_size_le outside, flattenAt_of_size_le outside]

/-- Without cycles, there is one way to list everything without a guard. -/
theorem IsFlattening.eq_visitsFrom {flatten : Nat → List Nat} {fuel : Nat} {free : List Nat}
    (flattening : model.IsFlattening kind position flatten)
    (acyclic : model.IsAcyclicFrom position) (leaves : model.LeavesFree free position)
    (enough : free.length ≤ fuel) :
    flatten position = model.visitsFrom kind fuel free position := by
  rw [flattening position (.refl position)]
  induction fuel generalizing free position with
  | zero =>
    -- Nothing is free, so that there is no element.
    obtain rfl : free = [] := List.length_eq_zero_iff.1 (Nat.le_zero.1 enough)
    have outside : model.size ≤ position := Nat.le_of_not_lt fun inside =>
      List.not_mem_nil (leaves position inside (.refl position))
    rw [flattenAt_of_size_le outside, visitsFrom_of_size_le outside]
  | succ fuel ih =>
    rcases Nat.lt_or_ge position model.size with inside | outside
    · have isFree := leaves position inside (.refl position)
      have shorter : (free.erase position).length ≤ fuel := by
        rw [List.length_erase_of_mem isFree]
        omega
      rw [visitsFrom_succ, if_pos isFree]
      refine flattenAt_congr fun step taken => ?_
      have reaches : model.Reaches position step.target := .head taken (.refl _)
      have behind : model.IsFlattening kind step.target flatten :=
        fun further reached => flattening further (reaches.trans reached)
      rw [behind _ (.refl _)]
      exact ih behind (acyclic.of_reaches reaches) (leaves.erase acyclic taken) shorter
    · rw [flattenAt_of_size_le outside, visitsFrom_of_size_le outside]

/-- Without cycles, whatever lists everything without a guard lists what the walk does. -/
theorem IsFlattening.eq_visits {flatten : Nat → List Nat}
    (flattening : model.IsFlattening kind position flatten)
    (acyclic : model.IsAcyclicFrom position) : flatten position = model.visits kind position :=
  -- At the start all positions are free, so there is fuel for every way.
  flattening.eq_visitsFrom acyclic (leavesFree_range position) (by simp)

/-! ### Ways that come to an end -/

/-- Whether one step leads from a position to the next. -/
def Follows (model : Model) (next position : Nat) : Prop :=
  ∃ step ∈ model.steps position, step.target = next

/-- If all ways from a root come to an end, there are no cycles. -/
theorem isAcyclicFrom_of_acc {root : Nat} (ends : Acc model.Follows root) :
    model.IsAcyclicFrom root := by
  rintro position ⟨way, isWay, rfl⟩
  -- All ways from the end of a way come to an end, too.
  have further : Acc model.Follows (ending root way) := by
    induction way generalizing root with
    | nil => exact ends
    | cons step rest ih => exact ih (ends.inv ⟨step, isWay.1, rfl⟩) isWay.2
  generalize ending root way = position at further
  induction further with
  | intro position _ ih =>
    rintro step taken ⟨back, isBack, returns⟩
    -- A cycle through the position is one through the next one on it.
    cases back with
    | nil =>
      have same : step.target = position := returns
      rw [← same] at taken
      exact ih step.target ⟨step, same ▸ taken, rfl⟩ step taken (.refl step.target)
    | cons first rest =>
      have onwards : model.Reaches first.target position := ⟨rest, isBack.2, returns⟩
      exact ih step.target ⟨step, taken, rfl⟩ first isBack.1
        (onwards.trans (.head taken (.refl _)))

/-- If all ways from an element come to an end, the walk lists it as if there were no guard. -/
theorem visits_of_acc (ends : Acc model.Follows position) :
    model.visits kind position = model.flattenAt kind (model.visits kind) position :=
  isFlattening_visits (isAcyclicFrom_of_acc ends) position (.refl position)

end Model

end RuleMetadata

/-! Runs of work that may fail or has a state: what each part does to the value and the state. -/

namespace RuleMetadata

/-- Work that may fail succeeds just when its first part does, and the rest on what that gives. -/
theorem bind_eq_ok_iff {ε α β : Type} {first : Except ε α} {rest : α → Except ε β} {result : β} :
    (first >>= rest) = .ok result ↔ ∃ value, first = .ok value ∧ rest value = .ok result := by
  cases first <;> simp [bind, Except.bind]

/-- Work that may fail does so in its first part, or in the rest behind what that gives. -/
theorem bind_eq_error_iff {ε α β : Type} {first : Except ε α} {rest : α → Except ε β}
    {failure : ε} : (first >>= rest) = .error failure ↔
      first = .error failure ∨ ∃ value, first = .ok value ∧ rest value = .error failure := by
  cases first <;> simp [bind, Except.bind]

variable {σ ε α β : Type}

/-- Work in two parts ends where its second part ends, from where the first part has ended. -/
theorem run_bind_of_ended {first : StateM σ α} {rest : α → StateM σ β} {value : α}
    {state next : σ} (ended : first.run state = (value, next)) :
    (first >>= rest).run state = (rest value).run next := by
  -- What is left of the bind is one in which nothing happens between the parts.
  rw [StateT.run_bind, ended]
  rfl

/-- Work that may fail goes on only if its first part succeeds. -/
theorem run_bindExcept (first : ExceptT ε (StateM σ) α) (rest : α → ExceptT ε (StateM σ) β)
    (state : σ) : (first >>= rest).run.run state =
      match first.run.run state with
      | (.ok value, next) => (rest value).run.run next
      | (.error cause, next) => (.error cause, next) := by
  -- The second part is entered with a value, and a failure is passed on.
  show (first.run >>= ExceptT.bindCont rest).run state = _
  rcases ended : first.run.run state with ⟨cause | value, next⟩ <;>
    rw [run_bind_of_ended ended] <;> rfl

/-- Work whose failure is caught goes on with what handles it. -/
theorem run_tryCatchExcept (work : ExceptT ε (StateM σ) α) (handle : ε → ExceptT ε (StateM σ) α)
    (state : σ) : (tryCatch work handle).run.run state =
      match work.run.run state with
      | (.ok value, next) => (.ok value, next)
      | (.error cause, next) => (handle cause).run.run next := by
  -- A value is passed on, and a failure is handled where it has left the state.
  show (work.run >>= fun result => match result with
    | .ok value => pure (.ok value)
    | .error cause => (handle cause).run).run state = _
  rcases ended : work.run.run state with ⟨result, next⟩
  rw [run_bind_of_ended ended]
  cases result <;> rfl

/-- Work on the items of a list that changes nothing gives the values of all of them. -/
theorem run_mapM_of_ended {work : α → StateM σ β} {value : α → β} {items : List α} {state : σ}
    (ended : ∀ item ∈ items, (work item).run state = (value item, state)) :
    (items.mapM work).run state = (items.map value, state) := by
  -- The items behind the first one find the state as it was.
  induction items with
  | nil => rfl
  | cons item rest ih =>
    obtain ⟨first, others⟩ := List.forall_mem_cons.1 ended
    rw [List.mapM_cons, run_bind_of_ended first, run_bind_of_ended (ih others)]
    rfl

/-- Work on the items of a list gives one value for each of them. -/
theorem length_run_mapM (work : α → StateM σ β) (items : List α) (state : σ) :
    ((items.mapM work).run state).1.length = items.length := by
  -- Every item adds its value to those of the items behind it.
  induction items generalizing state with
  | nil => rfl
  | cons item rest ih =>
    rcases first : (work item).run state with ⟨value, next⟩
    rcases others : (rest.mapM work).run next with ⟨values, last⟩
    have ended : ((item :: rest).mapM work).run state = (value :: values, last) := by
      rw [List.mapM_cons, run_bind_of_ended first, run_bind_of_ended others]
      rfl
    have rest_length := ih next
    rw [others] at rest_length
    rw [ended, List.length_cons, rest_length, List.length_cons]

/-! ### Parts of a state that work leaves alone -/

/-- Whether work leaves a part of the state alone. -/
def Keeps {τ : Type} (part : σ → τ) (work : StateM σ α) : Prop :=
  ∀ state, part (work.run state).2 = part state

section Keeps

variable {τ : Type} {part : σ → τ}

/-- Giving a value keeps every part of the state. -/
theorem keeps_pure (value : α) : Keeps part (pure value : StateM σ α) := fun _ => rfl

/-- Work in two parts keeps what both of them keep. -/
theorem Keeps.bind {first : StateM σ α} {rest : α → StateM σ β} (start : Keeps part first)
    (goes_on : ∀ value, Keeps part (rest value)) : Keeps part (first >>= rest) := by
  -- The second part keeps what the first one has left, and that is what it has kept.
  intro state
  have first_kept := start state
  rcases ended : first.run state with ⟨value, next⟩
  rw [ended] at first_kept
  rw [run_bind_of_ended ended, goes_on, first_kept]

/-- Work that may fail keeps what its first part keeps, and the rest if there is one. -/
theorem Keeps.bindExcept {first : ExceptT ε (StateM σ) α} {rest : α → ExceptT ε (StateM σ) β}
    (start : Keeps part first.run) (goes_on : ∀ value, Keeps part (rest value).run) :
    Keeps part (first >>= rest).run := by
  -- The second part may not be entered, and then the first one has kept everything.
  intro state
  have first_kept := start state
  rw [run_bindExcept]
  rcases ended : first.run.run state with ⟨cause | value, next⟩ <;> rw [ended] at first_kept
  · exact first_kept
  · exact (goes_on value next).trans first_kept

/-- Work whose failure is caught keeps what it keeps itself, and what handles the failure. -/
theorem Keeps.tryCatchExcept {work : ExceptT ε (StateM σ) α}
    {handle : ε → ExceptT ε (StateM σ) α} (start : Keeps part work.run)
    (handled : ∀ cause, Keeps part (handle cause).run) :
    Keeps part (tryCatch work handle).run := by
  -- The handler is entered where the failing work has left the state.
  intro state
  have work_kept := start state
  rw [run_tryCatchExcept]
  rcases ended : work.run.run state with ⟨cause | value, next⟩ <;> rw [ended] at work_kept
  · exact (handled cause next).trans work_kept
  · exact work_kept

end Keeps

/-! ### Work that only reads -/

/-- Whether work only reads, and has one value in two states. -/
def ReadsAlike (work : StateM σ α) (one other : σ) : Prop :=
  ∃ value, work.run one = (value, one) ∧ work.run other = (value, other)

section ReadsAlike

variable {one other : σ}

/-- Giving a value reads nothing, and so is the same in all states. -/
theorem readsAlike_pure (value : α) : ReadsAlike (pure value : StateM σ α) one other :=
  ⟨value, rfl, rfl⟩

/-- Work in two parts only reads if both parts do. -/
theorem ReadsAlike.bind {first : StateM σ α} {rest : α → StateM σ β}
    (start : ReadsAlike first one other) (goes_on : ∀ value, ReadsAlike (rest value) one other) :
    ReadsAlike (first >>= rest) one other := by
  -- The second part is entered with the one value that the first part has.
  obtain ⟨value, one_run, other_run⟩ := start
  obtain ⟨last, one_ends, other_ends⟩ := goes_on value
  refine ⟨last, ?_, ?_⟩
  · rw [run_bind_of_ended one_run, one_ends]
  · rw [run_bind_of_ended other_run, other_ends]

/-- Work on the items of a list only reads if it does for each of them. -/
theorem readsAlike_mapM {work : α → StateM σ β} {items : List α}
    (reads : ∀ item ∈ items, ReadsAlike (work item) one other) :
    ReadsAlike (items.mapM work) one other := by
  -- Each item leaves both states as they were for the items behind it.
  induction items with
  | nil => exact readsAlike_pure []
  | cons item rest ih =>
    obtain ⟨first, others⟩ := List.forall_mem_cons.1 reads
    rw [List.mapM_cons]
    exact .bind first fun _ => .bind (ih others) fun _ => readsAlike_pure _

/-- Work that only reads leaves all of the state alone. -/
theorem keeps_of_readsAlike {work : StateM σ α} (reads : ∀ state, ReadsAlike work state state) :
    Keeps id work := by
  -- The state it is left in is the one it was entered in.
  intro state
  obtain ⟨value, ended, -⟩ := reads state
  rw [ended]

end ReadsAlike

end RuleMetadata

import Mathlib.Data.List.Basic
import Mathlib.Data.List.Induction

/-! Facts about lists that several parts of the theory need. -/

namespace RuleMetadata

variable {α : Type}

/-- Numbers in order are those below a border, and behind them those from the border on. -/
theorem filter_range_split (condition : Nat → Bool) (border count : Nat) :
    (List.range count).filter condition =
      (List.range count).filter (fun number => number < border && condition number) ++
        (List.range count).filter (fun number => border ≤ number && condition number) := by
  -- The range is built up from below, and the border is reached once.
  induction count with
  | zero => rfl
  | succ count ih =>
    rw [List.range_succ, List.filter_append, List.filter_append, List.filter_append, ih]
    rcases Nat.lt_or_ge count border with below | above
    · -- As long as the border is not reached, nothing stands behind it.
      have none_behind : (List.range count).filter
          (fun number => border ≤ number && condition number) = [] := by
        rw [List.filter_eq_nil_iff]
        intro number inside
        have small := List.mem_range.1 inside
        simp only [Bool.and_eq_true, decide_eq_true_eq, not_and]
        omega
      have not_behind : ¬ border ≤ count := by omega
      simp [none_behind, List.filter_cons, below, not_behind]
    · -- From the border on, the last number joins the second part alone.
      have not_before : ¬ count < border := by omega
      simp [List.filter_cons, above, not_before]

/-! ### Runs -/

section Runs

variable {test : α → Bool} {run rest : List α} (inside : ∀ entry ∈ run, test entry)
  (stops : ∀ entry, rest.head? = some entry → test entry = false)
include inside stops

/-- A run ends where an entry does not go on with it. -/
theorem takeWhile_append_stop : (run ++ rest).takeWhile test = run := by
  -- All of the run is taken, and the first entry behind it ends the search.
  rw [List.takeWhile_append_of_pos inside]
  cases rest with
  | nil => simp
  | cons entry _ => simp [stops entry rfl]

/-- What is left behind a run begins where an entry does not go on with it. -/
theorem dropWhile_append_stop : (run ++ rest).dropWhile test = rest := by
  -- All of the run is dropped, and of the rest nothing.
  rw [List.dropWhile_append_of_pos inside]
  cases rest with
  | nil => rfl
  | cons entry _ => simp [stops entry rfl]

end Runs

/-! ### Marks -/

/-- A mark that is not in a list is not in it either together with what does not hold the end of the
mark. -/
theorem not_infix_append {mark front behind : List α} {last : α}
    (ends : mark.getLast? = some last) (absent : ¬ mark <:+: front) (other : last ∉ behind) :
    ¬ mark <:+: front ++ behind := by
  -- The induction is on what stands behind the list, from the last entry on.
  induction behind using List.reverseRecOn with
  | nil => simpa using absent
  | append_singleton behind entry ih =>
    simp only [List.mem_append, List.mem_singleton, not_or] at other
    rw [← List.append_assoc, List.infix_concat_iff, List.suffix_concat_iff]
    rintro ((empty | ⟨before, split, -⟩) | inside)
    · rw [empty] at ends
      cases ends
    · -- The last entry would be that of the mark.
      rw [split, List.getLast?_concat] at ends
      exact other.2 (Option.some.inj ends).symm
    · exact ih other.1 inside

end RuleMetadata

import RuleMetadata.Options.Basic
import RuleMetadata.Proofs.Files.Path
import RuleMetadata.Proofs.State

/-! Options that are accepted: the directory of descriptions is a single one below its root. -/

namespace RuleMetadata

/-- A character of a word can stand in a plain segment, and is not a point. -/
theorem isPlain_of_isWordChar {char : Char} (word : isWordChar char) :
    char ≠ '.' ∧ char ≠ '/' ∧ char ≠ '\\' ∧ Text.isControl char = false := by
  have apart {other : Char} (no_word : isWordChar other = false) : char ≠ other := by
    rintro rfl
    rw [word] at no_word
    cases no_word
  refine ⟨apart rfl, apart rfl, apart rfl, ?_⟩
  rw [isWordChar, Bool.or_eq_true, beq_iff_eq] at word
  rcases word with letter | rfl
  · -- The codes of letters and digits lie in three blocks, and those of control characters outside.
    delta Char.isAlphanum Char.isAlpha Char.isUpper Char.isLower Char.isDigit at letter
    simp only [Bool.or_eq_true, Bool.and_eq_true, decide_eq_true_eq] at letter
    simp only [Text.isControl, Bool.or_eq_false_iff, Bool.and_eq_false_iff, decide_eq_false_iff_not]
    grind
  · rfl

/-- A directory name is one plain segment. -/
theorem isPlainSegment_of_isDirectoryName {name : String} (accepted : isDirectoryName name) :
    Text.isPlainSegment name := by
  rw [isDirectoryName] at accepted
  cases spelled : name.toList with
  | nil => simp [spelled] at accepted
  | cons first rest =>
    simp only [spelled, Bool.and_eq_true, List.all_eq_true, Bool.or_eq_true, beq_iff_eq] at accepted
    obtain ⟨begins, others⟩ := accepted
    obtain ⟨not_point, first_plain⟩ := isPlain_of_isWordChar begins
    -- The two names that lead elsewhere begin with a point.
    have apart {other : String} (point : other.toList.head? = some '.') : name ≠ other := by
      rintro rfl
      rw [spelled] at point
      exact not_point (Option.some.inj point)
    refine Text.isPlainSegment_iff.2 ⟨?_, apart rfl, apart rfl, ?_⟩
    · rintro rfl
      simp at spelled
    · rw [spelled, List.forall_mem_cons]
      refine ⟨first_plain, fun char inside => ?_⟩
      rcases others char inside with (word | rfl) | rfl
      · exact (isPlain_of_isWordChar word).2
      · decide
      · decide

namespace BuildOptions

variable {options : BuildOptions}

/-- The directory of descriptions is a plain one in options that are accepted. -/
theorem isPlainSegment_descriptionDir (valid : options.validate = .ok ()) :
    Text.isPlainSegment options.descriptionDir := by
  refine isPlainSegment_of_isDirectoryName ?_
  -- Nothing behind the check of the directory can take its refusal back.
  by_contra not_accepted
  have refused : isDirectoryName options.descriptionDir = false := by simpa using not_accepted
  simp only [validate, bind_eq_ok_iff] at valid
  obtain ⟨_, -, _, -, _, -, _, -, goes_on⟩ := valid
  simp [refused, throw, throwThe, MonadExceptOf.throw, bind, Except.bind] at goes_on

/-- Descriptions are kept and looked up in directories that lead down if the roots do. -/
theorem leadsDown_of_validate (valid : options.validate = .ok ())
    (output : FileTree.LeadsDown options.resourceOutput)
    (input : ∀ path ∈ options.resourceInput, FileTree.LeadsDown path) :
    ∀ root ∈ [options.descriptionOutput, options.descriptionInput], FileTree.LeadsDown root := by
  have plain := isPlainSegment_descriptionDir valid
  -- Without a root of its own, the input has that of the output.
  have input_root : FileTree.LeadsDown (options.resourceInput.getD options.resourceOutput) := by
    cases given : options.resourceInput with
    | none => exact output
    | some path => exact input path given
  simp only [List.forall_mem_cons, List.not_mem_nil, false_implies, implies_true, and_true]
  exact ⟨output.join plain, input_root.join plain⟩

end BuildOptions

end RuleMetadata

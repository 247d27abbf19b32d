import Mathlib.Data.String.Basic
import RuleMetadata.Proofs.TypeExpr.Grammar

/-! The search for type arguments by byte positions: it closes no bracket that is not open, cuts the
text at the edges of characters alone, and finds the arguments of the type. -/

namespace RuleMetadata

open String (utf8Len)

namespace Text

/-! ### Positions -/

/-- The text between two byte positions. There is none unless they are in order and each of them is
at the edge of a character. -/
def slice? (text : String) (start stop : Nat) : Option String :=
  -- These are the conditions under which the text can be cut at all.
  if start ≤ stop ∧ String.Pos.Raw.IsValid text ⟨start⟩ ∧ String.Pos.Raw.IsValid text ⟨stop⟩ then
    some (String.Pos.Raw.extract text ⟨start⟩ ⟨stop⟩)
  else none

/-- Characters with the byte positions at which they start. -/
def charIndices : Nat → List Char → List (Nat × Char)
  | _, [] => []
  | position, char :: rest => (position, char) :: charIndices (position + char.utf8Size) rest

/-- Between the bytes of what is in front and those of what is added to it, there is what was
added. -/
theorem slice?_of_append {text : String} {front inside back : List Char}
    (split : text.toList = front ++ inside ++ back) :
    slice? text (utf8Len front) (utf8Len front + utf8Len inside) =
      some (String.ofList inside) := by
  obtain rfl : text = String.ofList (front ++ inside ++ back) := by
    rw [← split, String.ofList_toList]
  -- Both positions are at the end of a part of the text.
  have edge (before behind : List Char) :
      String.Pos.Raw.IsValid (String.ofList (before ++ behind)) ⟨utf8Len before⟩ := by
    refine String.Pos.Raw.isValid_iff_exists_append.2
      ⟨String.ofList before, String.ofList behind, String.ofList_append, ?_⟩
    simp [String.rawEndPos, String.utf8ByteSize_ofList]
  have first := edge front (inside ++ back)
  have last := edge (front ++ inside) back
  rw [← List.append_assoc] at first
  rw [String.utf8Len_append] at last
  rw [slice?, if_pos ⟨Nat.le_add_right _ _, first, last⟩, String.extract_of_valid]

/-- Behind the first characters that are passed over, positions go on with the bytes of these. -/
theorem dropWhile_charIndices (passed : Char → Bool) (position : Nat) (chars : List Char) :
    (charIndices position chars).dropWhile (fun indexed => passed indexed.2) =
      charIndices (position + utf8Len (chars.takeWhile passed)) (chars.dropWhile passed) := by
  -- Each of them moves the position on by its own bytes.
  induction chars generalizing position with
  | nil => rfl
  | cons char rest ih =>
    cases goes : passed char with
    | false => simp [charIndices, goes]
    | true =>
      simp only [charIndices, List.dropWhile_cons, List.takeWhile_cons, goes, if_true, ih,
        String.utf8Len_cons]
      congr 1
      omega

end Text

namespace TypeExpr

open Text

/-! ### The search -/

/-- What a search knows in front of a character: how many brackets are open, where the current
argument starts, and the arguments in front of it. -/
structure Scan where
  depth : Nat
  start : Nat
  found : List String

namespace Scan

/-- What a search cannot do. -/
inductive Fault where
  /-- No bracket is open that could be closed at a position. -/
  | unopened (position : Nat)
  /-- There is no text between two positions. -/
  | noText (start stop : Nat)

/-- What a character leads to. -/
inductive Outcome where
  | ended (found : List String)
  | going (scan : Scan)

/-- The arguments up to a position, at which the current one ends. -/
def cut (scan : Scan) (text : String) (stop : Nat) : Except Fault (List String) :=
  match slice? text scan.start stop with
  | some argument => .ok (scan.found ++ [trim argument])
  -- The positions are kept, so that a fault can be told from an empty argument.
  | none => .error (.noText scan.start stop)

/-- One character of the text, at its position. -/
def step (scan : Scan) (text : String) (position : Nat) (char : Char) : Except Fault Outcome :=
  match char with
  | '<' => .ok (.going { scan with depth := scan.depth + 1 })
  | '>' =>
    match scan.depth with
    | 0 => .error (.unopened position)
    -- The first bracket is closed, and nothing behind it counts.
    | 1 => do return .ended (← scan.cut text position)
    | depth + 2 => .ok (.going { scan with depth := depth + 1 })
  | ',' =>
    if scan.depth = 1 then do
      return .going { scan with found := ← scan.cut text position, start := position + 1 }
    -- A comma between inner brackets belongs to the argument.
    else .ok (.going scan)
  | _ => .ok (.going scan)

/-- The arguments found in some characters with their positions. -/
def run (scan : Scan) (text : String) : List (Nat × Char) → Except Fault (List String)
  -- An argument that is not closed is given up.
  | [] => .ok scan.found
  | (position, char) :: rest => do
    match ← scan.step text position char with
    | .ended found => return found
    | .going next => next.run text rest

end Scan

/-- The arguments of the first list in a text, blank ones left out. -/
def scanArguments (text : String) : Except Scan.Fault (List String) :=
  -- The search begins with the first bracket, and the first argument behind it.
  match (charIndices 0 text.toList).dropWhile (·.2 != '<') with
  | [] => .ok []
  | (position, bracket) :: rest => do
    let found ← Scan.run ⟨0, position + 1, []⟩ text ((position, bracket) :: rest)
    return found.filter (· ≠ "")

/-! ### Its course -/

namespace Scan

variable {text : String} {scan : Scan} {position depth : Nat} {char : Char}
  {done rest : List Char}

/-- Whether a search stands between two parts of a text: behind the first bracket, with `depth` more
of them open, and behind the characters `done` of the current argument, which are in reverse. -/
structure Stands (scan : Scan) (text : String) (position depth : Nat) (done rest : List Char) :
    Prop where
  inside : scan.depth = depth + 1
  -- The positions count bytes, while the lists hold characters.
  split : ∃ front, text.toList = front ++ done.reverse ++ rest ∧
    scan.start = utf8Len front ∧ position = utf8Len front + utf8Len done.reverse

namespace Stands

/-- A character that is taken into the current argument takes the search to the next one. -/
theorem take (stands : scan.Stands text position depth done (char :: rest)) (next_depth : Nat) :
    Stands { scan with depth := next_depth + 1 } text (position + char.utf8Size) next_depth
      (char :: done) rest := by
  -- The character moves the position on by its own size.
  obtain ⟨front, split, start, here⟩ := stands.split
  refine ⟨rfl, front, by simpa using split, start, ?_⟩
  simp [here, Nat.add_assoc]

/-- Behind a comma that ends an argument begins another one. -/
theorem next (stands : scan.Stands text position 0 done (',' :: rest)) (found : List String) :
    Stands { scan with found, start := position + 1 } text (position + ','.utf8Size) 0 [] rest := by
  -- The text in front now ends in the comma, where the next argument starts.
  obtain ⟨front, split, -, here⟩ := stands.split
  have size : ','.utf8Size = 1 := rfl
  refine ⟨stands.inside, front ++ done.reverse ++ [','], by simpa using split, ?_, ?_⟩ <;>
    simp [here, size, Nat.add_assoc]

/-- The text between the two positions of a search is the current argument. -/
theorem cut (stands : scan.Stands text position depth done rest) :
    scan.cut text position = .ok (scan.found ++ [String.ofList (trimChars done.reverse)]) := by
  obtain ⟨front, split, start, here⟩ := stands.split
  -- The argument is what stands between the start and the position.
  simp only [Scan.cut, start, here, slice?_of_append split, trim, String.toList_ofList]

end Stands

/-- One character is no fault, and leaves what is found in all: either it ends the search, or the
search goes on in front of the next character. -/
theorem step_spec (stands : scan.Stands text position depth done (char :: rest)) :
    let whole := scan.found ++ (argumentChars depth done (char :: rest)).map String.ofList
    scan.step text position char = .ok (.ended whole) ∨
      ∃ next next_depth next_done, scan.step text position char = .ok (.going next) ∧
        next.Stands text (position + char.utf8Size) next_depth next_done rest ∧
        next.found ++ (argumentChars next_depth next_done rest).map String.ofList = whole := by
  -- The search counts the first bracket, too, so it is always one level ahead of the arguments.
  have inside := stands.inside
  have cut := stands.cut
  intro whole
  by_cases opens : char = '<'
  · subst opens
    refine .inr ⟨_, depth + 1, '<' :: done, rfl, ?_, ?_⟩
    · simpa [inside] using stands.take (depth + 1)
    · simp [whole, argumentChars]
  by_cases closes : char = '>'
  · subst closes
    cases depth with
    | zero =>
      -- The first bracket is closed, and with it the last argument.
      refine .inl ?_
      simp only [step, inside, cut, whole, argumentChars]
      rfl
    | succ depth =>
      refine .inr ⟨_, depth, '>' :: done, by simp only [step, inside], stands.take depth, ?_⟩
      simp [whole, argumentChars]
  by_cases separates : char = ',' ∧ depth = 0
  · obtain ⟨rfl, rfl⟩ := separates
    refine .inr ⟨_, 0, [], by simp only [step, inside, cut]; rfl, stands.next _, ?_⟩
    simp [whole, argumentChars]
  · -- Any other character is a part of the current argument.
    have inner : char = ',' → depth ≠ 0 := fun comma outer => separates ⟨comma, outer⟩
    refine .inr ⟨scan, depth, char :: done, ?_, ?_, ?_⟩
    · unfold step
      split <;> simp_all
    · simpa [← inside] using stands.take depth
    · rw [← argumentChars_cons opens closes inner]

/-- A search ends without a fault, with the arguments that it had found and those in the rest. -/
theorem run_eq_ok (stands : scan.Stands text position depth done rest) :
    scan.run text (charIndices position rest) =
      .ok (scan.found ++ (argumentChars depth done rest).map String.ofList) := by
  -- Every character leaves the search where it stands in front of the next one.
  induction rest generalizing scan position depth done with
  | nil => simp [charIndices, run, argumentChars]
  | cons char rest ih =>
    rcases step_spec stands with ended | ⟨next, next_depth, next_done, going, ahead, whole⟩
    · simp only [charIndices, run, ended]
      rfl
    · rw [← whole, ← ih ahead, charIndices, run, going]
      rfl

end Scan

/-- A search for the first bracket that ends in the text ends at one, with none in front of it. -/
theorem split_of_dropWhile_eq_cons {chars behind : List Char} {bracket : Char}
    (found : chars.dropWhile (· != '<') = bracket :: behind) :
    bracket = '<' ∧ '<' ∉ chars.takeWhile (· != '<') ∧
      chars = chars.takeWhile (· != '<') ++ '<' :: behind := by
  -- The search stops at the first character that it does not pass.
  have first := List.head?_dropWhile_not (· != '<') chars
  obtain rfl : bracket = '<' := by simpa [found] using first
  refine ⟨rfl, fun passed => absurd (List.mem_takeWhile_imp passed) (by decide), ?_⟩
  rw [← found, List.takeWhile_append_dropWhile]

/-- The search by positions has no faults, and finds the arguments of the type. -/
theorem scanArguments_eq_ok (type : TypeExpr) :
    scanArguments type.text = .ok (type.arguments.map String.ofList) := by
  -- Both begin at the first bracket, if there is one.
  have searched := dropWhile_charIndices (· != '<') 0 type.text.toList
  rw [scanArguments, searched, arguments, Nat.zero_add]
  cases opened : type.text.toList.dropWhile (· != '<') with
  | nil => rfl
  | cons bracket rest =>
    obtain ⟨rfl, -, split⟩ := split_of_dropWhile_eq_cons opened
    generalize type.text.toList.takeWhile (· != '<') = front at split ⊢
    have size : '<'.utf8Size = 1 := rfl
    have stands : Scan.Stands ⟨1, utf8Len front + 1, []⟩ type.text
        (utf8Len front + '<'.utf8Size) 0 [] rest :=
      ⟨rfl, front ++ ['<'], by simpa using split, by simp [size], by simp [size]⟩
    -- The bracket itself takes the search to where it stands behind it.
    have run : Scan.run ⟨0, utf8Len front + 1, []⟩ type.text
        ((utf8Len front, '<') :: charIndices (utf8Len front + '<'.utf8Size) rest) =
          .ok ((argumentChars 0 [] rest).map String.ofList) := Scan.run_eq_ok stands
    have kept : ((argumentChars 0 [] rest).map String.ofList).filter (· ≠ "") =
        ((argumentChars 0 [] rest).filter (!·.isEmpty)).map String.ofList := by
      rw [List.filter_map]
      refine congrArg _ (List.filter_congr fun argument _ => ?_)
      cases argument <;> simp
    -- Arguments without a character are left out of both.
    simp only [charIndices, run]
    exact congrArg Except.ok kept

end TypeExpr

end RuleMetadata

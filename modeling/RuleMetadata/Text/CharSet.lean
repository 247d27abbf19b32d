/-! Sets of characters as ranges of their codes. -/

namespace RuleMetadata.Text

/-- Whether a code lies in one of some ranges. -/
def inRanges (ranges : List (Nat × Nat)) (code : Nat) : Bool :=
  ranges.any fun (first, last) => first ≤ code && code ≤ last

/-- A set of characters: those whose codes lie in some ranges. The ranges ascend, and there is a
code between any two of them. -/
structure CharSet where
  ranges : List (Nat × Nat)

namespace CharSet

/-- The greatest code of a character. -/
def lastCode : Nat := 0x10FFFF

/-- Whether a character is in a set. -/
def contains (set : CharSet) (char : Char) : Bool :=
  inRanges set.ranges char.toNat

/-- A range in front of ascending ones, grown by all of them that it reaches. -/
def mergeRanges (range : Nat × Nat) : List (Nat × Nat) → List (Nat × Nat)
  | [] => [range]
  | next :: rest =>
    if next.1 ≤ range.2 + 1 then mergeRanges (range.1, max range.2 next.2) rest
    else range :: mergeRanges next rest

/-- The set of the characters in some ranges. -/
def ofRanges (ranges : List (Nat × Nat)) : CharSet :=
  match ranges.mergeSort fun left right => left.1 ≤ right.1 with
  | [] => ⟨[]⟩
  | first :: rest => ⟨mergeRanges first rest⟩

/-- The set of the characters between two others, and of these themselves. -/
def between (first last : Char) : CharSet :=
  ⟨[(first.toNat, last.toNat)]⟩

/-- The set of all characters. -/
def all : CharSet := ⟨[(0, lastCode)]⟩

/-- The ranges of the codes from one on that are outside of ascending ranges. -/
def gapsFrom (start : Nat) : List (Nat × Nat) → List (Nat × Nat)
  | [] => if start ≤ lastCode then [(start, lastCode)] else []
  | (first, last) :: rest =>
    if start < first then (start, first - 1) :: gapsFrom (last + 1) rest
    else gapsFrom (last + 1) rest

/-- The set of all other characters. -/
def complement (set : CharSet) : CharSet :=
  ⟨gapsFrom 0 set.ranges⟩

/-- The letters of a range in the other case: its small letters if it has any, and its capital
letters otherwise. Only the basic Latin alphabet has cases here. -/
def otherCase? (range : Nat × Nat) : Option (Nat × Nat) :=
  let shared (first last : Char) : Option (Nat × Nat) :=
    let start := max range.1 first.toNat
    let stop := min range.2 last.toNat
    if start ≤ stop then some (start, stop) else none
  -- The letters of the two cases lie apart by one distance.
  match shared 'a' 'z', shared 'A' 'Z' with
  | some (start, stop), _ => some (start - 32, stop - 32)
  | none, some (start, stop) => some (start + 32, stop + 32)
  | none, none => none

/-- The set with the letters of each of its ranges in the other case. -/
def ignoringCase (set : CharSet) : CharSet :=
  ofRanges (set.ranges ++ set.ranges.filterMap otherCase?)

end CharSet

end RuleMetadata.Text

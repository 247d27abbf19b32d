import RuleMetadata.Proofs.Model.Build

/-! Members of a model's elements: each stands behind its type, and in the order of declaration. -/

namespace RuleMetadata

/-- What stands in one of two lists, one behind the other, stands in the first or in the second. -/
theorem getElem?_append_eq_some {front back : List Element} {index : Nat} {element : Element}
    (found : (front ++ back)[index]? = some element) :
    front[index]? = some element ∨
      ∃ further, index = front.length + further ∧ back[further]? = some element := by
  -- The index lies inside of the first list, or goes beyond it.
  rcases Nat.lt_or_ge index front.length with inside | behind
  · exact .inl (by rwa [List.getElem?_append_left inside] at found)
  · rw [List.getElem?_append_right behind] at found
    exact .inr ⟨index - front.length, (Nat.add_sub_cancel' behind).symm, found⟩

/-- A member takes one position at least. -/
theorem MemberDeclaration.size_pos : ∀ member : MemberDeclaration, 0 < member.size
  | .field _ | .method _ | .constructor _ => Nat.one_pos
  | .type ⟨_, _, _, _, _, members⟩ => by
    -- A type has its own element before those of its members.
    rw [size, TypeDeclaration.size]
    exact Nat.lt_add_right (membersSize members) Nat.one_pos

/-- Members have together as many elements as each of them has. -/
theorem membersSize_cons (member : MemberDeclaration) (rest : List MemberDeclaration) :
    membersSize (member :: rest) = member.size + membersSize rest := by
  cases member <;> rfl

/-- The positions of members do not lie in front of the first one. -/
theorem le_of_mem_memberPositions {start position : Nat} {members : List MemberDeclaration}
    (inside : position ∈ memberPositions start members) : start ≤ position := by
  -- Each member moves the start for those behind it.
  induction members generalizing start with
  | nil => cases inside
  | cons member rest ih =>
    rcases List.mem_cons.1 inside with rfl | behind
    · exact Nat.le_refl _
    · exact Nat.le_trans (Nat.le_add_right start member.size) (ih behind)

/-- The positions of members increase. -/
theorem pairwise_memberPositions (start : Nat) (members : List MemberDeclaration) :
    (memberPositions start members).Pairwise (· < ·) := by
  induction members generalizing start with
  | nil => exact .nil
  | cons member rest ih =>
    refine List.pairwise_cons.2 ⟨fun position behind => ?_, ih _⟩
    -- The next member starts behind this one, which is not empty.
    have moved := le_of_mem_memberPositions behind
    have positive := member.size_pos
    omega

namespace Element

/-- Whether the members of an element at a position stand behind it, one behind the other. -/
def MembersFollow (position : Nat) (element : Element) : Prop :=
  (position :: element.enclosed).Pairwise (· < ·)

/-- An element without members has none in a wrong place. -/
theorem membersFollow_of_leaf {position : Nat} {element : Element} (leaf : element.enclosed = []) :
    element.MembersFollow position := by
  rw [MembersFollow, leaf]
  exact List.pairwise_singleton _ _

end Element

mutual

/-- The members of each element of a declared type stand behind it. -/
theorem TypeDeclaration.membersFollow_layout {origin : Origin} {package : Option String}
    {owner : Option Nat} {ownerName : Option String} {simpleName qualifiedName : String}
    {position : Nat} : ∀ declaration : TypeDeclaration, ∀ (index : Nat) (element : Element),
      (declaration.layout origin package owner ownerName simpleName qualifiedName
        position)[index]? = some element →
      element.MembersFollow (position + index)
  | ⟨_, _, _, _, _, members⟩ => by
    intro index element found
    rw [TypeDeclaration.layout] at found
    cases index with
    | zero =>
      -- The type itself stands in front of the first position of its members.
      obtain rfl := Option.some.inj found
      exact List.pairwise_cons.2
        ⟨fun _ inside => le_of_mem_memberPositions inside, pairwise_memberPositions _ members⟩
    | succ index =>
      have below := membersFollow_membersLayout _ _ members index element found
      rwa [Nat.add_assoc, Nat.add_comm 1] at below

/-- The members of each element among some members stand behind it. -/
theorem membersFollow_membersLayout (scope : Scope) (position : Nat) :
    ∀ members : List MemberDeclaration, ∀ (index : Nat) (element : Element),
      (membersLayout scope position members)[index]? = some element →
      element.MembersFollow (position + index)
  | [] => by simp [membersLayout]
  | .field _ :: rest | .method _ :: rest | .constructor _ :: rest => by
    intro index element found
    rw [membersLayout] at found
    cases index with
    | zero =>
      obtain rfl := Option.some.inj found
      exact Element.membersFollow_of_leaf rfl
    | succ index =>
      have behind := membersFollow_membersLayout scope _ rest index element found
      rwa [Nat.add_assoc, Nat.add_comm 1] at behind
  | .type declaration :: rest => by
    intro index element found
    rw [membersLayout] at found
    -- An element is one of the nested type, or stands behind all of these.
    rcases getElem?_append_eq_some found with inside | ⟨further, rfl, behind⟩
    · exact declaration.membersFollow_layout index element inside
    · rw [TypeDeclaration.length_layout, ← Nat.add_assoc]
      exact membersFollow_membersLayout scope _ rest further element behind

end

/-- The members of each element of top-level declarations stand behind it. -/
theorem membersFollow_declarationsElements (origin : Origin) (position : Nat)
    (declarations : List TypeDeclaration) : ∀ (index : Nat) (element : Element),
      (declarationsElements origin position declarations)[index]? = some element →
      element.MembersFollow (position + index) := by
  induction declarations generalizing position with
  | nil => simp [declarationsElements]
  | cons declaration rest ih =>
    intro index element found
    rw [declarationsElements] at found
    -- The declarations are passed as nested types are.
    rcases getElem?_append_eq_some found with inside | ⟨further, rfl, behind⟩
    · exact declaration.membersFollow_layout index element inside
    · rw [TypeDeclaration.length_elements, ← Nat.add_assoc]
      exact ih _ further element behind

namespace Model

/-- The members of each element of a model stand behind it, in the order of declaration. -/
theorem membersFollow_of_build {sources classpath : List TypeDeclaration} {model : Model}
    (built : build sources classpath = .ok model) {position : Nat} {element : Element}
    (found : model.elements[position]? = some element) : element.MembersFollow position := by
  obtain ⟨_, _, _, rfl, _⟩ := build_eq_ok_iff.1 built
  rw [link_getElem?, Option.map_eq_some_iff] at found
  obtain ⟨unlinked, found, rfl⟩ := found
  -- Resolving supertypes leaves the members as they are laid out, classpath first.
  suffices follow : unlinked.MembersFollow position from follow
  rw [List.getElem?_toArray, layout] at found
  rcases getElem?_append_eq_some found with front | ⟨further, rfl, back⟩
  · simpa using membersFollow_declarationsElements _ _ _ _ _ front
  · exact membersFollow_declarationsElements _ _ _ further _ back

end Model

end RuleMetadata

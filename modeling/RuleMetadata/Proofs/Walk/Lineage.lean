import RuleMetadata.Proofs.Model.Forest
import RuleMetadata.Proofs.Walk.Flattening
import RuleMetadata.Signature

/-! Types that extend one another: the walk lists them level by level, topmost first, and so do
signatures. -/

namespace RuleMetadata

namespace Model

/-- Whether an element and all that is declared in it have no supertypes. -/
def IsPlain (model : Model) (position : Nat) : Prop :=
  ∀ inner element, Relation.ReflTransGen model.Owns position inner →
    model.elements[inner]? = some element → element.supertype = none

/-- Types that extend one another, topmost first, down to a given one; their members have no
supertypes. -/
inductive IsLineage (sources classpath : List TypeDeclaration) (model : Model) :
    Option Nat → List (Nat × TypeDeclaration) → Prop where
  | nil : IsLineage sources classpath model none []
  -- The members must be plain, or the walk would leave the line of types through them.
  | extend {supertype : Option Nat} {levels : List (Nat × TypeDeclaration)} {position : Nat}
      {element : Element} {origin : Origin} {declaration : TypeDeclaration} :
    IsLineage sources classpath model supertype levels →
      model.elements[position]? = some element → element.supertype = supertype →
      (listing sources classpath)[position]? = some (origin, .type declaration) →
      (∀ member, model.Owns position member → model.IsPlain member) →
      IsLineage sources classpath model (some position) (levels ++ [(position, declaration)])

end Model

mutual

/-- The positions of what a type declares, each type behind its members. -/
def TypeDeclaration.postorder (position : Nat) : TypeDeclaration → List Nat
  | ⟨_, _, _, _, _, members⟩ => membersPostorder (position + 1) members ++ [position]

/-- The positions of what members declare, in order, each type behind its members. -/
def membersPostorder (position : Nat) : List MemberDeclaration → List Nat
  | [] => []
  | .field _ :: rest | .method _ :: rest | .constructor _ :: rest =>
    position :: membersPostorder (position + 1) rest
  | .type declaration :: rest =>
    -- The members of the type come first, and it takes all their places.
    declaration.postorder position ++ membersPostorder (position + declaration.size) rest

end

/-- A type stands behind its members. -/
theorem TypeDeclaration.postorder_eq (position : Nat) (declaration : TypeDeclaration) :
    declaration.postorder position =
      membersPostorder (position + 1) declaration.members ++ [position] := by
  -- The recursion takes the declaration apart first.
  obtain ⟨_, _, _, _, _, _⟩ := declaration
  rfl

namespace Model

variable {model : Model} {kind : MarkerKind} {position : Nat}

/-- What is declared in a plain element is plain. -/
theorem IsPlain.of_owns (plain : model.IsPlain position) {member : Nat}
    (owns : model.Owns position member) : model.IsPlain member :=
  fun inner element inside => plain inner element (.head owns inside)

/-- The own contribution of an element is itself, if it is marked. -/
theorem filter_isMarked_singleton {element : Element}
    (found : model.elements[position]? = some element) :
    [position].filter (model.IsMarked kind) = if element.carries kind then [position] else [] := by
  simp [List.filter_cons, IsMarked, found]

section Built

variable {sources classpath : List TypeDeclaration}
  (built : build sources classpath = .ok model)
include built

/-- All ways from a plain element come to an end. -/
theorem acc_of_isPlain (plain : model.IsPlain position) : Acc model.Follows position := by
  -- Members stand behind their owner, so that there are fewer positions behind them.
  induction behind : model.size - position using Nat.strongRecOn generalizing position with
  | ind behind ih =>
    subst behind
    refine .intro position ?_
    rintro next ⟨step, taken, rfl⟩
    have inside := lt_size_of_mem_steps taken
    have found : model.elements[position]? = some model.elements[position] :=
      Array.getElem?_eq_getElem inside
    simp only [steps, found, Element.steps, plain _ _ .refl found, Option.toList_none,
      List.map_nil, List.nil_append, List.mem_map] at taken
    obtain ⟨member, enclosed, rfl⟩ := taken
    have follows := (List.pairwise_cons.1 (membersFollow_of_build built found)).1 member enclosed
    have owns := (mem_enclosed_iff_owns built found).1 enclosed
    exact ih _ (show model.size - member < model.size - position by omega)
      (plain.of_owns owns) rfl

/-- All ways from the lowest type of a lineage come to an end. -/
theorem acc_of_isLineage {bottom : Option Nat} {levels : List (Nat × TypeDeclaration)}
    (lineage : IsLineage sources classpath model bottom levels) :
    ∀ position ∈ bottom, Acc model.Follows position := by
  -- The induction is on the levels, of which the last one is the lowest.
  induction lineage with
  | nil => intro position absent; cases absent
  | @extend supertype levels position element origin declaration _ found above _ plain ih =>
    intro bottom here
    obtain rfl := Option.mem_some.1 here
    refine .intro position ?_
    rintro next ⟨step, taken, rfl⟩
    simp only [steps, found, Element.steps, above, List.mem_append, List.mem_map] at taken
    -- A step leads to the next level, or into a member, which is plain.
    rcases taken with ⟨next, up, rfl⟩ | ⟨member, enclosed, rfl⟩
    · exact ih next (Option.mem_toList.1 up)
    · exact acc_of_isPlain built (plain member ((mem_enclosed_iff_owns built found).1 enclosed))

/-- The walk from a plain element lists its members in order, and then the element itself if it is
marked. -/
theorem visits_of_isPlain {element : Element} (found : model.elements[position]? = some element)
    (plain : model.IsPlain position) :
    model.visits kind position = element.enclosed.flatMap (model.visits kind) ++
      [position].filter (model.IsMarked kind) := by
  -- A plain element has no supertype, so that the walk goes into its members at once.
  rw [visits_of_acc (acc_of_isPlain built plain), flattenAt, found,
    filter_isMarked_singleton found]
  simp [plain _ _ .refl found]

/-- What is laid out as a member is owned by what it was declared in. -/
theorem owns_of_split {outer : Nat} {around member : MemberDeclaration} {above : Element}
    {front rest : List MemberDeclaration}
    (laid : IsLaidOut (declared sources classpath) outer around above)
    (split : around.members = front ++ member :: rest) :
    model.Owns outer (outer + 1 + membersSize front) := by
  -- The owners are those of the layout.
  rw [owns_eq_nests built]
  exact ⟨member, _, .member laid split, rfl⟩

mutual

/-- The walk from a plain type lists the marked ones of its declaration, each type behind its
members. -/
theorem visits_of_type {position : Nat} {element : Element} : ∀ declaration : TypeDeclaration,
    IsLaidOut (declared sources classpath) position (.type declaration) element →
    model.IsPlain position → model.visits kind position =
      (declaration.postorder position).filter (model.IsMarked kind)
  | ⟨_, _, _, _, _, members⟩ => by
    intro laid plain
    have found := (getElem?_eq_some_iff_isLaidOut built).2 ⟨_, _, laid, rfl⟩
    have enclosed : (model.linked element).enclosed = memberPositions (position + 1) members :=
      laid.standsAt.enclosed
    -- The members are walked through at their own positions, one behind the other.
    have below : (memberPositions (position + 1) members).flatMap (model.visits kind) =
        (membersPostorder (position + 1) members).filter (model.IsMarked kind) :=
      flatMap_visits_of_members members laid [] rfl fun _ => plain.of_owns
    rw [visits_of_isPlain built found plain, enclosed, below, TypeDeclaration.postorder,
      List.filter_append]

/-- The walks from plain members list the marked ones of their declarations. -/
theorem flatMap_visits_of_members {outer : Nat} {around : MemberDeclaration} {above : Element} :
    ∀ members : List MemberDeclaration,
      IsLaidOut (declared sources classpath) outer around above →
      ∀ front, around.members = front ++ members →
      (∀ member, model.Owns outer member → model.IsPlain member) →
      (memberPositions (outer + 1 + membersSize front) members).flatMap (model.visits kind) =
        (membersPostorder (outer + 1 + membersSize front) members).filter (model.IsMarked kind)
  | [] => by simp [memberPositions, membersPostorder]
  | .field declaration :: rest | .method declaration :: rest
  | .constructor declaration :: rest => by
    intro laid front split plain
    have behind := flatMap_visits_of_members rest laid _ (split.trans (List.append_cons ..)) plain
    have isPlain := plain _ (owns_of_split built laid split)
    have found := (getElem?_eq_some_iff_isLaidOut built).2 ⟨_, _, .member laid split, rfl⟩
    -- A member that is no type has no members itself.
    have own : model.visits kind (outer + 1 + membersSize front) =
        [outer + 1 + membersSize front].filter (model.IsMarked kind) :=
      visits_of_isPlain built found isPlain
    rw [membersSize_append, ← Nat.add_assoc] at behind
    rw [memberPositions, List.flatMap_cons, membersPostorder, ← List.singleton_append,
      List.filter_append, own]
    exact congrArg _ behind
  | .type declaration :: rest => by
    intro laid front split plain
    have behind := flatMap_visits_of_members rest laid _ (split.trans (List.append_cons ..)) plain
    have isPlain := plain _ (owns_of_split built laid split)
    have inside : model.visits kind (outer + 1 + membersSize front) = _ :=
      visits_of_type declaration (.member laid split) isPlain
    rw [membersSize_append, ← Nat.add_assoc] at behind
    rw [memberPositions, List.flatMap_cons, inside, membersPostorder, List.filter_append]
    exact congrArg _ behind

end

/-- The walk from the lowest type of a lineage lists the marked ones of all levels, topmost
first. -/
theorem visits_of_isLineage {bottom : Option Nat} {levels : List (Nat × TypeDeclaration)}
    (lineage : IsLineage sources classpath model bottom levels) :
    bottom.toList.flatMap (model.visits kind) =
      (levels.flatMap fun (position, declaration) => declaration.postorder position).filter
        (model.IsMarked kind) := by
  induction lineage with
  | nil => rfl
  | @extend supertype levels position element origin declaration lineage found above listed plain
      ih =>
    have ends := acc_of_isLineage built (.extend lineage found above listed plain) position rfl
    obtain ⟨entry, unlinked, laid, rfl⟩ := (getElem?_eq_some_iff_isLaidOut built).1 found
    obtain rfl : entry = .type declaration :=
      (Prod.mk.inj (Option.some.inj (laid.standsAt.listed.symm.trans listed))).2
    have enclosed : (model.linked unlinked).enclosed =
        memberPositions (position + 1) declaration.members := laid.standsAt.enclosed
    have members : (memberPositions (position + 1) declaration.members).flatMap
        (model.visits kind) =
          (membersPostorder (position + 1) declaration.members).filter (model.IsMarked kind) :=
      flatMap_visits_of_members built declaration.members laid [] rfl plain
    -- What the supertype lists is that of the levels above.
    rw [Option.toList_some, List.flatMap_singleton, visits_of_acc ends, flattenAt, found]
    simp only [above, enclosed, members, ih, ← filter_isMarked_singleton found,
      List.flatMap_append, List.flatMap_singleton, declaration.postorder_eq, List.filter_append,
      List.append_assoc]

end Built

end Model

/-! ### Signatures -/

namespace Signature

/-- Contributions in a row add their arguments to those that are there. -/
theorem foldl_add (visits : List ArgumentVisit) (state : Signature × List ReturnTypeNote) :
    (visits.foldl add state).1.arguments = state.1.arguments ++
        (visits.filter (·.role = .input)).map (·.argument) ∧
      (visits.foldl add state).1.returns = state.1.returns ++
        (visits.filter (·.role = .returns)).map (·.argument) := by
  -- A contribution goes to the end of the list of its role, and leaves the other one alone.
  induction visits generalizing state with
  | nil => simp
  | cons visit rest ih =>
    obtain ⟨arguments, returns⟩ := ih (add state visit)
    rw [List.foldl_cons, arguments, returns]
    cases role : visit.role <;> simp [add, role]

/-- The arguments of a signature are those that are contributed as inputs, in order. -/
theorem ofVisits_arguments (visits : List ArgumentVisit) :
    (ofVisits visits).1.arguments = (visits.filter (·.role = .input)).map (·.argument) :=
  (foldl_add visits ({}, [])).1

/-- The returns of a signature are those that are contributed as such, in order. -/
theorem ofVisits_returns (visits : List ArgumentVisit) :
    (ofVisits visits).1.returns = (visits.filter (·.role = .returns)).map (·.argument) :=
  (foldl_add visits ({}, [])).2

end Signature

namespace Model

variable {model : Model}

/-- A signature adds up what the visits contribute, each with the description that was found when
the walk came to it. -/
theorem signature_run {σ : Type} (containers : List String)
    (describe : Nat → StateM σ (Option String)) (root : Nat) (state : σ) :
    let positions := model.visits .argument root
    let described := (positions.mapM describe).run state
    (model.signature containers describe root).run state =
      (Signature.ofVisits (model.contributions containers positions described.1), described.2) :=
  -- This is how a signature is made; the descriptions are found before anything is added up.
  rfl

/-- If nothing that can be reached from a root can be reached from itself again, the walk is what
every listing without a guard against cycles gives: what the supertype gives, what the members give
in order, and then the element itself if it is marked. Along types that extend one another, whose
members have no supertypes, a signature holds what each level declares, topmost first. -/
theorem visits_flattening (model : Model) (root : Nat) :
    (∀ kind, model.IsAcyclicFrom root →
      model.IsFlattening kind root (model.visits kind) ∧
      ∀ flatten, model.IsFlattening kind root flatten →
        model.visits kind root = flatten root) ∧
    ∀ sources classpath levels, build sources classpath = .ok model →
      IsLineage sources classpath model (some root) levels →
        model.IsAcyclicFrom root ∧
        (∀ kind, model.visits kind root =
          (levels.flatMap fun (position, declaration) => declaration.postorder position).filter
            (model.IsMarked kind)) ∧
        ∀ {σ : Type} containers (describe : Nat → StateM σ (Option String)) (state : σ),
          let positions :=
            (levels.flatMap fun (position, declaration) => declaration.postorder position).filter
              (model.IsMarked .argument)
          let descriptions := ((positions.mapM describe).run state).1
          let contributions := model.contributions containers positions descriptions
          let result := ((model.signature containers describe root).run state).1
          result.1.arguments = (contributions.filter (·.role = .input)).map (·.argument) ∧
            result.1.returns = (contributions.filter (·.role = .returns)).map (·.argument) := by
  -- The listing is determined without a cycle; along a lineage, there is none.
  refine ⟨fun kind acyclic => ⟨isFlattening_visits acyclic, fun flatten flattening =>
    (flattening.eq_visits acyclic).symm⟩, fun sources classpath levels built lineage => ?_⟩
  have visited (kind : MarkerKind) : model.visits kind root =
      (levels.flatMap fun (position, declaration) => declaration.postorder position).filter
        (model.IsMarked kind) := by
    rw [← visits_of_isLineage built lineage, Option.toList_some, List.flatMap_singleton]
  refine ⟨isAcyclicFrom_of_acc (acc_of_isLineage built lineage root rfl), visited,
    fun containers describe state => ?_⟩
  -- What the signature is made of are the contributions of the visits, and those are known.
  rw [signature_run, visited]
  exact ⟨Signature.ofVisits_arguments _, Signature.ofVisits_returns _⟩

/-- If only top-level types have supertypes, members are plain. -/
theorem isPlain_of_owns {outer member : Nat}
    (only : ∀ element ∈ model.elements.toList, element.owner ≠ none → element.supertype = none)
    (owns : model.Owns outer member) : model.IsPlain member := by
  intro inner element inside found
  -- At the end of the way down there is a member, be it the first one or another.
  have owned : ∃ owner, model.Owns owner inner := by
    cases inside with
    | refl => exact ⟨outer, owns⟩
    | tail _ last => exact ⟨_, last⟩
  obtain ⟨owner, again, there, owner_eq⟩ := owned
  obtain rfl := Option.some.inj (found.symm.trans there)
  refine only element ?_ (by rw [owner_eq]; exact Option.some_ne_none owner)
  exact List.mem_iff_getElem?.2 ⟨inner, Array.getElem?_toList ▸ found⟩

/-- The topmost of three types. -/
def ancestor : TypeDeclaration :=
  { name := "p.Ancestor"
    members := [.field { name := "first", type := some "int", markers := [.argument {}] },
      .method { name := "second", markers := [.argument { role := .returns }] }] }

/-- A type with an argument in a nested type, and one behind it. -/
def parent : TypeDeclaration :=
  { name := "p.Parent", superclass := some "Ancestor"
    -- The nested type has no supertype, so its members stay on this level.
    members := [.type { name := "Part", members := [
        .field { name := "third", type := some "int", markers := [.argument {}] }] },
      .field { name := "fourth", type := some "int", markers := [.argument {}] }] }

/-- The lowest type, which is an argument itself. -/
def child : TypeDeclaration :=
  { name := "p.Child", superclass := some "Parent", markers := [.argument {}]
    members := [.field { name := "fifth", type := some "int", markers := [.argument {}] }] }

/-- The model of the three types. -/
def ancestryModel : Model :=
  (build [child, parent, ancestor] []).toOption.getD ⟨#[]⟩

/-- The three types extend one another. -/
theorem isLineage_ancestry : IsLineage [child, parent, ancestor] [] ancestryModel (some 0)
    [(6, ancestor), (2, parent), (0, child)] := by
  have only : ∀ element ∈ ancestryModel.elements.toList,
      element.owner ≠ none → element.supertype = none := by decide +kernel
  have plain (position : Nat) : ∀ member, ancestryModel.Owns position member →
      ancestryModel.IsPlain member := fun _ => isPlain_of_owns only
  have there (position : Nat) (inside : position < ancestryModel.elements.size) :
      ancestryModel.elements[position]? = some ancestryModel.elements[position] :=
    Array.getElem?_eq_getElem inside
  -- Each level is put below those above it.
  have first : IsLineage [child, parent, ancestor] [] ancestryModel (some 6) [(6, ancestor)] :=
    .extend .nil (there 6 (by decide +kernel)) (by decide +kernel) rfl (plain 6)
  have second : IsLineage [child, parent, ancestor] [] ancestryModel (some 2)
      [(6, ancestor), (2, parent)] :=
    first.extend (there 2 (by decide +kernel)) (by decide +kernel) rfl (plain 2)
  exact second.extend (there 0 (by decide +kernel)) (by decide +kernel) rfl (plain 0)

/-- The walk from the child visits the members of the ancestor first and its own ones last. -/
theorem visits_flattening_ancestry :
    build [child, parent, ancestor] [] = .ok ancestryModel ∧
      IsLineage [child, parent, ancestor] [] ancestryModel (some 0)
        [(6, ancestor), (2, parent), (0, child)] ∧
      ancestryModel.IsAcyclicFrom 0 ∧
      (∀ flatten, ancestryModel.IsFlattening .argument 0 flatten →
        flatten 0 = [7, 8, 4, 5, 1, 0]) ∧
      ((ancestryModel.signature [] (fun _ => (pure none : StateM Unit _)) 0).run
        ()).1.1.arguments.map (·.name) = ["first", "third", "fourth", "fifth", "Child"] := by
  have built : build [child, parent, ancestor] [] = .ok ancestryModel := by decide +kernel
  have visited : ancestryModel.visits .argument 0 = [7, 8, 4, 5, 1, 0] := by decide +kernel
  obtain ⟨flattened, chained⟩ := visits_flattening ancestryModel 0
  obtain ⟨acyclic, -, contributed⟩ := chained _ _ _ built isLineage_ancestry
  -- The reference flattening is the walk, and so is what the signature is made of.
  refine ⟨built, isLineage_ancestry, acyclic, fun flatten flattening => ?_, ?_⟩
  · rw [← (flattened .argument acyclic).2 flatten flattening, visited]
  · rw [(contributed [] _ ()).1]
    decide +kernel

end Model

end RuleMetadata

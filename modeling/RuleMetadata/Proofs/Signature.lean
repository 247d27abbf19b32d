import RuleMetadata.Proofs.Artifact.Assembly
import RuleMetadata.Proofs.Walk.Lineage

/-! Bookkeeping of signatures: each visit of a marked element gives one argument, the last claim of
the return type counts, and a note tells of every claim that replaces the one before it. -/

namespace RuleMetadata

/-- An element on a walk, with the marker that makes it an argument, and with the description that
is found when the walk comes to it. -/
structure MarkedArgument where
  position : Nat
  element : Element
  marker : ArgumentMarker
  description : Option String

/-- The type that an element contributes if it claims the return type. -/
def MarkedArgument.claimedType (marked : MarkedArgument) : String :=
  marked.element.effectiveType.erase

/-- The arguments among others that claim the return type. -/
def claimsAmong (marked : List MarkedArgument) : List MarkedArgument :=
  marked.filter (·.marker.returnType)

namespace Model

variable {model : Model}

/-- The element at a position with its marker as an argument, if it has one. -/
def markedArgument? (model : Model) (position : Nat) (description : Option String) :
    Option MarkedArgument :=
  match model.elements[position]? with
  | none => none
  | some element =>
    match element.marker? .argument with
    | some (.argument marker) => some ⟨position, element, marker, description⟩
    | _ => none

/-- The arguments on the walk from a root with the descriptions of their visits; an element that is
visited twice is there twice. -/
def markedArguments (model : Model) (root : Nat) (descriptions : List (Option String)) :
    List MarkedArgument :=
  -- Each visit has a description of its own, even where it comes to an element again.
  ((model.visits .argument root).zip descriptions).filterMap fun (position, description) =>
    model.markedArgument? position description

/-- The argument of a marked element. -/
def argumentOf (model : Model) (containers : List String) (marked : MarkedArgument) : Argument :=
  -- The marker may name the argument otherwise than the code does.
  { name := marked.marker.nameOverride.getD marked.element.simpleName
    type := (model.argumentType containers marked.element).1
    multiValued := (model.argumentType containers marked.element).2
    required := marked.marker.required
    description := marked.description
    prompt := marked.marker.prompt.bind Text.nonBlank? }

/-- What a marked element contributes to a signature. -/
def contributionOf (model : Model) (containers : List String) (marked : MarkedArgument) :
    ArgumentVisit :=
  { element := marked.element.qualifiedName
    role := marked.marker.role
    argument := model.argumentOf containers marked
    -- Only a marked element that claims it has a part in the return type.
    returnType := if marked.marker.returnType then some marked.claimedType else none }

/-- A marked argument is the element at its position, with its first marker as an argument. -/
theorem markedArgument?_eq_some_iff {position : Nat} {description : Option String}
    {marked : MarkedArgument} :
    model.markedArgument? position description = some marked ↔
      marked.position = position ∧ marked.description = description ∧
        model.elements[position]? = some marked.element ∧
        marked.element.marker? .argument = some (.argument marked.marker) := by
  obtain ⟨place, element, marker, text⟩ := marked
  unfold markedArgument?
  cases found : model.elements[position]? with
  | none => simp
  | some there =>
    -- Only a marker of the kind is one of an argument.
    dsimp only
    split
    · rename_i declared carried
      constructor
      · rintro ⟨⟩
        exact ⟨rfl, rfl, rfl, carried⟩
      · rintro ⟨rfl, rfl, ⟨⟩, again⟩
        simp_all
    · rename_i other
      constructor
      · intro absurdity
        cases absurdity
      · rintro ⟨rfl, rfl, ⟨⟩, again⟩
        exact absurd again (other marker)

/-- An element that carries a marker as an argument is a marked argument. -/
theorem exists_markedArgument? {position : Nat} (isMarked : model.IsMarked .argument position)
    (description : Option String) :
    ∃ marked, model.markedArgument? position description = some marked ∧
      (marked.position, marked.description) = (position, description) := by
  obtain ⟨element, found, carries⟩ := (Option.any_eq_true _ _).1 isMarked
  obtain ⟨marker, carried⟩ := Option.isSome_iff_exists.1 carries
  -- What is found under the kind is of the kind.
  have kind : marker.kind = .argument := by simpa using List.find?_some carried
  cases marker with
  | argument marker =>
    exact ⟨⟨position, element, marker, description⟩,
      markedArgument?_eq_some_iff.2 ⟨rfl, rfl, found, carried⟩, rfl⟩
  | _ => cases kind

/-- Every visit of the walk is one of a marked argument, with the description of that visit. -/
theorem map_markedArguments (model : Model) (root : Nat) (descriptions : List (Option String)) :
    (model.markedArguments root descriptions).map (fun marked =>
      (marked.position, marked.description)) = (model.visits .argument root).zip descriptions := by
  have visited : ∀ position ∈ model.visits .argument root, model.IsMarked .argument position :=
    fun _ => isMarked_of_mem_visitsFrom
  -- The walk only lists marked elements, so that no visit is left out.
  rw [markedArguments]
  generalize model.visits .argument root = positions at visited
  induction positions generalizing descriptions with
  | nil => rfl
  | cons position rest ih =>
    cases descriptions with
    | nil => rfl
    | cons description others =>
      obtain ⟨first, behind⟩ := List.forall_mem_cons.1 visited
      obtain ⟨marked, found, stands⟩ := exists_markedArgument? first description
      simp only [List.zip_cons_cons, List.filterMap_cons, found, List.map_cons, stands,
        ih others behind]

/-- What a position contributes is the contribution of the marked argument there. -/
theorem argumentVisit?_eq (containers : List String) (position : Nat)
    (description : Option String) :
    model.argumentVisit? containers position description =
      (model.markedArgument? position description).map (model.contributionOf containers) := by
  unfold argumentVisit? markedArgument?
  cases model.elements[position]? with
  | none => rfl
  | some element =>
    -- A marker of another kind contributes nothing, and makes no argument either.
    dsimp only
    cases element.marker? .argument with
    | none => rfl
    | some marker => cases marker <;> rfl

/-- The contributions on a walk are those of the marked arguments, in order. -/
theorem contributions_eq (containers : List String) (root : Nat)
    (descriptions : List (Option String)) :
    model.contributions containers (model.visits .argument root) descriptions =
      (model.markedArguments root descriptions).map (model.contributionOf containers) := by
  -- Each visit contributes what its marked argument does, or nothing.
  rw [contributions, markedArguments, List.map_filterMap]
  exact List.filterMap_congr fun visit _ => argumentVisit?_eq containers visit.1 visit.2

end Model

/-! ### Claims of the return type -/

/-- The note that a claim replaces another one. -/
def MarkedArgument.replaces (current previous : MarkedArgument) : ReturnTypeNote :=
  ⟨previous.claimedType, current.claimedType, current.element.qualifiedName⟩

namespace Signature

variable (model : Model) (containers : List String)

/-- The notes on claims in a row, behind a return type that may be claimed already. -/
def replacements (returnType : Option String) : List MarkedArgument → List ReturnTypeNote
  | [] => []
  | claim :: rest =>
    -- The first claim of all replaces nothing, so there is no note on it.
    (returnType.map (⟨·, claim.claimedType, claim.element.qualifiedName⟩)).toList ++
      replacements (some claim.claimedType) rest

/-- Behind a claim, each further one is noted as replacing the one before it. -/
theorem replacements_behind (previous : MarkedArgument) (claims : List MarkedArgument) :
    replacements (some previous.claimedType) claims =
      List.zipWith (fun previous current => current.replaces previous) (previous :: claims)
        claims := by
  -- The induction is on the claims, each of which takes the place of the one before it.
  induction claims generalizing previous with
  | nil => rfl
  | cons claim rest ih =>
    rw [replacements, ih claim, List.zipWith_cons_cons]
    rfl

/-- The first claim is not noted, and each further one as replacing the one before it. -/
theorem replacements_none (claims : List MarkedArgument) :
    replacements none claims =
      List.zipWith (fun previous current => current.replaces previous) claims claims.tail := by
  -- The first claim has none before it.
  cases claims with
  | nil => rfl
  | cons claim rest => exact replacements_behind claim rest

/-- Whatever its role, a contribution that claims the return type becomes it, and is noted if there
was one before; any other one leaves return type and notes as they are. -/
theorem add_contributionOf (state : Signature × List ReturnTypeNote) (marked : MarkedArgument) :
    if marked.marker.returnType then
      (add state (model.contributionOf containers marked)).1.returnType =
          some marked.claimedType ∧
        (add state (model.contributionOf containers marked)).2 =
          state.2 ++ replacements state.1.returnType [marked]
    else
      (add state (model.contributionOf containers marked)).1.returnType =
          state.1.returnType ∧
        (add state (model.contributionOf containers marked)).2 = state.2 := by
  obtain ⟨⟨arguments, returns, returnType⟩, notes⟩ := state
  -- The role only decides on the list that the argument is added to.
  cases claims : marked.marker.returnType <;> cases role : marked.marker.role <;>
    cases returnType <;>
    simp [add, noteOf, Model.contributionOf, replacements, claims, role]

/-- Contributions in a row leave the last claim as the return type, and the notes on all claims. -/
theorem foldl_add_contributionOf (marked : List MarkedArgument)
    (state : Signature × List ReturnTypeNote) :
    ((marked.map (model.contributionOf containers)).foldl add state).1.returnType =
        ((claimsAmong marked).getLast?.map (·.claimedType) <|> state.1.returnType) ∧
      ((marked.map (model.contributionOf containers)).foldl add state).2 =
        state.2 ++ replacements state.1.returnType (claimsAmong marked) := by
  induction marked generalizing state with
  | nil => simp [claimsAmong, replacements]
  | cons first rest ih =>
    obtain ⟨returnType, notes⟩ := ih (add state (model.contributionOf containers first))
    have step := add_contributionOf model containers state first
    rw [List.map_cons, List.foldl_cons, returnType, notes]
    cases claims : first.marker.returnType with
    | false =>
      have same : claimsAmong (first :: rest) = claimsAmong rest := by simp [claimsAmong, claims]
      simp only [claims, Bool.false_eq_true, if_false] at step
      rw [step.1, step.2, same]
      exact ⟨rfl, rfl⟩
    | true =>
      have added : claimsAmong (first :: rest) = first :: claimsAmong rest := by
        simp [claimsAmong, claims]
      simp only [claims, if_true] at step
      rw [step.1, step.2, added]
      constructor
      · -- Without a later claim, this one is the last.
        rw [List.getLast?_cons]
        cases (claimsAmong rest).getLast? <;> rfl
      · simp [replacements]

/-- The return type of a signature is the last claim, and each claim but the first is noted as
replacing the one before it. -/
theorem ofVisits_contributionOf (marked : List MarkedArgument) :
    (ofVisits (marked.map (model.contributionOf containers))).1.returnType =
        (claimsAmong marked).getLast?.map (·.claimedType) ∧
      (ofVisits (marked.map (model.contributionOf containers))).2 =
        List.zipWith (fun previous current => current.replaces previous) (claimsAmong marked)
          (claimsAmong marked).tail := by
  -- The fold carries the last claim, and the notes so far.
  obtain ⟨returnType, notes⟩ := foldl_add_contributionOf model containers marked ({}, [])
  rw [ofVisits, returnType, notes]
  exact ⟨by cases (claimsAmong marked).getLast? <;> rfl, replacements_none _⟩

/-- The marked arguments of a role contribute the arguments of that role. -/
theorem arguments_of_role (marked : List MarkedArgument) (role : ArgumentRole) :
    ((marked.map (model.contributionOf containers)).filter (·.role = role)).map
        (·.argument) =
      (marked.filter (·.marker.role = role)).map (model.argumentOf containers) := by
  -- The role of a contribution is that of its marker.
  rw [List.filter_map, List.map_map]
  rfl

/-- Every argument has one of the two roles. -/
theorem length_filter_roles (marked : List MarkedArgument) :
    (marked.filter (·.marker.role = .input)).length +
      (marked.filter (·.marker.role = .returns)).length = marked.length := by
  -- What is no input is a return argument.
  have other : ∀ argument ∈ marked, decide (argument.marker.role = .returns) =
      !decide (argument.marker.role = .input) := fun argument _ => by
    cases argument.marker.role <;> rfl
  rw [List.filter_congr other]
  exact (List.length_eq_length_filter_add _).symm

end Signature

/-! ### Rules -/

namespace Model

/-- What a signature with its notes has to do with the marked arguments on a walk, whose visits
found some descriptions. -/
structure Accounts (model : Model) (containers : List String)
    (descriptions : List (Option String)) (root : Nat) (signature : Signature)
    (notes : List ReturnTypeNote) : Prop where
  /-- Each visit is one of a marked element, described as it was found on that visit. -/
  visited : (model.markedArguments root descriptions).map (·.position) =
    model.visits .argument root
  described : (model.markedArguments root descriptions).map (·.description) = descriptions
  marked : ∀ marked ∈ model.markedArguments root descriptions,
    model.elements[marked.position]? = some marked.element ∧
      marked.element.marker? .argument = some (.argument marked.marker)
  /-- The arguments are those of the visits of one role, and the returns those of the other. -/
  inputs : signature.arguments =
    ((model.markedArguments root descriptions).filter (·.marker.role = .input)).map
      (model.argumentOf containers)
  returns : signature.returns =
    ((model.markedArguments root descriptions).filter (·.marker.role = .returns)).map
      (model.argumentOf containers)
  split : signature.arguments.length + signature.returns.length =
    (model.visits .argument root).length
  /-- The last claim is the return type. -/
  returnType : signature.returnType =
    (claimsAmong (model.markedArguments root descriptions)).getLast?.map (·.claimedType)
  /-- Each claim but the first is noted as replacing the one before it. -/
  noted : notes.length = (claimsAmong (model.markedArguments root descriptions)).length - 1
  replaced : ∀ index previous current,
    (claimsAmong (model.markedArguments root descriptions))[index]? = some previous →
      (claimsAmong (model.markedArguments root descriptions))[index + 1]? = some current →
        notes[index]? =
          some ⟨previous.claimedType, current.claimedType, current.element.qualifiedName⟩

/-- The signature of a type accounts for the marked arguments on the walk, if every visit of it
found a description or the lack of one. -/
theorem accounts_ofVisits (model : Model) (containers : List String) (root : Nat)
    {descriptions : List (Option String)}
    (complete : descriptions.length = (model.visits .argument root).length) :
    let result := Signature.ofVisits
      (model.contributions containers (model.visits .argument root) descriptions)
    model.Accounts containers descriptions root result.1 result.2 := by
  intro result
  have paired := model.map_markedArguments root descriptions
  -- Neither list of the pairs is cut off at the end of the other one.
  have visited : (model.markedArguments root descriptions).map (·.position) =
      model.visits .argument root := by
    have found := List.map_fst_zip complete.ge
    rw [← paired, List.map_map] at found
    exact found
  have described : (model.markedArguments root descriptions).map (·.description) =
      descriptions := by
    have found := List.map_snd_zip complete.le
    rw [← paired, List.map_map] at found
    exact found
  obtain ⟨returnType, notes⟩ :=
    Signature.ofVisits_contributionOf model containers (model.markedArguments root descriptions)
  have inputs := Signature.ofVisits_arguments
    ((model.markedArguments root descriptions).map (model.contributionOf containers))
  have returns := Signature.ofVisits_returns
    ((model.markedArguments root descriptions).map (model.contributionOf containers))
  rw [Signature.arguments_of_role] at inputs returns
  simp only [result, contributions_eq]
  refine ⟨visited, described, fun marked inside => ?_, inputs, returns, ?_, returnType, ?_, ?_⟩
  · obtain ⟨visit, _, found⟩ := List.mem_filterMap.1 inside
    obtain ⟨stands, _, there⟩ := markedArgument?_eq_some_iff.1 found
    exact stands ▸ there
  · -- Every marked argument is on one of the two sides.
    rw [inputs, returns, List.length_map, List.length_map, Signature.length_filter_roles,
      ← visited, List.length_map]
  · rw [notes, List.length_zipWith, List.length_tail]
    omega
  · intro index previous current first second
    rw [notes, List.getElem?_zipWith, first, List.getElem?_tail, second]
    rfl

end Model

namespace Extraction

/-- Whether the warnings about the types of a rule are right: if it has several, the first is kept,
and all others are discarded in order. -/
def WarnsOfTypes (name : String) (types : List String) (warnings : List Warning) : Prop :=
  -- There is nothing to choose from, and so nothing to warn of.
  (types.length ≤ 1 ∧ warnings = []) ∨
    ∃ kept discarded, types = kept :: discarded ∧ discarded ≠ [] ∧
      warnings = [.ambiguousRuleType name kept discarded]

/-- A rule is warned of its types just when there are several. -/
theorem warnsOfTypes_typeWarnings (name : String) (types : List String) :
    WarnsOfTypes name types (typeWarnings name types) := by
  -- Only a second type gives rise to a warning, which names the first one as kept.
  match types with
  | [] => exact .inl ⟨by simp, rfl⟩
  | [only] => exact .inl ⟨by simp, rfl⟩
  | kept :: other :: others => exact .inr ⟨kept, other :: others, rfl, by simp, rfl⟩

/-- Every visit of a marked element gives the signature of a type one argument, on the side of its
role and with the description that is found on that visit. Independently of that, the last claim of
the return type counts, and each claim but the first is noted as replacing the one before it. A rule
is warned of its types if it has several, and then of every note, unless it has no usable name. -/
theorem rule_accounts {σ : Type} (extraction : Extraction (StateM σ)) (root : Nat) (state : σ) :
    let visits := extraction.model.visits .argument root
    let descriptions := ((visits.mapM extraction.describe).run state).1
    let result := ((extraction.model.signature extraction.containers extraction.describe
      root).run state).1
    extraction.model.Accounts extraction.containers descriptions root result.1 result.2 ∧
      ∀ implementationAttribute element marker,
        match objectName element marker.nameOverride with
        | .ok name => ∃ artifact warnings,
          ((extraction.rule implementationAttribute root element marker).run state).1 =
            .ok (artifact, warnings ++ result.2.map (.returnTypeReplaced name)) ∧
          artifact.signature = result.1 ∧ WarnsOfTypes name marker.types warnings
        | .error invalid =>
          (extraction.rule implementationAttribute root element marker).run state =
            (.error invalid, state) := by
  intro visits descriptions result
  -- Each visit of the walk asks for a description, and gets one or none.
  have complete : descriptions.length = visits.length :=
    length_run_mapM extraction.describe visits state
  refine ⟨extraction.model.accounts_ofVisits _ root complete, ?_⟩
  intro implementationAttribute element marker
  split
  · rename_i name accepted
    rw [rule_run extraction _ _ accepted]
    exact ⟨_, _, rfl, rfl, warnsOfTypes_typeWarnings name marker.types⟩
  · rename_i invalid refused
    exact rule_run_of_refused extraction _ _ refused state

/-- A type with two members that claim the return type, of which one is returned itself. -/
def claimant : TypeDeclaration :=
  { name := "p.Base"
    members := [
      .field { name := "sum", type := some "int", markers := [.argument { returnType := true }] },
      -- This one comes last, so its claim stands.
      .method { name := "parts", returns := "List<String>"
                markers := [.argument { role := .returns, returnType := true }] }] }

/-- A rule of several types that comes to that type twice, through its own supertype and through
that of a nested type. -/
def heir : TypeDeclaration :=
  { name := "p.Heir", superclass := some "Base"
    markers := [.rule { types := ["first", "second", "third"] }]
    -- Members are walked behind the supertype, so the claims are made a second time here.
    members := [.type { name := "Inner", superclass := some "Base" },
      .field { name := "last", type := some "int", markers := [.argument {}] }] }

/-- The rule as an element. -/
def heirElement : Element :=
  { kind := .type, simpleName := "Heir", qualifiedName := "p.Heir", origin := .source
    superclass := some (.ofText "Base"), supertype := some 3, enclosed := [1, 2]
    markers := heir.markers, package := some "p", ownerName := some "p" }

/-- The model of the two types, of which nothing is described. -/
def heirExtraction : Extraction (StateM Unit) where
  model := (Model.build [heir, claimant] []).toOption.getD ⟨#[]⟩
  containers := []
  describe := fun _ => pure none

/-- The walk comes to the claimant twice, so that its two claims take turns as the return type. -/
theorem rule_accounts_heir :
    heirExtraction.model.elements[0]? = some heirElement ∧
      objectName heirElement none = .ok "Heir" ∧
      heirExtraction.model.visits .argument 0 = [4, 5, 4, 5, 2] ∧
      ∃ artifact, ((heirExtraction.rule "implementation" 0 heirElement
          { types := ["first", "second", "third"] }).run ()).1 = .ok (artifact, [
            .ambiguousRuleType "Heir" "first" ["second", "third"],
            .returnTypeReplaced "Heir" ⟨"int", "List", "p.Base.parts"⟩,
            .returnTypeReplaced "Heir" ⟨"List", "int", "p.Base.sum"⟩,
            .returnTypeReplaced "Heir" ⟨"int", "List", "p.Base.parts"⟩]) ∧
        artifact.signature.returnType = some "List" ∧
        artifact.signature.arguments.map (·.name) = ["sum", "sum", "last"] := by
  have named : objectName heirElement none = .ok "Heir" := by decide +kernel
  have notes : ((heirExtraction.model.signature heirExtraction.containers heirExtraction.describe
      0).run ()).1.2 = [⟨"int", "List", "p.Base.parts"⟩, ⟨"List", "int", "p.Base.sum"⟩,
        ⟨"int", "List", "p.Base.parts"⟩] := by decide +kernel
  obtain ⟨accounts, warned⟩ := rule_accounts heirExtraction 0 ()
  have assembles := warned "implementation" heirElement { types := ["first", "second", "third"] }
  simp only [RuleMarker.nameOverride, Option.bind_none, named, notes] at assembles
  obtain ⟨artifact, warnings, assembled, signature, types⟩ := assembles
  refine ⟨by decide +kernel, named, by decide +kernel, artifact, ?_, ?_, ?_⟩
  · -- There are several types, so that there is a warning about them.
    rcases types with ⟨few, -⟩ | ⟨kept, discarded, split, -, rfl⟩
    · simp at few
    · obtain ⟨rfl, rfl⟩ := List.cons.inj split
      exact assembled
  · rw [signature, accounts.returnType]
    decide +kernel
  · rw [signature, accounts.inputs]
    decide +kernel

end Extraction

end RuleMetadata

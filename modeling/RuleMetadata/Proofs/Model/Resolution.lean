import RuleMetadata.Proofs.Model.Build
import RuleMetadata.Proofs.TypeExpr.Erasure

/-! Resolution of names: what a name stands for inside a package, and when a type expression that is
qualified by its head comes to the same type as its erased name. -/

namespace RuleMetadata.Model

variable {model : Model} {package : Option String} {name : String} {position : Nat}

/-! ### Names inside a package -/

/-- Whether a name inside a package stands for one of some names: for itself, or else for the name
with the package in front. -/
inductive StandsFor (names : List String) (package : Option String) (name : String) :
    String → Prop where
  | written : name ∈ names → StandsFor names package name name
  | relative {inside : String} : name ∉ names → package = some inside →
    qualifiedBy inside name ∈ names → StandsFor names package name (qualifiedBy inside name)

/-- A name resolves to the type that it stands for. -/
theorem resolve?_eq_some_iff : model.resolve? package name = some position ↔
    ∃ full, StandsFor (typeNames model.elements.toList) package name full ∧
      model.lookup? full = some position := by
  -- The name as written comes first on both sides, and the package only if it is none.
  cases looked_up : model.lookup? name with
  | some found =>
    -- As written, the name is that of a type, so that its package does not count.
    have known : name ∈ typeNames model.elements.toList :=
      isSome_lookup?_iff.1 (by rw [looked_up]; rfl)
    rw [resolve?, looked_up]
    constructor
    · intro same
      exact ⟨name, .written known, looked_up.trans same⟩
    · rintro ⟨full, stands, found⟩
      cases stands with
      | written => exact looked_up.symm.trans found
      | relative unknown => exact absurd known unknown
  | none =>
    have unknown : name ∉ typeNames model.elements.toList := by
      rw [← isSome_lookup?_iff, looked_up]
      exact Bool.false_ne_true
    rw [resolve?, looked_up]
    constructor
    · intro resolved
      obtain ⟨inside, within, found⟩ := Option.bind_eq_some_iff.1 resolved
      have known := isSome_lookup?_iff.1 (Option.isSome_of_eq_some found)
      exact ⟨_, .relative unknown within known, found⟩
    · rintro ⟨full, stands, found⟩
      cases stands with
      | written known => exact absurd known unknown
      | relative _ within => exact Option.bind_eq_some_iff.2 ⟨_, within, found⟩

/-- What a name resolves to is an element of the model. -/
theorem exists_getElem?_of_resolve? (resolved : model.resolve? package name = some position) :
    ∃ element, model.elements[position]? = some element := by
  -- A name resolves to what some name is looked up to.
  obtain ⟨full, _, found⟩ := resolve?_eq_some_iff.1 resolved
  obtain ⟨element, stands, _⟩ := exists_of_lookup? found
  exact ⟨element, stands⟩

/-- One position is looked up for one name. -/
theorem eq_of_lookup? {other : String} (found : model.lookup? name = some position)
    (again : model.lookup? other = some position) : name = other := by
  -- Both are the name of the element at the position.
  obtain ⟨element, stands, _, rfl⟩ := exists_of_lookup? found
  obtain ⟨_, same, _, rfl⟩ := exists_of_lookup? again
  rw [Option.some.inj (stands.symm.trans same)]

/-- A name with a package in front is another name. -/
theorem qualifiedBy_ne (inside name : String) : qualifiedBy inside name ≠ name := by
  -- With a point in front of it at least, a name is longer than before.
  intro same
  have lengths := congrArg String.length same
  simp only [qualifiedBy, String.length_append] at lengths
  have point : ".".length = 1 := rfl
  omega

/-! ### Qualified expressions -/

/-- Whether a name is that of a type only with the package in front. -/
def IsRelative (model : Model) (package : Option String) (name : String) : Prop :=
  model.lookup? name = none ∧
    ∃ inside, package = some inside ∧ (model.lookup? (qualifiedBy inside name)).isSome

/-- A name that is that of a type as written resolves to that type. -/
theorem resolve?_of_lookup? (found : model.lookup? name = some position) :
    model.resolve? package name = some position := by
  rw [resolve?, found]

/-- A name that is not that of a type as written is relative just when it resolves to a type. -/
theorem isRelative_iff_of_none (unknown : model.lookup? name = none) :
    model.IsRelative package name ↔ model.resolve? package name ≠ none := by
  rw [IsRelative, resolve?, unknown]
  -- Without a package, there is no other name to look up.
  cases package with
  | none => simp
  | some inside => simp [Option.isSome_iff_ne_none]

/-- A name that is that of a type as written is not relative. -/
theorem not_isRelative_of_lookup? (found : model.lookup? name = some position) :
    ¬ model.IsRelative package name := by
  -- A relative name is not found as it is written.
  rintro ⟨unknown, _⟩
  rw [found] at unknown
  cases unknown

/-- A name is looked up to what it resolves to, unless it is relative. -/
theorem lookup?_eq_resolve?_iff : model.lookup? name = model.resolve? package name ↔
    model.resolve? package name = none ∨ ¬ model.IsRelative package name := by
  cases written : model.lookup? name with
  | none =>
    -- Only a relative name resolves to a type then, so both of the right say the same.
    rw [isRelative_iff_of_none written, ne_eq, not_not, or_self]
    exact eq_comm
  | some position =>
    rw [resolve?_of_lookup? written]
    exact iff_of_true rfl (.inr (not_isRelative_of_lookup? written))

/-- An expression is qualified where its head is relative. -/
theorem qualify_of_isRelative {inside : String} {type : TypeExpr} (present : type.head ≠ "")
    (relative : model.IsRelative (some inside) type.head) :
    model.qualify (some inside) type = .ofText (qualifiedBy inside type.head ++ type.tail) := by
  -- The head is not found as it is written, but in the package.
  obtain ⟨unknown, _, within, known⟩ := relative
  obtain rfl := Option.some.inj within
  simp [qualify, present, unknown, known]

/-- An expression whose head is not relative stays as it is. -/
theorem qualify_of_not_isRelative {type : TypeExpr}
    (settled : ¬ (type.head ≠ "" ∧ model.IsRelative package type.head)) :
    model.qualify package type = type := by
  -- There is no head, or it is that of a type as written, or its package does not help.
  by_cases stays : type.head = "" ∨ (model.lookup? type.head).isSome
  · simp [qualify, stays]
  rw [not_or, Option.not_isSome_iff_eq_none] at stays
  obtain ⟨present, unknown⟩ := stays
  cases package with
  | none => simp [qualify]
  | some inside =>
    -- The head is there and is no type, so that the package has no type of that name either.
    have missing : ¬ (model.lookup? (qualifiedBy inside type.head)).isSome := by
      intro known
      exact settled ⟨present, unknown, inside, rfl, known⟩
    simp [qualify, missing]

/-- Inside a package whose name has blanks or angle brackets, an expression is never qualified to a
type that its erased name stands for with the package in front: what is looked up is erased once
more, and the name of that type is not. Where neither the head nor the erased name is relative, such
a package does not count. -/
theorem lookup?_erase_qualify_of_not_isErased (model : Model) {inside : String}
    (rough : ¬ TypeExpr.IsErased inside.toList) (type : TypeExpr) :
    (model.IsRelative (some inside) type.erase →
      model.lookup? (model.qualify (some inside) type).erase ≠
        model.resolve? (some inside) type.erase) ∧
    (¬ (type.head ≠ "" ∧ model.IsRelative (some inside) type.head) →
      ¬ model.IsRelative (some inside) type.erase →
        model.lookup? (model.qualify (some inside) type).erase =
          model.resolve? (some inside) type.erase) := by
  constructor
  · rintro ⟨unknown, _, within, known⟩ same
    obtain rfl := Option.some.inj within
    obtain ⟨position, found⟩ := Option.isSome_iff_exists.1 known
    have resolved : model.resolve? (some inside) type.erase = some position := by
      simp [resolve?, unknown, found]
    -- Both would be the name of one type, of which the package is a part.
    have names := eq_of_lookup? (same.trans resolved) found
    have erased := TypeExpr.isErased_eraseChars 0
      (model.qualify (some inside) type).text.toList
    rw [← TypeExpr.toList_erase, names] at erased
    simp only [qualifiedBy, String.toList_append, TypeExpr.isErased_append] at erased
    exact rough erased.1.1
  · intro settled unknown
    rw [qualify_of_not_isRelative settled]
    exact lookup?_eq_resolve?_iff.2 (.inr unknown)

/-- A qualified expression is looked up to what its erased name resolves to just when that is
nothing, or the head of the expression and its erased name are relative alike; so it is where the
erased name is the head. The name of the package is one that erasure leaves as it is; what holds
inside of any other package is above. -/
theorem lookup?_erase_qualify_eq_iff (model : Model) (package : Option String)
    (plain : ∀ inside, package = some inside → TypeExpr.IsErased inside.toList) (type : TypeExpr) :
    (model.lookup? (model.qualify package type).erase = model.resolve? package type.erase ↔
      model.resolve? package type.erase = none ∨
        (type.head ≠ "" ∧ model.IsRelative package type.head ↔
          model.IsRelative package type.erase)) ∧
    (type.erase = type.head → type.head ≠ "" →
      model.lookup? (model.qualify package type).erase = model.resolve? package type.erase) := by
  have agree : model.lookup? (model.qualify package type).erase =
      model.resolve? package type.erase ↔ model.resolve? package type.erase = none ∨
        (type.head ≠ "" ∧ model.IsRelative package type.head ↔
          model.IsRelative package type.erase) := by
    by_cases relative : type.head ≠ "" ∧ model.IsRelative package type.head
    · -- The package is put in front of the head, and so in front of the erased name.
      obtain ⟨present, relative_head⟩ := relative
      obtain ⟨_, inside, rfl, _⟩ := id relative_head
      rw [qualify_of_isRelative present relative_head,
        TypeExpr.erase_qualifiedBy (plain inside rfl)]
      have alike : (type.head ≠ "" ∧ model.IsRelative (some inside) type.head ↔
          model.IsRelative (some inside) type.erase) ↔
            model.IsRelative (some inside) type.erase := iff_true_left ⟨present, relative_head⟩
      rw [alike]
      cases written : model.lookup? type.erase with
      | none =>
        rw [isRelative_iff_of_none written, resolve?, written]
        exact iff_of_true rfl (em _)
      | some position =>
        -- The type that is named as written is another one than that inside the package.
        rw [resolve?_of_lookup? written]
        refine iff_of_false ?_ ?_
        · intro again
          exact qualifiedBy_ne inside type.erase (eq_of_lookup? again written)
        · exact not_or.2 ⟨Option.some_ne_none _, not_isRelative_of_lookup? written⟩
    · -- The expression stays as it is, and is looked up as written.
      have alike : (type.head ≠ "" ∧ model.IsRelative package type.head ↔
          model.IsRelative package type.erase) ↔ ¬ model.IsRelative package type.erase :=
        iff_false_left relative
      rw [qualify_of_not_isRelative relative, alike]
      exact lookup?_eq_resolve?_iff
  refine ⟨agree, ?_⟩
  intro same present
  -- A head that is the whole erased name is relative just when that is.
  refine agree.2 (.inr ?_)
  rw [same]
  exact and_iff_right present

/-- A type whose simple name has a point in its package, and a field of it. -/
def scattered : List TypeDeclaration :=
  [{ name := "p.Outer.Inner" },
   { name := "p.Rule", members := [.field { name := "part", type := some "Outer<T>.Inner" }] }]

/-- The model of the types. -/
def scatteredModel : Model :=
  (build scattered []).toOption.getD ⟨#[]⟩

/-- Qualified, the nested type is found as it resolves when its argument stands behind the name, and
so is an array of a type that there is not. -/
theorem lookup?_erase_qualify_eq_iff_scattered :
    build scattered [] = .ok scatteredModel ∧
      scatteredModel.lookup? (scatteredModel.qualify (some "p") (.ofText "Outer.Inner<T>")).erase =
        scatteredModel.resolve? (some "p") "Outer.Inner" ∧
      scatteredModel.resolve? (some "p") "Outer.Inner" = some 0 ∧
      scatteredModel.lookup? (scatteredModel.qualify (some "p") (.ofText "Outer<T>[]")).erase =
        scatteredModel.resolve? (some "p") "Outer[]" := by
  have built : build scattered [] = .ok scatteredModel := by decide +kernel
  have plain : ∀ inside, some "p" = some inside → TypeExpr.IsErased inside.toList := by
    intro inside same
    obtain rfl := Option.some.inj same
    decide
  -- The erased name is the head of the first expression, and the second names no type.
  have whole := (lookup?_erase_qualify_eq_iff scatteredModel (some "p") plain
    (.ofText "Outer.Inner<T>")).2 (by decide +kernel) (by decide +kernel)
  have array := (lookup?_erase_qualify_eq_iff scatteredModel (some "p") plain
    (.ofText "Outer<T>[]")).1.2 (.inl (by decide +kernel))
  exact ⟨built, whole, by decide +kernel, array⟩

/-- An element can qualify an expression to another type than its erased name resolves to: the
argument stands in the middle of the name, so that the head alone is that of no type. -/
theorem lookup?_erase_qualify_ne :
    ¬ ∀ (sources classpath : List TypeDeclaration) (model : Model),
      build sources classpath = .ok model → ∀ element ∈ model.elements.toList,
        ∀ type : TypeExpr, model.lookup? (model.qualify element.package type).erase =
          model.resolve? element.package type.erase := by
  intro agree
  have built : build scattered [] = .ok scatteredModel := by decide +kernel
  have packages : scatteredModel.elements[2]?.map (·.package) = some (some "p") := by
    decide +kernel
  obtain ⟨field, found, package⟩ := Option.map_eq_some_iff.1 packages
  have inside : field ∈ scatteredModel.elements.toList :=
    Array.mem_toList_iff.2 (Array.mem_of_getElem? found)
  -- The field has the package of the type around it, and its type has an argument inside its name.
  have same := agree scattered [] scatteredModel built field inside (.ofText "Outer<T>.Inner")
  rw [package] at same
  exact absurd same (by decide +kernel)

end RuleMetadata.Model

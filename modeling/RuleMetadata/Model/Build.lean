import RuleMetadata.Model.Basic

/-! Building a model from the declarations of the sources and the classpath. -/

namespace RuleMetadata

/-- Why declarations form no model. -/
inductive ModelError where
  | duplicateType (name : String)
  | cyclicHierarchy (name : String)
  | missingType (element : String)
  deriving DecidableEq, Repr

/-- The wording of a model error. -/
def ModelError.message : ModelError → String
  | .duplicateType name => s!"type `{name}` is declared more than once"
  | .cyclicHierarchy name => s!"supertype chain of `{name}` is cyclic"
  | .missingType element => s!"field `{element}` has no declared type"

namespace Model

/-- Checks elements in order against the names of the types before them, and adds theirs: a type
must have a new name, and a field a declared type. -/
def checkElements (seen : List String) : List Element → Except ModelError (List String)
  | [] => .ok seen
  | element :: rest =>
    match element.kind with
    | .type =>
      -- Nested types count as well, so the name of one may not be that of another one either.
      if element.qualifiedName ∈ seen then .error (.duplicateType element.qualifiedName)
      else checkElements (element.qualifiedName :: seen) rest
    | .field =>
      if element.declaredType.isNone then .error (.missingType element.qualifiedName)
      else checkElements seen rest
    -- Methods and constructors may share a name, and have no type that could be missing.
    | _ => checkElements seen rest

/-- The first name of a list that stands in it, or in the names before it, already. -/
def firstRepeated? (seen : List String) : List String → Option String
  | [] => none
  | name :: rest => if name ∈ seen then some name else firstRepeated? (name :: seen) rest

/-- Whether a source declares a top-level type of the name. -/
def shadows (sources : List TypeDeclaration) (declaration : TypeDeclaration) : Bool :=
  sources.any (·.name = declaration.name)

/-- The classpath declarations without a source of the same name. -/
def unshadowed (sources classpath : List TypeDeclaration) : List TypeDeclaration :=
  classpath.filter (!shadows sources ·)

/-- Checks the classpath declarations in order; a shadowed one only has to have a new name. -/
def checkClasspath (sources : List TypeDeclaration) (declared seen : List String) :
    List TypeDeclaration → Except ModelError (List String)
  | [] => .ok seen
  | declaration :: rest => do
    if declaration.name ∈ declared then throw (.duplicateType declaration.name)
    -- A shadowed declaration has no elements, so its members are not checked.
    let seen ← if shadows sources declaration then pure seen
      else checkElements seen (declaration.elements .classpath 0)
    checkClasspath sources (declaration.name :: declared) seen rest

/-- Checks the source declarations in order. -/
def checkSources (seen : List String) : List TypeDeclaration → Except ModelError (List String)
  | [] => .ok seen
  | declaration :: rest => do
    -- The names of the classpath and of earlier sources have been seen.
    let seen ← checkElements seen (declaration.elements .source 0)
    checkSources seen rest

/-- The elements of the unshadowed classpath, followed by those of the sources. -/
def layout (sources classpath : List TypeDeclaration) : List Element :=
  -- The sources stand behind the classpath, from where it ends.
  let front := declarationsElements .classpath 0 (unshadowed sources classpath)
  front ++ declarationsElements .source front.length sources

/-- A model with every supertype expression resolved. -/
def link (model : Model) : Model :=
  ⟨model.elements.map fun element =>
    -- A supertype is named without its type arguments.
    { element with
      supertype := element.superclass.bind fun type =>
        model.resolve? element.package type.erase }⟩

/-- Whether the chain of supertypes from an element on ends within a number of steps. -/
def chainEnds (model : Model) : Nat → Nat → Bool
  | 0, _ => false
  | fuel + 1, position =>
    match model.elements[position]?.bind (·.supertype) with
    -- A supertype that names no type of the model ends the chain.
    | none => true
    | some next => model.chainEnds fuel next

/-- The first type whose chain of supertypes never ends. -/
def firstCyclic? (model : Model) : Option Element :=
  -- A chain that ends visits no element twice, so it ends within the number of elements.
  ((model.positions (·.kind = .type)).find? (!model.chainEnds (model.size + 1) ·)).bind
    (model.elements[·]?)

/-- The model of the declarations of a round; a source hides a classpath type of its name. -/
def build (sources classpath : List TypeDeclaration) : Except ModelError Model := do
  -- The sources are checked for repeated names before anything is laid out.
  if let some name := firstRepeated? [] (sources.map (·.name)) then
    throw (.duplicateType name)
  let seen ← checkClasspath sources [] [] classpath
  let _ ← checkSources seen sources
  -- Cycles can be seen only after all supertypes were resolved.
  let model := link ⟨(layout sources classpath).toArray⟩
  match model.firstCyclic? with
  | some element => throw (.cyclicHierarchy element.qualifiedName)
  | none => return model

end Model

end RuleMetadata

import RuleMetadata.Model.Element

/-! Models: elements in one list, with names resolved to positions. -/

namespace RuleMetadata

/-- The elements of a round; an owner stands before its members. -/
structure Model where
  elements : Array Element
  deriving DecidableEq, Repr

namespace Model

/-- The number of elements. -/
def size (model : Model) : Nat :=
  model.elements.size

/-- The position of the type with a qualified name. -/
def lookup? (model : Model) (name : String) : Option Nat :=
  model.elements.findIdx? fun element => element.kind = .type && element.qualifiedName = name

/-- The position of a type named inside a package: as written, or else relative to the package. -/
def resolve? (model : Model) (package : Option String) (name : String) : Option Nat :=
  match model.lookup? name with
  -- A name that is qualified already is found without its package.
  | some position => some position
  | none => package.bind fun package => model.lookup? (qualifiedBy package name)

/-- A type expression with its head qualified by the package, if only that names a type of the
model. -/
def qualify (model : Model) (package : Option String) (type : TypeExpr) : TypeExpr :=
  let head := type.head
  -- A head that names a type as it stands is not touched.
  if head = "" || (model.lookup? head).isSome then type
  else match package with
    | none => type
    | some package =>
      let name := qualifiedBy package head
      if (model.lookup? name).isSome then .ofText (name ++ type.tail) else type

/-- The positions of the elements that satisfy a condition. -/
def positions (model : Model) (condition : Element → Bool) : List Nat :=
  (List.range model.size).filter fun position => model.elements[position]?.any condition

/-- The positions of the top-level types: first those of the sources, then the others. -/
def topLevel (model : Model) : List Nat :=
  -- Only top-level types have no owner.
  model.positions (fun element => element.owner.isNone && element.origin = .source) ++
    model.positions (fun element => element.owner.isNone && element.origin = .classpath)

end Model

end RuleMetadata

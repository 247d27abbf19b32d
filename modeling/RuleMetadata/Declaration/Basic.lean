import RuleMetadata.Declaration.Marker

/-! Declared types and their members. -/

namespace RuleMetadata

/-- A declared field; its type may be missing until a model is built. -/
structure FieldDeclaration where
  name : String
  type : Option String := none
  doc : Option String := none
  markers : List Marker := []
  deriving DecidableEq, Repr

/-- A declared method; without a declared result it returns nothing. -/
structure MethodDeclaration where
  name : String
  returns : String := "void"
  doc : Option String := none
  markers : List Marker := []
  deriving DecidableEq, Repr

/-- A declared constructor. -/
structure ConstructorDeclaration where
  doc : Option String := none
  markers : List Marker := []
  deriving DecidableEq, Repr

mutual

/-- A declared type with its members in order; its name is qualified at the top level and simple
inside another type. -/
structure TypeDeclaration where
  name : String
  -- Supertypes are kept as they are written, and resolved in a model.
  superclass : Option String := none
  interfaces : List String := []
  doc : Option String := none
  markers : List Marker := []
  members : List MemberDeclaration := []

/-- A member of a declared type. -/
inductive MemberDeclaration where
  | field (declaration : FieldDeclaration)
  | method (declaration : MethodDeclaration)
  | constructor (declaration : ConstructorDeclaration)
  | type (declaration : TypeDeclaration)

end

end RuleMetadata

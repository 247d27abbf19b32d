import RuleMetadata.Declaration.Basic
import RuleMetadata.TypeExpr

/-! The elements of a model: types, fields, methods and constructors. -/

namespace RuleMetadata

/-- The kinds of element. -/
inductive ElementKind where
  | type
  | field
  | method
  | constructor
  deriving DecidableEq, Repr

/-- The word for a kind in keys and listings. -/
def ElementKind.label : ElementKind → String
  | .type => "type"
  | .field => "field"
  | .method => "method"
  | .constructor => "constructor"

/-- Whether an element is compiled in this round or was compiled before. -/
inductive Origin where
  | source
  | classpath
  deriving DecidableEq, Repr

/-- The word for an origin. -/
def Origin.label : Origin → String
  | .source => "source"
  | .classpath => "classpath"

/-- An element of a model; other elements are named by their positions. -/
structure Element where
  kind : ElementKind
  simpleName : String
  /-- The name of a type in full; for a member its owner's name, a point and its simple name. -/
  qualifiedName : String
  /-- The type of a field or the result of a method. -/
  declaredType : Option TypeExpr := none
  owner : Option Nat := none
  /-- The supertype, if its expression names a type of the model. -/
  supertype : Option Nat := none
  superclass : Option TypeExpr := none
  interfaces : List TypeExpr := []
  enclosed : List Nat := []
  markers : List Marker := []
  /-- The documentation, as long as it is live. -/
  doc : Option String := none
  origin : Origin
  /-- The package of the top-level type around the element. -/
  package : Option String
  /-- The qualified name of the enclosing type, or the package of a top-level type. -/
  ownerName : Option String
  deriving DecidableEq, Repr

namespace Element

/-- The first marker of a kind. -/
def marker? (element : Element) (kind : MarkerKind) : Option Marker :=
  element.markers.find? (·.kind = kind)

/-- Whether an element carries a marker of a kind. -/
def carries (element : Element) (kind : MarkerKind) : Bool :=
  (element.marker? kind).isSome

/-- The type that an element contributes to a signature. -/
def effectiveType (element : Element) : TypeExpr :=
  match element.kind with
  -- A type stands for itself.
  | .type => .ofText element.qualifiedName
  -- A missing type counts as that of no value.
  | .field | .method => element.declaredType.getD (.ofText "void")
  | .constructor => .ofText "void"

/-- The type expressions of the supertype and the interfaces, in this order. -/
def parents (element : Element) : List TypeExpr :=
  element.superclass.toList ++ element.interfaces

end Element

/-- The part of a name in front of its last point, if it has one. -/
def packageOf (name : String) : Option String :=
  -- From the end on, the simple name comes first, and then the point.
  match name.toList.reverse.dropWhile (· != '.') with
  | [] => none
  | _ :: front => some (String.ofList front.reverse)

/-- The part of a name behind its last point. -/
def lastName (name : String) : String :=
  String.ofList (name.toList.reverse.takeWhile (· != '.')).reverse

/-- A name inside another one. -/
def qualifiedBy (owner name : String) : String :=
  owner ++ "." ++ name

/-- Documentation is live only in the sources. -/
def liveDoc (origin : Origin) (doc : Option String) : Option String :=
  match origin with
  | .source => doc
  | .classpath => none

mutual

/-- The number of elements of a declared type: one for itself and those of its members. -/
def TypeDeclaration.size : TypeDeclaration → Nat
  | ⟨_, _, _, _, _, members⟩ => 1 + membersSize members

/-- The number of elements of a list of members. -/
def membersSize : List MemberDeclaration → Nat
  | [] => 0
  | .field _ :: rest => 1 + membersSize rest
  | .method _ :: rest => 1 + membersSize rest
  | .constructor _ :: rest => 1 + membersSize rest
  -- A nested type stands for itself and for all that is declared in it.
  | .type declaration :: rest => declaration.size + membersSize rest

end

/-- The number of elements of one member. -/
def MemberDeclaration.size : MemberDeclaration → Nat
  | .type declaration => declaration.size
  | _ => 1

/-- The positions of members of which the first starts at a given one. -/
def memberPositions (start : Nat) : List MemberDeclaration → List Nat
  | [] => []
  -- The next member stands behind all elements of this one.
  | member :: rest => start :: memberPositions (start + member.size) rest

/-- What members inherit from the type around them. -/
structure Scope where
  origin : Origin
  package : Option String
  owner : Nat
  ownerName : String
  ownerSimpleName : String

mutual

/-- The elements of a declared type from its position on: the type, then those of each member. -/
def TypeDeclaration.layout (origin : Origin) (package : Option String) (owner : Option Nat)
    (ownerName : Option String) (simpleName qualifiedName : String) (position : Nat) :
    TypeDeclaration → List Element
  | ⟨_, superclass, interfaces, doc, markers, members⟩ =>
    -- The type stands at the position itself, so its members start right behind it.
    let scope : Scope := ⟨origin, package, position, qualifiedName, simpleName⟩
    { kind := .type, simpleName, qualifiedName, owner, origin, package, ownerName
      superclass := superclass.map .ofText
      interfaces := interfaces.map .ofText
      enclosed := memberPositions (position + 1) members
      markers, doc := liveDoc origin doc } :: membersLayout scope (position + 1) members

/-- The elements of a list of members from a position on. -/
def membersLayout (scope : Scope) (position : Nat) : List MemberDeclaration → List Element
  | [] => []
  | .field ⟨name, type, doc, markers⟩ :: rest =>
    { kind := .field, simpleName := name, qualifiedName := qualifiedBy scope.ownerName name
      declaredType := type.map .ofText, owner := some scope.owner, origin := scope.origin
      package := scope.package, ownerName := some scope.ownerName
      markers, doc := liveDoc scope.origin doc } :: membersLayout scope (position + 1) rest
  | .method ⟨name, returns, doc, markers⟩ :: rest =>
    { kind := .method, simpleName := name, qualifiedName := qualifiedBy scope.ownerName name
      declaredType := some (.ofText returns), owner := some scope.owner, origin := scope.origin
      package := scope.package, ownerName := some scope.ownerName
      markers, doc := liveDoc scope.origin doc } :: membersLayout scope (position + 1) rest
  | .constructor ⟨doc, markers⟩ :: rest =>
    -- A constructor bears the simple name of its type.
    { kind := .constructor, simpleName := scope.ownerSimpleName
      qualifiedName := qualifiedBy scope.ownerName scope.ownerSimpleName
      owner := some scope.owner, origin := scope.origin
      package := scope.package, ownerName := some scope.ownerName
      markers, doc := liveDoc scope.origin doc } :: membersLayout scope (position + 1) rest
  -- A nested type takes as many positions as it has elements.
  | .type declaration :: rest =>
    declaration.layout scope.origin scope.package (some scope.owner) (some scope.ownerName)
      declaration.name (qualifiedBy scope.ownerName declaration.name) position ++
      membersLayout scope (position + declaration.size) rest

end

/-- The elements of a top-level declaration from its position on. -/
def TypeDeclaration.elements (origin : Origin) (position : Nat) (declaration : TypeDeclaration) :
    List Element :=
  -- A top-level type gets package and simple name from its qualified name.
  let package := packageOf declaration.name
  declaration.layout origin package none package (lastName declaration.name) declaration.name
    position

/-- The elements of a list of top-level declarations from a position on. -/
def declarationsElements (origin : Origin) (position : Nat) : List TypeDeclaration → List Element
  | [] => []
  | declaration :: rest =>
    -- The next declaration starts behind all elements of this one.
    declaration.elements origin position ++
      declarationsElements origin (position + declaration.size) rest

end RuleMetadata

import RuleMetadata.Filter.Value

/-! The terms of the filter language, and the names in them that nothing binds. -/

namespace RuleMetadata.Filter

/-- The operations of arithmetic. -/
inductive Arithmetic where
  | add
  | subtract
  | multiply
  | divide
  | remainder
  deriving DecidableEq

/-- The comparisons of values. -/
inductive Comparison where
  | equal
  | unequal
  | less
  | atMost
  | greater
  | atLeast
  deriving DecidableEq

/-- A parameter of a definition: a filter, or a variable that holds a value. -/
structure Parameter where
  name : String
  isVariable : Bool
  deriving DecidableEq

mutual

/-- A term of the filter language. -/
inductive Term where
  | identity
  | recurse
  | constant (value : Value)
  /-- The input as a text. -/
  | shown
  | collect (content : Term)
  | entry (key value : Term)
  | negate (body : Term)
  | pipe (left right : Term)
  | bind (source : Term) (pattern : Pattern) (body : Term)
  | both (left right : Term)
  | alternative (left right : Term)
  | conjunction (left right : Term)
  | disjunction (left right : Term)
  | arithmetic (operation : Arithmetic) (left right : Term)
  | compare (comparison : Comparison) (left right : Term)
  | assign (target source : Term)
  | modify (target change : Term)
  | modifyWith (operation : Arithmetic) (target source : Term)
  | modifyDefault (target source : Term)
  | choose (condition positive negative : Term)
  | attempt (body handler : Term)
  | reduce (source : Term) (pattern : Pattern) (start step : Term)
  | foreach (source : Term) (pattern : Pattern) (start step project : Term)
  /-- A fold of a form that there is not. -/
  | missing (name : String)
  | label (name : String) (body : Term)
  | leave (name : String)
  | define (name : String) (parameters : List Parameter) (body rest : Term)
  | call (name : String) (arguments : List Term)
  | variable (name : String)
  | path (start : Term) (parts : List Part)

/-- One step of a path; an optional step has no output where it would fail. -/
inductive Part where
  | all (optional : Bool)
  | index (key : Term) (optional : Bool)
  -- A slice has one bound or two.
  | from (lower : Term) (optional : Bool)
  | upTo (upper : Term) (optional : Bool)
  | between (lower upper : Term) (optional : Bool)

/-- A pattern that binds variables to parts of a value. -/
inductive Pattern where
  | nothing
  | variable (name : String)
  | field (key : Term) (inner rest : Pattern)

end

instance : Inhabited Term := ⟨.identity⟩

/-- The same step, but optional. -/
def Part.optionally : Part → Part
  | .all _ => .all true
  | .index key _ => .index key true
  | .from lower _ => .from lower true
  | .upTo upper _ => .upTo upper true
  | .between lower upper _ => .between lower upper true

/-- The variables that a pattern binds. -/
def Pattern.boundNames : Pattern → List String
  | .nothing => []
  | .variable name => [name]
  | .field _ inner rest => inner.boundNames ++ rest.boundNames

/-- The names that are bound around a term. -/
structure Scope where
  /-- Filters by name and number of arguments. -/
  filters : List (String × Nat) := []
  values : List String := []
  labels : List String := []

namespace Scope

/-- The scope inside the body of a definition. -/
def inside (scope : Scope) (name : String) (parameters : List Parameter) : Scope :=
  { scope with
    filters := (parameters.filter (!·.isVariable)).map (fun parameter => (parameter.name, 0)) ++
      (name, parameters.length) :: scope.filters
    values := (parameters.filter (·.isVariable)).map (·.name) ++ scope.values }

/-- The scope behind a definition. -/
def after (scope : Scope) (name : String) (parameters : List Parameter) : Scope :=
  { scope with filters := (name, parameters.length) :: scope.filters }

/-- The scope in which the variables of a pattern are bound. -/
def binding (scope : Scope) (pattern : Pattern) : Scope :=
  { scope with values := pattern.boundNames ++ scope.values }

end Scope

mutual

/-- The names in a term that its scope does not bind. -/
def Term.unbound (scope : Scope) : Term → List String
  | .identity => []
  | .recurse => []
  | .constant _ => []
  | .shown => []
  | .collect content => content.unbound scope
  | .entry key value => key.unbound scope ++ value.unbound scope
  | .negate body => body.unbound scope
  | .pipe left right => left.unbound scope ++ right.unbound scope
  -- A variable is bound in what follows, but not in its own source.
  | .bind source pattern body =>
    source.unbound scope ++ pattern.unbound scope ++ body.unbound (scope.binding pattern)
  | .both left right => left.unbound scope ++ right.unbound scope
  | .alternative left right => left.unbound scope ++ right.unbound scope
  | .conjunction left right => left.unbound scope ++ right.unbound scope
  | .disjunction left right => left.unbound scope ++ right.unbound scope
  | .arithmetic _ left right => left.unbound scope ++ right.unbound scope
  | .compare _ left right => left.unbound scope ++ right.unbound scope
  | .assign target source => target.unbound scope ++ source.unbound scope
  | .modify target change => target.unbound scope ++ change.unbound scope
  | .modifyWith _ target source => target.unbound scope ++ source.unbound scope
  | .modifyDefault target source => target.unbound scope ++ source.unbound scope
  | .choose condition positive negative =>
    condition.unbound scope ++ positive.unbound scope ++ negative.unbound scope
  | .attempt body handler => body.unbound scope ++ handler.unbound scope
  | .reduce source pattern start step =>
    source.unbound scope ++ pattern.unbound scope ++ start.unbound scope ++
      step.unbound (scope.binding pattern)
  | .foreach source pattern start step project =>
    source.unbound scope ++ pattern.unbound scope ++ start.unbound scope ++
      step.unbound (scope.binding pattern) ++ project.unbound (scope.binding pattern)
  | .missing name => [name]
  | .label name body => body.unbound { scope with labels := name :: scope.labels }
  | .leave name => if name ∈ scope.labels then [] else [name]
  | .define name parameters body rest =>
    body.unbound (scope.inside name parameters) ++ rest.unbound (scope.after name parameters)
  | .call name arguments =>
    (if (name, arguments.length) ∈ scope.filters then [] else [name]) ++
      Term.unboundAll scope arguments
  | .variable name => if name ∈ scope.values then [] else [name]
  | .path start parts => start.unbound scope ++ Part.unboundAll scope parts

/-- The names in arguments that their scope does not bind. -/
def Term.unboundAll (scope : Scope) : List Term → List String
  | [] => []
  | term :: rest => term.unbound scope ++ Term.unboundAll scope rest

/-- The names in a step that its scope does not bind. -/
def Part.unbound (scope : Scope) : Part → List String
  -- Whether a step is optional makes no difference to its names.
  | .all _ => []
  | .index key _ => key.unbound scope
  | .from lower _ => lower.unbound scope
  | .upTo upper _ => upper.unbound scope
  | .between lower upper _ => lower.unbound scope ++ upper.unbound scope

/-- The names in the steps of a path that their scope does not bind. -/
def Part.unboundAll (scope : Scope) : List Part → List String
  | [] => []
  | part :: rest => part.unbound scope ++ Part.unboundAll scope rest

/-- The names in the keys of a pattern that its scope does not bind. -/
def Pattern.unbound (scope : Scope) : Pattern → List String
  | .nothing => []
  | .variable _ => []
  | .field key inner rest =>
    key.unbound scope ++ inner.unbound scope ++ rest.unbound scope

end

end RuleMetadata.Filter

import RuleMetadata.Filter.Term

/-! Environments: what the names in a term stand for while it is evaluated. -/

namespace RuleMetadata.Filter

/-- The bindings around a term, the innermost first. -/
inductive Environment where
  | empty
  | variable (name : String) (value : Value) (outer : Environment)
  | label (name : String) (identity : Nat) (outer : Environment)
  /-- A filter that was passed as an argument, with the bindings around it. -/
  | argument (name : String) (term : Term) (scope outer : Environment)
  | definition (name : String) (parameters : List Parameter) (body : Term) (outer : Environment)

/-- What the name of a filter stands for. -/
inductive Callee where
  | argument (term : Term) (scope : Environment)
  | definition (parameters : List Parameter) (body : Term) (scope : Environment)

namespace Environment

/-- The value of a variable. -/
def value? (name : String) : Environment → Option Value
  | .empty => none
  -- The innermost variable of the name counts.
  | .variable other value outer => if other = name then some value else outer.value? name
  | .label _ _ outer => outer.value? name
  | .argument _ _ _ outer => outer.value? name
  | .definition _ _ _ outer => outer.value? name

/-- The identity of a label. -/
def label? (name : String) : Environment → Option Nat
  | .empty => none
  | .variable _ _ outer => outer.label? name
  -- The innermost label of the name counts.
  | .label other identity outer => if other = name then some identity else outer.label? name
  | .argument _ _ _ outer => outer.label? name
  | .definition _ _ _ outer => outer.label? name

/-- What the name of a filter with so many arguments stands for; the body of a definition sees the
definition itself. -/
def callee? (name : String) (count : Nat) : Environment → Option Callee
  | .empty => none
  | .variable _ _ outer => outer.callee? name count
  | .label _ _ outer => outer.callee? name count
  -- An argument is called without arguments of its own.
  | .argument other term scope outer =>
    if other = name && count = 0 then some (.argument term scope) else outer.callee? name count
  | .definition other parameters body outer =>
    if other = name && count = parameters.length then
      some (.definition parameters body (.definition other parameters body outer))
    else outer.callee? name count

end Environment

end RuleMetadata.Filter

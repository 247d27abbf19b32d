import RuleMetadata.Filter.Machine.Reading

/-! How a value is changed at the parts that a term leads to. -/

namespace RuleMetadata.Filter

/-- The error of a change of something that is no part of the input. -/
def noPath : Interrupt :=
  .ofMessage "invalid path expression"

namespace Machine

/-- The outputs of a change of a value at the parts that a term leads to. -/
def modify (machine : Machine) (environment : Environment) (term : Term) (change : Change)
    (value : Value) : Machine :=
  match term with
  | .identity => machine.go (.apply change value)
  | .recurse => machine.go (.apply (.deep change) value)
  | .pipe left right =>
    machine.go (.modify environment left (.within environment right change) value)
  | .bind source pattern body =>
    machine.go (.loop (.changeBody body change) (bindings environment source pattern value) value)
  | .both left right =>
    machine.into (.modifyNext environment right change) (.modify environment left change value)
  | .alternative left right =>
    machine.drawTask
      (.decide (.modify environment left change value) (.modify environment right change value))
      (.run environment left value)
  | .choose condition positive negative =>
    machine.go (.loop (.changeChosen environment positive negative change)
      [(.run environment condition value, [])] value)
  | .reduce source pattern start step =>
    machine.go (.modify environment start
      (.folded (bindings environment source pattern value) step change) value)
  | .label name body =>
    { machine.into (.label machine.nextLabel machine.row)
        (.modify (.label name machine.nextLabel environment) body change value) with
      nextLabel := machine.nextLabel + 1 }
  | .leave name => machine.go (.fail (.leave ((environment.label? name).getD 0)))
  | .define name parameters body rest =>
    machine.go (.modify (.definition name parameters body environment) rest change value)
  | .call name arguments =>
    match environment.callee? name arguments.length with
    | some (.argument term scope) => machine.go (.modify scope term change value)
    | some (.definition parameters body scope) =>
      machine.go (.loop (.changeBody body change)
        [(.pass environment parameters arguments value scope, [])] value)
    | none =>
      match Builtin.callee? name arguments.length, arguments with
      | some .error, [term] => machine.throwFirst environment term value (.apply change value)
      | callee, _ =>
        -- An operation leads to no part, so there is an error for each of its calls.
        let parameters := (callee.map Builtin.Callee.parameters).getD []
        machine.go (.loop (.changeBody (.constant .null) change)
          [(.pass environment parameters arguments value .empty, [])] value)
  | .path start parts =>
    machine.go (.modify environment start (.located environment parts value change) value)
  | _ => machine.go (.fail noPath)

/-- The outputs of a change of a value. -/
def apply (machine : Machine) (change : Change) (value : Value) : Machine :=
  match change with
  | .outputs environment term => machine.go (.run environment term value)
  | .assigned assignment assigned => machine.settle (assignment.apply assigned value)
  | .within environment term change => machine.go (.modify environment term change value)
  -- The path is followed to its end before anything is changed.
  | .along [] change => machine.go (.apply change value)
  | .along (access :: path) change => machine.go (.alter access (.along path change) value)
  | .located environment parts input change =>
    machine.go
      (.loop (.changePaths change) [(.locate environment parts input (.ok []), [])] value)
  | .deep change =>
    machine.into (.applyNext change) (.alter ⟨.all, true⟩ (.deep change) value)
  | .folded row step change => machine.go (.loop (.changeSteps step change) row value)

/-- The change of items of an array, some of which are done. -/
def changeItems (machine : Machine) (change : Change) (done : List Value) : List Value → Machine
  | [] => machine.give (.array done.reverse)
  | item :: rest => machine.drawTask (.items change done rest) (.apply change item)

/-- The change of entries of an object, some of which are done. -/
def changeEntries (machine : Machine) (change : Change) (done : List (String × Value)) :
    List (String × Value) → Machine
  | [] => machine.give (.object done.reverse)
  | (key, value) :: rest => machine.drawTask (.entries change done key rest) (.apply change value)

/-- The change of the part of a value that an access selects; an optional access leaves a value
alone that has no such part. -/
def alter (machine : Machine) (access : Access) (change : Change) (value : Value) : Machine :=
  match Access.target access.selection value with
  | .ok (.items items) => machine.changeItems change [] items
  | .ok (.entries entries) => machine.changeEntries change [] entries
  -- If nothing is put in the place of the part, it is removed.
  | .ok (.part part) => machine.drawTask (.part access.selection value) (.apply change part)
  | .error interrupt =>
    if access.optional then machine.give value else machine.go (.fail interrupt)

/-- The next turn of a loop, or what is left to do behind the last one. -/
def loop (machine : Machine) (loop : Loop) (row : Row) (value : Value) : Machine :=
  if row.isEmpty then
    match loop with
    -- The outputs have been given on the way.
    | .foreach _ _ => machine.go .stop
    | .changeSteps _ change => machine.go (.apply change value)
    | _ => machine.give value
  else machine.drawRow (.loop loop value) row

/-- One turn of a loop: what is done with a value for an item. -/
def turn (machine : Machine) (loop : Loop) (item : Item) (row : Row) (value : Value) : Machine :=
  let next := Frame.next loop item row
  match loop, item with
  | .reduce step, .bindings environment => machine.into next (.run environment step value)
  | .foreach step _, .bindings environment => machine.into next (.run environment step value)
  | .changeBody body change, .bindings environment =>
    machine.into next (.modify environment body change value)
  | .changePaths change, .path path => machine.into next (.apply (.along path change) value)
  | .changeChosen environment positive negative change, .value condition =>
    machine.into next
      (.modify environment (if condition.isTrue then positive else negative) change value)
  -- The steps that are left go along with the change, which comes behind all of them.
  | .changeSteps step change, .bindings environment =>
    machine.go (.modify environment step (.folded row step change) value)
  | _, _ => machine.go .stop

end Machine

end RuleMetadata.Filter

import RuleMetadata.Filter.Machine.Basic

/-! How terms, patterns, arguments and paths are evaluated. -/

namespace RuleMetadata.Filter

namespace Part

/-- The terms of the indices of a step. -/
def keys : Part → List Term
  | .all _ => []
  | .index key _ => [key]
  | .from lower _ => [lower]
  | .upTo upper _ => [upper]
  -- The bounds are evaluated from left to right.
  | .between lower upper _ => [lower, upper]

/-- The access of a step whose indices have been evaluated. -/
def access : Part → List Value → Access
  | .index _ optional, [key] => ⟨.index key, optional⟩
  | .from _ optional, [lower] => ⟨.slice (some lower) none, optional⟩
  | .upTo _ optional, [upper] => ⟨.slice none (some upper), optional⟩
  | .between _ _ optional, [lower, upper] => ⟨.slice (some lower) (some upper), optional⟩
  | .all optional, _ => ⟨.all, optional⟩
  -- A step is given as many values as it has indices.
  | _, _ => ⟨.all, false⟩

end Part

/-- The result of two operands; an error of the left one comes first. -/
def Pairing.apply (pairing : Pairing) (left right : Result) : Result := do
  let left ← left
  let right ← right
  match pairing with
  | .compute operation => operation.apply left right
  | .compare comparison => .ok (.boolean (comparison.holds (left.compareTo right)))
  -- Only a text can be a key.
  | .entry =>
    match left with
    | .text key => .ok (.object [(key, right)])
    | key => .error (.wrongKind key "string")

/-- The part with an assigned value taken in. -/
def Assignment.apply (assignment : Assignment) (value part : Value) : Result :=
  match assignment with
  | .replace => .ok value
  | .compute operation => operation.apply part value
  | .default => .ok (if part.isTrue then part else value)

namespace Machine

/-- The evaluation of two operands, of which the left one varies slowest. -/
def operands (machine : Machine) (environment : Environment) (pairing : Pairing)
    (left right : Term) (input : Value) : Machine :=
  machine.into (.rightOperand environment right input pairing) (.run environment left input)

/-- The evaluation of an array's items in the order of the outputs of a term on them. -/
def sort (machine : Machine) (environment : Environment) (sorting : Builtin.Sorting)
    (term : Term) : Value → Machine
  | .array items =>
    match items with
    | [] => machine.give (sorting.apply [])
    | first :: rest =>
      -- A single item needs no key to be in order.
      if sorting = .sortBy && rest.isEmpty then machine.give (.array items)
      else machine.drawTask (.keys environment term sorting [] first [] rest)
        (.run environment term first)
  | value => machine.go (.fail (.wrongKind value "array"))

/-- The evaluation of an operation with some of its operands found, the last one first. -/
def operate (machine : Machine) (operation : Builtin.Operation) (environment : Environment)
    (found : List Value) (input : Value) : List Term → Machine
  | term :: rest =>
    machine.into (.operands operation environment rest found input) (.run environment term input)
  -- All operands have been found, in the order opposite to that of the arguments.
  | [] =>
    match operation, found with
    | .onInput function, [] => machine.settle (function input)
    | .onOne function, [operand] => machine.settle (function input operand)
    | .onTwo function, [second, first] => machine.settle (function input first second)
    | .range, [step, stop, start] =>
      match Builtin.range start stop step with
      | .ok (count, number, step) => machine.go (.count count number step)
      | .error interrupt => machine.go (.fail interrupt)
    | _, _ => machine.go .stop

/-- The error with the first output of a term; without an output, there is something else to do. -/
def throwFirst (machine : Machine) (environment : Environment) (term : Term) (input : Value)
    (otherwise : Task) : Machine :=
  machine.drawTask (.payload otherwise) (.run environment term input)

/-- The call of a filter that no definition introduces. -/
def callBuiltin (machine : Machine) (environment : Environment) (name : String)
    (arguments : List Term) (input : Value) : Machine :=
  match Builtin.callee? name arguments.length, arguments with
  | some (.operation operation), _ => machine.operate operation environment [] input arguments
  | some (.sorting sorting), [term] => machine.sort environment sorting term input
  | some .error, [term] => machine.throwFirst environment term input (.give (.value input))
  -- Filters are not evaluated beyond the output that is asked for.
  | some .first, [term] => machine.drawTask (.limit 1) (.run environment term input)
  | some .last, [term] => machine.drawTask (.last none) (.run environment term input)
  | some .limit, [count, term] =>
    machine.into (.counted false environment term input) (.run environment count input)
  | some .skip, [count, term] =>
    machine.into (.counted true environment term input) (.run environment count input)
  | _, _ => machine.go .stop

/-- The row of the bindings of a pattern to the outputs of a term. -/
def bindings (environment : Environment) (source : Term) (pattern : Pattern) (input : Value) :
    Row :=
  [(.run environment source input, [.pattern environment pattern])]

/-- The outputs of a term on an input. -/
def run (machine : Machine) (environment : Environment) (term : Term) (input : Value) : Machine :=
  match term with
  | .identity => machine.give input
  | .recurse => machine.go (.readEach [] input.descend)
  | .constant value => machine.give value
  | .shown => machine.give (Builtin.toText input)
  | .collect content => machine.drawTask (.collect []) (.run environment content input)
  | .entry key value => machine.operands environment .entry key value input
  | .negate body => machine.into .negate (.run environment body input)
  | .pipe left right => machine.into (.pipe environment right) (.run environment left input)
  | .bind source pattern body =>
    machine.intoAll [.pattern environment pattern, .body body input]
      (.run environment source input)
  -- The right one waits until the left one has no more outputs.
  | .both left right =>
    (machine.later (.run environment right input)).go (.run environment left input)
  | .alternative left right =>
    machine.drawTask (.truths (some (.run environment right input))) (.run environment left input)
  | .conjunction left right =>
    machine.into (.logical false environment right input) (.run environment left input)
  | .disjunction left right =>
    machine.into (.logical true environment right input) (.run environment left input)
  | .arithmetic operation left right =>
    machine.operands environment (.compute operation) left right input
  | .compare comparison left right =>
    machine.operands environment (.compare comparison) left right input
  | .assign target source =>
    machine.into (.assign .replace environment target input) (.run environment source input)
  | .modify target change =>
    machine.go (.modify environment target (.outputs environment change) input)
  | .modifyWith operation target source =>
    machine.into (.assign (.compute operation) environment target input)
      (.run environment source input)
  | .modifyDefault target source =>
    machine.into (.assign .default environment target input) (.run environment source input)
  | .choose condition positive negative =>
    machine.into (.choose environment positive negative input) (.run environment condition input)
  | .attempt body handler =>
    machine.into (.handler environment handler machine.row) (.run environment body input)
  | .missing _ => machine.go .stop
  | .reduce source pattern start step =>
    machine.into (.start (.reduce step) (bindings environment source pattern input))
      (.run environment start input)
  | .foreach source pattern start step project =>
    machine.into (.start (.foreach step project) (bindings environment source pattern input))
      (.run environment start input)
  | .label name body =>
    { machine.into (.label machine.nextLabel machine.row)
        (.run (.label name machine.nextLabel environment) body input) with
      nextLabel := machine.nextLabel + 1 }
  | .leave name => machine.go (.fail (.leave ((environment.label? name).getD 0)))
  | .define name parameters body rest =>
    machine.go (.run (.definition name parameters body environment) rest input)
  | .call name arguments =>
    match environment.callee? name arguments.length with
    | some (.argument term scope) => machine.go (.run scope term input)
    | some (.definition parameters body scope) =>
      machine.into (.body body input) (.pass environment parameters arguments input scope)
    | none => machine.callBuiltin environment name arguments input
  | .variable name => machine.give ((environment.value? name).getD .null)
  | .path start parts =>
    machine.into (.steps environment parts input) (.run environment start input)

/-- The bindings of the variables of a pattern to parts of a value, added to an environment; the
keys in the pattern are evaluated in the scope around it. -/
def bind (machine : Machine) (scope environment : Environment) (pattern : Pattern)
    (value : Value) : Machine :=
  match pattern with
  | .nothing => machine.go (.give (.bindings environment))
  | .variable name => machine.go (.give (.bindings (.variable name value environment)))
  -- The key does not see the variables that the pattern binds.
  | .field key inner rest =>
    machine.into (.field scope environment inner rest value) (.run scope key value)

/-- The bindings inside a definition: a filter is passed as it is, and each output of an argument
for a variable is passed by itself. -/
def passArguments (machine : Machine) (scope : Environment) (parameters : List Parameter)
    (arguments : List Term) (input : Value) (inner : Environment) : Machine :=
  match parameters, arguments with
  | parameter :: parameters, term :: arguments =>
    if parameter.isVariable then
      machine.into (.argument scope parameter.name parameters arguments input inner)
        (.run scope term input)
    else
      machine.go (.pass scope parameters arguments input
        (.argument parameter.name term scope inner))
  -- There are as many arguments as parameters.
  | _, _ => machine.go (.give (.bindings inner))

/-- The paths that steps stand for when their indices have several outputs. -/
def locate (machine : Machine) (environment : Environment) (parts : List Part) (input : Value)
    (path : Except Interrupt (List Access)) : Machine :=
  match parts with
  | [] =>
    match path with
    | .ok path => machine.go (.give (.path path.reverse))
    | .error interrupt => machine.go (.fail interrupt)
  | part :: parts =>
    -- Each output of an index makes a path of its own.
    match part.keys with
    | [] => machine.go (.locate environment parts input (path.map (part.access [] :: ·)))
    | key :: keys =>
      machine.into (.key environment part keys [] parts input path) (.run environment key input)

/-- The paths that go on behind an index of a step. -/
def locateBehind (machine : Machine) (environment : Environment) (part : Part) (keys : List Term)
    (found : List Value) (parts : List Part) (input : Value)
    (path : Except Interrupt (List Access)) : Machine :=
  match keys with
  | [] =>
    -- The indices were found from left to right, and the last one stands first.
    machine.go (.locate environment parts input (path.map (part.access found.reverse :: ·)))
  | key :: keys =>
    machine.into (.key environment part keys found parts input path) (.run environment key input)

/-- The values at the end of a path. -/
def read (machine : Machine) (path : List Access) (value : Value) : Machine :=
  match path with
  | [] => machine.give value
  | access :: path =>
    match access.read value with
    -- An access may lead to several values, each of which the path goes on from.
    | .ok parts => machine.go (.readEach path parts)
    | .error interrupt => machine.go (.fail interrupt)

/-- The values at the end of a path in each of some values. -/
def readEach (machine : Machine) (path : List Access) : List Value → Machine
  | [] => machine.go .stop
  | [value] => machine.go (.read path value)
  | value :: rest => (machine.later (.readEach path rest)).go (.read path value)

/-- So many numbers, each by a step beyond the one before. -/
def count (machine : Machine) (remaining : Nat) (number step : Number) : Machine :=
  match remaining with
  | 0 => machine.go .stop
  -- Behind the last number nothing is left waiting.
  | 1 => machine.give (.number number)
  | remaining + 1 =>
    (machine.later (.count remaining (number.add step) step)).give (.number number)

end Machine

end RuleMetadata.Filter

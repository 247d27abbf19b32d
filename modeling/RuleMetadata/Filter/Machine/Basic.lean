import RuleMetadata.Filter.Builtin
import RuleMetadata.Filter.Environment

/-! The state of an evaluation: what is to be done next, what becomes of each output, and the
branches on which further outputs wait. All of it is data, so a filter may call itself as often as
it likes. -/

namespace RuleMetadata.Filter

/-- What the tasks of an evaluation hand to each other. -/
inductive Item where
  | value (value : Value)
  | bindings (environment : Environment)
  | path (path : List Access)

/-- What is made of two operands. -/
inductive Pairing where
  | compute (operation : Arithmetic)
  | compare (comparison : Comparison)
  | entry

/-- How a part takes in the value that is assigned to it. -/
inductive Assignment where
  | replace
  | compute (operation : Arithmetic)
  | default

mutual

/-- A change of a value: it has any number of outputs. -/
inductive Change where
  | outputs (environment : Environment) (term : Term)
  | assigned (assignment : Assignment) (value : Value)
  /-- A change at the parts that a term leads to. -/
  | within (environment : Environment) (term : Term) (change : Change)
  /-- A change at the end of a path. -/
  | along (path : List Access) (change : Change)
  /-- A change at the end of each path that steps stand for. -/
  | located (environment : Environment) (parts : List Part) (input : Value) (change : Change)
  /-- A change of a value whose inner values have been changed before. -/
  | deep (change : Change)
  /-- A change at the parts that the steps of a fold lead to one after the other. -/
  | folded (row : List (Task × List Frame)) (step : Term) (change : Change)

/-- What is done with a value for each item of a row, one after the other. -/
inductive Loop where
  | reduce (step : Term)
  | foreach (step project : Term)
  -- The other loops change a value, each turn what the one before has left.
  | changeBody (body : Term) (change : Change)
  | changePaths (change : Change)
  | changeChosen (environment : Environment) (positive negative : Term) (change : Change)
  | changeSteps (step : Term) (change : Change)

/-- What is to be done next. -/
inductive Task where
  /-- There is nothing more on this branch. -/
  | stop
  | give (item : Item)
  | fail (interrupt : Interrupt)
  | run (environment : Environment) (term : Term) (input : Value)
  /-- The variables of a pattern are bound to parts of a value; the keys in the pattern do not see
  these variables. -/
  | bind (scope environment : Environment) (pattern : Pattern) (value : Value)
  /-- The parameters of a definition are bound to arguments. -/
  | pass (scope : Environment) (parameters : List Parameter) (arguments : List Term)
      (input : Value) (inner : Environment)
  /-- The indices of the steps of a path are evaluated; the first error among them counts once all
  of them have an output. -/
  | locate (environment : Environment) (parts : List Part) (input : Value)
      (path : Except Interrupt (List Access))
  | read (path : List Access) (value : Value)
  | readEach (path : List Access) (values : List Value)
  | count (remaining : Nat) (number step : Number)
  /-- A value is changed at the parts that a term leads to. -/
  | modify (environment : Environment) (term : Term) (change : Change) (value : Value)
  | apply (change : Change) (value : Value)
  /-- A value is changed at the part that an access selects. -/
  | alter (access : Access) (change : Change) (value : Value)
  | loop (loop : Loop) (row : List (Task × List Frame)) (value : Value)
  | draw (consumer : Consumer) (row : List (Task × List Frame))

/-- What becomes of one item that a task gives. -/
inductive Frame where
  | pipe (environment : Environment) (right : Term)
  | pattern (environment : Environment) (pattern : Pattern)
  | body (body : Term) (input : Value)
  | field (scope environment : Environment) (inner rest : Pattern) (value : Value)
  | fields (scope : Environment) (rest : Pattern) (value : Value)
  | argument (scope : Environment) (name : String) (parameters : List Parameter)
      (arguments : List Term) (input : Value) (inner : Environment)
  | rightOperand (environment : Environment) (right : Term) (input : Value) (pairing : Pairing)
  | pair (pairing : Pairing) (left : Result)
  | negate
  | logical (decisive : Bool) (environment : Environment) (right : Term) (input : Value)
  | truth
  | choose (environment : Environment) (positive negative : Term) (input : Value)
  | assign (assignment : Assignment) (environment : Environment) (target : Term) (input : Value)
  | steps (environment : Environment) (parts : List Part) (input : Value)
  | reading (value : Value)
  | key (environment : Environment) (part : Part) (keys : List Term) (found : List Value)
      (parts : List Part) (input : Value) (path : Except Interrupt (List Access))
  | operands (operation : Builtin.Operation) (environment : Environment) (rest : List Term)
      (found : List Value) (input : Value)
  | counted (skipping : Bool) (environment : Environment) (term : Term) (input : Value)
  | modifyNext (environment : Environment) (right : Term) (change : Change)
  | applyNext (change : Change)
  | start (loop : Loop) (row : List (Task × List Frame))
  | next (loop : Loop) (item : Item) (row : List (Task × List Frame))
  /-- An error behind this frame goes to a handler, and the branches since then are dropped. -/
  | handler (environment : Environment) (handler : Term) (row : List (Task × List Frame))
  /-- A jump out of a label ends here, and the branches since then are dropped. -/
  | label (identity : Nat) (row : List (Task × List Frame))

/-- What the items of a row are drawn for. -/
inductive Consumer where
  | collect (found : List Value)
  | limit (count : Nat)
  | skip (count : Nat)
  | last (found : Option Value)
  /-- The first item becomes an error; without any, there is something else to do. -/
  | payload (otherwise : Task)
  /-- The items that count as true are passed on; without any, there may be something else to do. -/
  | truths (otherwise : Option Task)
  /-- Whether some item counts as true decides what is to be done. -/
  | decide (positive negative : Task)
  /-- The items are the keys by which an item of an array is ordered. -/
  | keys (environment : Environment) (term : Term) (sorting : Builtin.Sorting)
      (done : List (Value × Value)) (item : Value) (found rest : List Value)
  | loop (loop : Loop) (value : Value)
  | items (change : Change) (done rest : List Value)
  | entries (change : Change) (done : List (String × Value)) (key : String)
      (rest : List (String × Value))
  | part (selection : Selection) (value : Value)

end

/-- A task and what becomes of the items that it gives. -/
abbrev Branch := Task × List Frame

/-- The branches on which further items wait, the next one first. -/
abbrev Row := List Branch

/-- What waits for the items of the row that is being evaluated. -/
structure Layer where
  consumer : Consumer
  frames : List Frame
  row : Row

/-- The state of an evaluation. -/
structure Machine where
  task : Task
  frames : List Frame := []
  row : Row := []
  layers : List Layer := []
  /-- The identity of the next label. -/
  nextLabel : Nat := 0

namespace Machine

/-- The evaluation with another task. -/
def go (machine : Machine) (task : Task) : Machine :=
  { machine with task }

/-- The evaluation that gives a value. -/
def give (machine : Machine) (value : Value) : Machine :=
  machine.go (.give (.value value))

/-- The evaluation that gives a value or fails. -/
def settle (machine : Machine) : Result → Machine
  | .ok value => machine.give value
  | .error interrupt => machine.go (.fail interrupt)

/-- The evaluation with a task whose items go to a frame. -/
def into (machine : Machine) (frame : Frame) (task : Task) : Machine :=
  { machine with task, frames := frame :: machine.frames }

/-- The evaluation with a task whose items go to frames, to the first one first. -/
def intoAll (machine : Machine) (frames : List Frame) (task : Task) : Machine :=
  { machine with task, frames := frames ++ machine.frames }

/-- The evaluation with a task that waits until all other branches have been evaluated. -/
def later (machine : Machine) (task : Task) : Machine :=
  { machine with row := (task, machine.frames) :: machine.row }

/-- The evaluation of a row for a consumer. -/
def drawRow (machine : Machine) (consumer : Consumer) (row : Row) : Machine :=
  { machine with
    task := .stop, frames := [], row
    layers := ⟨consumer, machine.frames, machine.row⟩ :: machine.layers }

/-- The evaluation of a task for a consumer. -/
def drawTask (machine : Machine) (consumer : Consumer) (task : Task) : Machine :=
  { machine.drawRow consumer [] with task }

/-- The evaluation with the rest of a row to be drawn later. -/
def drawLater (machine : Machine) (consumer : Consumer) (row : Row) : Machine :=
  if row.isEmpty then machine else machine.later (.draw consumer row)

end Machine

end RuleMetadata.Filter

import RuleMetadata.Filter.Machine.Changing

/-! One step of an evaluation, and what an evaluation has to show after it. -/

namespace RuleMetadata.Filter.Machine

/-- What a frame does with an item; a frame is never given an item of another sort than it takes. -/
def pass (machine : Machine) (item : Item) : Frame → Machine :=
  fun frame => match frame, item with
  | .pipe environment right, .value value => machine.go (.run environment right value)
  | .pattern environment pattern, .value value =>
    machine.go (.bind environment environment pattern value)
  | .body body input, .bindings environment => machine.go (.run environment body input)
  | .field scope environment inner rest value, .value key =>
    match Access.readIndex key value with
    | .ok part => machine.into (.fields scope rest value) (.bind scope environment inner part)
    | .error interrupt => machine.go (.fail interrupt)
  | .fields scope rest value, .bindings environment =>
    machine.go (.bind scope environment rest value)
  | .argument scope name parameters arguments input inner, .value value =>
    machine.go (.pass scope parameters arguments input (.variable name value inner))
  | .rightOperand environment right input pairing, .value left =>
    machine.into (.pair pairing (.ok left)) (.run environment right input)
  | .pair pairing left, .value right => machine.settle (pairing.apply left (.ok right))
  | .negate, .value value => machine.settle value.negated
  | .logical decisive environment right input, .value value =>
    -- The left operand may decide, and then the right one is not evaluated.
    if value.isTrue = decisive then machine.give (.boolean decisive)
    else machine.into .truth (.run environment right input)
  | .truth, .value value => machine.give (.boolean value.isTrue)
  | .choose environment positive negative input, .value condition =>
    machine.go (.run environment (if condition.isTrue then positive else negative) input)
  | .assign assignment environment target input, .value value =>
    machine.go (.modify environment target (.assigned assignment value) input)
  | .steps environment parts input, .value value =>
    machine.into (.reading value) (.locate environment parts input (.ok []))
  | .reading value, .path path => machine.go (.read path value)
  | .key environment part keys found parts input path, .value value =>
    machine.locateBehind environment part keys (value :: found) parts input path
  | .operands operation environment rest found input, .value value =>
    machine.operate operation environment (value :: found) input rest
  | .counted skipping environment term input, .value value =>
    match Access.wholeNumber value with
    | .error interrupt => machine.go (.fail interrupt)
    | .ok count =>
      if skipping then machine.drawTask (.skip count.toNat) (.run environment term input)
      else if count ≤ 0 then machine.go .stop
      else machine.drawTask (.limit count.toNat) (.run environment term input)
  | .modifyNext environment right change, .value value =>
    machine.go (.modify environment right change value)
  | .applyNext change, .value value => machine.go (.apply change value)
  | .start loop row, .value value => machine.go (.loop loop row value)
  | .next (.foreach step project) (.bindings environment) row, .value value =>
    (if row.isEmpty then machine else machine.later (.loop (.foreach step project) row value)).go
      (.run environment project value)
  | .next loop _ row, .value value => machine.go (.loop loop row value)
  | .handler _ _ _, item => machine.go (.give item)
  | .label _ _, item => machine.go (.give item)
  | _, _ => machine.go .stop

/-- The evaluation behind an interrupt, which passes the frames up to one that deals with it. -/
def raise (machine : Machine) (interrupt : Interrupt) : List Frame → Machine
  | [] => { machine with task := .fail interrupt, frames := [] }
  | frame :: frames =>
    match frame, interrupt with
    | .handler environment handler row, .failure payload =>
      { machine with task := .run environment handler payload, frames, row }
    | .label identity row, .leave label =>
      if identity = label then { machine with task := .stop, frames, row }
      else raise machine interrupt frames
    | .rightOperand environment right input pairing, _ =>
      -- Without an output of the right operand, the error of the left one does not count.
      { machine with
        task := .run environment right input
        frames := .pair pairing (.error interrupt) :: frames }
    | .pair _ (.error first), _ => raise machine first frames
    | .key environment part keys found parts input path, _ =>
      -- Without an output of another index, the error of this one does not count.
      { machine with frames }.locateBehind environment part keys found parts input
        (path.bind fun _ => .error interrupt)
    | _, _ => raise machine interrupt frames

/-- What a consumer does with an item; the row has the items behind it. -/
def accept (machine : Machine) (item : Item) (row : Row) (consumer : Consumer) : Machine :=
  match consumer, item with
  | .collect found, .value value => machine.drawRow (.collect (value :: found)) row
  -- Behind the last item that is wanted, the row is given up.
  | .limit count, _ =>
    (if count ≤ 1 then machine else machine.drawLater (.limit (count - 1)) row).go (.give item)
  | .skip 0, _ => (machine.drawLater (.skip 0) row).go (.give item)
  | .skip (count + 1), _ => machine.drawRow (.skip count) row
  | .last _, .value value => machine.drawRow (.last (some value)) row
  | .payload _, .value value => machine.go (.fail (.failure value))
  | .truths otherwise, .value value =>
    if value.isTrue then (machine.drawLater (.truths none) row).give value
    else machine.drawRow (.truths otherwise) row
  | .decide positive negative, .value value =>
    if value.isTrue then machine.go positive else machine.drawRow (.decide positive negative) row
  | .keys environment term sorting done sorted found rest, .value value =>
    machine.drawRow (.keys environment term sorting done sorted (value :: found) rest) row
  | .loop loop value, _ => machine.turn loop item row value
  | .items change done rest, .value value =>
    machine.drawRow (.items change (value :: done) rest) row
  | .entries change done key rest, .value value =>
    machine.changeEntries change ((key, value) :: done) rest
  | .part selection whole, .value value =>
    machine.settle (Access.replace selection whole (some value))
  | _, _ => machine.go .stop

/-- What a consumer does when there is no further item. -/
def conclude (machine : Machine) (consumer : Consumer) : Machine :=
  match consumer with
  | .collect found => machine.give (.array found.reverse)
  -- Without any item, there is no last one.
  | .last (some value) => machine.give value
  | .payload otherwise => machine.go otherwise
  | .truths (some otherwise) => machine.go otherwise
  | .decide _ negative => machine.go negative
  | .keys environment term sorting done sorted found rest =>
    let done := (.array found.reverse, sorted) :: done
    match rest with
    | [] => machine.give (sorting.apply done.reverse)
    | next :: rest =>
      machine.drawTask (.keys environment term sorting done next [] rest)
        (.run environment term next)
  | .loop loop value => machine.loop loop [] value
  | .items change done rest => machine.changeItems change done rest
  | .entries change done _ rest => machine.changeEntries change done rest
  | .part selection whole => machine.settle (Access.replace selection whole none)
  | _ => machine.go .stop

/-- What a consumer does with an error in the place of an item. -/
def refuse (machine : Machine) (interrupt : Interrupt) (row : Row) (consumer : Consumer) :
    Machine :=
  match consumer with
  | .limit count =>
    (if count ≤ 1 then machine else machine.drawLater (.limit (count - 1)) row).go (.fail interrupt)
  | .skip (count + 1) => machine.drawRow (.skip count) row
  -- An error counts as an output that is no truth value.
  | .truths _ => (machine.drawLater (.truths none) row).go (.fail interrupt)
  | .decide positive _ => machine.go positive
  | _ => machine.go (.fail interrupt)

/-- What an evaluation has to show after a step. -/
inductive Progress where
  | running (machine : Machine)
  /-- An output, and the evaluation of those behind it. -/
  | output (result : Result) (machine : Machine)
  | finished

/-- The evaluation around the innermost layer, in which nothing has been done yet. -/
def outside (machine : Machine) (layer : Layer) (layers : List Layer) : Machine :=
  { machine with task := .stop, frames := layer.frames, row := layer.row, layers }

/-- An item that no frame takes goes to the consumer of the row; without one it is an output. -/
def deliver (machine : Machine) (item : Item) : Progress :=
  match machine.layers with
  | layer :: layers =>
    .running ((machine.outside layer layers).accept item machine.row layer.consumer)
  | [] =>
    match item with
    -- Outside of all rows, only values are outputs.
    | .value value => .output (.ok value) (machine.go .stop)
    | _ => .running (machine.go .stop)

/-- One step of an evaluation. -/
def step (machine : Machine) : Progress :=
  match machine.task with
  -- The next branch of the row is taken up, and at its end the consumer concludes.
  | .stop =>
    match machine.row, machine.layers with
    | (task, frames) :: row, _ => .running { machine with task, frames, row }
    | [], layer :: layers => .running ((machine.outside layer layers).conclude layer.consumer)
    | [], [] => .finished
  | .give item =>
    match machine.frames with
    | frame :: frames => .running ({ machine with frames }.pass item frame)
    | [] => machine.deliver item
  | .fail interrupt =>
    match machine.frames, machine.layers with
    | _ :: _, _ => .running (machine.raise interrupt machine.frames)
    | [], layer :: layers =>
      .running ((machine.outside layer layers).refuse interrupt machine.row layer.consumer)
    | [], [] => .output (.error interrupt) (machine.go .stop)
  | .run environment term input => .running (machine.run environment term input)
  | .bind scope environment pattern value =>
    .running (machine.bind scope environment pattern value)
  | .pass scope parameters arguments input inner =>
    .running (machine.passArguments scope parameters arguments input inner)
  | .locate environment parts input found =>
    .running (machine.locate environment parts input found)
  | .read path value => .running (machine.read path value)
  | .readEach path values => .running (machine.readEach path values)
  | .count remaining number step => .running (machine.count remaining number step)
  | .modify environment term change value =>
    .running (machine.modify environment term change value)
  | .apply change value => .running (machine.apply change value)
  | .alter access change value => .running (machine.alter access change value)
  | .loop loop row value => .running (machine.loop loop row value)
  | .draw consumer row => .running (machine.drawRow consumer row)

/-- The evaluation of a term on an input, in which nothing has been done yet. -/
def start (term : Term) (input : Value) : Machine :=
  { task := .run .empty term input }

end RuleMetadata.Filter.Machine

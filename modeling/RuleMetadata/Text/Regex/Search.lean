import RuleMetadata.Text.Regex.Basic

/-! Searching for a regular expression. An expression becomes a program of small steps; of several
ways through the program, the one that is preferred at the first difference wins. -/

namespace RuleMetadata.Text.Regex

/-- One step of a program, with the numbers of the steps that can follow. -/
inductive Instruction where
  | one (set : CharSet) (next : Nat)
  | boundary (place : Place) (next : Nat)
  /-- Several steps can follow, the preferred one first. -/
  | fork (targets : List Nat)
  | accept

/-- A program under construction. -/
abbrev Program := Array Instruction

/-- A fork between going on inside a repetition and leaving it. -/
def forkOf (greedy : Bool) (inside outside : Nat) : Instruction :=
  .fork (if greedy then [inside, outside] else [outside, inside])

/-- Adds an instruction. -/
def emit (program : Program) (instruction : Instruction) : Nat × Program :=
  (program.size, program.push instruction)

/-- Adds a body so many times, each time in front of what follows. -/
def emitTimes (body : Nat → Program → Nat × Program) : Nat → Nat → Program → Nat × Program
  | 0, next, program => (next, program)
  | count + 1, next, program =>
    let (next, program) := emitTimes body count next program
    body next program

/-- Adds a body that may follow so many times at most, each time behind the one before. -/
def emitOptional (body : Nat → Program → Nat × Program) (greedy : Bool) (leave : Nat) :
    Nat → Program → Nat × Program
  | 0, program => (leave, program)
  | count + 1, program =>
    let (next, program) := emitOptional body greedy leave count program
    let (inside, program) := body next program
    -- Each body has a fork in front, with a way past all that are left.
    emit program (forkOf greedy inside leave)

/-- Adds a body that follows any number of times, at least once. -/
def emitSome (body : Nat → Program → Nat × Program) (greedy : Bool) (leave : Nat)
    (program : Program) : Nat × Program :=
  let (again, program) := emit program (.fork [])
  let (inside, program) := body again program
  (inside, program.setIfInBounds again (forkOf greedy inside leave))

mutual

/-- Adds the instructions of an expression in front of an instruction. -/
def compile : Regex → Nat → Program → Nat × Program
  | .empty, next, program => (next, program)
  | .just char, next, program => emit program (.one (.between char char) next)
  | .oneOf set, next, program => emit program (.one set next)
  | .boundary place, next, program => emit program (.boundary place next)
  | .group _ body, next, program => compile body next program
  | .sequence parts, next, program => compileParts parts next program
  | .choice branches, next, program =>
    let (targets, program) := compileBranches branches next program
    emit program (.fork targets)
  | .repeated body least most greedy, next, program =>
    let addBody := compile body
    match most with
    | some most =>
      let (next, program) := emitOptional addBody greedy next (most - least) program
      emitTimes addBody least next program
    | none =>
      if 0 < least then
        let (next, program) := emitSome addBody greedy next program
        emitTimes addBody (least - 1) next program
      else if body.isNullable then
        -- A body that can be empty is repeated at least once or left out, so that its own
        -- preferences decide.
        let (inside, program) := emitSome addBody greedy next program
        emit program (forkOf greedy inside next)
      else
        let (again, program) := emit program (.fork [])
        let (inside, program) := addBody again program
        (again, program.setIfInBounds again (forkOf greedy inside next))

/-- Adds the instructions of expressions one after the other. -/
def compileParts : List Regex → Nat → Program → Nat × Program
  | [], next, program => (next, program)
  | part :: rest, next, program =>
    let (next, program) := compileParts rest next program
    compile part next program

/-- Adds the instructions of expressions one of which is to match, and gives where each begins. -/
def compileBranches : List Regex → Nat → Program → List Nat × Program
  | [], _, program => ([], program)
  | branch :: rest, next, program =>
    -- The last branch is added first, since all of them lead to what is there already.
    let (targets, program) := compileBranches rest next program
    let (target, program) := compile branch next program
    (target :: targets, program)

end

/-- The steps that can follow an instruction without a character. -/
def Instruction.targets : Instruction → List Nat
  | .one _ _ => []
  | .boundary _ next => [next]
  | .fork targets => targets
  | .accept => []

/-- A program that is complete. -/
structure Automaton where
  program : Program
  start : Nat
  /-- How many ways there are from one step to another without a character. -/
  ways : Nat

/-- The automaton of an expression. -/
def automaton (regex : Regex) : Automaton :=
  let (start, program) := compile regex 0 #[.accept]
  { program, start, ways := program.foldl (fun ways step => ways + step.targets.length) 0 }

/-- A way through a program that waits for a character: the characters that it takes, the step that
follows, and the place in the text at which the way began. -/
structure Thread where
  set : CharSet
  next : Nat
  origin : Nat

/-- The threads that can be reached without a character from steps with their origins, and the
origin of a match if the program accepts; what is less preferred than accepting is left out. -/
def reach (program : Program) (before after : Option Char) :
    Nat → List (Nat × Nat) → Array Bool → List Thread → List Thread × Option Nat
  | 0, _, _, threads => (threads.reverse, none)
  | _ + 1, [], _, threads => (threads.reverse, none)
  | fuel + 1, (step, origin) :: steps, visited, threads =>
    if visited[step]?.getD true then reach program before after fuel steps visited threads
    else
      let visited := visited.setIfInBounds step true
      match program[step]? with
      | some (.one set next) =>
        reach program before after fuel steps visited (⟨set, next, origin⟩ :: threads)
      | some (.boundary place next) =>
        if place.holds before after then
          reach program before after fuel ((next, origin) :: steps) visited threads
        else reach program before after fuel steps visited threads
      | some (.fork targets) =>
        reach program before after fuel (targets.map (·, origin) ++ steps) visited threads
      -- What is left would be less preferred.
      | some .accept => (threads.reverse, some origin)
      | none => reach program before after fuel steps visited threads

/-- The place and the end of the first match in a text from a place on. As long as nothing matches,
a match can also begin later, which is preferred least. -/
def findFrom (automaton : Automaton) (place : Nat) (before : Option Char)
    (steps : List (Nat × Nat)) (matched : Option (Nat × Nat)) (chars : List Char) :
    Option (Nat × Nat) :=
  let steps := if matched.isNone then steps ++ [(automaton.start, place)] else steps
  -- Each way is gone once, because a step is visited once.
  let (threads, accepted) :=
    reach automaton.program before chars.head? (automaton.ways + steps.length + 1) steps
      (Array.replicate automaton.program.size false) []
  let matched := (accepted.map (·, place)).or matched
  match chars with
  | [] => matched
  | char :: rest =>
    let steps := threads.filterMap fun thread =>
      if thread.set.contains char then some (thread.next, thread.origin) else none
    if steps.isEmpty && matched.isSome then matched
    else findFrom automaton (place + 1) (some char) steps matched rest

/-- The pieces of characters between the matches. An empty match does not count right behind another
match, and it never counts if empty matches are to be left out. -/
def piecesFrom (automaton : Automaton) (leavesOutEmpty : Bool) :
    Nat → Option Char → Bool → List Char → List Char → List (List Char)
  | 0, _, _, piece, chars => [piece.reverse ++ chars]
  | fuel + 1, before, behindMatch, piece, chars =>
    match findFrom automaton 0 before [] none chars with
    | none => [piece.reverse ++ chars]
    | some (start, stop) =>
      -- The search goes on with the next character, which is a part of the piece.
      if behindMatch && stop = 0 then
        match chars with
        | [] => [piece.reverse]
        | char :: rest =>
          piecesFrom automaton leavesOutEmpty fuel (some char) false (char :: piece) rest
      else
        let before := (chars.take stop).getLast?.or before
        let rest := chars.drop stop
        let piece := (chars.take start).reverse ++ piece
        if leavesOutEmpty && start = stop then
          piecesFrom automaton leavesOutEmpty fuel before true piece rest
        else
          piece.reverse :: piecesFrom automaton leavesOutEmpty fuel before true [] rest

/-- The pieces of a text between the matches of an expression. -/
def split (regex : Regex) (leavesOutEmpty : Bool) (text : String) : List String :=
  -- Between two characters there are at most two turns.
  (piecesFrom (automaton regex) leavesOutEmpty (2 * text.length + 2) none false []
    text.toList).map String.ofList

end RuleMetadata.Text.Regex

import RuleMetadata.Filter.Term
import RuleMetadata.Filter.Token

/-! Reading terms of the filter language from tokens.

A term is a row of operands with operators between them; the operators' ranks and the side on which
they group decide how the row is put together. -/

namespace RuleMetadata.Filter

/-- An operator between two operands. -/
inductive Operator where
  | pipe
  | bind (pattern : Pattern)
  | both
  | assign
  | modify
  | modifyWith (operation : Arithmetic)
  | modifyDefault
  | alternative
  | disjunction
  | conjunction
  | compare (comparison : Comparison)
  | arithmetic (operation : Arithmetic)

namespace Operator

/-- The rank of an operator; those of a higher rank take their operands first. -/
def rank : Operator → Nat
  | .pipe => 0
  | .bind _ => 0
  | .both => 1
  | .assign => 2
  | .modify => 2
  | .modifyWith _ => 2
  | .modifyDefault => 2
  -- Alternatives bind weaker than any condition.
  | .alternative => 3
  | .disjunction => 4
  | .conjunction => 5
  | .compare .equal => 6
  | .compare .unequal => 6
  | .compare _ => 7
  | .arithmetic .add => 8
  | .arithmetic .subtract => 8
  | .arithmetic .multiply => 9
  | .arithmetic .divide => 9
  | .arithmetic .remainder => 10

/-- Whether a row of operators of one rank groups to the right. -/
def groupsRight (rank : Nat) : Bool :=
  rank == 0 || rank == 2 || rank == 3

/-- The operator that a symbol stands for. -/
def ofSymbol? : String → Option Operator
  | "|" => some .pipe
  | "," => some .both
  | "=" => some .assign
  | "|=" => some .modify
  | "+=" => some (.modifyWith .add)
  | "-=" => some (.modifyWith .subtract)
  | "*=" => some (.modifyWith .multiply)
  | "/=" => some (.modifyWith .divide)
  | "%=" => some (.modifyWith .remainder)
  | "//=" => some .modifyDefault
  | "//" => some .alternative
  | "==" => some (.compare .equal)
  | "!=" => some (.compare .unequal)
  | "<" => some (.compare .less)
  | "<=" => some (.compare .atMost)
  | ">" => some (.compare .greater)
  | ">=" => some (.compare .atLeast)
  | "+" => some (.arithmetic .add)
  | "-" => some (.arithmetic .subtract)
  | "*" => some (.arithmetic .multiply)
  | "/" => some (.arithmetic .divide)
  | "%" => some (.arithmetic .remainder)
  | _ => none

/-- The term of an operator and its operands. -/
def apply (operator : Operator) (left right : Term) : Term :=
  match operator with
  | .pipe => .pipe left right
  | .bind pattern => .bind left pattern right
  | .both => .both left right
  | .assign => .assign left right
  | .modify => .modify left right
  | .modifyWith operation => .modifyWith operation left right
  | .modifyDefault => .modifyDefault left right
  | .alternative => .alternative left right
  | .disjunction => .disjunction left right
  | .conjunction => .conjunction left right
  | .compare comparison => .compare comparison left right
  | .arithmetic operation => .arithmetic operation left right

/-- The place at which a row is split last: at an operator of the lowest rank, the first of them if
they group to the right and the last one otherwise. -/
def splitPlace (tail : List (Operator × Term)) : Nat :=
  let ranks := tail.map (·.1.rank)
  let lowest := ranks.foldl min 10
  if groupsRight lowest then ranks.findIdx (· == lowest)
  else tail.length - 1 - ranks.reverse.findIdx (· == lowest)

/-- The term of a row of operands; the fuel is the number of operators. -/
def combine : Nat → Term → List (Operator × Term) → Term
  | 0, head, _ => head
  | fuel + 1, head, tail =>
    -- The row is split at the operator that is applied last.
    match tail.drop (splitPlace tail) with
    | [] => head
    | (operator, operand) :: rest =>
      operator.apply (combine fuel head (tail.take (splitPlace tail))) (combine fuel operand rest)

end Operator

namespace Term

/-- The term without outputs. -/
def nothing : Term :=
  .path (.constant (.array [])) [.all false]

/-- A text constant. -/
def ofText (text : String) : Term :=
  .constant (.text text)

/-- The sum of terms, or another term if there are none. -/
def sum (none : Term) : List Term → Term
  | [] => none
  | first :: rest => rest.foldl (.arithmetic .add) first

end Term

/-- Takes a symbol. -/
private def takeSymbol (text : String) : List Token → Option (List Token)
  | .symbol found :: rest => if found = text then some rest else none
  | _ => none

/-- Takes a word. -/
private def takeKeyword (name : String) : List Token → Option (List Token)
  | .word found :: rest => if found = name then some rest else none
  | _ => none

/-- The tokens between the separating symbols of a list. -/
private def splitAt (separator : String) : List Token → List (List Token)
  | [] => [[]]
  | token :: rest =>
    let separates := match token with
      | .symbol text => text == separator
      | _ => false
    match splitAt separator rest with
    | [] => [[token]]
    -- Brackets are one token, so what stands inside of them is not split.
    | first :: others => if separates then [] :: first :: others else (token :: first) :: others

/-- Takes the name of a definition. -/
private def takeDefinedName : List Token → Option (String × List Token)
  | .word name :: rest => if Token.isPlainName name then some (name, rest) else none
  | .format name :: rest => if Token.isPlainName name then some ("@" ++ name, rest) else none
  | _ => none

/-- One parameter of a definition. -/
private def readParameter : List Token → Option Parameter
  | [.word name] => if Token.isPlainName name then some ⟨name, false⟩ else none
  | [.variable name] => if Token.isPlainName name then some ⟨name, true⟩ else none
  | _ => none

/-- The parameters of a definition, if there are any. -/
private def takeParameters : List Token → Option (List Parameter × List Token)
  | .block '(' content :: rest =>
    ((splitAt ";" content).mapM readParameter).map fun parameters => (parameters, rest)
  | tokens => some ([], tokens)

mutual

/-- Reads a term that makes up all the tokens. -/
def readWhole : Nat → List Token → Option Term
  | 0, _ => none
  | fuel + 1, tokens =>
    -- Tokens that are left over belong to nothing.
    match readTerm fuel true tokens with
    | some (term, []) => some term
    | _ => none

/-- Reads a term; one without commas ends at the first comma. -/
def readTerm : Nat → Bool → List Token → Option (Term × List Token)
  | 0, _, _ => none
  | fuel + 1, commas, tokens => do
    let (head, rest) ← readOperand fuel tokens
    -- The operators are read first, and put in order by their ranks then.
    let (tail, rest) ← readTail fuel commas rest
    return (Operator.combine tail.length head tail, rest)

/-- Reads the operators of a row with the operands behind them. -/
def readTail : Nat → Bool → List Token → Option (List (Operator × Term) × List Token)
  | 0, _, _ => none
  | fuel + 1, commas, tokens =>
    match tokens with
    | .word "as" :: rest => do
      let (pattern, rest) ← readPattern fuel rest
      readMore fuel commas (.bind pattern) (← takeSymbol "|" rest)
    | .word "and" :: rest => readMore fuel commas .conjunction rest
    | .word "or" :: rest => readMore fuel commas .disjunction rest
    | .symbol text :: rest =>
      -- In an object, a comma ends the value.
      if text = "," && !commas then some ([], tokens)
      else match Operator.ofSymbol? text with
        | some operator => readMore fuel commas operator rest
        | none => some ([], tokens)
    | _ => some ([], tokens)

/-- Reads the operand of an operator and the rest of the row. -/
def readMore : Nat → Bool → Operator → List Token → Option (List (Operator × Term) × List Token)
  | 0, _, _, _ => none
  | fuel + 1, commas, operator, tokens => do
    -- Behind an operator there must be an operand.
    let (operand, rest) ← readOperand fuel tokens
    let (tail, rest) ← readTail fuel commas rest
    return ((operator, operand) :: tail, rest)

/-- Reads an operand with the steps of a path behind it. -/
def readOperand : Nat → List Token → Option (Term × List Token)
  | 0, _ => none
  | fuel + 1, tokens =>
    match tokens with
    -- A step without an operand in front starts from the input.
    | .key name :: rest => readSteps fuel .identity [.index (.ofText name) false] rest
    | .symbol "." :: .text pieces :: rest => do
      readSteps fuel .identity [.index (← readPieces fuel none pieces) false] rest
    | _ => do
      let (term, rest) ← readPlain fuel tokens
      readSteps fuel term [] rest

/-- Reads the steps behind an operand, the last one of which comes first in `done`. -/
def readSteps : Nat → Term → List Part → List Token → Option (Term × List Token)
  | 0, _, _, _ => none
  | fuel + 1, start, done, tokens =>
    match tokens with
    | .symbol "?" :: rest =>
      match done with
      -- The mark makes the step in front of it optional, or the operand itself.
      | last :: earlier => readSteps fuel start (last.optionally :: earlier) rest
      | [] => readSteps fuel (.attempt start .nothing) [] rest
    | .key name :: rest => readSteps fuel start (.index (.ofText name) false :: done) rest
    | .symbol "." :: .text pieces :: rest => do
      readSteps fuel start (.index (← readPieces fuel none pieces) false :: done) rest
    | .block '[' content :: rest => do
      readSteps fuel start ((← readPart fuel content) :: done) rest
    | _ => some (if done.isEmpty then start else .path start done.reverse, tokens)

/-- Reads what stands between the brackets of a step. -/
def readPart : Nat → List Token → Option Part
  | 0, _ => none
  | fuel + 1, tokens =>
    match tokens with
    | [] => some (.all false)
    | .symbol ":" :: rest => (readWhole fuel rest).map (.upTo · false)
    | _ => do
      -- A lower bound is told from an index by what follows it.
      let (lower, rest) ← readTerm fuel true tokens
      match rest with
      | [] => return .index lower false
      | [.symbol ":"] => return .from lower false
      | .symbol ":" :: rest => return .between lower (← readWhole fuel rest) false
      | _ => none

/-- Reads an operand without the steps behind it. -/
def readPlain : Nat → List Token → Option (Term × List Token)
  | 0, _ => none
  | fuel + 1, tokens =>
    match tokens with
    | .symbol "-" :: rest => do
      let (body, rest) ← readOperand fuel rest
      return (.negate body, rest)
    | .symbol "." :: rest => some (.identity, rest)
    | .symbol ".." :: rest => some (.recurse, rest)
    | .numeral text :: rest => some (.constant (.number (.ofNumeral text)), rest)
    | .variable name :: rest => some (.variable name, rest)
    | .text pieces :: rest => do return (← readPieces fuel none pieces, rest)
    | .format name :: .text pieces :: rest => do return (← readPieces fuel name pieces, rest)
    | .format name :: rest => some (.call ("@" ++ name) [], rest)
    | .block '(' content :: rest => do return (← readWhole fuel content, rest)
    | .block '[' [] :: rest => some (.constant (.array []), rest)
    | .block '[' content :: rest => do return (.collect (← readWhole fuel content), rest)
    | .block _ [] :: rest => some (.constant (.object []), rest)
    | .block _ content :: rest => do
      return (.sum .nothing (← readEntries fuel content), rest)
    | .word "if" :: rest => readChoice fuel rest
    | .word "try" :: rest => do
      let (body, rest) ← readOperand fuel rest
      match rest with
      | .word "catch" :: rest =>
        let (handler, rest) ← readOperand fuel rest
        return (.attempt body handler, rest)
      | _ => return (.attempt body .nothing, rest)
    | .word "reduce" :: rest => readFold fuel "reduce" rest
    | .word "foreach" :: rest => readFold fuel "foreach" rest
    | .word "label" :: .variable name :: rest => do
      let (body, rest) ← readTerm fuel true (← takeSymbol "|" rest)
      return (.label name body, rest)
    | .word "break" :: .variable name :: rest => some (.leave name, rest)
    -- These words have no other meaning, so they are no calls.
    | .word "label" :: _ => none
    | .word "break" :: _ => none
    | .word "def" :: rest => do
      let (name, rest) ← takeDefinedName rest
      let (parameters, rest) ← takeParameters rest
      let (body, rest) ← readTerm fuel true (← takeSymbol ":" rest)
      let (remainder, rest) ← readTerm fuel true (← takeSymbol ";" rest)
      return (.define name parameters body remainder, rest)
    | .word name :: .block '(' content :: rest => do
      return (.call name (← readArguments fuel content), rest)
    | .word name :: rest => some (.call name [], rest)
    | _ => none

/-- Reads arguments with semicolons between them. -/
def readArguments : Nat → List Token → Option (List Term)
  | 0, _ => none
  | fuel + 1, tokens => do
    let (argument, rest) ← readTerm fuel true tokens
    -- There is a semicolon between any two of them, and none at the end.
    match rest with
    | [] => return [argument]
    | _ => return argument :: (← readArguments fuel (← takeSymbol ";" rest))

/-- Reads a choice behind its first word; without an alternative the input is the output. -/
def readChoice : Nat → List Token → Option (Term × List Token)
  | 0, _ => none
  | fuel + 1, tokens => do
    let (condition, rest) ← readTerm fuel true tokens
    let (positive, rest) ← readTerm fuel true (← takeKeyword "then" rest)
    match rest with
    | .word "elif" :: rest =>
      -- The rest of the words up to the end belongs to the inner choice.
      let (negative, rest) ← readChoice fuel rest
      return (.choose condition positive negative, rest)
    | .word "else" :: rest =>
      let (negative, rest) ← readTerm fuel true rest
      return (.choose condition positive negative, ← takeKeyword "end" rest)
    | _ => return (.choose condition positive .identity, ← takeKeyword "end" rest)

/-- Reads a fold behind its first word. -/
def readFold : Nat → String → List Token → Option (Term × List Token)
  | 0, _, _ => none
  | fuel + 1, name, tokens => do
    let (source, rest) ← readOperand fuel tokens
    let (pattern, rest) ← readPattern fuel (← takeKeyword "as" rest)
    let (arguments, rest) ← match rest with
      | .block '(' content :: rest => (readArguments fuel content).map (·, rest)
      | _ => some ([], rest)
    match name, arguments with
    | "reduce", [start, step] => return (.reduce source pattern start step, rest)
    | "foreach", [start, step] => return (.foreach source pattern start step .identity, rest)
    | "foreach", [start, step, project] =>
      return (.foreach source pattern start step project, rest)
    -- No fold takes another number of arguments, whatever else has its name.
    | _, _ => return (.missing name, rest)

/-- Reads the pieces of a text, each of which becomes a text by a format. -/
def readPieces : Nat → Option String → List Piece → Option Term
  | 0, _, _ => none
  | fuel + 1, format, pieces => do
    let terms ← pieces.mapM fun
      | .literal text => some (.ofText text)
      | .inner content => do
        -- A text inside of another one is made of a value by the format, or as it shows.
        let written : Term := match format with
          | some name => .call ("@" ++ name) []
          | none => .shown
        return .pipe (← readWhole fuel content) written
    return .sum (.ofText "") terms

/-- Reads the entries of an object, the last of which may have a comma behind it. -/
def readEntries : Nat → List Token → Option (List Term)
  | 0, _ => none
  | fuel + 1, tokens => do
    let (entry, rest) ← readEntry fuel tokens
    match rest with
    | [] => return [entry]
    -- One comma may follow the last entry.
    | [.symbol ","] => return [entry]
    | .symbol "," :: rest => return entry :: (← readEntries fuel rest)
    | _ => none

/-- Reads one entry of an object; without a value, the key names it. -/
def readEntry : Nat → List Token → Option (Term × List Token)
  | 0, _ => none
  | fuel + 1, tokens =>
    -- The key is used twice if there is no value.
    let named (key : Term) (rest : List Token) : Option (Term × List Token) :=
      match rest with
      | .symbol ":" :: rest =>
        (readTerm fuel false rest).map fun (value, rest) => (.entry key value, rest)
      | _ => some (.entry key (.path .identity [.index key false]), rest)
    match tokens with
    | .block '(' content :: rest => do
      let key ← readWhole fuel content
      let (value, rest) ← readTerm fuel false (← takeSymbol ":" rest)
      return (.entry key value, rest)
    | .variable name :: .symbol ":" :: rest => do
      let (value, rest) ← readTerm fuel false rest
      return (.entry (.variable name) value, rest)
    | .variable name :: rest => some (.entry (.ofText name) (.variable name), rest)
    | .word name :: rest => if Token.isPlainName name then named (.ofText name) rest else none
    | .text pieces :: rest => do named (← readPieces fuel none pieces) rest
    | .format name :: .text pieces :: rest => do named (← readPieces fuel name pieces) rest
    | _ => none

/-- Reads a pattern. -/
def readPattern : Nat → List Token → Option (Pattern × List Token)
  | 0, _ => none
  | fuel + 1, tokens =>
    match tokens with
    | .variable name :: rest => some (.variable name, rest)
    -- Patterns stand in brackets like what they match.
    | .block '[' content :: rest => do
      return (← readItemPatterns fuel 0 (splitAt "," content), rest)
    | .block '\x7b' content :: rest => do
      return (← readEntryPatterns fuel (splitAt "," content), rest)
    | _ => none

/-- Reads the patterns of an array's items, the first of which has the given index. -/
def readItemPatterns : Nat → Nat → List (List Token) → Option Pattern
  | 0, _, _ => none
  | _ + 1, _, [] => some .nothing
  | fuel + 1, index, item :: rest =>
    match readPattern fuel item with
    | some (inner, []) =>
      -- Each item is matched by its index.
      (readItemPatterns fuel (index + 1) rest).map
        (.field (.constant (.ofInt index)) inner)
    | _ => none

/-- Reads the patterns of an object's entries, the last of which may have a comma behind it. -/
def readEntryPatterns : Nat → List (List Token) → Option Pattern
  | 0, _ => none
  | _ + 1, [] => some .nothing
  -- Behind the last comma there is nothing.
  | _ + 1, [[]] => some .nothing
  | fuel + 1, entry :: rest => do
    let (key, inner) ← readEntryPattern fuel entry
    return .field key inner (← readEntryPatterns fuel rest)

/-- Reads the pattern of one entry; a variable alone stands for the entry of its name. -/
def readEntryPattern : Nat → List Token → Option (Term × Pattern)
  | 0, _ => none
  | fuel + 1, tokens =>
    -- Nothing may follow the pattern of the value.
    let inner (key : Term) (rest : List Token) : Option (Term × Pattern) := do
      match ← readPattern fuel (← takeSymbol ":" rest) with
      | (pattern, []) => some (key, pattern)
      | _ => none
    match tokens with
    | [.variable name] => some (.ofText name, .variable name)
    | .word name :: rest => if Token.isPlainName name then inner (.ofText name) rest else none
    | .text pieces :: rest => do inner (← readPieces fuel none pieces) rest
    | .block '(' content :: rest => do inner (← readWhole fuel content) rest
    | _ => none

end

/-- Reads a program: a term, which a description of the program may precede. -/
def readProgram (fuel : Nat) : List Token → Option Term
  | .word "module" :: rest => do
    let (_, rest) ← readTerm fuel true rest
    readWhole fuel (← takeSymbol ";" rest)
  -- There are no other programs that could be taken in.
  | .word "import" :: _ => none
  | .word "include" :: _ => none
  | tokens => readWhole fuel tokens

/-- The term that a text spells, if it spells one. -/
def Term.ofText? (text : String) : Option Term := do
  let tokens ← Token.ofText? text
  -- Between two tokens the readers call each other fewer than a dozen times.
  readProgram (12 * text.length + 24) tokens

end RuleMetadata.Filter

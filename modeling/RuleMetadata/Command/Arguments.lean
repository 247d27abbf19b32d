/-! The options of a command line: which there are, and which of them are given with what values. -/

namespace RuleMetadata.Command

/-- How many values an option takes each time it is given. -/
inductive Arity where
  | none
  | one
  | several
  deriving DecidableEq, Repr

/-- An option that a command line may have. -/
structure OptionShape where
  name : String
  letter : Option Char := none
  arity : Arity := .none
  /-- Whether the option may be given more than once. -/
  repeatable : Bool := false
  /-- Whether a value may be empty. -/
  acceptsEmpty : Bool := true
  deriving DecidableEq, Repr

/-- Why reading a command line stops before its end. -/
inductive Stop where
  | help
  | version
  | misuse
  deriving DecidableEq, Repr

/-- An option as it is given, with its values. -/
structure Given where
  name : String
  values : List String := []
  deriving DecidableEq, Repr

/-- The part of a command line that one command reads: its options, and the words from the first
one on that belongs to no option. -/
structure Reading where
  given : List Given := []
  rest : List String := []
  deriving DecidableEq, Repr

namespace Reading

/-- Whether an option is given. -/
def has (reading : Reading) (name : String) : Bool :=
  reading.given.any (·.name = name)

/-- All values of an option. -/
def values (reading : Reading) (name : String) : List String :=
  (reading.given.filter (·.name = name)).flatMap (·.values)

/-- The value of an option. -/
def value? (reading : Reading) (name : String) : Option String :=
  (reading.values name).head?

end Reading

namespace OptionShape

/-- The option that shows how the command line is used. -/
def help : OptionShape := { name := "help", letter := some 'h' }

/-- The option that shows the version of the program. -/
def version : OptionShape := { name := "version", letter := some 'V' }

/-- Takes note of an option; a second time is a misuse unless it is repeatable. -/
def note (shape : OptionShape) (given : List Given) (values : List String) :
    Except Stop (List Given) :=
  -- Asking for help ends the reading, whatever else is wrong behind it.
  if shape = help then .error .help
  else if shape = version then .error .version
  else if !shape.acceptsEmpty && values.contains "" then .error .misuse
  else if !shape.repeatable && given.any (·.name = shape.name) then .error .misuse
  else .ok (given ++ [⟨shape.name, values⟩])

end OptionShape

/-- An option whose values are being read, with those that were read. -/
structure Open where
  shape : OptionShape
  values : List String := []

/-- The options that were read, and one whose values may follow. -/
structure Progress where
  given : List Given := []
  pending : Option Open := none

namespace Progress

/-- The options with the last one complete; it must not lack a value. -/
def close (progress : Progress) : Except Stop (List Given) :=
  match progress.pending with
  | none => .ok progress.given
  | some last =>
    -- An option that takes several values takes one at least.
    if last.values.isEmpty then .error .misuse
    else last.shape.note progress.given last.values

/-- Begins an option with a value that is attached to it, if there is one. -/
def begin (progress : Progress) (shape : OptionShape) (attached : Option String) :
    Except Stop Progress := do
  -- The option before it is complete now.
  let given ← progress.close
  match shape.arity, attached with
  | .none, none => return { given := ← shape.note given [] }
  | .none, some _ => throw .misuse
  | _, some value => return { given := ← shape.note given [value] }
  | _, none => return { given, pending := some { shape } }

/-- Gives a value to the option that waits for it, if there is one. -/
def addValue? (progress : Progress) (value : String) : Option (Except Stop Progress) :=
  match progress.pending with
  | none => none
  | some last =>
    let values := last.values ++ [value]
    match last.shape.arity with
    -- An option that takes several values goes on waiting for more.
    | .several =>
      if !last.shape.acceptsEmpty && value = "" then some (.error .misuse)
      else some (.ok { progress with pending := some { last with values } })
    | _ => some ((last.shape.note progress.given values).map fun given => { given })

/-- Begins the options of a row of letters; what stands behind one that takes a value is its value,
without an equals sign in front. -/
def beginLetters (shapes : List OptionShape) (progress : Progress) :
    List Char → Except Stop Progress
  | [] => .ok progress
  | letter :: rest =>
    match shapes.find? (·.letter = some letter) with
    | none => .error .misuse
    | some shape =>
      if shape.arity = .none then do beginLetters shapes (← progress.begin shape none) rest
      -- The rest of the letters is the value, behind an equals sign or not.
      else match rest with
        | [] => progress.begin shape none
        | '=' :: value => progress.begin shape (String.ofList value)
        | value => progress.begin shape (String.ofList value)

/-- Begins the option of a name, with a value behind an equals sign. -/
def beginName (shapes : List OptionShape) (progress : Progress) (word : List Char) :
    Except Stop Progress :=
  let name := String.ofList (word.takeWhile (· != '='))
  match shapes.find? (·.name = name) with
  | none => .error .misuse
  | some shape =>
    match word.dropWhile (· != '=') with
    | [] => progress.begin shape none
    -- The sign itself goes, and what follows may be empty.
    | _ :: value => progress.begin shape (String.ofList value)

end Progress

/-- Reads the words of a command line up to the first that belongs to no option. -/
def readOptions (shapes : List OptionShape) (progress : Progress) :
    List String → Except Stop Reading
  | [] => do return { given := ← progress.close }
  | word :: rest =>
    match word.toList with
    | ['-', '-'] => do
      -- Behind two hyphens no word is an option, and none has another meaning.
      let given ← progress.close
      if rest.isEmpty then return { given } else throw .misuse
    | '-' :: '-' :: name => do readOptions shapes (← progress.beginName shapes name) rest
    | '-' :: letter :: letters => do
      readOptions shapes (← progress.beginLetters shapes (letter :: letters)) rest
    | _ =>
      match progress.addValue? word with
      | some next => do readOptions shapes (← next) rest
      | none => .ok { given := progress.given, rest := word :: rest }

end RuleMetadata.Command

import RuleMetadata.Files.Pattern
import RuleMetadata.Model.Build
import RuleMetadata.Round.Report

/-! Problems that end a command, shown with the problems behind them. -/

namespace RuleMetadata.Command

/-- A problem, and those behind it from the nearest to the first. -/
structure Problem where
  message : String
  causes : List String := []
  deriving DecidableEq, Repr

namespace Problem

/-- The problem as the cause of another one. -/
def under (problem : Problem) (message : String) : Problem :=
  ⟨message, problem.message :: problem.causes⟩

/-- A text with its lines behind the first indented. -/
private def hang (indent text : String) : String :=
  ("\n" ++ indent).intercalate ((Text.splitOn (· == '\n') text.toList).map String.ofList)

/-- The causes of a problem in lines, numbered if there are several. -/
private def causeLines (causes : List String) : List String :=
  match causes with
  | [cause] => ["    " ++ hang "    " cause]
  -- Numbers stand to the right, so that all causes begin in one column.
  | _ => causes.zipIdx.map fun (cause, index) =>
    let number := toString index
    let blanks := String.ofList (List.replicate (5 - number.length) ' ')
    blanks ++ number ++ ": " ++ hang "       " cause

/-- The lines that show a problem. -/
def render (problem : Problem) : String :=
  let causes := if problem.causes.isEmpty then ""
    else "\n\nCaused by:\n" ++ "\n".intercalate (causeLines problem.causes)
  "Error: " ++ problem.message ++ causes ++ "\n"

/-- A problem with a file. -/
def ofFile (message : String) (error : FileError) : Problem :=
  ⟨message ++ ": " ++ error.message, [error.message]⟩

/-- The problems behind an emission error. -/
def emissionCauses : EmitError → List String
  | .invalidName _ => []
  | .notRendered _ reason => [renderMessage reason]
  | .notWritten _ _ cause => [cause.message]
  | .description error => [error.cause.message]

/-- The problem that ended a round. -/
def ofHalt (halt : Halt) : Problem :=
  ⟨halt.message, halt.error.message :: emissionCauses halt.error⟩

end Problem

end RuleMetadata.Command

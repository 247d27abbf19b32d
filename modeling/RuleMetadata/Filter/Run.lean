import RuleMetadata.Filter.Machine.Step
import RuleMetadata.Filter.Prelude
import RuleMetadata.Json.Reader

/-! Running a filter on a document: each output is a document of its own. -/

namespace RuleMetadata.Filter

/-- Why a filter has no documents. -/
inductive FilterError where
  /-- The text is no filter. -/
  | malformed
  /-- The filter uses names that nothing binds. -/
  | unbound (names : List String)
  /-- An output is an error. -/
  | failed (interrupt : Interrupt)
  /-- An output cannot be written as JSON: its text has a fault. -/
  | notJson (index : Nat) (fault : Json.Fault)
  /-- The evaluation took too many steps. -/
  | exhausted

/-- The wording of an interrupt. -/
def Interrupt.message : Interrupt → String
  | .failure (.text message) => message
  | .failure payload => payload.render
  | .leave _ => "break"

/-- The wording of a filter error. -/
def FilterError.message : FilterError → String
  | .malformed => "the filter cannot be parsed"
  | .unbound names => "undefined " ++ ", ".intercalate names
  | .failed interrupt => "jq runtime error: " ++ interrupt.message
  -- An output may be no document, such as a number that is none.
  | .notJson index fault => s!"jq output #{index} is not plain JSON: {fault.message}"
  | .exhausted => "the evaluation takes too many steps"

/-- The scope of the names that no definition introduces. -/
def baseScope : Scope :=
  { filters := Builtin.callees.map (·.1) }

/-- The term of a filter among the definitions that all filters can use. -/
def read (text : String) : Except FilterError Term :=
  match Term.ofText? text with
  | none => .error .malformed
  | some term =>
    let term := term.within (Prelude.definitions.getD .identity)
    -- Names are checked before anything is evaluated.
    match term.unbound baseScope with
    | [] => .ok term
    | names => .error (.unbound names)

/-- How many steps an evaluation may take, which is more than any can take in time. -/
def stepLimit : Nat := Nat.pow 2 62

/-- The documents that the outputs of an evaluation stand for, behind those that are done; the first
output that stands for none ends them. -/
def documents : Nat → List Json → Machine → Except FilterError (List Json)
  | 0, _, _ => .error .exhausted
  | fuel + 1, done, machine =>
    match machine.step with
    | .running machine => documents fuel done machine
    | .finished => .ok done.reverse
    | .output (.error interrupt) _ => .error (.failed interrupt)
    | .output (.ok value) machine =>
      -- A document is what the text of an output stands for.
      match Json.parse value.render with
      | .error fault => .error (.notJson done.length fault)
      | .ok document => documents fuel (document :: done) machine

/-- The documents that a filter makes of another one. -/
def run (text : String) (input : Json) : Except FilterError (List Json) := do
  let term ← read text
  documents stepLimit [] (.start term (.ofJson input))

end RuleMetadata.Filter

import TuiTemplate.Failure
import TuiTemplate.Placeholder
set_option autoImplicit false

namespace TuiTemplate

/-- Key and value of `key=value`, cut at the first sign. A key may not be empty. -/
def assignmentParts? (assignment : String) : Option (String × String) :=
  let cs := assignment.toList
  let key := cs.takeWhile (· ≠ '=')
  match cs.dropWhile (· ≠ '=') with
  | [] => none
  | _ :: value => if key.isEmpty then none else some (String.ofList key, String.ofList value)

/-- Sets the assignments one after another. -/
def assign (subs : Substitutions) : List String → Except Failure Substitutions
  | [] => .ok subs
  | assignment :: rest =>
    match assignmentParts? assignment with
    | none =>
      .error (.configuration ("Expected key=value, got " ++ Text.quote assignment)
        (some "--set"))
    | some (key, value) => assign (subs.insert key value) rest

/-- The substitutions that a list of assignments makes. Later ones win. -/
def parseAssignments (assignments : List String) : Except Failure Substitutions :=
  assign .empty assignments

end TuiTemplate

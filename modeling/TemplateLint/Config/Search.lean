import TemplateLint.Failure
import TemplateLint.System.Program

/-!
# Searches

A search tries one thing after another until one of them is found.  What fails on the
way is recorded and does not end the search, except that a file which is absent is no
failure.  Searches are put together by `orElse`, one after another.
-/

namespace TemplateLint

/-- The outcome of a search: the failures before what was found, and what was found. -/
structure Found (α : Type) where
  warnings : List Failure
  result : Option α

namespace Search

/-- The search that finds nothing. -/
def nothing : Program (Found α) := pure ⟨[], none⟩

/-- The failures of a trial that are recorded. -/
def recorded : Failure → List Failure
  | .configNotFound _ => []
  | failure => [failure]

/-- The outcome of a trial. -/
def outcome : Except Failure (Option α) → Found α
  | .ok result => ⟨[], result⟩
  | .error failure => ⟨recorded failure, none⟩

/-- The search that consists of one trial. -/
def trial (attempt : Program (Except Failure (Option α))) : Program (Found α) := do
  return outcome (← attempt)

/-- The search that goes on with a second search if a first one finds nothing. -/
def orElse (first second : Program (Found α)) : Program (Found α) := do
  let found ← first
  match found.result with
  | some _ => return found
  | none =>
    let next ← second
    return ⟨found.warnings ++ next.warnings, next.result⟩

/-- The search through several searches. -/
def firstOf : List (Program (Found α)) → Program (Found α)
  | [] => nothing
  | search :: rest => orElse search (firstOf rest)

end Search

end TemplateLint

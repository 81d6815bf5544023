import CoreCheck.Check.Passage

/-!
# Check/Batch — the check of several modules

Modules are checked one by one and know nothing of each other, so the order in which they are
checked does not show. A place without a module has an empty result. A batch that is cancelled
before it starts has no results, unless there was nothing to check.
-/

namespace CoreCheck.Check

open CoreCheck.Ir

/-- The result for a place that may hold no module. -/
def checkModule? (o : Options) (m : Option Module) : Result := (m.map (checkModule o)).getD {}

/-- **The results of a batch**, in the order of the modules. -/
def checkModules (o : Options) (ms : List (Option Module)) : List Result :=
  ms.map (checkModule? o)

/-- What all results report, in the same order. -/
def allDiagnostics (rs : List Result) : Bag := rs.flatMap Result.diagnostics

/-- A batch that was cancelled before its first check. -/
inductive Cancelled where
  | beforeStart
deriving DecidableEq

/-- The wording of the failure. -/
def Cancelled.message : Cancelled → String
  | .beforeStart => "check modules: context canceled"

/-- The results of a batch that may have been cancelled before it starts. -/
def checkBatch (o : Options) (cancelled : Bool) (ms : List (Option Module)) :
    Except Cancelled (List Result) :=
  if cancelled && !ms.isEmpty then .error .beforeStart else .ok (checkModules o ms)

end CoreCheck.Check

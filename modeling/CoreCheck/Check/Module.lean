import CoreCheck.Check.Declare
import CoreCheck.Check.Statement
import CoreCheck.Check.Verdict
import CoreCheck.Trace.Activity

/-!
# Check/Module — the bodies of a module

First the declarations are collected, then every function body is walked against them. A survey
walks each body from what the declarations left, as if there were no other body. The diagnostics
follow the declarations: what was reported about a declaration itself, then what was found in its
body.
-/

namespace CoreCheck.Check

open CoreCheck.Types CoreCheck.Scope CoreCheck.Ir

/-- Whether a function of a result type has to return on every path. -/
def needsReturn (a : Arena) (result : TypeId) : Bool :=
  match a.kindOf result with
  | .unit | .unknown | .var => false
  | _ => true

/-- Binds the parameters of a function. -/
def defineParams : List Param → Walk Unit
  | [] => return
  | p :: ps => do
    let taint := (← Walk.types).taintOf p.type
    Walk.define p.name { kind := .param, span := p.span, type := p.type, taint } "parameter"
    defineParams ps

/-- **Walks the body of a function** in a scope of its own. A body that may end without the value
it has to return is reported. -/
def walkBody (f : Func) (sig : Signature) : Walk Unit :=
  Walk.within .function f.span do
    defineParams sig.params
    let closed ← checkBlock ⟨f.name, f.span, f.typeParams, sig.result⟩ f.body
    if !closed && needsReturn (← Walk.types) sig.result then
      let label ← Walk.labelOf sig.result
      Walk.report <| (Diagnostic.error .missingReturn f.span ("function " ++ Text.quote f.name
        ++ " may finish without returning a value of type " ++ label)).withHelp
        "add a return statement at the end of every path"

/-- **What was learned about a function.** -/
structure FunctionSummary where
  name : String
  span : Span
  declared : Effect
  computed : Effect
  /-- The capabilities used in the body. -/
  capabilities : Capability.Set
deriving Inhabited

/-- **A function body that was walked**: where it stands, and what was seen in it. -/
structure Body where
  index : Nat
  func : Func
  signature : Signature
  log : List Observation
deriving Inhabited

namespace Body

/-- Walks a body, starting from the state that the declarations left. -/
def ofFunc (declared : State) (index : Nat) (f : Func) (sig : Signature) : Body :=
  let start := { declared with owner := some index, log := #[] }
  ⟨index, f, sig, ((walkBody f sig).run start).2.logOf index⟩

/-- The effect that was seen. -/
def running (b : Body) : Running := .ofLog b.log

/-- What was learned. -/
def summary (b : Body) : FunctionSummary :=
  { name := b.func.name, span := b.func.span, declared := b.signature.effect,
    computed := b.running.effect, capabilities := capabilitiesOf b.log }

/-- What was found. -/
def diagnostics (o : Options) (b : Body) : List Diagnostic :=
  bodyDiagnostics o ⟨b.func.name, b.func.span, b.signature⟩ b.log

/-- The statements that were visited, for a trace. -/
def steps (log : List Observation) : List Trace.Activity :=
  log.filterMap fun
    | .visits keyword about => some (.point .node keyword about)
    | _ => none

/-- The walk, for a trace. -/
def activity (b : Body) : Trace.Activity :=
  .span .decl ("fn:" ++ b.func.name) (steps b.log) b.running.effect.label
    [("declared", b.signature.effect.label)] ⟨0⟩

end Body

/-- **What the walks over a module saw**, before any option has a say. -/
structure Survey where
  module : Module
  /-- The state that the declarations left. -/
  declared : State
  bodies : List Body
deriving Inhabited

/-- The bodies of a module, from its declarations with their signatures. -/
def bodiesOf (declared : State) (decls : List (Decl × Nat)) (sigs : List (Option Signature)) :
    List Body :=
  (decls.zip sigs).filterMap fun
    | ((.func f, index), some sig) => some (Body.ofFunc declared index f sig)
    | _ => none

/-- **Walks a module.** -/
def survey (m : Module) : Survey :=
  let (sigs, declared) := (declare m.decls).run {}
  { module := m, declared, bodies := bodiesOf declared m.decls.zipIdx sigs }

/-- The problems of a declaration itself. -/
def Survey.problemsOf (s : Survey) (index : Nat) : List Diagnostic :=
  (s.declared.logOf index).filterMap fun
    | .problem d => some d
    | _ => none

/-- All diagnostics, in the order of the declarations. -/
def Survey.diagnostics (s : Survey) (o : Options) : Bag :=
  (List.range s.module.decls.length).flatMap fun i =>
    s.problemsOf i ++ (s.bodies.filter (·.index = i)).flatMap (Body.diagnostics o)

/-- The check, for a trace. -/
def Survey.activity (s : Survey) (o : Options) : Trace.Activity :=
  let counts := (s.diagnostics o).summary
  .span .module ("module:" ++ s.module.name) (s.bodies.map Body.activity)
    s!"{counts.total} diagnostics"
    [("decls", s!"{s.module.decls.length}"), ("errors", s!"{counts.error}")] ⟨0⟩

end CoreCheck.Check

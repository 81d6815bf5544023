import CoreCheck.Capability
import CoreCheck.Diagnostic
import CoreCheck.Effect
import CoreCheck.Taint

/-!
# Check/Observation — what is seen while a body is walked

The walk over a function body writes down what it sees, in order. Effects, capabilities, leaks,
traces and diagnostics are all read off these observations afterwards, so the walk itself depends
on no option.
-/

namespace CoreCheck.Check

/-- **A call**, once its target is known: what it does, what it needs and what flows into it. -/
structure CallSite where
  target : String
  span : Span
  effect : Effect
  capability : Option Capability := none
  /-- The taint of all arguments together. -/
  taint : Option Taint := none
deriving Inhabited

/-- **One thing seen during a walk.** -/
inductive Observation where
  /-- A problem that is reported whatever the options are. -/
  | problem (d : Diagnostic)
  | call (site : CallSite)
  /-- Something that suspends the function, with what it is. -/
  | suspends (span : Span) (cause : String)
  /-- A call that removes the taint of its arguments. -/
  | clears (span : Span) (target : String) (taint : Option Taint)
  /-- A statement, by its keyword and the name it is about. -/
  | visits (keyword about : String)
deriving Inhabited

namespace Observation

/-- The effect an observation contributes, where, and what it comes from. -/
def contribution? : Observation → Option (Effect × Span × String)
  | .call s => some (s.effect, s.span, "call to " ++ Text.quote s.target)
  | .suspends span cause => some (.async, span, cause)
  | _ => none

/-- The capability an observation uses. -/
def capability? : Observation → Option Capability
  | .call s => s.capability
  | _ => none

end Observation

/-- **The effect so far**, with the place that raised it last and what happened there. -/
structure Running where
  effect : Effect := .pure
  site : Span := {}
  cause : String := ""
deriving Inhabited

namespace Running

/-- **Folds an effect in.** Only a strict increase moves the place, so that an escalation is
reported where the final level was reached. -/
def raise (r : Running) (effect : Effect) (site : Span) (cause : String) : Running :=
  if r.effect < effect then ⟨r.effect.join effect, site, cause⟩ else r

/-- Folds one observation in. -/
def add (r : Running) (o : Observation) : Running :=
  match o.contribution? with
  | some (effect, site, cause) => r.raise effect site cause
  | none => r

/-- The effect of a sequence of observations. -/
def ofLog (log : List Observation) : Running := log.foldl add {}

end Running

/-- The capabilities that a sequence of observations uses. -/
def capabilitiesOf (log : List Observation) : Capability.Set :=
  Capability.Set.ofList (log.filterMap Observation.capability?)

end CoreCheck.Check

import CoreCheck.Check.Observation
import CoreCheck.Check.Options
import CoreCheck.Scope.Symbol
import CoreCheck.Text.Split

/-!
# Check/Verdict — from observations to diagnostics

Options come in here and nowhere else: what was seen in a body is turned into diagnostics, and the
declared effect of the function is compared with the one that was seen.
-/

namespace CoreCheck.Check

open CoreCheck.Scope

/-- The function that observations are judged for. -/
structure Judged where
  name : String
  span : Span
  signature : Signature

/-- What a manifest is called in messages. -/
def manifestName (m : Manifest) : String := if m.source = "" then "the manifest" else m.source

/-- Why a capability is not allowed, and what can be done. -/
def denialHelp (manifest : Option Manifest) (c : Capability) : String :=
  match manifest with
  | none => "no capability manifest is loaded, so every capability is denied"
  | some m =>
    if m.denied.has c then c.label ++ " is listed under deny in " ++ manifestName m
    else "add " ++ c.label ++ " to the allow list in " ++ manifestName m

/-- The use of a capability that the manifest does not allow. -/
def denied (o : Options) (site : CallSite) (c : Capability) : List Diagnostic :=
  if Manifest.usable o.manifest c then []
  else
    [(((Diagnostic.error .capabilityDenied site.span ("capability " ++ c.label ++ " required by "
      ++ Text.quote site.target ++ " is not allowed")).withHelp
      (denialHelp o.manifest c)).withText "capability" c.label).withText "target" site.target]

/-- The use of a capability that the function does not list, if it lists any. -/
def undeclared (fn : Judged) (site : CallSite) (c : Capability) : List Diagnostic :=
  match fn.signature.capabilities with
  | none => []
  | some listed =>
    if listed.has c then []
    else
      [(((Diagnostic.error .capabilityUndeclared site.span ("function " ++ Text.quote fn.name
        ++ " uses capability " ++ c.label ++ " but declares only ["
        ++ Text.join ", " listed.labels ++ "]")).withHelp ("add " ++ c.label
        ++ " to the capabilities of " ++ Text.quote fn.name)).withText "capability"
        c.label).withText "function" fn.name]

/-- Sensitive data that flows into a call that leaves the function. -/
def leaked (o : Options) (site : CallSite) : List Diagnostic :=
  let level := Taint.levelOf site.taint
  let categories := Taint.categoriesOf site.taint
  if site.effect.isSink && level.reaches o.leakLevel then
    [((((Diagnostic.error .piiLeak site.span (level.label ++ " data ("
      ++ Text.join ", " categories ++ ") flows into " ++ Text.quote site.target
      ++ ", which performs " ++ site.effect.label)).withHelp
      "wrap the value with Pii.redact or Pii.declassify before it leaves the function").withText
      "level" level.label).withData "categories" (.strings categories)).withText "sink"
      site.target]
  else []

/-- Taint that a call removed, if removals are audited. -/
def cleared (o : Options) (fn : Judged) (span : Span) (target : String) (taint : Option Taint) :
    List Diagnostic :=
  let level := Taint.levelOf taint
  let categories := Taint.categoriesOf taint
  if o.audit && level != .none then
    [((({ severity := .info, code := .piiDeclassified, span,
          message := level.label ++ " data (" ++ Text.join ", " categories
            ++ ") declassified by " ++ Text.quote target ++ " in " ++ Text.quote fn.name
          : Diagnostic }.withText "level" level.label).withData "categories"
      (.strings categories)).withText "function" fn.name)]
  else []

/-- **The diagnostics of an observation.** -/
def Observation.diagnostics (o : Options) (fn : Judged) : Observation → List Diagnostic
  | .problem d => [d]
  | .call site =>
    (match site.capability with
      | none => []
      | some c => denied o site c ++ undeclared fn site c) ++ leaked o site
  | .clears span target taint => cleared o fn span target taint
  | .suspends _ _ | .visits _ _ => []

/-- **The declared effect against the seen one.** Too little declared is an error where the effect
was reached; too much is a warning, if it is asked for. -/
def effectVerdict (o : Options) (fn : Judged) (seen : Running) : List Diagnostic :=
  let declared := fn.signature.effect
  let withFacts (d : Diagnostic) : Diagnostic :=
    ((d.withText "function" fn.name).withText "declared" declared.label).withText "computed"
      seen.effect.label
  if declared < seen.effect then
    let d := withFacts ((Diagnostic.error .effectEscalation (seen.site.orElse fn.span)
      ("function " ++ Text.quote fn.name ++ " is declared " ++ declared.label ++ " but "
        ++ seen.cause ++ " requires " ++ seen.effect.label)).withHelp
      ("declare the function with effect " ++ seen.effect.label ++ " or remove the operation"))
    [if fn.span.isZero then d else d.withNote fn.span "effect declared here"]
  else if o.warnUnused && seen.effect < declared then
    [withFacts { severity := .warning, code := .effectUnused, span := fn.span,
                 message := "function " ++ Text.quote fn.name ++ " declares effect "
                   ++ declared.label ++ " but only needs " ++ seen.effect.label }]
  else []

/-- **All diagnostics of a body**: those of its observations in order, then that of its effect. -/
def bodyDiagnostics (o : Options) (fn : Judged) (log : List Observation) : List Diagnostic :=
  log.flatMap (Observation.diagnostics o fn) ++ effectVerdict o fn (Running.ofLog log)

end CoreCheck.Check

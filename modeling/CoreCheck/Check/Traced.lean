import CoreCheck.Check.Passage

/-!
# Check/Traced — the check of a module while it is traced

A check can be watched while it is under way.  Beside each step a recorder writes down that the module
or a body begins or ends, or that a statement is seen.  Each span stands under the one that is open
when it begins; one that is not recorded is passed over.
-/

namespace CoreCheck.Check

open CoreCheck.Types CoreCheck.Scope CoreCheck.Ir CoreCheck.Trace

/-- **A check under way, and what was written down of it.** -/
structure Traced (σ : Type) where
  passage : Passage σ
  recorder : Recorder

namespace Traced

/-- Writes down what was seen, if it is a statement, under the span of the body. -/
def note (span : Nat) (w : Recorder) : Observation → Recorder
  | .visits keyword about => w.point span .node keyword about
  | _ => w

variable {σ : Type} (r : Reporter σ)

/-- Emits what an observation gives, and writes it down. -/
def see (o : Options) (fn : Judged) (span : Nat) (t : Traced σ) (e : Option Nat × Observation) :
    Traced σ :=
  ⟨t.passage.emitSeen r o fn e, note span t.recorder e.2⟩

/-- **Walks a body** inside a span of its own. -/
def walk (o : Options) (outer : Nat) (t : Traced σ) (i : Nat) (f : Func) (sig : Signature) :
    Traced σ :=
  let (w, span) := t.recorder.start outer .decl ("fn:" ++ f.name)
  let s := ((walkBody f sig).run { t.passage.state with log := #[] }).2
  let body : Body := ⟨i, f, sig, s.log.toList.map (·.2)⟩
  let fn : Judged := ⟨f.name, f.span, sig⟩
  let t := s.log.toList.foldl (see r o fn (span.inner outer)) ⟨{ t.passage with state := s }, w⟩
  let p := (effectVerdict o fn body.running).foldl (Passage.emit r s.owner) t.passage
  ⟨{ p with bodies := p.bodies ++ [body] },
    t.recorder.stop span body.running.effect.label [("declared", sig.effect.label)] ⟨0⟩⟩

/-- **Visits a declaration**; only a body is written down. -/
def visit (o : Options) (outer : Nat) (t : Traced σ) :
    (Decl × Nat) × Option Signature → Traced σ
  | ((.func f, i), some sig) => walk r o outer ⟨t.passage.flush r i, t.recorder⟩ i f sig
  | ((_, i), _) => ⟨t.passage.flush r i, t.recorder⟩

end Traced

/-- **Checks a module under a span**, while a recorder watches. -/
def checkTraced {σ : Type} (r : Reporter σ) (told : σ) (w : Recorder) (outer : Nat) (o : Options)
    (m : Module) : (Result × σ) × Recorder :=
  let (w, span) := w.start outer .module ("module:" ++ m.name)
  let (sigs, s) := (declare m.decls).run {}
  let t := (m.decls.zipIdx.zip sigs).foldl (Traced.visit r o (span.inner outer))
    ⟨Passage.collected r s m.decls.length told, w⟩
  let counts := t.passage.bag.summary
  ((t.passage.result m, t.passage.told),
    t.recorder.stop span s!"{counts.total} diagnostics"
      [("decls", s!"{m.decls.length}"), ("errors", s!"{counts.error}")] ⟨0⟩)

end CoreCheck.Check

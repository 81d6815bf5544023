import CoreCheck.Check.Module

/-!
# Check/Passage — the check of a module, declaration by declaration

A check collects the declarations and then passes over them in order. All bodies are walked in one
state, which each body takes as the bodies before it left it. What is reported while declarations
are collected waits for the declaration it belongs to, and is handed out when that is visited, so
the diagnostics follow the declarations. Whatever is handed out goes into the bag, and a reporter
is told of it.
-/

namespace CoreCheck.Check

open CoreCheck.Types CoreCheck.Scope CoreCheck.Ir

/-- **Who is told of diagnostics**, besides the bag: what it makes of one more. -/
abbrev Reporter (σ : Type) := σ → Diagnostic → σ

/-- **A check under way.** -/
structure Passage (σ : Type) where
  state : State
  /-- For each declaration the diagnostics that wait until it is visited. -/
  pending : Array (List Diagnostic)
  bag : Bag := []
  /-- What the reporter has made of the diagnostics so far. -/
  told : σ
  /-- The bodies that were walked. -/
  bodies : List Body := []

namespace Passage

variable {σ : Type} (r : Reporter σ)

/-- Hands a diagnostic out. -/
def deliver (p : Passage σ) (d : Diagnostic) : Passage σ :=
  { p with bag := p.bag ++ [d], told := r p.told d }

/-- **Emits a diagnostic.** It waits if it belongs to a declaration, and is handed out if not. -/
def emit (owner : Option Nat) (p : Passage σ) (d : Diagnostic) : Passage σ :=
  match owner with
  | some i =>
    if i < p.pending.size then { p with pending := p.pending.modify i (· ++ [d]) }
    else p.deliver r d
  | none => p.deliver r d

/-- Hands out what waits for a declaration. -/
def flush (p : Passage σ) (i : Nat) : Passage σ :=
  let p := (p.pending.getD i []).foldl (deliver r) p
  { p with pending := p.pending.modify i fun _ => [] }

/-- Emits what an observation gives, under the declaration that the observation belongs to. -/
def emitSeen (o : Options) (fn : Judged) (p : Passage σ) (e : Option Nat × Observation) :
    Passage σ :=
  (e.2.diagnostics o fn).foldl (emit r e.1) p

/-- **Walks a body** in the state that was left so far. The verdict on the effect comes last. -/
def walk (o : Options) (p : Passage σ) (i : Nat) (f : Func) (sig : Signature) : Passage σ :=
  let s := ((walkBody f sig).run { p.state with log := #[] }).2
  let body : Body := ⟨i, f, sig, s.log.toList.map (·.2)⟩
  let fn : Judged := ⟨f.name, f.span, sig⟩
  let p := s.log.toList.foldl (emitSeen r o fn) { p with state := s }
  let p := (effectVerdict o fn body.running).foldl (emit r s.owner) p
  { p with bodies := p.bodies ++ [body] }

/-- **Visits a declaration**: what waits for it is handed out, then a body is walked. -/
def visit (o : Options) (p : Passage σ) : (Decl × Nat) × Option Signature → Passage σ
  | ((.func f, i), some sig) => (p.flush r i).walk r o i f sig
  | ((_, i), _) => p.flush r i

/-- Emits a problem with a declaration. -/
def emitProblem (p : Passage σ) (e : Option Nat × Observation) : Passage σ :=
  match e.2 with
  | .problem d => p.emit r e.1 d
  | _ => p

/-- **The declarations have been collected**, and nothing has been visited. -/
def collected (s : State) (count : Nat) (told : σ) : Passage σ :=
  s.log.toList.foldl (emitProblem r) { state := s, pending := .replicate count [], told }

/-- **The check after its first visits.** -/
def upTo (o : Options) (m : Module) (told : σ) (count : Nat) : Passage σ :=
  let (sigs, s) := (declare m.decls).run {}
  ((m.decls.zipIdx.zip sigs).take count).foldl (visit r o) (collected r s m.decls.length told)

/-- **The check when all declarations have been visited.** -/
def complete (o : Options) (m : Module) (told : σ) : Passage σ := upTo r o m told m.decls.length

end Passage

/-- **The outcome of a check.** -/
structure Result where
  module : String := ""
  source : String := ""
  diagnostics : Bag := []
  functions : List FunctionSummary := []
  types : Arena := .initial
  aliases : Aliases := ⟨[]⟩
deriving Inhabited

/-- The outcome when all declarations have been visited. -/
def Passage.result {σ : Type} (p : Passage σ) (m : Module) : Result :=
  { module := m.name, source := m.source, diagnostics := p.bag,
    functions := p.bodies.map Body.summary, types := p.state.types, aliases := p.state.aliases }

/-- **Checks a module** and tells a reporter of every diagnostic. -/
def checkReporting {σ : Type} (r : Reporter σ) (told : σ) (o : Options) (m : Module) : Result × σ :=
  let p := Passage.complete r o m told
  (p.result m, p.told)

/-- **Checks a module.** It never fails: problems are diagnostics. -/
def checkModule (o : Options) (m : Module) : Result := (checkReporting (fun _ _ => ()) () o m).1

/-- The names of types that a module declares, sorted, each with the label of its type. -/
def Result.typeNames (r : Result) : List (String × String) :=
  r.aliases.declared.map fun (name, id) => (name, r.types.label id)

end CoreCheck.Check

import CoreCheck.Proofs.Path.Once
import CoreCheck.Proofs.Walk.Declared
import CoreCheck.Proofs.Walk.Verdict

/-!
# Proofs/Path/Sound — no path carries more taint than was checked

A body is walked once, all of it, with names that only gain taint.  Whatever path a run takes through
the body, what flows into a call on the path is no more tainted than what the walk saw flow into that
call.  So when no leak is reported, no path leaks.  A run binds every name, and a walk refuses to bind
a name twice in one scope: this is said of bodies in which no name is reported that is bound twice.
-/

namespace CoreCheck.Check

open CoreCheck.Types CoreCheck.Scope CoreCheck.Ir

/-- Whether data at the level that counts flows into a call that leaves the function. -/
def Observation.leaks (o : Options) : Observation → Bool
  | .call site => site.effect.isSink && (Taint.levelOf site.taint).reaches o.leakLevel
  | _ => false

namespace Path

variable {d p c : State}

/-- Binding a parameter lets nothing flow. -/
theorem flows_defineParams : ∀ (ps : List Param) (s : State),
    ((defineParams ps).after s).flows = s.flows
  | [], s => rfl
  | q :: ps, s => by
    have hdefine : ∀ sym, ((Walk.define q.name sym "parameter").after s).flows = s.flows := by
      intro sym
      cases hd : s.table.define q.name sym with
      | error e =>
        rw [Walk.after_define_error hd]
        exact (reports_duplicate _ _ _ _ s).flows
      | ok r => rw [Walk.after_define_ok hd]; rfl
    rw [defineParams]
    exact (flows_defineParams ps _).trans (hdefine _)

theorem picks_alongBody (f : Func) (sig : Signature) (turns : Turns) :
    Picks (alongBody f sig turns) := by
  refine picks_within .function f.span fun st => ?_
  obtain ⟨l, hl, hsub⟩ := @picks_alongBlock ⟨f.name, f.span, f.typeParams, sig.result⟩ f.body turns
    ((defineParams sig.params).after st)
  rw [flows_defineParams] at hl
  exact ⟨l, hl, hsub⟩

/-- The walk over a body sees what the walk along a path sees. -/
theorem flows_walkBody (f : Func) (sig : Signature) (turns : Turns) (s : State) :
    ((walkBody f sig).after s).flows = ((alongBody f sig turns).after s).flows := by
  have hending : ∀ closed t, ((ending f sig.result closed).after t).flows = t.flows := by
    intro closed t
    rw [after_ending]
    split
    · exact flows_report _ t
    · rfl
  rw [walkBody_eq, alongBody, flows_within, flows_within]
  refine (hending _ _).trans (congrArg State.flows ?_)
  exact (after_alongBlock f.body turns _).symm

/-- **The flows on a path through a body**, as a run along the path sees them. -/
def flows (stores : Symbol → Bool) (binds : Binder) (m : Module) (b : Body) (turns : Turns) :
    List Observation :=
  ((run stores binds b.func b.signature turns).after ((survey m).start b)).flows

/-- **The flows on a path through a body**, as the check of the body sees them. -/
def checked (m : Module) (b : Body) (turns : Turns) : List Observation :=
  ((alongBody b.func b.signature turns).value ((survey m).start b)).2

section

variable {m : Module} {b : Body} (hb : b ∈ (survey m).bodies) (turns : Turns)

include hb

/-- **The check of a body tracks every path through it**, as long as a name that is bound twice keeps
what it has. -/
theorem flows_below : List.Forall₂ Observation.Below (flows assignable Walk.define m b turns)
    (checked m b turns) := by
  have henter := (paired_start m b).enter .function .function b.func.span b.func.span
  have hparams := lockstep_defineParams b.signature.params (known_signature hb).params henter
  have hbody := @tracks_block _ ⟨b.func.name, b.func.span, b.func.typeParams, b.signature.result⟩
    b.func.body turns _ _ hparams.stop
  obtain ⟨l, hl, hbelow⟩ := hbody.flows
  rw [flows_defineParams] at hl
  have hflows : flows assignable Walk.define m b turns = l := by
    rw [flows, run, startParams_define]
    exact (flows_within .function b.func.span _ _).trans hl
  rw [hflows]
  exact hbelow

omit turns in
/-- **Without a report of a name that is bound twice** the walk over a body binds every name once. -/
theorem once_body {o : Options} (hno : ∀ d ∈ b.diagnostics o, d.code ≠ .duplicateSymbol) :
    Once ((survey m).start b) ((walkBody b.func b.signature).after ((survey m).start b)) := by
  have hlog : b.log.countP (·.isDouble) = 0 := by
    refine List.countP_eq_zero.2 fun obs hobs hdouble => ?_
    cases obs with
    | problem d =>
      have hd : d ∈ (b.diagnostics o).filter (·.code.isSemantic) := by
        rw [problems_body (grows_body hb).2]
        exact List.mem_filterMap.2 ⟨_, hobs, rfl⟩
      exact hno d (List.mem_of_mem_filter hd) (eq_of_beq hdouble)
    | _ => exact nomatch hdouble
  rw [Once, (logGrows_body hb).doubles, hlog, Nat.add_zero]

/-- **Every name on a path is bound** when no name is reported that is bound twice: a run that would
replace what such a name stands for sees what a run sees that would not. -/
theorem flows_rebind {o : Options} (hno : ∀ d ∈ b.diagnostics o, d.code ≠ .duplicateSymbol) :
    flows assignable rebind m b turns = flows assignable Walk.define m b turns := by
  have hrun := run_run_eq (paired_start m b) b.func (known_signature hb) turns (once_body hb hno)
  exact congrArg (fun r : Unit × State => r.2.flows) hrun.symm

/-- **What the check sees on a path is among what it sees.** -/
theorem checked_sublist : (checked m b turns).Sublist (b.log.filter (·.isFlow)) := by
  obtain ⟨l, hl, hsub⟩ := picks_alongBody b.func b.signature turns ((survey m).start b)
  rw [← flows_walkBody, (logGrows_body hb).flows] at hl
  rw [List.append_cancel_left hl]
  exact hsub

end

/-! ## Leaks -/

/-- **A body without a reported leak**: what leaves the function carries too little. -/
theorem not_leaks_of_mem_log {o : Options} {b : Body}
    (h : ∀ d ∈ b.diagnostics o, d.code ≠ .piiLeak) {f : Observation} (hf : f ∈ b.log) :
    f.leaks o = false := by
  by_contra hleaks
  cases f with
  | call site =>
    have hleak : site.effect.isSink && (Taint.levelOf site.taint).reaches o.leakLevel :=
      Bool.of_not_eq_false hleaks
    have hmem : ∃ d ∈ leaked o site, d.code = .piiLeak := by
      rw [leaked, if_pos hleak]
      exact ⟨_, .head _, rfl⟩
    obtain ⟨d, hd, hcode⟩ := hmem
    refine h d (List.mem_append_left _ (List.mem_flatMap.2 ⟨.call site, hf, ?_⟩)) hcode
    exact List.mem_append_right _ hd
  | _ => exact hleaks rfl

/-- Less taint leaks less. -/
theorem leaks_of_below {o : Options} {f g : Observation} (h : f.Below g)
    (hf : f.leaks o = true) : g.leaks o = true := by
  cases h with
  | call site hle =>
    simp only [Observation.leaks, Bool.and_eq_true] at hf ⊢
    exact ⟨hf.1, Taint.reaches_of_below hle hf.2⟩
  | clears span target hle => exact nomatch hf

/-- **Taint is sound along every path.**  On every path through every body in which no name is
reported that is bound twice, what flows into each call is no more tainted than what the check saw
flow into that call.  So when the check of the body reports no leak, nothing on the path leaks.  Every
binding on the path gives its name the taint of the value.  What a run stores replaces what was stored
before; variables and parameters store what is assigned to them, and no other name does. -/
theorem taint_sound (m : Module) {b : Body} (hb : b ∈ (survey m).bodies) (o : Options)
    (hno : ∀ d ∈ b.diagnostics o, d.code ≠ .duplicateSymbol) (turns : Turns) :
    List.Forall₂ Observation.Below (flows assignable rebind m b turns) (checked m b turns) ∧
      (checked m b turns).Sublist (b.log.filter (·.isFlow)) ∧
      ((∀ d ∈ b.diagnostics o, d.code ≠ .piiLeak) →
        ∀ f ∈ flows assignable rebind m b turns, f.leaks o = false) := by
  rw [flows_rebind hb turns hno]
  have hbelow := flows_below hb turns
  have hsub := checked_sublist hb turns
  refine ⟨hbelow, hsub, fun hleakless f hf => ?_⟩
  obtain ⟨g, hg, hle⟩ :=
    exists_left_of_mem (show List.Forall₂ (flip Observation.Below) _ _ from hbelow.flip) hf
  have hsafe := not_leaks_of_mem_log hleakless (List.mem_of_mem_filter (hsub.subset hg))
  by_contra hleaks
  have hleaks' := leaks_of_below hle (Bool.of_not_eq_false hleaks)
  exact Bool.false_ne_true (hsafe.symm.trans hleaks')

/-- A variable may take the value of a parameter before it is written to a log. -/
def takesParam : Module := moduleOf [.func <| funcOf "f"
  [("name", .pii {} (.name {} "Text") .l1 "name"), ("text", .name {} "Text")] none .io
  [.bind {} "x" none (.name {} "text"),
    .branch {} (.literal {} (.bool true)) [.set {} "x" (.name {} "name")] none,
    .eval {} (.call {} "Log.write" [.name {} "x"] none none)]]

/-- Along the path that takes the value, a name of the first level is written and nothing leaks. -/
theorem taint_sound_takesParam : ∃ b ∈ (survey takesParam).bodies,
    (flows assignable rebind takesParam b [0]).length = 1 ∧
      (∀ d ∈ b.diagnostics {}, d.code ≠ .duplicateSymbol ∧ d.code ≠ .piiLeak) ∧
      ∀ f ∈ flows assignable rebind takesParam b [0], f.leaks {} = false := by
  obtain ⟨b, hb, hlength, hno⟩ : ∃ b ∈ (survey takesParam).bodies,
      (flows assignable rebind takesParam b [0]).length = 1 ∧
        ∀ d ∈ b.diagnostics {}, d.code ≠ .duplicateSymbol ∧ d.code ≠ .piiLeak := by
    decide +kernel
  have hsound := taint_sound takesParam hb {} (fun d hd => (hno d hd).1) [0]
  exact ⟨b, hb, hlength, hno, hsound.2.2 fun d hd => (hno d hd).2⟩

/-- A name is bound to what is harmless, bound again to what is not, and written to a log. -/
def bindsTwice : Module := moduleOf [.func <| funcOf "f"
  [("mail", .pii {} (.name {} "Text") .l3 "email"), ("text", .name {} "Text")] none .io
  [.bind {} "x" none (.name {} "text"), .bind {} "x" none (.name {} "mail"),
    .eval {} (.call {} "Log.write" [.name {} "x"] none none)]]

/-- Where a name is bound twice a run may leak without a report: the walk keeps the first binding. -/
example : ∃ b ∈ (survey bindsTwice).bodies, (∀ d ∈ b.diagnostics {}, d.code ≠ .piiLeak) ∧
    ∃ f ∈ flows assignable rebind bindsTwice b [], f.leaks {} = true := by
  decide +kernel

/-- A name bound by a pattern is assigned to, which is refused, and written to a log. -/
def assignsPatternName : Module := moduleOf [.func <| funcOf "f"
  [("mail", .pii {} (.name {} "Text") .l3 "email"), ("text", .name {} "Text")] none .io
  [.select {} (.name {} "text") [.mk {} (.name {} "x")
    [.set {} "x" (.name {} "mail"),
      .eval {} (.call {} "Log.write" [.name {} "x"] none none)]]]]

/-- **If every name stored what is assigned to it**, a path could leak without a report: assigning
to a name bound by a pattern is refused, and what was refused is not followed. -/
theorem leaks_if_every_name_stores : ∃ b ∈ (survey assignsPatternName).bodies,
    (∀ d ∈ b.diagnostics {}, d.code ≠ .duplicateSymbol ∧ d.code ≠ .undefinedSymbol ∧
      d.code ≠ .piiLeak) ∧
    ∃ f ∈ flows (fun _ => true) rebind assignsPatternName b [0], f.leaks {} = true := by
  decide +kernel

end Path

end CoreCheck.Check

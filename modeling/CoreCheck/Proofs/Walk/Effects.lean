import CoreCheck.Proofs.Passage.Order
import CoreCheck.Proofs.Walk.Tasks
import CoreCheck.Proofs.Walk.Values
import Mathlib.Logic.Relation

/-!
# Proofs/Walk/Effects — effects along chains of calls

Each body is checked on its own: what it declares is compared with what was seen in it.  A call of a
function counts with what that function declares, so a module without an escalation is sound along
chains of calls of any length.  The one exception are calls of the names that remove taint.  They
count for nothing, even where such a name stands for a function of the module.
-/

namespace CoreCheck.Check

open CoreCheck.Types CoreCheck.Scope CoreCheck.Ir

/-! ## The effect of a log -/

namespace Running

theorem le_raise (r : Running) (e : Effect) (site : Span) (cause : String) :
    r.effect ≤ (r.raise e site cause).effect ∧ e ≤ (r.raise e site cause).effect := by
  rw [raise]
  split
  · change r.effect.rank ≤ (r.effect.join e).rank ∧ e.rank ≤ (r.effect.join e).rank
    rw [Effect.rank_join]
    omega
  · next hle => exact ⟨Nat.le_refl _, Nat.le_of_not_lt hle⟩

theorem le_add (r : Running) (o : Observation) : r.effect ≤ (r.add o).effect := by
  rw [add]
  split
  · exact (le_raise r _ _ _).1
  · exact Nat.le_refl _

theorem le_foldl (log : List Observation) (r : Running) : r.effect ≤ (log.foldl add r).effect := by
  induction log generalizing r with
  | nil => exact Nat.le_refl _
  | cons o log ih => exact Nat.le_trans (le_add r o) (ih (r.add o))

/-- **Whatever was seen counts.** -/
theorem contribution_le_ofLog {log : List Observation} {o : Observation} (ho : o ∈ log) {e : Effect}
    {site : Span} {cause : String} (hc : o.contribution? = some (e, site, cause)) :
    e ≤ (ofLog log).effect := by
  obtain ⟨before, after, rfl⟩ := List.append_of_mem ho
  rw [ofLog, List.foldl_append, List.foldl_cons]
  refine Nat.le_trans ?_ (le_foldl after _)
  rw [add, hc]
  exact (le_raise _ e site cause).2

end Running

section

variable {m : Module} {b : Body}

/-- What is found in a body is reported for its module. -/
theorem mem_diagnostics (hb : b ∈ (survey m).bodies) {o : Options} {d : Diagnostic}
    (hd : d ∈ b.diagnostics o) : d ∈ (checkModule o m).diagnostics := by
  rw [Passage.bodies_survey] at hb
  obtain ⟨e, he, hbody⟩ := List.mem_filterMap.1 hb
  rw [checkModule, diagnostics_checkReporting]
  refine List.mem_flatMap.2 ⟨e, he, List.mem_append_right _ ?_⟩
  exact List.mem_flatMap.2 ⟨b, Option.mem_toList.2 hbody, hd⟩

/-- **What was seen beyond what a body declares is an escalation**, reported of its function. -/
theorem exists_escalation (hb : b ∈ (survey m).bodies)
    (hlt : b.signature.effect < b.running.effect) (o : Options) :
    ∃ d ∈ (checkModule o m).diagnostics, d.code = .effectEscalation ∧
      ("function", .str b.func.name) ∈ d.data := by
  have hverdict : ∃ d ∈ effectVerdict o ⟨b.func.name, b.func.span, b.signature⟩ b.running,
      d.code = .effectEscalation ∧ ("function", .str b.func.name) ∈ d.data := by
    unfold effectVerdict
    dsimp only
    rw [if_pos hlt]
    refine ⟨_, .head _, ?_⟩
    split <;> exact ⟨rfl, .head _⟩
  obtain ⟨d, hd, hcode⟩ := hverdict
  exact ⟨d, mem_diagnostics hb (List.mem_append_right _ hd), hcode⟩

/-- **Without an escalation a body declares what was seen in it.** -/
theorem running_le_declared (hb : b ∈ (survey m).bodies) {o : Options}
    (hno : ∀ d ∈ (checkModule o m).diagnostics, d.code ≠ .effectEscalation) :
    b.running.effect ≤ b.signature.effect := by
  refine Nat.le_of_not_lt fun hlt => ?_
  obtain ⟨d, hd, hcode, -⟩ := exists_escalation hb hlt o
  exact hno d hd hcode

end

/-! ## What was seen -/

/-- The observations of a state, whoever they belong to. -/
def State.saw (s : State) : List Observation := s.log.toList.map (·.2)

theorem saw_observe (o : Observation) (s : State) : o ∈ ((Walk.observe o).after s).saw := by
  rw [State.saw, Walk.after_observe, Array.toList_push, List.map_append]
  exact List.mem_append_right _ (.head _)

theorem Later.saw {s t : State} (h : Later s t) {o : Observation} (ho : o ∈ s.saw) :
    o ∈ t.saw := by
  obtain ⟨obs, hobs, -⟩ := h.grows
  rw [State.saw, hobs, List.map_append]
  exact List.mem_append_left _ ho

/-- **What was seen when a task was done is in the log of the body.** -/
theorem Body.Meets.mem_log {m : Module} {b : Body} (hb : b ∈ (survey m).bodies) {x : Start}
    (h : b.Meets m x) {o : Observation} (ho : o ∈ (x.1.after x.2).saw) : o ∈ b.log := by
  have hend : o ∈ ((walkBody b.func b.signature).after ((survey m).start b)).saw := h.later.saw ho
  rw [State.saw, logGrows_body hb] at hend
  simpa [Survey.start] using hend

/-! ## Calls -/

/-- The effect that counts for a call. -/
def Callee.effect (c : CallHead) : Callee → Option Effect
  | .function sig => some sig.effect
  | .value _ _ => some c.tagged
  | .external => some c.external.1
  | _ => none

/-- The effect of a call that leaves the module or calls a value. -/
def Callee.outward (c : CallHead) : Callee → Option Effect
  | .value _ _ => some c.tagged
  | .external => some c.external.1
  | _ => none

/-- **A call is seen with its effect.** -/
theorem saw_finishCall (c : CallHead) {callee : Callee} (args : List (Value × Span)) (s : State)
    {e : Effect} (he : callee.effect c = some e) :
    ∃ site, site.effect = e ∧ .call site ∈ ((finishCall c callee args).after s).saw := by
  cases callee with
  | function sig =>
    obtain rfl := Option.some.inj he
    exact ⟨_, rfl, saw_observe _ _⟩
  | value params result =>
    obtain rfl := Option.some.inj he
    exact ⟨_, rfl, saw_observe _ _⟩
  | external =>
    obtain rfl := Option.some.inj he
    exact ⟨_, rfl, saw_observe _ _⟩
  | _ => exact nomatch he

/-- **A call in a body counts with the effect of what it calls.** -/
theorem Body.CallsAt.effect_le_running {m : Module} {b : Body} (hb : b ∈ (survey m).bodies)
    {c : CallHead} {s : State} (h : b.CallsAt m c s) {e : Effect}
    (he : ((callee c).value s).effect c = some e) : e ≤ b.running.effect := by
  obtain ⟨args, hmeets⟩ := h
  have hafter : (checkExpr (.call c.span c.target args c.effect c.capability)).after s
      = (finishCall c ((callee c).value s)
          ((checkExprs c.span args).value ((callee c).after s))).after
        ((checkExprs c.span args).after ((callee c).after s)) := by
    rw [checkExpr]
    rfl
  obtain ⟨site, rfl, hsite⟩ := saw_finishCall c ((checkExprs c.span args).value ((callee c).after s))
    ((checkExprs c.span args).after ((callee c).after s)) he
  rw [← hafter] at hsite
  exact Running.contribution_le_ofLog (hmeets.mem_log hb hsite) rfl

section

variable (m : Module) (b : Body)

/-- **A body calls another**: the target of a call has no dot and is bound, where the call stands,
to the function of the other body. -/
def Body.IsBound (c : CallHead) (s : State) : Prop :=
  isDotted c.target = false ∧ ∃ id sym, (Walk.lookup c.target).value s = some (id, sym) ∧
    sym.kind = .function ∧ sym.span = b.func.span ∧ sym.signature = some b.signature

/-- Something in a body suspends it: a start, a wait or an await. -/
def Body.Suspends : Prop :=
  (∃ s span task, b.Meets m (.expr (.await span task), s)) ∨
    (∃ s fn span name task, b.Meets m (.stmt fn (.start span name task), s)) ∨
    ∃ s fn span names, b.Meets m (.stmt fn (.wait span names), s)

/-- A call in a body leaves the module, or calls a value, with an effect. -/
def Body.Performs (e : Effect) : Prop :=
  ∃ c s, b.CallsAt m c s ∧ (called c s).outward c = some e

/-- A body of the module that another body calls. -/
def Body.Calls (b' : Body) : Prop :=
  b' ∈ (survey m).bodies ∧ ∃ c s, b.CallsAt m c s ∧ b'.IsBound c s

end

/-- **Effects are sound along all chains of calls**: a body declares at least what the last body of
a chain declares, what suspends that body, and what its outward calls do. -/
def EffectSound (m : Module) : Prop :=
  ∀ b ∈ (survey m).bodies, ∀ b', Relation.ReflTransGen (Body.Calls m) b b' →
    b'.signature.effect ≤ b.signature.effect ∧
      (b'.Suspends m → .async ≤ b.signature.effect) ∧
      ∀ e, b'.Performs m e → e ≤ b.signature.effect

/-- **The calls that count for nothing are harmless**: where a name that removes taint is bound to a
function, or a call of such a name is tagged, the body declares the effect. -/
def ReservedSound (m : Module) : Prop :=
  ∀ b ∈ (survey m).bodies, ∀ c s, b.CallsAt m c s → isDeclassifier c.target = true →
    (∀ b' ∈ (survey m).bodies, b'.IsBound c s → b'.signature.effect ≤ b.signature.effect) ∧
      ∀ e, (called c s).outward c = some e → e ≤ b.signature.effect

section

variable {m : Module} {b : Body} (hb : b ∈ (survey m).bodies) {o : Options}
  (hno : ∀ d ∈ (checkModule o m).diagnostics, d.code ≠ .effectEscalation)

include hb hno

/-- Whatever is seen in a body, the body declares it. -/
theorem contribution_le_declared {obs : Observation} (hobs : obs ∈ b.log) {e : Effect} {site : Span}
    {cause : String} (hc : obs.contribution? = some (e, site, cause)) : e ≤ b.signature.effect :=
  Nat.le_trans (Running.contribution_le_ofLog hobs hc) (running_le_declared hb hno)

/-- **A call of a name that is not reserved**: the body declares its effect. -/
theorem effect_le_of_callsAt {c : CallHead} {s : State} (h : b.CallsAt m c s)
    (hc : isDeclassifier c.target = false) {e : Effect} (he : (called c s).effect c = some e) :
    e ≤ b.signature.effect := by
  have hcallee : (callee c).value s = called c s := by
    rw [value_callee, hc]
    rfl
  exact Nat.le_trans (h.effect_le_running hb (hcallee ▸ he)) (running_le_declared hb hno)

theorem async_le_of_suspends (h : b.Suspends m) : .async ≤ b.signature.effect := by
  have hseen : ∃ span cause, .suspends span cause ∈ b.log := by
    rcases h with ⟨s, span, task, h⟩ | ⟨s, fn, span, name, task, h⟩ | ⟨s, fn, span, names, h⟩
    · refine ⟨span, "await", h.mem_log hb ?_⟩
      change _ ∈ ((checkExpr (.await span task)).after s).saw
      rw [checkExpr]
      exact saw_observe _ _
    · refine ⟨span, "start of task " ++ Text.quote name, h.mem_log hb ?_⟩
      change _ ∈ ((checkStmt fn (.start span name task)).after s).saw
      rw [checkStmt]
      exact (onward_define name _ "task" _).toLater.saw (saw_observe _ _)
    · refine ⟨span, "wait", h.mem_log hb ?_⟩
      change _ ∈ ((checkStmt fn (.wait span names)).after s).saw
      rw [checkStmt]
      exact (enclosed_awaitTasks span names _).toLater.saw (saw_observe _ _)
  obtain ⟨span, cause, hlog⟩ := hseen
  exact contribution_le_declared hb hno hlog rfl

end

/-- A call that is bound to a function calls that function. -/
theorem effect_of_isBound {b : Body} {c : CallHead} {s : State} (h : b.IsBound c s) :
    (called c s).effect c = some b.signature.effect := by
  obtain ⟨hdot, id, sym, hlookup, hkind, -, hsig⟩ := h
  rw [called, hdot, hlookup]
  change (calledSymbol s.types sym).effect c = _
  rw [calledSymbol, hkind, hsig]
  rfl

theorem effect_of_outward {c : CallHead} {callee : Callee} {e : Effect}
    (h : callee.outward c = some e) : callee.effect c = some e := by
  cases callee <;> first | exact h | exact nomatch h

section

variable {m : Module} {o : Options}
  (hno : ∀ d ∈ (checkModule o m).diagnostics, d.code ≠ .effectEscalation)

include hno

/-- One call of a chain. -/
theorem effect_le_of_calls (hres : ReservedSound m) {b b' : Body} (hb : b ∈ (survey m).bodies)
    (h : b.Calls m b') : b'.signature.effect ≤ b.signature.effect := by
  obtain ⟨hb', c, s, hcall, hbound⟩ := h
  by_cases hc : isDeclassifier c.target = true
  · exact (hres b hb c s hcall hc).1 b' hb' hbound
  · exact effect_le_of_callsAt hb hno hcall (Bool.not_eq_true _ ▸ hc) (effect_of_isBound hbound)

theorem effect_le_of_performs (hres : ReservedSound m) {b : Body} (hb : b ∈ (survey m).bodies)
    {e : Effect} (h : b.Performs m e) : e ≤ b.signature.effect := by
  obtain ⟨c, s, hcall, he⟩ := h
  by_cases hc : isDeclassifier c.target = true
  · exact (hres b hb c s hcall hc).2 e he
  · exact effect_le_of_callsAt hb hno hcall (Bool.not_eq_true _ ▸ hc) (effect_of_outward he)

/-- A whole chain of calls. -/
theorem effect_le_of_chain (hres : ReservedSound m) {b b' : Body} (hb : b ∈ (survey m).bodies)
    (h : Relation.ReflTransGen (Body.Calls m) b b') :
    b' ∈ (survey m).bodies ∧ b'.signature.effect ≤ b.signature.effect := by
  induction h with
  | refl => exact ⟨hb, Nat.le_refl _⟩
  | tail _ hcall ih =>
    obtain ⟨hmem, hle⟩ := ih
    exact ⟨hcall.1, Nat.le_trans (effect_le_of_calls hno hres hmem hcall) hle⟩

end

/-- **Effects are sound along chains of calls, as far as reserved names allow.**  In a module whose
check reports no escalation, effects are sound along all chains of calls exactly when the calls of
the names that remove taint, which count for nothing, are harmless. -/
theorem effectSound_iff_reservedSound (m : Module) {o : Options}
    (hno : ∀ d ∈ (checkModule o m).diagnostics, d.code ≠ .effectEscalation) :
    EffectSound m ↔ ReservedSound m := by
  constructor
  · intro h b hb c s hcall _
    refine ⟨fun b' hb' hbound => ?_, fun e he => ?_⟩
    · exact (h b hb b' (.single ⟨hb', c, s, hcall, hbound⟩)).1
    · exact (h b hb b .refl).2.2 e ⟨c, s, hcall, he⟩
  · intro hres b hb b' hchain
    obtain ⟨hb', hle⟩ := effect_le_of_chain hno hres hb hchain
    refine ⟨hle, fun hsus => ?_, fun e hperf => ?_⟩
    · exact Nat.le_trans (async_le_of_suspends hb' hno hsus) hle
    · exact Nat.le_trans (effect_le_of_performs hno hres hb' hperf) hle

/-! ## A function and its caller -/

/-- A body that makes one call, without arguments. -/
def callsOnly (name target : String) (effect : Effect) : Func :=
  funcOf name [] none effect [.eval {} (.call {} target [] none none)]

/-- A function that writes to a log, and one that calls it. -/
def callingWriter (name : String) (effect : Effect) : Module :=
  moduleOf [.func (callsOnly name "Log.write" .io), .func (callsOnly "f" name effect)]

/-- Whether a symbol stands for a function without parameters. -/
def isPlainFunction (result : TypeId) (effect : Effect) (sym : Symbol) : Bool :=
  sym.kind = .function && sym.span = {} && sym.signature.any fun sig =>
    sig.params.isEmpty && sig.result = result && sig.effect = effect && sig.capabilities.isNone

theorem isPlainFunction_iff {result : TypeId} {effect : Effect} {sym : Symbol} :
    isPlainFunction result effect sym = true ↔ sym.kind = .function ∧ sym.span = {} ∧
      sym.signature = some { params := [], result, effect } := by
  rcases hs : sym.signature with _ | ⟨params, res, eff, caps⟩
  · simp [isPlainFunction, hs]
  · simp [isPlainFunction, hs, and_assoc]

/-- Under a name that is not reserved, the caller of a function that writes to a log has to declare
that, and effects are sound. -/
theorem effectSound_callingWriter :
    (survey (callingWriter "w" .io)).bodies.length = 2 ∧ EffectSound (callingWriter "w" .io) := by
  have hno : ∀ d ∈ (checkModule {} (callingWriter "w" .io)).diagnostics,
      d.code ≠ .effectEscalation := by decide +kernel
  have hkeeps : everyTask (callingWriter "w" .io) keepsTaint 8 = true := by decide +kernel
  refine ⟨by decide +kernel, (effectSound_iff_reservedSound (callingWriter "w" .io) hno).2 ?_⟩
  intro b hb c s hcall hreserved
  exact absurd (hcall.of_everyTask hb hkeeps) (by simp [hreserved])

/-- **A function under a reserved name escapes the check**: its caller declares nothing, and no
escalation is reported. -/
theorem not_effectSound_callingRedact :
    (∀ d ∈ (checkModule {} (callingWriter "redact" .pure)).diagnostics,
      d.code ≠ .effectEscalation) ∧ ¬ EffectSound (callingWriter "redact" .pure) := by
  refine ⟨by decide +kernel, fun h => ?_⟩
  have hw : .ofFunc (survey (callingWriter "redact" .pure)).declared 0
      (callsOnly "redact" "Log.write" .io) { params := [], result := unit, effect := .io }
      ∈ (survey (callingWriter "redact" .pure)).bodies := .head _
  have hf : .ofFunc (survey (callingWriter "redact" .pure)).declared 1
      (callsOnly "f" "redact" .pure) { params := [], result := unit, effect := .pure }
      ∈ (survey (callingWriter "redact" .pure)).bodies := .tail _ (.head _)
  obtain ⟨s, hcall, hbound⟩ : ∃ s, Body.CallsAt (callingWriter "redact" .pure)
      (.ofFunc (survey (callingWriter "redact" .pure)).declared 1 (callsOnly "f" "redact" .pure)
        { params := [], result := unit, effect := .pure }) ⟨{}, "redact", none, none⟩ s ∧
      ((Walk.lookup "redact").value s).any (isPlainFunction unit .io ·.2) = true :=
    ⟨_, ⟨[], .step (.head _) (.step (.head _) (.step (.head _) (.here _)))⟩, by decide +kernel⟩
  obtain ⟨⟨id, sym⟩, hlookup, hsym⟩ := (Option.any_eq_true _ _).1 hbound
  obtain ⟨hkind, hspan, hsig⟩ := isPlainFunction_iff.1 hsym
  have hle := (h _ hf _ (.single ⟨hw, _, s, hcall, rfl, id, sym, hlookup, hkind, hspan, hsig⟩)).1
  exact absurd hle (by decide)

end CoreCheck.Check

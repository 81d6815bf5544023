import CoreCheck.Proofs.Passage.Functions
import CoreCheck.Proofs.Passage.Options
import CoreCheck.Proofs.Walk.Calls

/-!
# Proofs/Passage/Capabilities — capabilities are refused where they are used

What a call is written with tells which capability it has: its tag, or the namespace of its target.
A check should refuse each of them that may not be used, at its call, and should learn just these for
the function.  It does so for all calls but those whose tag nothing listens to: a tag on a call of a
function of the module, or of something that cannot be called, is dropped.
-/

namespace CoreCheck

/-- **The refusal of a capability**: the code, the place and the data of the diagnostic. -/
structure Refusal where
  code : Code
  span : Span
  data : List (String × Json)

/-- The refusal that a diagnostic is, if it is one. -/
def Diagnostic.refusal? (d : Diagnostic) : Option Refusal :=
  if d.code = .capabilityDenied ∨ d.code = .capabilityUndeclared then
    some ⟨d.code, d.span, d.data⟩
  else none

theorem Diagnostic.refusal?_of_code {d : Diagnostic} {code : Code} (h : d.code = code)
    (hcode : ¬ (code = .capabilityDenied ∨ code = .capabilityUndeclared)) :
    d.refusal? = none := if_neg (h ▸ hcode)

/-- Diagnostics of another code refuse nothing. -/
theorem Diagnostic.refusals_of_code {ds : List Diagnostic} {code : Code}
    (h : ∀ d ∈ ds, d.code = code)
    (hcode : ¬ (code = .capabilityDenied ∨ code = .capabilityUndeclared)) :
    ds.filterMap refusal? = [] :=
  List.filterMap_eq_nil_iff.2 fun d hd => refusal?_of_code (h d hd) hcode

theorem Diagnostic.refusal?_of_isSemantic {d : Diagnostic} (h : d.code.isSemantic = true) :
    d.refusal? = none := by
  refine if_neg ?_
  rintro (hc | hc) <;> rw [hc] at h <;> exact absurd h (by decide)

/-- Two lists with the same members make the same set. -/
theorem Capability.Set.ofList_eq_iff {xs ys : List Capability} :
    ofList xs = ofList ys ↔ ∀ k, k ∈ xs ↔ k ∈ ys := by
  refine ⟨fun h k => ?_, ofList_congr⟩
  have hk : xs.contains k = ys.contains k := by simpa using congrArg (Set.has · k) h
  rw [← List.contains_iff_mem, ← List.contains_iff_mem, hk]

namespace Check

open CoreCheck.Types CoreCheck.Scope CoreCheck.Ir

/-! ## What a call is written with -/

/-- **The capability that a call has by what is written**: that of its tag, or without a tag that of
the namespace of a dotted target.  A call that removes taint has none. -/
def CallHead.claimed (c : CallHead) : Option Capability :=
  if isDeclassifier c.target then none
  else
    match c.capability with
    | some k => some k
    | none => if isDotted c.target then (namespaceOf? c.target).bind Namespace.capability else none

end Check

/-- **The uses of capabilities that are written in a function**, call by call. -/
def Ir.Func.uses (f : Ir.Func) : List Check.Use := f.calls.filterMap fun c => c.claimed.map c.use

namespace Check

open CoreCheck.Types CoreCheck.Scope CoreCheck.Ir

/-- **What has to be refused of a use in a function**: that it is denied, unless the manifest allows
it, and that it is undeclared, unless the function lists it or lists nothing at all. -/
def Use.refusals (o : Options) (f : Func) (u : Use) : List Refusal :=
  (if Manifest.usable o.manifest u.capability then [] else
    [⟨.capabilityDenied, u.span,
      [("capability", .str u.capability.label), ("target", .str u.target)]⟩]) ++
  (if f.capabilities.all (u.capability ∈ ·) then [] else
    [⟨.capabilityUndeclared, u.span,
      [("capability", .str u.capability.label), ("function", .str f.name)]⟩])

/-- **Capabilities are refused where they are used**: call by call, what has to be refused is refused
and nothing else, and what is learned about a function is what the calls in it have. -/
structure Gated (o : Options) (m : Module) : Prop where
  refused : (checkModule o m).diagnostics.filterMap Diagnostic.refusal?
    = m.funcs.flatMap fun f => f.uses.flatMap (Use.refusals o f)
  learned : (checkModule o m).functions.map FunctionSummary.capabilities
    = m.funcs.map fun f => .ofList (f.uses.map Use.capability)

/-- **A call whose tag nothing listens to**: the target stands for a function of the module, or for
something that cannot be called. -/
def CallHead.Unheard (c : CallHead) (s : State) (k : Capability) : Prop :=
  isDeclassifier c.target = false ∧ c.capability = some k ∧
    ((∃ sig, called c s = .function sig) ∨ ∃ sym, called c s = .notCallable sym)

/-- **The calls whose tag nothing listens to are harmless**: the capability may be used anyway, and
another call in the body has it too and is listened to. -/
def UnheardHarmless (o : Options) (m : Module) : Prop :=
  ∀ b ∈ (survey m).bodies, ∀ c s, b.CallsAt m c s → ∀ k, c.Unheard s k →
    Manifest.usable o.manifest k = true ∧
      (∀ listed, b.func.capabilities = some listed → k ∈ listed) ∧
      ∃ c' s', b.CallsAt m c' s' ∧ c'.claimed = some k ∧ ¬ c'.Unheard s' k

/-! ## What a call uses -/

/-- Only dotted targets are in a namespace. -/
theorem isDotted_of_namespaceOf? {target : String} {n : Namespace} (h : namespaceOf? target = some n) :
    isDotted target = true := by
  have hdot : ∀ n ∈ namespaces, '.' ∈ n.start.toList := by decide
  have hstart := List.find?_some h
  obtain ⟨rest, hrest⟩ := List.isPrefixOf_iff_prefix.1 hstart
  rw [isDotted, ← hrest]
  exact List.contains_iff_mem.2
    (List.mem_append_left _ (hdot n (List.mem_of_find?_eq_some h)))

theorem CallHead.external_snd (c : CallHead) (hc : isDeclassifier c.target = false) :
    c.external.2 = c.claimed := by
  rw [claimed, hc]
  unfold external
  cases c.capability with
  | some k => rfl
  | none =>
    change (namespaceOf? c.target).bind Namespace.capability = if isDotted c.target then _ else none
    cases hn : namespaceOf? c.target with
    | none => exact (ite_self _).symm
    | some n => exact (if_pos (isDotted_of_namespaceOf? hn)).symm

/-- A call that nothing listens to uses nothing. -/
theorem CallHead.Unheard.used {c : CallHead} {s : State} {k : Capability} (h : c.Unheard s k) :
    c.used s = none := by
  obtain ⟨hc, -, ⟨sig, hsig⟩ | ⟨sym, hsym⟩⟩ := h
  · rw [CallHead.used, value_callee, hc, hsig]
    rfl
  · rw [CallHead.used, value_callee, hc, hsym]
    rfl

theorem CallHead.Unheard.claimed {c : CallHead} {s : State} {k : Capability} (h : c.Unheard s k) :
    c.claimed = some k := by
  rw [CallHead.claimed, h.1, h.2.1]
  rfl

/-- A call to a name without a dot has the capability of its tag. -/
theorem CallHead.claimed_of_not_dotted {c : CallHead} (hc : isDeclassifier c.target = false)
    (hdot : isDotted c.target = false) : c.claimed = c.capability := by
  rw [claimed, hc, hdot]
  cases c.capability <;> rfl

theorem isDotted_of_called {c : CallHead} {s : State} (h : called c s ≠ .external) :
    isDotted c.target = false := by
  refine Bool.eq_false_iff.2 fun hdot => h ?_
  rw [called, hdot]
  rfl

/-- A name that stands for nothing leaves the module if it is tagged. -/
theorem capability_of_called {c : CallHead} {s : State} (h : called c s = .undefined) :
    c.capability = none := by
  have hvalue : ∀ sym, calledValue s.types sym ≠ .undefined := by
    intro sym hu
    rw [calledValue] at hu
    split at hu
    · cases hu
    · split at hu <;> cases hu
  rw [called] at h
  split at h
  · cases h
  split at h
  · split at h
    · next htags => exact Option.isNone_iff_eq_none.1 (Bool.and_eq_true_iff.1 htags).2
    · cases h
  · rw [calledSymbol] at h
    split at h
    · cases h
    · exact absurd h (hvalue _)

/-- **A call uses the capability that it has**, unless nothing listens to its tag. -/
theorem CallHead.used_cases (c : CallHead) (s : State) :
    c.used s = c.claimed ∨ ∃ k, c.Unheard s k := by
  rw [used, value_callee]
  cases hc : isDeclassifier c.target with
  | true =>
    rw [claimed, hc]
    exact .inl rfl
  | false =>
    have hplain := fun h => claimed_of_not_dotted hc (isDotted_of_called (c := c) (s := s) h)
    have hmute : c.capability = c.claimed → ((∃ sig, called c s = .function sig) ∨
        ∃ sym, called c s = .notCallable sym) → none = c.claimed ∨ ∃ k, c.Unheard s k := by
      intro he hcalled
      cases hk : c.capability with
      | none => exact .inl (hk.symm.trans he)
      | some k => exact .inr ⟨k, hc, hk, hcalled⟩
    rw [if_neg Bool.false_ne_true]
    cases hd : called c s with
    | declassifier => exact absurd hd (called_ne_declassifier c s)
    | function sig => exact hmute (hplain (by simp [hd])).symm (.inl ⟨sig, hd⟩)
    | value params result => exact .inl (hplain (by simp [hd])).symm
    | external => exact .inl (external_snd c hc)
    | notCallable sym => exact hmute (hplain (by simp [hd])).symm (.inr ⟨sym, hd⟩)
    | undefined => exact .inl ((hplain (by simp [hd])).trans (capability_of_called hd)).symm

/-- A call uses a capability exactly when it has it and is listened to. -/
theorem CallHead.used_eq_some {c : CallHead} {s : State} {k : Capability} :
    c.used s = some k ↔ c.claimed = some k ∧ ¬ c.Unheard s k := by
  constructor
  · intro h
    refine ⟨?_, fun hu => nomatch hu.used.symm.trans h⟩
    obtain he | ⟨k', hu⟩ := c.used_cases s
    · exact he.symm.trans h
    · exact nomatch hu.used.symm.trans h
  · rintro ⟨hc, hu⟩
    obtain he | ⟨k', hu'⟩ := c.used_cases s
    · exact he.trans hc
    · obtain rfl : k = k' := Option.some.inj (hc.symm.trans hu'.claimed)
      exact absurd hu' hu

/-! ## Refusals of a body -/

section Body

variable {m : Module} {b : Body} (o : Options)

/-- The uses of capabilities that were seen in a body. -/
def Body.uses (b : Body) : List Use := b.log.filterMap Observation.use?

theorem refusals_denied (site : CallSite) (k : Capability) :
    (denied o site k).filterMap Diagnostic.refusal? = if Manifest.usable o.manifest k then [] else
      [⟨.capabilityDenied, site.span,
        [("capability", .str k.label), ("target", .str site.target)]⟩] := by
  rw [denied]
  split
  · rfl
  · rfl

theorem refusals_undeclared {fn : Judged} {f : Func} (hname : fn.name = f.name)
    (hcap : fn.signature.capabilities = f.capabilities.map .ofList) (site : CallSite)
    (k : Capability) :
    (undeclared fn site k).filterMap Diagnostic.refusal? = if f.capabilities.all (k ∈ ·) then [] else
      [⟨.capabilityUndeclared, site.span,
        [("capability", .str k.label), ("function", .str f.name)]⟩] := by
  rw [undeclared, hcap, ← hname]
  cases f.capabilities with
  | none => rfl
  | some listed =>
    simp only [Option.map_some, Capability.Set.has_ofList, Option.all_some, List.contains_eq_mem]
    split
    · rfl
    · rfl

/-- **What is refused of an observation** is what has to be refused of the use that was seen. -/
theorem refusals_observation {fn : Judged} {f : Func} (hname : fn.name = f.name)
    (hcap : fn.signature.capabilities = f.capabilities.map .ofList) {obs : Observation}
    (hplain : obs.isPlain = true) :
    (obs.diagnostics o fn).filterMap Diagnostic.refusal?
      = obs.use?.toList.flatMap (Use.refusals o f) := by
  cases obs with
  | problem d =>
    exact List.filterMap_eq_nil_iff.2
      (List.forall_mem_singleton.2 (Diagnostic.refusal?_of_isSemantic hplain))
  | call site =>
    rw [Observation.diagnostics, List.filterMap_append,
      Diagnostic.refusals_of_code (fun _ => code_of_mem_leaked) (by decide), List.append_nil,
      Observation.use?]
    cases site.capability with
    | none => rfl
    | some k =>
      dsimp only
      rw [List.filterMap_append, refusals_denied, refusals_undeclared hname hcap]
      simp [Use.refusals]
  | clears span target taint =>
    exact Diagnostic.refusals_of_code (fun _ => code_of_mem_cleared) (by decide)
  | suspends span cause => rfl
  | visits keyword about => rfl

theorem refusals_effectVerdict (fn : Judged) (seen : Running) :
    (effectVerdict o fn seen).filterMap Diagnostic.refusal? = [] := by
  refine List.filterMap_eq_nil_iff.2 fun d hd => ?_
  obtain hc | hc := code_of_mem_effectVerdict hd
  · exact Diagnostic.refusal?_of_code hc (by decide)
  · exact Diagnostic.refusal?_of_code hc (by decide)

/-- **What is refused in a body** is what has to be refused of the uses that were seen. -/
theorem refusals_body (hb : b ∈ (survey m).bodies) :
    (b.diagnostics o).filterMap Diagnostic.refusal? = b.uses.flatMap (Use.refusals o b.func) := by
  rw [Body.diagnostics, bodyDiagnostics, List.filterMap_append, refusals_effectVerdict,
    List.append_nil, Body.uses, List.filterMap_flatMap,
    List.filterMap_eq_flatMap_toList, List.flatMap_assoc]
  refine List.flatMap_congr fun obs hobs => ?_
  exact refusals_observation o rfl (signature_body hb).2 ((grows_body hb).2 obs hobs)

/-- **What is refused in a module**, body by body. -/
theorem refusals_check (m : Module) : (checkModule o m).diagnostics.filterMap Diagnostic.refusal?
    = (survey m).bodies.flatMap fun b => b.uses.flatMap (Use.refusals o b.func) := by
  rw [checkModule, filterMap_diagnostics _ _ _ _ fun d hd =>
    Diagnostic.refusal?_of_isSemantic (Code.isSemantic_of_isLocal hd)]
  exact List.flatMap_congr fun b hb => refusals_body o hb

theorem capabilities_summary (b : Body) :
    b.summary.capabilities = .ofList (b.uses.map Use.capability) := by
  change capabilitiesOf b.log = _
  rw [capabilitiesOf, Body.uses, List.map_filterMap]
  refine congrArg Capability.Set.ofList (List.filterMap_congr fun obs _ => ?_)
  cases obs with
  | call site => cases h : site.capability <;> simp [Observation.capability?, Observation.use?, h]
  | _ => rfl

end Body

/-! ## Calls that are met and calls that are written -/

section Met

variable (m : Module) (b : Body)

/-- The calls that a body meets, each with the state in which its target is looked up. -/
def Body.met : List (CallHead × State) :=
  callsMet (.body b.func b.signature, (survey m).start b)

theorem Body.mem_met {c : CallHead} {s : State} : (c, s) ∈ b.met m ↔ b.CallsAt m c s := mem_callsMet

/-- The use that a call is written with. -/
def useClaimed (y : CallHead × State) : Option Use := y.1.claimed.map y.1.use

variable {m b}

/-- **What is seen in a body** is what the calls that are met use. -/
theorem uses_body (hb : b ∈ (survey m).bodies) : b.uses = (b.met m).filterMap useMet := by
  have hslight : ∀ o : Observation, o.isNotable = false → o.use? = none := by
    rintro (_ | _ | _ | _ | _) ho
    all_goals first | rfl | exact nomatch ho
  rw [Body.uses, filterMap_log hb hslight, Body.met, callsMet, filterMap_gather,
    funext Task.use?_sight]
  rfl

variable (m b) in
/-- **What is written in a function** is what the calls that are met are written with. -/
theorem uses_func : b.func.uses = (b.met m).filterMap useClaimed := by
  have hcalls : b.func.calls = (b.met m).map (·.1) :=
    (fst_callsMet (.body b.func b.signature, (survey m).start b)).symm
  rw [Func.uses, hcalls, List.filterMap_map]
  rfl

/-- The capabilities of some uses of calls that are met. -/
theorem mem_capabilities {tag : CallHead × State → Option Capability} {k : Capability} :
    k ∈ ((b.met m).filterMap fun y => (tag y).map y.1.use).map Use.capability ↔
      ∃ c s, b.CallsAt m c s ∧ tag (c, s) = some k := by
  simp [CallHead.use, Body.mem_met]

end Met

/-! ## Lists that are put together -/

section Lists

variable {α β : Type} {f g : α → List β}

theorem length_flatMap_le : ∀ {l : List α}, (∀ a ∈ l, (f a).length ≤ (g a).length) →
    (l.flatMap f).length ≤ (l.flatMap g).length
  | [], _ => Nat.le_refl _
  | a :: l, h => by
    have hhead := h a (.head _)
    have htail := length_flatMap_le fun x hx => h x (.tail a hx)
    rw [List.flatMap_cons, List.flatMap_cons, List.length_append, List.length_append]
    omega

/-- If no part is longer than its counterpart, only equal parts make up equal lists. -/
theorem eq_of_flatMap_eq : ∀ {l : List α}, (∀ a ∈ l, (f a).length ≤ (g a).length) →
    l.flatMap f = l.flatMap g → ∀ a ∈ l, f a = g a
  | [], _, _, _, ha => nomatch ha
  | a :: l, hle, he, x, hx => by
    have hhead := hle a (.head _)
    have htail := length_flatMap_le fun x hx => hle x (.tail a hx)
    rw [List.flatMap_cons, List.flatMap_cons] at he
    have hlen := congrArg List.length he
    rw [List.length_append, List.length_append] at hlen
    obtain ⟨hfirst, hrest⟩ := List.append_inj he (by omega)
    obtain rfl | hx := List.mem_cons.1 hx
    · exact hfirst
    · exact eq_of_flatMap_eq (fun x hx => hle x (.tail a hx)) hrest x hx

end Lists

/-! ## Where capabilities are refused -/

section Gate

variable {o : Options} {m : Module}

theorem Use.refusals_eq_nil {f : Func} {u : Use} : u.refusals o f = [] ↔
    Manifest.usable o.manifest u.capability = true ∧
      ∀ listed, f.capabilities = some listed → u.capability ∈ listed := by
  rw [refusals, List.append_eq_nil_iff]
  refine and_congr ?_ ?_
  · split <;> simp [*]
  · cases f.capabilities with
    | none => simp
    | some listed =>
      simp only [Option.all_some, Option.some.injEq, forall_eq']
      split <;> simp_all

/-- Nothing is refused of a call beyond what has to be refused of it. -/
theorem length_refusals_le (f : Func) (y : CallHead × State) :
    ((useMet y).toList.flatMap (Use.refusals o f)).length
      ≤ ((useClaimed y).toList.flatMap (Use.refusals o f)).length := by
  obtain he | ⟨k, hu⟩ := y.1.used_cases y.2
  · exact Nat.le_of_eq (by rw [useMet, useClaimed, he])
  · rw [useMet, hu.used]
    exact Nat.zero_le _

/-- **In a body, call by call**: what is refused, and what has to be refused. -/
theorem refusals_met {b : Body} (hb : b ∈ (survey m).bodies) :
    b.uses.flatMap (Use.refusals o b.func)
        = (b.met m).flatMap (fun y => (useMet y).toList.flatMap (Use.refusals o b.func)) ∧
      b.func.uses.flatMap (Use.refusals o b.func)
        = (b.met m).flatMap (fun y => (useClaimed y).toList.flatMap (Use.refusals o b.func)) := by
  rw [uses_body hb, uses_func m b, List.filterMap_eq_flatMap_toList,
    List.filterMap_eq_flatMap_toList, List.flatMap_assoc, List.flatMap_assoc]
  exact ⟨rfl, rfl⟩

/-- **All that has to be refused in a body is refused** exactly when that is nothing for the calls
that nothing listens to. -/
theorem refused_iff {b : Body} (hb : b ∈ (survey m).bodies) :
    b.uses.flatMap (Use.refusals o b.func) = b.func.uses.flatMap (Use.refusals o b.func) ↔
      ∀ c s, b.CallsAt m c s → ∀ k, c.Unheard s k → (c.use k).refusals o b.func = [] := by
  rw [(refusals_met hb).1, (refusals_met hb).2]
  constructor
  · intro h c s hcall k hu
    have heq := eq_of_flatMap_eq (fun y _ => length_refusals_le b.func y) h (c, s)
      ((b.mem_met m).2 hcall)
    rw [useMet, useClaimed, hu.used, hu.claimed] at heq
    simpa using heq.symm
  · intro h
    refine List.flatMap_congr fun y hy => ?_
    obtain he | ⟨k, hu⟩ := y.1.used_cases y.2
    · rw [useMet, useClaimed, he]
    · rw [useMet, useClaimed, hu.used, hu.claimed]
      simpa using (h y.1 y.2 ((b.mem_met m).1 hy) k hu).symm

/-- **What is learned about a function is what is written in it** exactly when every capability of a
call that nothing listens to is used by another call. -/
theorem learned_iff {b : Body} (hb : b ∈ (survey m).bodies) :
    b.summary.capabilities = .ofList (b.func.uses.map Use.capability) ↔
      ∀ c s, b.CallsAt m c s → ∀ k, c.Unheard s k →
        ∃ c' s', b.CallsAt m c' s' ∧ c'.claimed = some k ∧ ¬ c'.Unheard s' k := by
  have hused : ∀ k, k ∈ b.uses.map Use.capability ↔
      ∃ c s, b.CallsAt m c s ∧ c.used s = some k := fun k => uses_body hb ▸ mem_capabilities
  have hclaimed : ∀ k, k ∈ b.func.uses.map Use.capability ↔
      ∃ c s, b.CallsAt m c s ∧ c.claimed = some k := fun k => uses_func m b ▸ mem_capabilities
  rw [capabilities_summary, Capability.Set.ofList_eq_iff]
  constructor
  · intro h c s hcall k hu
    obtain ⟨c', s', hcall', hk⟩ := (hused k).1 ((h k).2 ((hclaimed k).2 ⟨c, s, hcall, hu.claimed⟩))
    exact ⟨c', s', hcall', CallHead.used_eq_some.1 hk⟩
  · intro h k
    rw [hused, hclaimed]
    constructor
    · rintro ⟨c, s, hcall, hk⟩
      exact ⟨c, s, hcall, (CallHead.used_eq_some.1 hk).1⟩
    · rintro ⟨c, s, hcall, hk⟩
      by_cases hu : c.Unheard s k
      · obtain ⟨c', s', hcall', hk'⟩ := h c s hcall k hu
        exact ⟨c', s', hcall', CallHead.used_eq_some.2 hk'⟩
      · exact ⟨c, s, hcall, CallHead.used_eq_some.2 ⟨hk, hu⟩⟩

/-- **Capabilities are refused where they are used, as far as tags are listened to.**  In every module
and under all options, what has to be refused is refused call by call, and what is learned about the
functions is what is written in them, exactly when the calls whose tag nothing listens to are
harmless. -/
theorem gated_iff_unheardHarmless (o : Options) (m : Module) : Gated o m ↔ UnheardHarmless o m := by
  have hrefused : (checkModule o m).diagnostics.filterMap Diagnostic.refusal?
      = m.funcs.flatMap (fun f => f.uses.flatMap (Use.refusals o f)) ↔
      ∀ b ∈ (survey m).bodies, b.uses.flatMap (Use.refusals o b.func)
        = b.func.uses.flatMap (Use.refusals o b.func) := by
    rw [refusals_check, funcs_eq, List.flatMap_map]
    refine ⟨eq_of_flatMap_eq fun b hb => ?_, List.flatMap_congr⟩
    rw [(refusals_met hb).1, (refusals_met hb).2]
    exact length_flatMap_le fun y _ => length_refusals_le b.func y
  have hlearned : (checkModule o m).functions.map FunctionSummary.capabilities
      = m.funcs.map (fun f => .ofList (f.uses.map Use.capability)) ↔
      ∀ b ∈ (survey m).bodies,
        b.summary.capabilities = .ofList (b.func.uses.map Use.capability) := by
    rw [checkModule, functions_checkReporting, funcs_eq, List.map_map, List.map_map]
    exact List.map_inj_left
  constructor
  · rintro ⟨hr, hl⟩ b hb c s hcall k hu
    have hnil := (refused_iff hb).1 (hrefused.1 hr b hb) c s hcall k hu
    obtain ⟨husable, hlisted⟩ := Use.refusals_eq_nil.1 hnil
    exact ⟨husable, hlisted, (learned_iff hb).1 (hlearned.1 hl b hb) c s hcall k hu⟩
  · intro h
    refine ⟨hrefused.2 fun b hb => (refused_iff hb).2 fun c s hcall k hu => ?_,
      hlearned.2 fun b hb => (learned_iff hb).2 fun c s hcall k hu => (h b hb c s hcall k hu).2.2⟩
    obtain ⟨husable, hlisted, -⟩ := h b hb c s hcall k hu
    exact Use.refusals_eq_nil.2 ⟨husable, hlisted⟩

end Gate

/-! ## Tagged calls -/

/-- The test that a task is no call of a function of the module or of something that cannot be
called. -/
def leavesModule : Start → Bool
  | (.expr (.call span target _ effect capability), s) =>
    match called ⟨span, target, effect, capability⟩ s with
    | .function _ | .notCallable _ => false
    | _ => true
  | _ => true

theorem unheardHarmless_of_everyTask {m : Module} {n : Nat}
    (h : everyTask m leavesModule n = true) (o : Options) : UnheardHarmless o m := by
  rintro b hb c s ⟨args, hmeets⟩ k ⟨-, -, hcalled⟩
  have hleaves := hmeets.of_everyTask hb h
  rw [leavesModule] at hleaves
  obtain ⟨sig, hsig⟩ | ⟨sym, hsym⟩ := hcalled
  · rw [hsig] at hleaves
    exact nomatch hleaves
  · rw [hsym] at hleaves
    exact nomatch hleaves

/-- A function that calls a parameter with a tag, and fetches something. -/
def callsClient : Module :=
  moduleOf [.func <| funcOf "f" [("client", .func {} [] none)] none .io
    [.eval {} (.call {} "client" [] none (some .sql)), .eval {} (.call {} "Http.get" [] none none)]]

/-- **Without a manifest both calls are refused**, and both capabilities are learned. -/
theorem gated_callsClient :
    (checkModule {} callsClient).diagnostics.map (·.code) = [.capabilityDenied, .capabilityDenied] ∧
      Gated {} callsClient :=
  ⟨by decide +kernel, (gated_iff_unheardHarmless {} callsClient).2
    (unheardHarmless_of_everyTask (n := 8) (by decide +kernel) {})⟩

/-- A function that does nothing, and one that calls it with a tag. -/
def callsTagged : Module :=
  moduleOf [.func (funcOf "g" [] none .pure []),
    .func (funcOf "f" [] none .pure [.eval {} (.call {} "g" [] none (some .http))])]

/-- **A tag on a call of a function is dropped**: no manifest allows it, and yet it is not refused. -/
theorem not_gated_callsTagged : ¬ Gated {} callsTagged := by
  intro h
  have hlen := congrArg List.length h.refused
  revert hlen
  decide +kernel

end Check

end CoreCheck

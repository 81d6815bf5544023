import CoreCheck.Proofs.Walk.Growth

/-!
# Proofs/Walk/Verdict — what is reported about a body

Problems are reported as they were seen.  What a verdict adds has codes of its own: those of calls
for what flows into calls and what they need, and those of effects for the body as a whole.  So the
problems can be read off the diagnostics of a body again (`problems_body`).
-/

namespace CoreCheck

/-- Whether a code is about one call: its capability, or sensitive data that flow into it. -/
def Code.isOfCall (c : Code) : Bool := 3 ≤ c.number / 1000

namespace Check

open CoreCheck.Scope CoreCheck.Ir

section Codes

variable {o : Options} {fn : Judged} {site : CallSite} {c : Capability} {d : Diagnostic}

theorem code_of_mem_denied (h : d ∈ denied o site c) : d.code = .capabilityDenied := by
  unfold denied at h
  split at h
  · cases h
  · obtain rfl := List.mem_singleton.1 h
    rfl

theorem code_of_mem_undeclared (h : d ∈ undeclared fn site c) : d.code = .capabilityUndeclared := by
  unfold undeclared at h
  split at h
  · cases h
  · split at h
    · cases h
    · obtain rfl := List.mem_singleton.1 h
      rfl

theorem code_of_mem_leaked (h : d ∈ leaked o site) : d.code = .piiLeak := by
  unfold leaked at h
  dsimp only at h
  split at h
  · obtain rfl := List.mem_singleton.1 h
    rfl
  · cases h

theorem code_of_mem_cleared {span : Span} {target : String} {taint : Option Taint}
    (h : d ∈ cleared o fn span target taint) : d.code = .piiDeclassified := by
  unfold cleared at h
  dsimp only at h
  split at h
  · obtain rfl := List.mem_singleton.1 h
    rfl
  · cases h

theorem code_of_mem_effectVerdict {seen : Running} (h : d ∈ effectVerdict o fn seen) :
    d.code = .effectEscalation ∨ d.code = .effectUnused := by
  unfold effectVerdict at h
  dsimp only at h
  split at h
  · obtain rfl := List.mem_singleton.1 h
    refine .inl ?_
    split <;> rfl
  · split at h
    · obtain rfl := List.mem_singleton.1 h
      exact .inr rfl
    · cases h

/-- The problem that was seen, if one was. -/
def Observation.problem? : Observation → Option Diagnostic
  | .problem d => some d
  | _ => none

variable {α : Type} {f : Diagnostic → Option α}
  (hf : ∀ d : Diagnostic, d.code.isOfCall = true → f d = none)

include hf

/-- **What is read off the diagnostics of an observation**, if it is nothing for those about calls. -/
theorem filterMap_observation (obs : Observation) :
    (obs.diagnostics o fn).filterMap f = (obs.problem?.bind f).toList := by
  have hnil : ∀ {ds : List Diagnostic} (code : Code), code.isOfCall = true →
      (∀ d ∈ ds, d.code = code) → ds.filterMap f = [] :=
    fun code hcode h => List.filterMap_eq_nil_iff.2 fun d hd => hf d (h d hd ▸ hcode)
  cases obs with
  | problem d =>
    change [d].filterMap f = (f d).toList
    cases h : f d <;> simp [h]
  | call site =>
    rw [Observation.diagnostics, List.filterMap_append,
      hnil .piiLeak rfl fun _ => code_of_mem_leaked]
    cases site.capability with
    | none => rfl
    | some k =>
      dsimp only
      rw [List.filterMap_append, hnil .capabilityDenied rfl fun _ => code_of_mem_denied,
        hnil .capabilityUndeclared rfl fun _ => code_of_mem_undeclared]
      rfl
  | clears span target taint => exact hnil .piiDeclassified rfl fun _ => code_of_mem_cleared
  | suspends span cause => rfl
  | visits keyword about => rfl

/-- **What is read off the diagnostics of a body**: of its problems, and of the verdict on its
effect. -/
theorem filterMap_body (b : Body) : (b.diagnostics o).filterMap f =
    b.log.filterMap (fun obs => obs.problem?.bind f) ++
      (effectVerdict o ⟨b.func.name, b.func.span, b.signature⟩ b.running).filterMap f := by
  have hlog : ∀ fn : Judged, (b.log.flatMap (Observation.diagnostics o fn)).filterMap f
      = b.log.filterMap fun obs => obs.problem?.bind f := by
    intro fn
    rw [List.filterMap_flatMap, List.filterMap_eq_flatMap_toList]
    exact List.flatMap_congr fun obs _ => filterMap_observation hf obs
  rw [Body.diagnostics, bodyDiagnostics, List.filterMap_append, hlog]
  rfl

end Codes

/-- **The problems that were seen in a body stand among its diagnostics**, in the order in which they
were seen, and all else that is reported there has other codes. -/
theorem problems_body {b : Body} (hplain : ∀ obs ∈ b.log, obs.isPlain = true) (o : Options) :
    (b.diagnostics o).filter (·.code.isSemantic) = b.log.filterMap Observation.problem? := by
  have hcall : ∀ d : Diagnostic, d.code.isOfCall = true →
      Option.guard (fun d : Diagnostic => d.code.isSemantic) d = none := by
    intro d hd
    have hsemantic : d.code.isSemantic = false := by
      simp only [Code.isOfCall, Code.isSemantic, decide_eq_true_eq, beq_eq_false_iff_ne] at hd ⊢
      omega
    simp [hsemantic]
  have hverdict : ∀ fn : Judged, (effectVerdict o fn b.running).filterMap
      (Option.guard fun d : Diagnostic => d.code.isSemantic) = [] := by
    refine fun fn => List.filterMap_eq_nil_iff.2 fun d hd => ?_
    obtain hc | hc := code_of_mem_effectVerdict hd
    all_goals
      rw [Option.guard_eq_none_iff, hc]
      decide
  rw [← List.filterMap_eq_filter, filterMap_body hcall, hverdict, List.append_nil]
  refine List.filterMap_congr fun obs hobs => ?_
  cases obs with
  | problem d =>
    have hd : d.code.isSemantic = true := hplain _ hobs
    simp [Observation.problem?, hd]
  | _ => rfl

end Check

end CoreCheck

import CoreCheck.Proofs.Passage.Capabilities
import CoreCheck.Proofs.Walk.Effects

/-!
# Proofs/Passage/Implied — capabilities imply effects

The effect and the capability of a call are settled apart from each other, from its tags and from
the namespace of its target.  Where no effect is tagged, each way to come by a capability also comes
with its effect (`Callee.implied`).  Effects are joined over a body, so a body has the effect of
every capability that is used in it.
-/

namespace CoreCheck.Check

open CoreCheck.Ir

/-! ## One call -/

/-- **A namespace has the effect of its capability.** -/
theorem implied_namespace {n : Namespace} (hn : n ∈ namespaces) {k : Capability}
    (hk : n.capability = some k) : effectOfCapability k ≤ n.effect := by
  have hall : ∀ n ∈ namespaces,
      n.capability.all (fun k => decide (effectOfCapability k ≤ n.effect)) = true := by decide
  have himplied := hall n hn
  rw [hk] at himplied
  exact of_decide_eq_true himplied

section

variable {c : CallHead} (hc : c.effect = none) {k : Capability}

include hc

/-- A call that leaves the module has the effect of its capability, from the tag or from the
namespace. -/
theorem implied_external (hk : c.external.2 = some k) :
    effectOfCapability k ≤ c.external.1 := by
  rw [CallHead.external] at hk ⊢
  dsimp only at hk ⊢
  rw [hc]
  cases htag : c.capability with
  | some tag =>
    rw [htag] at hk
    obtain rfl := Option.some.inj hk
    change (effectOfCapability tag).rank ≤ (Effect.join _ _).rank
    rw [Effect.rank_join]
    exact Nat.le_max_left _ _
  | none =>
    rw [htag] at hk
    obtain ⟨n, hn, hk⟩ := Option.bind_eq_some_iff.1 hk
    rw [hn]
    exact implied_namespace (List.mem_of_find?_eq_some hn) hk

theorem implied_tagged (hk : c.capability = some k) : effectOfCapability k ≤ c.tagged := by
  rw [CallHead.tagged, hc, hk]
  exact Nat.le_refl _

/-- **A call counts with the effect of the capability that it uses**, whatever it calls. -/
theorem Callee.implied {callee : Callee} (hk : callee.capability c = some k) :
    ∃ e, callee.effect c = some e ∧ effectOfCapability k ≤ e := by
  cases callee with
  | value params result => exact ⟨_, rfl, implied_tagged hc hk⟩
  | external => exact ⟨_, rfl, implied_external hc hk⟩
  | _ => exact nomatch hk

end

/-! ## Bodies -/

section

variable {m : Module} {b : Body} (hb : b ∈ (survey m).bodies)

/-- A call that is met is written in the function. -/
theorem Body.CallsAt.mem_calls {c : CallHead} {s : State} (h : b.CallsAt m c s) :
    c ∈ b.func.calls := by
  have hmet := List.mem_map_of_mem (f := Prod.fst) ((Body.mem_met m b).2 h)
  rwa [Body.met, fst_callsMet] at hmet

include hb

/-- **A body has the effect of every capability that is used in it**, if no call is tagged with an
effect. -/
theorem implied_summary (huntagged : ∀ c ∈ b.func.calls, c.effect = none) {k : Capability}
    (hk : b.summary.capabilities.has k = true) : effectOfCapability k ≤ b.summary.computed := by
  rw [capabilities_summary, Capability.Set.has_ofList, List.contains_iff_mem, uses_body hb] at hk
  obtain ⟨c, s, hcall, hused⟩ := mem_capabilities.1 hk
  obtain ⟨e, he, hle⟩ := Callee.implied (huntagged c hcall.mem_calls) hused
  exact Nat.le_trans hle (hcall.effect_le_running hb he)

end

/-! ## Modules -/

/-- **What the capabilities that a function uses imply**: an effect, one that leaves the program for
all but the use of the processor, and an escalation if the function declares none. -/
structure Implied (o : Options) (m : Module) (f : Func) (r : FunctionSummary) : Prop where
  cpu : (∃ k, r.capabilities.has k = true) → .cpu ≤ r.computed
  io : (∃ k ≠ .cpu, r.capabilities.has k = true) → .io ≤ r.computed
  escalates : f.effect = .pure → (∃ k, r.capabilities.has k = true) →
    ∃ d ∈ (checkModule o m).diagnostics, d.code = .effectEscalation ∧
      ("function", .str f.name) ∈ d.data

theorem implied_body (o : Options) {m : Module} {b : Body} (hb : b ∈ (survey m).bodies)
    (huntagged : ∀ c ∈ b.func.calls, c.effect = none) : Implied o m b.func b.summary := by
  have hcpu : (∃ k, b.summary.capabilities.has k = true) → .cpu ≤ b.summary.computed := by
    rintro ⟨k, hk⟩
    have hle : .cpu ≤ effectOfCapability k := by cases k <;> decide
    exact Nat.le_trans hle (implied_summary hb huntagged hk)
  refine ⟨hcpu, ?_, fun hpure hused => ?_⟩
  · rintro ⟨k, hne, hk⟩
    have hle : .io ≤ effectOfCapability k := by
      cases k with
      | cpu => exact absurd rfl hne
      | _ => decide
    exact Nat.le_trans hle (implied_summary hb huntagged hk)
  · refine exists_escalation hb ?_ o
    rw [(signature_body hb).1, hpure]
    exact hcpu hused

/-- **Using a capability implies its effect.**  A function none of whose calls is tagged with an
effect has an effect if it uses a capability, and one that leaves the program if it uses another one
than the processor; so it is an escalation if it declares none. -/
theorem capabilities_imply_effects (o : Options) (m : Module) :
    List.Forall₂ (fun f r => (∀ c ∈ f.calls, c.effect = none) → Implied o m f r) m.funcs
      (checkModule o m).functions := by
  rw [checkModule, functions_checkReporting, funcs_eq, List.forall₂_map_left_iff,
    List.forall₂_map_right_iff, List.forall₂_same]
  exact fun b hb => implied_body o hb

/-- A function that fetches something and declares no effect. -/
def fetchesSilently : Func := funcOf "f" [] none .pure [.eval {} (.call {} "Http.get" [] none none)]

/-- It has the effect of fetching, and that is an escalation. -/
theorem capabilities_imply_effects_fetchesSilently :
    let m := moduleOf [.func fetchesSilently]
    ∃ r, (checkModule {} m).functions = [r] ∧ r.capabilities.has .http = true ∧ .io ≤ r.computed ∧
      ∃ d ∈ (checkModule {} m).diagnostics, d.code = .effectEscalation ∧
        ("function", .str "f") ∈ d.data := by
  intro m
  have hfuncs : m.funcs = [fetchesSilently] := rfl
  have hall := capabilities_imply_effects {} m
  rw [hfuncs] at hall
  obtain ⟨r, rest, himplied, hrest, hfunctions⟩ := List.forall₂_cons_left_iff.1 hall
  obtain rfl := List.forall₂_nil_left_iff.1 hrest
  have hhas : (checkModule {} m).functions.map (·.capabilities.has .http) = [true] := by
    decide +kernel
  rw [hfunctions] at hhas
  have hhttp : r.capabilities.has .http = true := by simpa using hhas
  have huntagged : ∀ c ∈ fetchesSilently.calls, c.effect = none := by decide
  obtain ⟨-, hio, hescalates⟩ := himplied huntagged
  exact ⟨r, hfunctions, hhttp, hio ⟨.http, by decide, hhttp⟩, hescalates rfl ⟨.http, hhttp⟩⟩

end CoreCheck.Check

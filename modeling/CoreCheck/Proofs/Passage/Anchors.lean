import CoreCheck.Proofs.Passage.Functions
import CoreCheck.Proofs.Passage.Options
import CoreCheck.Proofs.Walk.Effects
import CoreCheck.Proofs.Walk.Notable

/-!
# Proofs/Passage/Anchors — where the effect of a body is reached

Calls contribute to the effect of a body, and so does all that suspends it, one after the other as the
walk meets them.  The effect of the body is the join of them all.  It is reached by the first
contribution that is as high, and that is where a check reports it when the function declares less.
-/

namespace CoreCheck

/-- A diagnostic in brief: its code, its place and its data. -/
abbrev Brief := Code × Span × List (String × Json)

/-- The verdict on an effect that a diagnostic is, if it is one. -/
def Diagnostic.verdict? (d : Diagnostic) : Option Brief :=
  if d.code = .effectEscalation ∨ d.code = .effectUnused then some (d.code, d.span, d.data) else none

theorem Diagnostic.verdict?_of_test (test : Code → Bool)
    (htest : test .effectEscalation = false ∧ test .effectUnused = false) (d : Diagnostic)
    (hd : test d.code = true) : d.verdict? = none := by
  refine if_neg ?_
  rintro (hc | hc)
  · exact Bool.noConfusion (htest.1.symm.trans (hc ▸ hd))
  · exact Bool.noConfusion (htest.2.symm.trans (hc ▸ hd))

namespace Check

open CoreCheck.Types CoreCheck.Scope CoreCheck.Ir

/-! ## Contributions -/

/-- **A contribution to the effect of a body**, with its place and what it comes from. -/
structure Contribution where
  effect : Effect
  site : Span
  cause : String

/-- **What a task itself contributes** to the effect of a body: a call what its target does, and all
that suspends the body an asynchronous effect. -/
def Task.contribution? : Start → Option Contribution
  | (.expr (.call span target _ effect capability), s) =>
    let c : CallHead := ⟨span, target, effect, capability⟩
    (((callee c).value s).effect c).map (⟨·, span, "call to " ++ Text.quote target⟩)
  | (.expr (.await span _), _) => some ⟨.async, span, "await"⟩
  | (.stmt _ (.start span name _), _) =>
    some ⟨.async, span, "start of task " ++ Text.quote name⟩
  | (.stmt _ (.wait span _), _) => some ⟨.async, span, "wait"⟩
  | _ => none

/-- **The contributions to the effect of a body**, in the order of the walk. -/
def Body.contributions (m : Module) (b : Body) : List Contribution :=
  gather Task.contribution? (b.start m)

/-- The join of no effect and all contributions. -/
def Contribution.total (cs : List Contribution) : Effect :=
  cs.foldl (fun e c => e.join c.effect) .pure

/-- **The contribution that reaches the total**: the first one that is as high. -/
def Contribution.anchor? (cs : List Contribution) : Option Contribution :=
  cs.find? (·.effect = total cs)

/-! ## The running effect -/

namespace Running

/-- Folds a contribution in. -/
def take (r : Running) (c : Contribution) : Running := r.raise c.effect c.site c.cause

theorem take_of_lt {r : Running} {c : Contribution} (h : r.effect < c.effect) :
    r.take c = ⟨c.effect, c.site, c.cause⟩ := by
  have hjoin : r.effect.join c.effect = c.effect := if_neg (Nat.lt_asymm h)
  rw [take, raise, if_pos h, hjoin]

theorem take_of_not_lt {r : Running} {c : Contribution} (h : ¬ r.effect < c.effect) :
    r.take c = r := if_neg h

theorem effect_take (r : Running) (c : Contribution) :
    (r.take c).effect = r.effect.join c.effect := by
  obtain ⟨e, site, cause⟩ := r
  obtain ⟨e', site', cause'⟩ := c
  cases e <;> cases e' <;> rfl

theorem effect_foldl (cs : List Contribution) (r : Running) :
    (cs.foldl take r).effect = cs.foldl (fun e c => e.join c.effect) r.effect := by
  induction cs generalizing r with
  | nil => rfl
  | cons c cs ih => rw [List.foldl_cons, List.foldl_cons, ih, effect_take]

/-- **An effect that has grown was reached by the first contribution that is as high.** -/
theorem foldl_take_cases (cs : List Contribution) (r : Running) :
    cs.foldl take r = r ∨ r.effect < (cs.foldl take r).effect ∧
      ∃ c, cs.find? (·.effect = (cs.foldl take r).effect) = some c ∧
        cs.foldl take r = ⟨c.effect, c.site, c.cause⟩ := by
  -- the contributions passed so far are no higher than the effect so far
  have hpass : ∀ {c : Contribution} {e e' : Effect}, c.effect ≤ e → e < e' →
      ∀ cs : List Contribution, (c :: cs).find? (·.effect = e') = cs.find? (·.effect = e') := by
    intro c e e' hle hlt cs
    refine List.find?_cons_of_neg ?_
    rw [decide_eq_true_eq]
    rintro rfl
    exact absurd hlt (Nat.not_lt.2 hle)
  induction cs generalizing r with
  | nil => exact .inl rfl
  | cons c cs ih =>
    rw [List.foldl_cons]
    by_cases h : r.effect < c.effect
    · rw [take_of_lt h]
      obtain hstay | ⟨hlt, c', hfind, heq⟩ := ih ⟨c.effect, c.site, c.cause⟩
      · rw [hstay]
        exact .inr ⟨h, c, List.find?_cons_of_pos (decide_eq_true rfl), rfl⟩
      · exact .inr ⟨Nat.lt_trans h hlt, c', (hpass (Nat.le_refl _) hlt cs).trans hfind, heq⟩
    · rw [take_of_not_lt h]
      obtain hstay | ⟨hlt, c', hfind, heq⟩ := ih r
      · exact .inl hstay
      · exact .inr ⟨hlt, c', (hpass (Nat.not_lt.1 h) hlt cs).trans hfind, heq⟩

end Running

/-! ## What was seen in a body -/

/-- The contribution that was seen, if one was. -/
def Observation.contributed : Observation → Option Contribution
  | .call site => some ⟨site.effect, site.span, "call to " ++ Text.quote site.target⟩
  | .suspends span cause => some ⟨.async, span, cause⟩
  | _ => none

theorem Running.add_eq (r : Running) (o : Observation) :
    r.add o = o.contributed.toList.foldl Running.take r := by
  cases o <;> rfl

theorem Running.ofLog_eq (log : List Observation) :
    Running.ofLog log = (log.filterMap Observation.contributed).foldl Running.take {} := by
  rw [List.filterMap_eq_flatMap_toList, List.foldl_flatMap, Running.ofLog]
  exact congrArg (log.foldl · {}) (funext₂ Running.add_eq)

/-- **What a call contributes** is the effect of what it calls. -/
theorem contributed_sight (c : CallHead) (taint : Option Taint) (callee : Callee) :
    (callee.sight c taint).bind Observation.contributed
      = (callee.effect c).map (⟨·, c.span, "call to " ++ Text.quote c.target⟩) := by
  cases callee <;> rfl

/-- A task contributes by what it sees. -/
theorem Task.contributed_sight (x : Start) :
    (sight x).bind Observation.contributed = contribution? x := by
  obtain ⟨t, s⟩ := x
  cases t with
  | expr e =>
    cases e with
    | call span target es effect capability => exact Check.contributed_sight _ _ _
    | _ => rfl
  | stmt fn st => cases st <;> rfl
  | body f sig =>
    -- a missing return contributes nothing
    change ((missingReturn? f sig.result _ _).map Observation.problem).bind _ = none
    cases missingReturn? f sig.result _ _ <;> rfl
  | _ => rfl

section Body

variable {m : Module} {b : Body} (hb : b ∈ (survey m).bodies)

include hb

/-- **The effect that was seen in a body** is folded from its contributions. -/
theorem running_body : b.running = (b.contributions m).foldl Running.take {} := by
  have hslight : ∀ o : Observation, o.isNotable = false → o.contributed = none := by
    rintro (_ | _ | _ | _ | _) ho
    all_goals first | rfl | exact nomatch ho
  rw [Body.running, Running.ofLog_eq, filterMap_log hb hslight, funext Task.contributed_sight]
  rfl

theorem effect_running : b.running.effect = Contribution.total (b.contributions m) := by
  rw [running_body hb, Running.effect_foldl]
  rfl

/-- **The effect of a body is recorded where it is reached.** -/
theorem running_eq_anchor (h : .pure < Contribution.total (b.contributions m)) :
    ∃ c, Contribution.anchor? (b.contributions m) = some c ∧
      b.running = ⟨c.effect, c.site, c.cause⟩ := by
  have heffect := effect_running hb
  rw [running_body hb] at heffect ⊢
  obtain hstay | ⟨-, c, hfind, heq⟩ := Running.foldl_take_cases (b.contributions m) {}
  · rw [hstay] at heffect
    exact absurd h (heffect ▸ Nat.lt_irrefl _)
  · rw [heffect] at hfind
    exact ⟨c, hfind, heq⟩

end Body

/-! ## What is reported -/

/-- **What has to be reported of the effect of a body**: that it declares too little, where the effect
is reached, or if it is asked for that it declares too much. -/
def Body.verdicts (o : Options) (m : Module) (b : Body) : List Brief :=
  let cs := b.contributions m
  let data := [("function", .str b.func.name), ("declared", .str b.func.effect.label),
    ("computed", .str (Contribution.total cs).label)]
  if b.func.effect < Contribution.total cs then
    [(.effectEscalation, ((Contribution.anchor? cs).elim {} Contribution.site).orElse b.func.span,
      data)]
  else if o.warnUnused && Contribution.total cs < b.func.effect then
    [(.effectUnused, b.func.span, data)]
  else []

/-- **Effects are recorded and reported where they are reached.** -/
structure Anchored (o : Options) (m : Module) : Prop where
  /-- Every function has one body, in the order of the declarations. -/
  bodies : m.funcs = (survey m).bodies.map Body.func
  /-- What is learned about functions, body by body. -/
  learned : (checkModule o m).functions.map (fun f => (f.name, f.span, f.declared, f.computed))
    = (survey m).bodies.map fun b =>
      (b.func.name, b.func.span, b.func.effect, Contribution.total (b.contributions m))
  /-- The place and the cause that are recorded. -/
  recorded : ∀ b ∈ (survey m).bodies, .pure < Contribution.total (b.contributions m) →
    ∃ c, Contribution.anchor? (b.contributions m) = some c ∧
      b.running = ⟨c.effect, c.site, c.cause⟩
  /-- What is reported about effects, body by body. -/
  reported : (checkModule o m).diagnostics.filterMap Diagnostic.verdict?
    = (survey m).bodies.flatMap (Body.verdicts o m)

section

variable (o : Options)

variable {m : Module} {b : Body} (hb : b ∈ (survey m).bodies)

include hb

theorem verdicts_effectVerdict :
    (effectVerdict o ⟨b.func.name, b.func.span, b.signature⟩ b.running).filterMap
      Diagnostic.verdict? = b.verdicts o m := by
  have heffect := effect_running hb
  rw [effectVerdict, Body.verdicts, ← heffect]
  dsimp only
  rw [(signature_body hb).1]
  split
  · next hlt =>
    have hpos : .pure < Contribution.total (b.contributions m) :=
      heffect ▸ Nat.lt_of_le_of_lt (Nat.zero_le _) hlt
    obtain ⟨c, hc, hrunning⟩ := running_eq_anchor hb hpos
    rw [hc, hrunning]
    split <;> rfl
  · split <;> rfl

/-- **What is reported about the effect of a body.** -/
theorem verdicts_body : (b.diagnostics o).filterMap Diagnostic.verdict? = b.verdicts o m := by
  have hlog : b.log.filterMap (fun obs => obs.problem?.bind Diagnostic.verdict?) = [] := by
    refine List.filterMap_eq_nil_iff.2 fun obs hobs => ?_
    have hplain := (grows_body hb).2 obs hobs
    cases obs with
    | problem d => exact Diagnostic.verdict?_of_test Code.isSemantic ⟨rfl, rfl⟩ d hplain
    | _ => rfl
  rw [filterMap_body (Diagnostic.verdict?_of_test Code.isOfCall ⟨rfl, rfl⟩), hlog,
    List.nil_append, verdicts_effectVerdict o hb]

end

/-- **The effect of every function, and where it is reached.**  The effect that a check learns of a
function is the join of all contributions of its body, and each function declaration is learned about
once, in order.  If there is an effect, the place and the cause recorded are those of the first
contribution that is as high.  There an escalation is reported, once, exactly if the function
declares less; if it declares more that is reported once, when it is asked for; and nothing else is
reported about effects. -/
theorem effects_anchored (o : Options) (m : Module) : Anchored o m where
  bodies := funcs_eq m
  learned := by
    rw [checkModule, functions_checkReporting, List.map_map]
    refine List.map_congr_left fun b hb => ?_
    change (b.func.name, b.func.span, b.signature.effect, b.running.effect) = _
    rw [(signature_body hb).1, effect_running hb]
  recorded b hb := running_eq_anchor hb
  reported := by
    rw [checkModule, filterMap_diagnostics _ _ _ _
      (Diagnostic.verdict?_of_test Code.isLocal ⟨rfl, rfl⟩)]
    exact List.flatMap_congr fun b hb => verdicts_body o hb

end Check

end CoreCheck

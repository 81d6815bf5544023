import CoreCheck.Proofs.Passage.Order

/-!
# Proofs/Passage/Functions — every function has a body

Each function of a module gets a signature, with the effect and the capabilities that it is written
with, and its body is walked.  So the bodies of a survey are those of the functions, in order, however
often a name is declared.
-/

namespace CoreCheck

namespace Ir

/-- The functions of a module, in order. -/
def Module.funcs (m : Module) : List Func :=
  m.decls.filterMap fun
    | .func f => some f
    | _ => none

end Ir

namespace Check

open CoreCheck.Scope CoreCheck.Ir

/-- **A signature has what a function is written with**: its effect and its capabilities. -/
def Signature.IsOf (sig : Signature) (f : Func) : Prop :=
  sig.effect = f.effect ∧ sig.capabilities = f.capabilities.map .ofList

theorem declareValues_isOf (known : TypeNames) : ∀ (ds : List (Decl × Nat)) (s : State),
    List.Forall₂ (fun e sig => ∀ f, e.1 = .func f →
      ∃ sg : Signature, sig = some sg ∧ Signature.IsOf sg f) ds ((declareValues known ds).value s)
  | [], _ => .nil
  | (d, i) :: ds, s => by
    refine .cons ?_ (declareValues_isOf known ds _)
    rintro f ⟨⟩
    exact ⟨_, rfl, rfl, rfl⟩

/-- **Every function has a signature.** -/
theorem signature_of_turns {m : Module} {e : (Decl × Nat) × Option Signature}
    (he : e ∈ Passage.turns m) {f : Func} (hf : e.1.1 = .func f) :
    ∃ sig, e.2 = some sig ∧ Signature.IsOf sig f :=
  List.forall₂_zip (declareValues_isOf _ m.decls.zipIdx _) he f hf

theorem signature_body {m : Module} {b : Body} (hb : b ∈ (survey m).bodies) :
    Signature.IsOf b.signature b.func := by
  rw [Passage.bodies_survey] at hb
  obtain ⟨e, he, hbody⟩ := List.mem_filterMap.1 hb
  have hsig := fun f => signature_of_turns he (f := f)
  obtain ⟨⟨d, i⟩, sig⟩ := e
  cases d with
  | func f =>
    obtain ⟨sg, rfl, hsg⟩ := hsig f rfl
    obtain rfl := Option.some.inj hbody
    exact hsg
  | _ => exact nomatch hbody

/-- **Every function has a body.** -/
theorem funcs_eq (m : Module) : m.funcs = (survey m).bodies.map Body.func := by
  have hdecls : m.decls = (Passage.turns m).map (·.1.1) := by
    conv_lhs => rw [← List.zipIdx_map_fst 0 m.decls, ← Passage.map_fst_turns, List.map_map]
    rfl
  rw [Module.funcs, hdecls, List.filterMap_map, Passage.bodies_survey, List.map_filterMap]
  refine List.filterMap_congr fun e he => ?_
  have hsig := fun f => signature_of_turns he (f := f)
  obtain ⟨⟨d, i⟩, sig⟩ := e
  cases d with
  | func f =>
    obtain ⟨sg, rfl, -⟩ := hsig f rfl
    rfl
  | _ => rfl

end Check

end CoreCheck

import CoreCheck.Proofs.Passage.Order

/-!
# Proofs/Passage/Independence — bodies are checked independently

Collecting declarations looks at no body.  So two modules that differ in one body only have the same
declarations, and every other body is walked from the same start.  What belongs to the other
declarations, what is learned about the other functions, and what the names of types stand for, does
not depend on that body.
-/

namespace CoreCheck.Ir

/-- A declaration with another body, if it is a function. -/
def Decl.withBody (body : List Stmt) : Decl → Decl
  | .func f => .func { f with body }
  | d => d

/-- A declaration without what it does. -/
def Decl.head (d : Decl) : Decl := d.withBody []

theorem Decl.head_withBody (body : List Stmt) (d : Decl) : (d.withBody body).head = d.head := by
  cases d <;> rfl

/-- **A module with another body for one of its functions.** -/
def Module.withBody (m : Module) (k : Nat) (body : List Stmt) : Module :=
  { m with decls := m.decls.modify k (Decl.withBody body) }

theorem Module.heads_withBody (m : Module) (k : Nat) (body : List Stmt) :
    (m.withBody k body).decls.map Decl.head = m.decls.map Decl.head := by
  refine List.ext_getElem? fun i => ?_
  rw [List.getElem?_map, List.getElem?_map, withBody, List.getElem?_modify]
  cases m.decls[i]? with
  | none => rfl
  | some d =>
    rw [Option.map_some]
    change some (ite (k = i) (d.withBody body) d).head = _
    split
    · rw [Decl.head_withBody]
    · rfl

end CoreCheck.Ir

namespace CoreCheck.Check

open CoreCheck.Types CoreCheck.Scope CoreCheck.Ir

/-! ## Declarations are collected without their bodies -/

theorem declareType_head (known : TypeNames) (i : Nat) (d : Decl) :
    declareType known i d.head = declareType known i d := by cases d <;> rfl

theorem declareTypes_head : ∀ (ds : List (Decl × Nat)) (known : TypeNames),
    declareTypes known (ds.map (Prod.map Decl.head id))
      = (Prod.map id (List.map (Prod.map Decl.head id)) ·) <$> declareTypes known ds
  | [], _ => rfl
  | (d, i) :: ds, known => by
    simp [declareTypes, declareType_head, declareTypes_head ds]

theorem aliasTargets_head (known : TypeNames) (ds : List (Decl × Nat)) :
    aliasTargets known (ds.map (Prod.map Decl.head id)) = aliasTargets known ds := by
  rw [aliasTargets, List.filterMap_map]
  refine List.filterMap_congr fun e _ => ?_
  obtain ⟨d, i⟩ := e
  cases d <;> rfl

theorem resolveDecl_head (targets : List AliasTarget) (e : Decl × Nat × Option TypeId) :
    resolveDecl targets (Prod.map Decl.head id e) = resolveDecl targets e := by
  obtain ⟨d, i, id⟩ := e
  cases d <;> cases id <;> rfl

theorem collectTypes_head (ds : List (Decl × Nat)) :
    collectTypes (ds.map (Prod.map Decl.head id)) = collectTypes ds := by
  simp [collectTypes, declareTypes_head, aliasTargets_head, resolveDecl_head]

theorem declareValue_head (known : TypeNames) (d : Decl) (i : Nat) :
    declareValue known d.head i = declareValue known d i := by cases d <;> rfl

theorem declareValues_head (known : TypeNames) : ∀ ds : List (Decl × Nat),
    declareValues known (ds.map (Prod.map Decl.head id)) = declareValues known ds
  | [] => rfl
  | (d, i) :: ds => by
    simp [declareValues, declareValue_head, declareValues_head known ds]

/-- **Collecting declarations looks at no body.** -/
theorem declare_head (decls : List Decl) : declare (decls.map Decl.head) = declare decls := by
  simp only [declare, List.zipIdx_map, collectTypes_head, declareValues_head]

/-! ## What belongs to a declaration -/

namespace Passage

variable {σ : Type} (r : Reporter σ) (o : Options) (m : Module) (told : σ)

/-- **The diagnostics of a declaration**: what is handed out when it is visited. -/
def handed (i : Nat) : List Diagnostic :=
  (upTo r o m told (i + 1)).bag.drop (upTo r o m told i).bag.length

/-- **What is learned about the function that a declaration is**; nothing if it is none. -/
def learned (i : Nat) : List FunctionSummary :=
  ((complete r o m told).bodies.filter (·.index = i)).map Body.summary

theorem handed_eq (i : Nat) : handed r o m told i = (turns m)[i]?.toList.flatMap fun e =>
    (survey m).problemsOf e.1.2 ++ (surveyed m e).toList.flatMap (Body.diagnostics o) := by
  rw [handed, bag_upTo, bag_upTo, List.take_add_one, List.flatMap_append, List.drop_left]

theorem learned_eq (i : Nat) :
    learned r o m told i = ((turns m)[i]?.bind (surveyed m)).toList.map Body.summary := by
  rw [learned, (visited_complete m r o told).bodies, filter_surveyed m i _ (Nat.le_refl _)]
  split
  · rfl
  · next hi =>
    rw [List.getElem?_eq_none (length_turns m ▸ Nat.not_lt.1 hi)]
    rfl

/-- **The outcome is what belongs to the declarations**, one after the other. -/
theorem diagnostics_eq_handed : (checkReporting r told o m).1.diagnostics
    = (List.range m.decls.length).flatMap (handed r o m told) := by
  rw [diagnostics_checkReporting, flatMap_turns]
  exact List.flatMap_congr fun i _ => (handed_eq r o m told i).symm

end Passage

section Independence

open Passage

variable (m : Module) (k : Nat) (body : List Stmt)

theorem declare_withBody : declare (m.withBody k body).decls = declare m.decls := by
  rw [← declare_head, Module.heads_withBody, declare_head]

theorem declared_withBody : (survey (m.withBody k body)).declared = (survey m).declared :=
  congrArg (·.after {}) (declare_withBody m k body)

theorem surveyed_withBody : surveyed (m.withBody k body) = surveyed m := by
  funext e
  unfold surveyed
  rw [declared_withBody]

/-- The visits of the other declarations. -/
theorem turns_withBody {i : Nat} (hi : i ≠ k) :
    (turns (m.withBody k body))[i]? = (turns m)[i]? := by
  have hdecl : (m.withBody k body).decls[i]? = m.decls[i]? := by
    rw [Module.withBody, List.getElem?_modify_ne _ _ hi.symm]
  rw [turns, turns, declare_withBody, List.zip_eq_zipWith, List.zip_eq_zipWith,
    List.getElem?_zipWith', List.getElem?_zipWith', List.getElem?_zipIdx, List.getElem?_zipIdx,
    hdecl]

/-- Every name of a type that is known in the end, with how the type is written. -/
def Result.labels (r : Result) : List (String × String) :=
  r.aliases.entries.map fun (name, id) => (name, r.types.label id)

theorem labels_checkReporting {σ : Type} (r : Reporter σ) (told : σ) (o : Options) (m : Module) :
    (checkReporting r told o m).1.labels = (survey m).declared.aliases.entries.map
      fun (name, id) => (name, (survey m).declared.types.label id) := by
  rw [Result.labels, aliases_checkReporting]
  refine List.map_congr_left fun e he => ?_
  exact congrArg (Prod.mk e.1) (label_checkReporting r told o m he)

/-- **Bodies are checked independently.**  If the body of one function is replaced, then the
diagnostics of every other declaration, what is learned about every other function, and what the
names of types stand for, stay the same. -/
theorem checked_independently {σ : Type} (r : Reporter σ) (told : σ) (o : Options) :
    (∀ i, i ≠ k → handed r o (m.withBody k body) told i = handed r o m told i ∧
      learned r o (m.withBody k body) told i = learned r o m told i) ∧
      (checkReporting r told o (m.withBody k body)).1.labels
        = (checkReporting r told o m).1.labels := by
  refine ⟨fun i hi => ⟨?_, ?_⟩, ?_⟩
  · have hproblems : (survey (m.withBody k body)).problemsOf = (survey m).problemsOf := by
      funext j
      rw [Survey.problemsOf, declared_withBody]
      rfl
    rw [handed_eq, handed_eq, turns_withBody m k body hi, surveyed_withBody, hproblems]
  · rw [learned_eq, learned_eq, turns_withBody m k body hi, surveyed_withBody]
  · rw [labels_checkReporting, labels_checkReporting, declared_withBody]

end Independence

/-- A function, and behind it one that names something that it does not have. -/
def bindsNothing : Module :=
  moduleOf [.func (funcOf "g" [] none .pure []),
    .func (funcOf "f" [] none .pure [.eval {} (.name {} "x")])]

/-- **What is missing stays missing**, even if the function before it binds that name. -/
theorem checked_independently_bindsNothing :
    (Passage.handed (fun _ _ => ()) {} bindsNothing () 1).map (·.code) = [.undefinedSymbol] ∧
      Passage.handed (fun _ _ => ()) {}
        (bindsNothing.withBody 0 [.bind {} "x" none (.literal {} (.bool true))]) () 1
      = Passage.handed (fun _ _ => ()) {} bindsNothing () 1 :=
  ⟨by decide +kernel,
    ((checked_independently bindsNothing 0 [.bind {} "x" none (.literal {} (.bool true))]
      (fun _ _ => ()) () {}).1 1 (by decide)).1⟩

end CoreCheck.Check

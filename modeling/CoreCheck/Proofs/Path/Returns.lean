import CoreCheck.Proofs.Match.Exhaustive
import CoreCheck.Proofs.Passage.Functions
import CoreCheck.Proofs.Passage.Options
import CoreCheck.Proofs.Path.Reached
import CoreCheck.Proofs.Walk.Notable

/-!
# Proofs/Path/Returns — a return on every way

A way through statements takes one branch of every condition and one case of every match.  Where there
is no second branch, and where the cases do not count as exhaustive, it may also pass by.  The verdict
on statements is whether all ways through them return (`value_block`), so a body is reported
exactly when it has to return something and one of its ways does not.
-/

namespace CoreCheck

/-- Whether a statement returns. -/
def Ir.Stmt.isReturn : Ir.Stmt → Bool
  | .ret _ _ => true
  | _ => false

namespace Check.Path

open CoreCheck.Types CoreCheck.Scope CoreCheck.Ir

/-! ## Ways -/

/-- **A way through statements**: those that it passes, in order. -/
abbrev Way := List Stmt

/-- Whether a way returns. -/
def Way.returns (w : Way) : Bool := w.any Stmt.isReturn

/-- A condition, up to where its branches begin. -/
def condition (span : Span) (cond : Expr) : Walk Unit := do
  Walk.observe (.visits "if" "")
  let v ← checkExpr cond
  checkCondition (cond.span.orElse span) v

/-- A match, up to where its cases begin. -/
def scrutinee (e : Expr) : Walk Value := do
  Walk.observe (.visits "match" "")
  checkExpr e

section

variable (fn : Enclosing)

mutual

/-- **The ways through a statement** that is walked from a state. -/
def waysStmt (s : State) : Stmt → List Way
  | .branch span cond yes no =>
    let ahead := (condition span cond).after s
    waysBlock ((Walk.enter .block span).after ahead) yes ++
      waysElse span ((Walk.within .block span (checkBlock fn yes)).after ahead) no
  | .select span e cases =>
    let v := (scrutinee e).value s
    let ahead := (scrutinee e).after s
    waysCases span v ahead cases ++
      if cases.isEmpty || !countsExhaustive fn span v cases ahead then [[]] else []
  | .scope span body => waysBlock ((Walk.enter .block span).after s) body
  | .bind span name type value => [[.bind span name type value]]
  | .set span name value => [[.set span name value]]
  | .ret span value => [[.ret span value]]
  | .eval span value => [[.eval span value]]
  | .start span name task => [[.start span name task]]
  | .wait span names => [[.wait span names]]

/-- **The ways through statements**: a way through the first one, and then one through the others. -/
def waysBlock (s : State) : List Stmt → List Way
  | [] => [[]]
  | st :: ss =>
    (waysStmt s st).flatMap fun w => (waysBlock ((checkStmt fn st).after s) ss).map (w ++ ·)

/-- The ways through the second branch of a condition; without one, there is the way past it. -/
def waysElse (span : Span) (s : State) : Option (List Stmt) → List Way
  | none => [[]]
  | some body => waysBlock ((Walk.enter .block span).after s) body

/-- The ways through the cases of a match, each through the statements of one case. -/
def waysCases (outer : Span) (v : Value) (s : State) : List Case → List Way
  | [] => []
  | .mk span p body :: rest =>
    waysBlock ((bindPattern (span.orElse outer) v.type v.taint p).after
        ((Walk.enter .matchArm (span.orElse outer)).after s)) body ++
      waysCases outer v ((checkCases fn outer v [.mk span p body]).after s) rest

end

end

/-! ## The verdict on statements -/

theorem returns_append (w w' : Way) : Way.returns (w ++ w') = (w.returns || w'.returns) :=
  List.any_append

/-- All ways through two pieces return if all through the first do, or all through the second. -/
theorem all_returns_append (l k : List Way) :
    (l.flatMap fun w => k.map (w ++ ·)).all Way.returns
      = (l.all Way.returns || k.all Way.returns) := by
  induction l with
  | nil => simp
  | cons w l ih =>
    have hfirst : (k.map (w ++ ·)).all Way.returns = (w.returns || k.all Way.returns) := by
      rw [List.all_map]
      simp only [Function.comp_def, returns_append]
      cases w.returns <;> simp
    rw [List.flatMap_cons, List.all_append, ih, hfirst, List.all_cons]
    cases w.returns <;> cases l.all Way.returns <;> cases k.all Way.returns <;> rfl

theorem value_select (fn : Enclosing) (span : Span) (e : Expr) (cs : List Case) (s : State) :
    (checkStmt fn (.select span e cs)).value s
      = (!cs.isEmpty &&
        ((checkCases fn span ((scrutinee e).value s) cs).value ((scrutinee e).after s)).1 &&
        countsExhaustive fn span ((scrutinee e).value s) cs ((scrutinee e).after s)) := by
  rw [checkStmt]
  rfl

theorem closed_cases_cons (fn : Enclosing) (outer : Span) (v : Value) (span : Span) (p : Pattern)
    (ss : List Stmt) (rest : List Case) (s : State) :
    ((checkCases fn outer v (.mk span p ss :: rest)).value s).1
      = ((checkBlock fn ss).value ((bindPattern (span.orElse outer) v.type v.taint p).after
          ((Walk.enter .matchArm (span.orElse outer)).after s)) &&
        ((checkCases fn outer v rest).value ((checkCases fn outer v [.mk span p ss]).after s)).1) := by
  rw [checkCases, checkCases, checkCases]
  rfl

section

variable {fn : Enclosing}

mutual

/-- **The verdict on a statement** is whether all ways through it return. -/
theorem value_stmt : ∀ (st : Stmt) (s : State),
    (checkStmt fn st).value s = (waysStmt fn s st).all Way.returns
  | .branch span cond yes no, s => by
    rw [waysStmt, List.all_append, ← value_block yes, ← value_else no, checkStmt]
    rfl
  | .select span e cases, s => by
    rw [waysStmt, List.all_append, ← value_cases cases, value_select]
    generalize countsExhaustive fn span _ cases _ = exhaustive
    cases cases.isEmpty <;> cases exhaustive <;> simp [Way.returns]
  | .scope span body, s => by
    rw [waysStmt, ← value_block body, checkStmt]
    rfl
  | .bind .., _ | .set .., _ | .eval .., _ | .start .., _ | .wait .., _ => by
    rw [checkStmt, waysStmt]
    rfl
  | .ret _ none, _ | .ret _ (some _), _ => by
    rw [checkStmt, waysStmt]
    rfl

/-- **The verdict on statements** is whether all ways through them return. -/
theorem value_block : ∀ (ss : List Stmt) (s : State),
    (checkBlock fn ss).value s = (waysBlock fn s ss).all Way.returns
  | [], _ => by
    rw [checkBlock, waysBlock]
    rfl
  | st :: ss, s => by
    rw [waysBlock, all_returns_append, ← value_stmt st, ← value_block ss, checkBlock]
    rfl

theorem value_else : ∀ (no : Option (List Stmt)) (span : Span) (s : State),
    (checkElse fn span no).value s = (waysElse fn span s no).all Way.returns
  | none, _, _ => by
    rw [checkElse, waysElse]
    rfl
  | some body, span, s => by
    rw [waysElse, ← value_block body, checkElse]
    rfl

theorem value_cases : ∀ (cs : List Case) (outer : Span) (v : Value) (s : State),
    ((checkCases fn outer v cs).value s).1 = (waysCases fn outer v s cs).all Way.returns
  | [], _, _, _ => by
    rw [checkCases, waysCases]
    rfl
  | .mk span p body :: rest, outer, v, s => by
    rw [waysCases, List.all_append, ← value_block body, ← value_cases rest, closed_cases_cons]

end

end

/-! ## Bodies that miss a return -/

section

variable (m : Module) (b : Body)

/-- The function of a body, as its statements see it. -/
def enclosing : Enclosing := ⟨b.func.name, b.func.span, b.func.typeParams, b.signature.result⟩

/-- The state in which the statements of a body are met. -/
def inside : State :=
  (defineParams b.signature.params).after
    ((Walk.enter .function b.func.span).after ((survey m).start b))

/-- **A body misses a return**: the kind of its result is another one than that of nothing, of
something unknown or of a variable, and some way through its statements does not return. -/
def MissesReturn : Prop :=
  (survey m).declared.types.kindOf b.signature.result ∉ [.unit, .unknown, .var] ∧
    ∃ w ∈ waysBlock (enclosing b) (inside m b) b.func.body, ∀ st ∈ w, st.isReturn = false

instance : Decidable (MissesReturn m b) := inferInstanceAs (Decidable (_ ∧ _))

/-- What has to be reported of a body about its returns. -/
def missing : List Diagnostic :=
  if MissesReturn m b then
    [missingReturn b.func ((Walk.labelOf b.signature.result).value (survey m).declared)]
  else []

end

theorem needsReturn_eq (a : Arena) (result : TypeId) :
    needsReturn a result = decide (a.kindOf result ∉ [.unit, .unknown, .var]) := by
  rw [needsReturn]
  cases a.kindOf result <;> rfl

section

variable {m : Module} {b : Body} (hb : b ∈ (survey m).bodies)

include hb

/-- A body sees that it misses a return, when its statements are done. -/
theorem missingReturn?_body :
    missingReturn? b.func b.signature.result
        ((checkBlock (enclosing b) b.func.body).value (inside m b))
        ((checkBlock (enclosing b) b.func.body).after (inside m b))
      = (missing m b).head? := by
  have hknown := known_signature hb
  have hpaired : Paired (survey m).declared _ _ := paired_block (paired_params
    ((paired_start m b).enter .function .function b.func.span b.func.span) b.signature.params
    hknown.params) (enclosing b) b.func.body
  -- the type of the result is a declared one, and stays as it was
  have hsame := (Arena.Same.refl hknown.result).extends hpaired.ground.types hpaired.left.types
    hpaired.left.ext hpaired.ground.types hpaired.ground.types (.refl _)
  have hkind := hsame.kindOf_eq hpaired.left.types hpaired.ground.types
  have hlabel := hsame.label_eq hpaired.left.types hpaired.ground.types hpaired.left.ext.datas_eq
    hpaired.left.ext.enums_eq
  have hmisses : (!(checkBlock (enclosing b) b.func.body).value (inside m b) &&
      needsReturn ((checkBlock (enclosing b) b.func.body).after (inside m b)).types
        b.signature.result) = true ↔ MissesReturn m b := by
    rw [value_block, needsReturn_eq, inside, hkind, Bool.and_eq_true, decide_eq_true_eq, and_comm,
      MissesReturn]
    simp [Way.returns, inside]
  rw [missingReturn?, missing]
  by_cases h : MissesReturn m b
  · rw [if_pos (hmisses.2 h), if_pos h]
    exact congrArg (some <| missingReturn b.func <| if b.signature.result = 0 then "Unknown" else ·)
      hlabel
  · rw [if_neg (mt hmisses.1 h), if_neg h]
    rfl

end

/-! ## What is reported -/

/-- The missing return that a diagnostic is, if it is one. -/
def ending? (d : Diagnostic) : Option Diagnostic := Option.guard (·.code = .missingReturn) d

theorem ending?_of_code {d : Diagnostic} {code : Code} (h : d.code = code)
    (hcode : code ≠ .missingReturn) : ending? d = none := by
  simp [ending?, h, hcode]

theorem ending?_of_test (test : Code → Bool) (htest : test .missingReturn = false) (d : Diagnostic)
    (hd : test d.code = true) : ending? d = none :=
  ending?_of_code rfl fun hcode => Bool.noConfusion (htest.symm.trans (hcode ▸ hd))

theorem endings_effectVerdict (o : Options) (fn : Judged) (seen : Running) :
    (effectVerdict o fn seen).filterMap ending? = [] := by
  refine List.filterMap_eq_nil_iff.2 fun d hd => ?_
  obtain hc | hc := code_of_mem_effectVerdict hd
  · exact ending?_of_code hc (by decide)
  · exact ending?_of_code hc (by decide)

/-- Whether a task is a body. -/
def isBody : Task → Bool
  | .body _ _ => true
  | _ => false

/-- No task starts a body. -/
theorem all_parts (t : Task) (s : State) : (t.parts s).all (!isBody ·.1) = true := by
  cases t with
  | expr e => cases e <;> rfl
  | exprs outer es => cases es <;> rfl
  | items outer elem taint es => cases es <;> rfl
  | inits outer info seen taint is => rcases is with _ | ⟨⟨span, name, value⟩, rest⟩ <;> rfl
  | pattern outer type taint p =>
    cases p with
    | ctor at_ name ps =>
      rw [Task.parts, Task.ofPattern]
      cases (takenBy (at_.orElse outer) type name ps.length).value s <;> rfl
    | _ => rfl
  | args outer taint fields ps => cases ps <;> rfl
  | stmt fn st =>
    cases st with
    | ret span value => cases value <;> rfl
    | branch span cond yes no => cases no <;> rfl
    | _ => rfl
  | block fn ss => cases ss <;> rfl
  | cases fn outer v cs => rcases cs with _ | ⟨⟨span, p, ss⟩, rest⟩ <;> rfl
  | body f sig => rfl

theorem isBody_of_reaches {x y : Start} (h : Reaches x y) (hx : isBody x.1 = false) :
    isBody y.1 = false := by
  induction h with
  | here => exact hx
  | step hy _ ih =>
    refine ih ?_
    simpa using List.all_eq_true.1 (all_parts _ _) _ hy

/-- The missing return that was seen, if one was. -/
def endingSeen (obs : Observation) : Option Diagnostic := obs.problem?.bind ending?

/-- No other task sees that a return is missing. -/
theorem endingSeen_sight {x : Start} (h : isBody x.1 = false) :
    (Task.sight x).bind endingSeen = none := by
  obtain ⟨t, s⟩ := x
  cases t with
  | expr e =>
    cases e with
    | call span target es effect capability =>
      rw [Task.sight]
      cases (callee ⟨span, target, effect, capability⟩).value s <;> rfl
    | _ => rfl
  | stmt fn st => cases st <;> rfl
  | body f sig => exact nomatch h
  | _ => rfl

/-- **Only the end of a body sees that a return is missing.** -/
theorem endings_log {m : Module} {b : Body} (hb : b ∈ (survey m).bodies) :
    b.log.filterMap endingSeen = missing m b := by
  have hslight : ∀ o : Observation, o.isNotable = false → endingSeen o = none := by
    rintro (d | _ | _ | _ | _) ho
    · refine ending?_of_code rfl fun hcode => ?_
      rw [Observation.isNotable, hcode] at ho
      cases ho
    all_goals rfl
  have hparts : ((b.start m).1.parts (b.start m).2).flatMap
      (gather fun y => (Task.sight y).bind endingSeen) = [] := by
    refine List.flatMap_eq_nil_iff.2 fun y hy => List.eq_nil_iff_forall_not_mem.2 fun d hd => ?_
    obtain ⟨z, hz, hd⟩ := mem_gather.1 hd
    have hbody : isBody y.1 = false := by
      simpa using List.all_eq_true.1 (all_parts (b.start m).1 (b.start m).2) y hy
    rw [endingSeen_sight (isBody_of_reaches hz hbody)] at hd
    cases hd
  rw [filterMap_log hb hslight, gather_eq, hparts, List.nil_append]
  change (((missingReturn? b.func b.signature.result
    ((checkBlock (enclosing b) b.func.body).value (inside m b))
    ((checkBlock (enclosing b) b.func.body).after (inside m b))).map .problem).bind
    endingSeen).toList = _
  rw [missingReturn?_body hb, missing]
  split
  · simp [endingSeen, Observation.problem?, ending?, code_missingReturn]
  · rfl

/-- **What is reported about the returns of a module**, body by body. -/
theorem endings_check (o : Options) (m : Module) :
    (checkModule o m).diagnostics.filter (·.code = .missingReturn)
      = (survey m).bodies.flatMap (missing m) := by
  have hfilter : (checkModule o m).diagnostics.filter (·.code = .missingReturn)
      = (checkModule o m).diagnostics.filterMap ending? :=
    congrFun List.filterMap_eq_filter.symm _
  rw [hfilter, checkModule, filterMap_diagnostics _ _ _ _ (ending?_of_test Code.isLocal rfl)]
  refine List.flatMap_congr fun b hb => ?_
  rw [filterMap_body (ending?_of_test Code.isOfCall rfl), endings_effectVerdict, List.append_nil]
  exact endings_log hb

/-- **Returns are looked for on every way.**  Statements count as returning exactly when every way
through them passes a return.  And for every module, one missing return is reported for each of
its functions, in order, that has to return something and has a way that does not, and none for any
other. -/
theorem returns_on_every_way :
    (∀ fn ss s, (checkBlock fn ss).value s = true ↔
      ∀ w ∈ waysBlock fn s ss, ∃ st ∈ w, st.isReturn = true) ∧
    ∀ o m, m.funcs = (survey m).bodies.map Body.func ∧
      (checkModule o m).diagnostics.filter (·.code = .missingReturn)
        = (survey m).bodies.flatMap fun b => if MissesReturn m b then
            [missingReturn b.func ((Walk.labelOf b.signature.result).value (survey m).declared)]
          else [] := by
  refine ⟨fun fn ss s => ?_, fun o m => ⟨funcs_eq m, endings_check o m⟩⟩
  rw [value_block, List.all_eq_true]
  simp only [Way.returns, List.any_eq_true]

end Check.Path

end CoreCheck

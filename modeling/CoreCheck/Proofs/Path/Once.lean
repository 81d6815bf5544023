import CoreCheck.Proofs.Path.Reached

/-!
# Proofs/Path/Once — on a path every name is bound once

What a run does with a name that its scope has already does not matter where the walk over the whole
body reports no such name: a path binds in a scope only what the walk binds there.  So on the path
every binding takes effect, and a run that would replace what a name stands for does what a run does
that would refuse to.
-/

namespace CoreCheck.Check

open CoreCheck.Types CoreCheck.Scope CoreCheck.Ir

/-! ## Reports of names that are bound twice -/

/-- Whether a name is reported that is bound twice. -/
def Observation.isDouble : Observation → Bool
  | .problem d => d.code == .duplicateSymbol
  | _ => false

/-- How often a name was reported so far that is bound twice. -/
def State.doubles (s : State) : Nat := s.log.toList.countP (·.2.isDouble)

theorem LogGrows.doubles {s t : State} {obs : List Observation} (h : LogGrows s t obs) :
    t.doubles = s.doubles + obs.countP (·.isDouble) := by
  rw [State.doubles, h, List.countP_append, List.countP_map]
  rfl

theorem Later.doubles_le {s t : State} (h : Later s t) : s.doubles ≤ t.doubles := by
  obtain ⟨obs, hobs, -⟩ := h.grows
  exact hobs.doubles ▸ Nat.le_add_right _ _

theorem doubles_duplicate (what name : String) (span previous : Span) (s : State) :
    ((Walk.reportDuplicate what name span previous).after s).doubles = s.doubles + 1 := by
  have hdouble : ∀ d : Diagnostic, d.code = .duplicateSymbol →
      ((Walk.report d).after s).doubles = s.doubles + 1 := by
    intro d hd
    simp [State.doubles, Walk.report, Observation.isDouble, hd]
  exact hdouble _ (by split <;> rfl)

/-- **No name was reported** in between that is bound twice. -/
def Once (s t : State) : Prop := t.doubles ≤ s.doubles

namespace Once

variable {s t u : State}

theorem first (h : Once s u) (htu : Later t u) : Once s t := htu.doubles_le.trans h

theorem rest (h : Once s u) (hst : Later s t) : Once t u := Nat.le_trans h hst.doubles_le

variable {α β : Type} {x : Walk α} {f : α → Walk β}

/-- The first of two steps. -/
theorem ahead (h : Once s ((x >>= f).after s)) (hf : ∀ a, Walk.Keeps Later (f a)) :
    Once s (x.after s) := h.first (hf _ _)

/-- The second of two steps. -/
theorem behind (h : Once s ((x >>= f).after s)) (hx : Walk.Keeps Later x) :
    Once (x.after s) ((f (x.value s)).after (x.after s)) := h.rest (hx s)

end Once

namespace Path

variable {d p c : State}

/-! ## Patterns -/

/-- **A name is bound alike by both rules** where the walk does not report it. -/
theorem run_define_eq (h : Paired d p c) (name : String) (s t : Symbol) (what what' : String)
    (honce : Once c ((Walk.define name t what').after c)) :
    (Walk.define name s what).run p = (rebind name s what).run p := by
  obtain ⟨-, e, he⟩ | ⟨hfree, -, -⟩ := h.right.table.define_cases name t
  · rw [Walk.after_define_error he, Once, doubles_duplicate] at honce
    exact absurd honce (Nat.not_succ_le_self _)
  · obtain ⟨hbound, -⟩ | ⟨-, hd, -⟩ := h.left.table.define_cases name s
    · exact absurd (hbound.symm.trans ((binds_eq h.view name).trans hfree)) Bool.noConfusion
    · rw [Walk.define, rebind]
      refine Walk.run_bind_congr rfl ?_
      rw [Walk.value_get, Walk.after_get, hd]

theorem run_receiveName_eq (h : Paired d p c) {i j : TypeId} (hs : Arena.Same p.types i c.types j)
    (t t' : Option Taint) (span span' : Span) (name : String)
    (honce : Once c ((bindName span' j t' name).after c)) :
    (receiveName Walk.define span i t name).run p = (receiveName rebind span i t name).run p := by
  have hvariant := hasVariant_eq h hs name
  have hother := h.variantType name
  unfold receiveName
  unfold bindName at honce
  refine Walk.run_bind_congr rfl ?_
  rw [Walk.after_bind, Walk.value_types, Walk.after_types, Walk.after_ite] at honce
  rw [Walk.value_types, Walk.after_types]
  split
  · rfl
  · next hno =>
    rw [hvariant] at hno
    rw [if_neg hno, Walk.after_bind] at honce
    refine Walk.run_bind_congr rfl ?_
    rw [after_variantType] at honce ⊢
    rw [hother]
    cases hfound : (variantType? name).value c with
    | some _ => rfl
    | none =>
      rw [hfound] at honce
      exact run_define_eq h name _ _ _ _ honce

mutual

/-- **A pattern binds alike by both rules** where the walk reports no name twice. -/
theorem run_receive_eq : ∀ (pat : Pattern) {p c : State}, Paired d p c → ∀ {i j : TypeId},
    Arena.Same p.types i c.types j → ∀ {t t' : Option Taint}, Taint.Below t t' → ∀ outer : Span,
    Once c ((bindPattern outer j t' pat).after c) →
    (receive Walk.define i t pat).run p = (receive rebind i t pat).run p
  | .wildcard _, p, c, h, i, j, hs, t, t', ht, outer, honce => by rw [receive, receive]
  | .name at_ name, p, c, h, i, j, hs, t, t', ht, outer, honce => by
    rw [receive, receive]
    rw [bindPattern] at honce
    exact run_receiveName_eq h hs t t' at_ _ name honce
  | .literal at_ value, p, c, h, i, j, hs, t, t', ht, outer, honce => by rw [receive, receive]
  | .none at_, p, c, h, i, j, hs, t, t', ht, outer, honce => by rw [receive, receive]
  | .wrap at_ kind inner, p, c, h, i, j, hs, t, t', ht, outer, honce => by
    rw [receive, receive]
    rw [bindPattern] at honce
    have hpart := h.wrappedType hs kind at_ (at_.orElse outer)
    have hfirst := Lockstep.reports h (reports_wrappedType kind at_ i p)
      (reports_wrappedType kind (at_.orElse outer) j c)
    have hinner := (honce.behind (later_of_reports (reports_wrappedType kind _ j))).ahead
      fun _ => .bind (later_of_reports (reports_catchAll _ inner)) fun _ => .pure _
    exact Walk.run_bind_congr rfl
      (run_receive_eq inner hfirst.stop (hfirst.same hpart) ht (at_.orElse outer) hinner)
  | .ctor at_ name args, p, c, h, i, j, hs, t, t', ht, outer, honce => by
    rw [receive, receive]
    rw [bindPattern] at honce
    have htaken := h.takenBy hs at_ (at_.orElse outer) name args.length
    have hle := @Paired.taken_le d p c h at_ i name args.length
    have hfirst := Lockstep.reports h (reports_takenBy at_ i name args.length p)
      (reports_takenBy (at_.orElse outer) j name args.length c)
    have hargs := honce.behind (later_of_reports (reports_takenBy (at_.orElse outer) j name _))
    rw [← htaken] at hargs
    refine Walk.run_bind_congr rfl ?_
    cases hfound : (takenBy at_ i name args.length).value p with
    | variant => rfl
    | unclear =>
      rw [hfound] at hargs
      replace hargs := hargs.ahead fun _ => .pure _
      exact run_receiveParts_eq args hfirst.stop [] (fun _ hf => nomatch hf) ht
        (at_.orElse outer) hargs
    | data id info =>
      rw [hfound] at hargs
      replace hargs := hargs.ahead fun _ => .look (fun _ => rfl) fun _ => .pure _
      exact run_receiveParts_eq args hfirst.stop info.fields (hle hfound) ht (at_.orElse outer)
        hargs

theorem run_receiveParts_eq : ∀ (ps : List Pattern) {p c : State}, Paired d p c →
    ∀ fields : List Field, (∀ f ∈ fields, f.type ≤ d.types.size) →
    ∀ {t t' : Option Taint}, Taint.Below t t' → ∀ outer : Span,
    Once c ((bindArgs outer t' fields ps).after c) →
    (receiveParts Walk.define t fields ps).run p = (receiveParts rebind t fields ps).run p
  | [], p, c, h, fields, hf, t, t', ht, outer, honce => by rw [receiveParts, receiveParts]
  | pat :: ps, p, c, h, fields, hf, t, t', ht, outer, honce => by
    rw [receiveParts, receiveParts]
    rw [bindArgs] at honce
    have hs := h.same_declared (h.ground.fieldType_le hf)
    have hbelow := ht.merge (h.taintOf_below hs)
    have hfirst := lockstep_receive pat h hs hbelow outer
    have hcatch := reports_catchAll ((fields.head?.map Field.type).getD unknown) pat
    have hall := Lockstep.reports_right hfirst.stop hcatch
    replace honce := honce.behind (.of_after_eq fun _ => rfl)
    have hone := honce.ahead fun _ => .bind (later_of_reports hcatch) fun _ =>
      .bind (onward_args outer t' fields.tail ps).later fun _ => .pure _
    have hothers := ((honce.behind (onward_pattern outer _ _ pat).later).behind
      (later_of_reports hcatch)).ahead fun _ => .pure _
    refine Walk.run_bind_congr rfl (Walk.run_bind_congr (run_receive_eq pat h hs hbelow outer hone) ?_)
    exact run_receiveParts_eq ps hall.stop fields.tail
      (fun f hmem => hf f (List.mem_of_mem_tail hmem)) ht outer hothers

end

/-! ## Statements -/

theorem later_observe (o : Observation) (ho : o.isPlain = true) :
    Walk.Keeps Later (Walk.observe o) := later_of_quiet (quiet_observe o ho)

theorem later_expr (e : Expr) : Walk.Keeps Later (checkExpr e) := later_of_quiet (quiet_expr e)

theorem later_define (name : String) (sym : Symbol) (what : String) :
    Walk.Keeps Later (Walk.define name sym what) := (onward_define name sym what).later

theorem later_block (fn : Enclosing) (span : Span) (ss : List Stmt) :
    Walk.Keeps Later (Walk.within .block span (checkBlock fn ss)) :=
  (enclosed_within .block span (onward_block fn ss)).onward.later

theorem later_cases (fn : Enclosing) (outer : Span) (v : Value) (cs : List Case) :
    Walk.Keeps Later (checkCases fn outer v cs) := (enclosed_cases fn outer v cs).onward.later

/-- What is bound once in a scope of its own. -/
theorem once_within {α : Type} (kind : ScopeKind) (span : Span) {x : Walk α}
    (honce : Once c ((Walk.within kind span x).after c)) :
    Once ((Walk.enter kind span).after c) (x.after ((Walk.enter kind span).after c)) :=
  honce.first (later_leave kind span x c)

section

variable {fn : Enclosing}

mutual

/-- **A path goes on alike by both rules** where the walk reports no name twice. -/
theorem run_step_eq : ∀ (s : Stmt) (turns : Turns) {p c : State}, Paired d p c →
    Once c ((checkStmt fn s).after c) →
    (step assignable Walk.define fn turns s).run p = (step assignable rebind fn turns s).run p
  | .bind span name written value, turns, p, c, h, honce => by
    rw [step, step]
    rw [checkStmt] at honce
    have hvisit := Lockstep.observe_right h (o := .visits "let" name) rfl
    obtain ⟨hvalue, hv⟩ := lockstep_expr value hvisit.stop
    obtain ⟨hinit, -⟩ := lockstep_initial hvalue.stop hv fn (value.span.orElse span) name written
    have hdefine := (((honce.behind (later_observe _ rfl)).behind (later_expr value)).behind
      (later_of_quiet (makes_bindingOf fn _ name written _).quietly)).ahead fun _ => .pure _
    exact Walk.run_bind_congr rfl (Walk.run_bind_congr rfl (Walk.run_bind_congr
      (run_define_eq hinit.stop name _ _ _ _ hdefine) rfl))
  | .set span name value, turns, p, c, h, honce => by rw [step, step]
  | .ret span none, turns, p, c, h, honce => by rw [step, step]
  | .ret span (some value), turns, p, c, h, honce => by rw [step, step]
  | .eval span value, turns, p, c, h, honce => by rw [step, step]
  | .branch span cond yes no, turns, p, c, h, honce => by
    rw [step, step]
    rw [checkStmt] at honce
    have hvisit := Lockstep.observe_right h (o := .visits "if" "") rfl
    obtain ⟨hcond, -⟩ := lockstep_expr cond hvisit.stop
    have hreport := Lockstep.reports_right hcond.stop
      (reports_condition (cond.span.orElse span) ((checkExpr cond).value
        ((Walk.observe (.visits "if" "")).after c)))
    replace honce := ((honce.behind (later_observe _ rfl)).behind (later_expr cond)).behind
      (later_of_reports (reports_condition _ _))
    refine Walk.run_bind_congr rfl ?_
    split
    · have hyes := honce.ahead fun _ => .bind (later_else span no) fun _ => .pure _
      exact Walk.run_within_congr .block span (run_steps_eq yes turns.tail
        (hreport.stop.enter .block .block span span) (once_within .block span hyes))
    · have hno := (honce.behind (later_block fn span yes)).ahead fun _ => .pure _
      have hyes := paired_scope hreport.stop.diag fn span yes
      exact run_stepElse_eq no span turns.tail
        (hreport.stop.aside ((enclosed_within .block span (onward_block fn yes)) _) hyes) hno
  | .select span scrutinee cases, turns, p, c, h, honce => by
    rw [step, step]
    rw [checkStmt] at honce
    have hvisit := Lockstep.observe_right h (o := .visits "match" "") rfl
    obtain ⟨hvalue, hv⟩ := lockstep_expr scrutinee hvisit.stop
    have hcases := ((honce.behind (later_observe _ rfl)).behind (later_expr scrutinee)).ahead
      fun _ => .look (fun _ => rfl) fun _ => .pure _
    exact Walk.run_bind_congr rfl
      (run_stepCase_eq cases span hv (turns.headD 0) turns.tail hvalue.stop hcases)
  | .scope span body, turns, p, c, h, honce => by
    rw [step, step]
    rw [checkStmt] at honce
    exact Walk.run_within_congr .block span (run_steps_eq body turns
      (h.enter .block .block span span) (once_within .block span honce))
  | .start span name task, turns, p, c, h, honce => by
    rw [step, step]
    rw [checkStmt] at honce
    have hvisit := Lockstep.observe_right h (o := .visits "start" name) rfl
    obtain ⟨hvalue, -⟩ := lockstep_expr task hvisit.stop
    have hstart := Lockstep.observe_right hvalue.stop
      (o := .suspends span ("start of task " ++ Text.quote name)) rfl
    have hdefine := (((honce.behind (later_observe _ rfl)).behind (later_expr task)).behind
      (later_observe _ rfl)).ahead fun _ => .pure _
    exact Walk.run_bind_congr rfl (Walk.run_bind_congr
      (run_define_eq hstart.stop name _ _ _ _ hdefine) rfl)
  | .wait span names, turns, p, c, h, honce => by rw [step, step]

theorem run_steps_eq : ∀ (ss : List Stmt) (turns : Turns) {p c : State}, Paired d p c →
    Once c ((checkBlock fn ss).after c) →
    (steps assignable Walk.define fn turns ss).run p = (steps assignable rebind fn turns ss).run p
  | [], turns, p, c, h, honce => by rw [steps, steps]
  | s :: ss, turns, p, c, h, honce => by
    rw [steps, steps]
    rw [checkBlock] at honce
    have hs := honce.ahead fun _ => .bind (onward_block fn ss).later fun _ => .pure _
    have hss := (honce.behind (onward_stmt fn s).later).ahead fun _ => .pure _
    refine Walk.run_bind_congr (run_step_eq s turns h hs) ?_
    cases hon : (step assignable Walk.define fn turns s).value p with
    | none => rfl
    | some turns' =>
      have hpaired := (tracks_stmt s turns h).paired (by rw [hon]; rfl)
      rw [after_alongStmt] at hpaired
      exact run_steps_eq ss turns' hpaired hss

theorem run_stepElse_eq : ∀ (no : Option (List Stmt)) (span : Span) (turns : Turns)
    {p c : State}, Paired d p c → Once c ((checkElse fn span no).after c) →
    (stepElse assignable Walk.define fn span turns no).run p
      = (stepElse assignable rebind fn span turns no).run p
  | none, span, turns, p, c, h, honce => by rw [stepElse, stepElse]
  | some body, span, turns, p, c, h, honce => by
    rw [stepElse, stepElse]
    rw [checkElse] at honce
    exact Walk.run_within_congr .block span (run_steps_eq body turns
      (h.enter .block .block span span) (once_within .block span honce))

theorem run_stepCase_eq : ∀ (cases : List Case) (outer : Span) {v w : Value} {p c : State},
    Value.Paired p.types c.types v w → ∀ (n : Nat) (turns : Turns), Paired d p c →
    Once c ((checkCases fn outer w cases).after c) →
    (stepCase assignable Walk.define fn outer v n turns cases).run p
      = (stepCase assignable rebind fn outer v n turns cases).run p
  | [], outer, v, w, p, c, hv, n, turns, h, honce => by rw [stepCase, stepCase]
  | .mk span pattern body :: rest, outer, v, w, p, c, hv, 0, turns, h, honce => by
    rw [stepCase, stepCase]
    rw [checkCases] at honce
    have henter := h.enter .matchArm .matchArm (span.orElse outer) (span.orElse outer)
    have hpattern := lockstep_receive pattern henter hv.type hv.taint (span.orElse outer)
    have harm := once_within .matchArm _ (honce.ahead fun _ =>
      .bind (later_cases fn outer w rest) fun _ => .pure _)
    have hnames := harm.ahead fun _ => .bind (onward_block fn body).later fun _ => .pure _
    have hbody := (harm.behind (onward_pattern _ w.type w.taint pattern).later).ahead
      fun _ => .pure _
    exact Walk.run_within_congr .matchArm _ (Walk.run_bind_congr
      (run_receive_eq pattern henter hv.type hv.taint (span.orElse outer) hnames)
      (run_steps_eq body turns hpattern.stop hbody))
  | .mk span pattern body :: rest, outer, v, w, p, c, hv, n + 1, turns, h, honce => by
    rw [stepCase, stepCase]
    rw [after_cases_cons] at honce
    have henclosed := enclosed_cases fn outer w [.mk span pattern body] c
    have hchecked := paired_case h.diag fn outer hv.type.right span pattern body
    have haside := h.aside henclosed hchecked
    have hv' : Value.Paired p.types _ v w := hv.extends h.left.types h.left.types (.refl _)
      h.right.types hchecked.right.types henclosed.types
    exact run_stepCase_eq rest outer hv' n turns haside (honce.rest henclosed.toLater)

end

end

/-! ## Bodies -/

theorem run_startParams_eq : ∀ (ps : List Param), (∀ q ∈ ps, q.type ≤ d.types.size) →
    ∀ {p c : State}, Paired d p c → Once c ((defineParams ps).after c) →
    (startParams Walk.define ps).run p = (startParams rebind ps).run p
  | [], _, p, c, h, honce => by rw [startParams, startParams]
  | q :: ps, hle, p, c, h, honce => by
    rw [startParams, startParams]
    rw [defineParams] at honce
    replace honce := honce.behind (.of_after_eq fun _ => rfl)
    have hs := h.same_declared (hle q (.head _))
    have hdefine := Lockstep.define h q.name
      (.plain .param (by decide) q.span q.span {} hs (h.taintOf_below hs)) "parameter" "parameter"
    have hone := honce.ahead fun _ => (onward_defineParams ps).later
    have hothers := honce.behind (later_define _ _ _)
    exact Walk.run_bind_congr rfl (Walk.run_bind_congr (run_define_eq h q.name _ _ _ _ hone)
      (run_startParams_eq ps (fun q hq => hle q (.tail _ hq)) hdefine.stop hothers))

/-- **A path through a body is the same by both rules** where the walk over the body reports no name
twice. -/
theorem run_run_eq (h : Paired d p c) (f : Func) {sig : Signature} (hsig : Signature.Known d.types sig)
    (turns : Turns) (honce : Once c ((walkBody f sig).after c)) :
    (run assignable Walk.define f sig turns).run p = (run assignable rebind f sig turns).run p := by
  rw [walkBody_eq] at honce
  have henter := h.enter .function .function f.span f.span
  have hparams := lockstep_defineParams sig.params hsig.params henter
  have hin := once_within .function f.span honce
  have hblock := fun fn => (onward_block fn f.body).later
  have hending := fun closed => later_of_quiet (quiet_ending f sig.result closed)
  have hnames := hin.ahead fun _ => .bind (hblock _) hending
  have hbody := (hin.behind (onward_defineParams sig.params).later).ahead hending
  refine Walk.run_within_congr .function f.span (Walk.run_bind_congr
    (run_startParams_eq sig.params hsig.params henter hnames) (Walk.run_bind_congr ?_ rfl))
  rw [startParams_define]
  exact run_steps_eq f.body turns hparams.stop hbody

end Path

end CoreCheck.Check

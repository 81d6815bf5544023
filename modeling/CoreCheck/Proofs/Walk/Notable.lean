import CoreCheck.Proofs.Walk.Tasks

/-!
# Proofs/Walk/Notable — what a walk sees, task by task

A task is the tasks it starts, one after the other, and between them there are only steps that note
a statement or a problem of their place (`Threads`).  A call, what suspends a body and the missing
return of a body are seen by the task that they belong to, when its parts are done (`Task.sight`).  So
by induction over tasks, what a walk sees is what the tasks that it reaches see, in order.
-/

namespace CoreCheck.Check

open CoreCheck.Types CoreCheck.Scope CoreCheck.Ir

/-! ## Tasks in the order of a walk -/

/-- **What tasks give, in the order of a walk**: what the parts of a task give comes first. -/
def gather {α : Type} (own : Start → Option α) (x : Start) : List α :=
  (x.1.parts x.2).attach.flatMap (fun y => gather own y.1) ++ (own x).toList
termination_by x.1.size
decreasing_by exact Task.size_lt_of_mem_parts y.2

section Gather

variable {α β : Type} {own : Start → Option α}

theorem gather_eq (own : Start → Option α) (x : Start) :
    gather own x = (x.1.parts x.2).flatMap (gather own) ++ (own x).toList := by
  rw [gather]
  simp

/-- **What is given is given by a task that is reached.** -/
theorem mem_gather {x : Start} {a : α} :
    a ∈ gather own x ↔ ∃ y, Reaches x y ∧ own y = some a := by
  induction x using Task.induct with
  | h x ih =>
    rw [gather_eq, List.mem_append, List.mem_flatMap, Option.mem_toList]
    constructor
    · rintro (⟨y, hy, ha⟩ | ha)
      · obtain ⟨z, hz, ha⟩ := (ih y hy).1 ha
        exact ⟨z, .step hy hz, ha⟩
      · exact ⟨x, .here x, ha⟩
    · rintro ⟨z, hz, ha⟩
      obtain rfl | ⟨y, hy, hz⟩ := hz.eq_or_part
      · exact .inr ha
      · exact .inl ⟨y, hy, (ih y hy).2 ⟨z, hz, ha⟩⟩

theorem filterMap_gather (own : Start → Option α) (f : α → Option β) (x : Start) :
    (gather own x).filterMap f = gather (fun y => (own y).bind f) x := by
  induction x using Task.induct with
  | h x ih =>
    rw [gather_eq, gather_eq, List.filterMap_append, List.filterMap_flatMap,
      List.flatMap_congr ih]
    refine congrArg (_ ++ ·) ?_
    cases h : own x with
    | none => rfl
    | some a => cases hf : f a <;> simp [hf]

end Gather

/-! ## What is notable -/

/-- The notable observations so far. -/
def State.notables (s : State) : List Observation :=
  (s.log.toList.map (·.2)).filter Observation.isNotable

theorem LogGrows.notables {s t : State} {obs : List Observation} (h : LogGrows s t obs) :
    t.notables = s.notables ++ obs.filter Observation.isNotable := by
  rw [State.notables, h, List.map_append, List.filter_append, List.map_map]
  exact congrArg (_ ++ List.filter _ ·) (List.map_id obs)

theorem notables_observe (o : Observation) (s : State) :
    ((Walk.observe o).after s).notables = s.notables ++ [o].filter Observation.isNotable := by
  have hgrows : LogGrows s ((Walk.observe o).after s) [o] := by simp [LogGrows]
  exact hgrows.notables

/-! ## Steps that see nothing notable -/

/-- **Nothing notable is seen.** -/
def Idle (s t : State) : Prop := t.notables = s.notables

instance : Walk.Course Idle := ⟨fun _ => rfl, fun h h' => Eq.trans h' h⟩

theorem Idle.of_log {s t : State} (h : t.log = s.log) : Idle s t := by
  rw [Idle, State.notables, State.notables, h]

theorem Makes.idle {s t : State} (h : Makes s t) : Idle s t := by
  obtain ⟨ds, hds, hlocal⟩ := h.grows
  have hnone : (ds.map Observation.problem).filter Observation.isNotable = [] := by
    refine List.filter_eq_nil_iff.2 (List.forall_mem_map.2 fun d hd => ?_)
    simp [Observation.isNotable, hlocal d hd]
  rw [Idle, hds.notables, hnone, List.append_nil]

section Idle

variable {α : Type} {x : Walk α}

theorem Walk.Keeps.idle (h : Walk.Keeps Makes x) : Walk.Keeps Idle x := h.mono fun _ _ => Makes.idle

theorem idle_visits (keyword about : String) :
    Walk.Keeps Idle (Walk.observe (.visits keyword about)) := fun s =>
  (notables_observe _ s).trans (List.append_nil _)

theorem idle_define (name : String) (sym : Symbol) (what : String) :
    Walk.Keeps Idle (Walk.define name sym what) := by
  intro s
  cases hd : s.table.define name sym with
  | error d =>
    rw [Walk.after_define_error hd]
    exact (reports_duplicate _ _ _ _).makes.idle s
  | ok r =>
    rw [Walk.after_define_ok hd]
    exact .of_log rfl

theorem idle_defineParams : ∀ ps : List Param, Walk.Keeps Idle (defineParams ps)
  | [] => .pure _
  | p :: ps => by
    rw [defineParams]
    exact .look (fun _ => rfl) fun _ => .bind (idle_define _ _ _) fun _ => idle_defineParams ps

theorem idle_update (id : Nat) (f : Symbol → Symbol) : Walk.Keeps Idle (Walk.update id f) :=
  fun _ => .of_log rfl

theorem idle_enter (kind : ScopeKind) (span : Span) : Walk.Keeps Idle (Walk.enter kind span) :=
  fun _ => .of_log rfl

/-- Leaving a scope. -/
theorem idle_leave (kind : ScopeKind) (span : Span) (x : Walk α) (s : State) :
    Idle (x.after ((Walk.enter kind span).after s)) ((Walk.within kind span x).after s) := by
  rw [Walk.after_within]
  generalize x.after ((Walk.enter kind span).after s) = t
  obtain ⟨id, opened, table, -, -, he⟩ | ⟨e, he⟩ := Walk.leave_cases t
  all_goals
    rw [he]
    exact .of_log rfl

theorem idle_assign (span at_ : Span) (name : String) (v : Value) :
    Walk.Keeps Idle (assign span at_ name v) :=
  keeps_assign (fun hr => hr.makes.idle) (fun _ _ => idle_update _ _) span at_ name v

theorem idle_awaitTasks (span : Span) (names : List String) :
    Walk.Keeps Idle (awaitTasks span names) :=
  keeps_awaitTasks (fun hr => hr.makes.idle) (fun _ => idle_update _ _) span names

theorem idle_bindName (span : Span) (type : TypeId) (taint : Option Taint) (name : String) :
    Walk.Keeps Idle (bindName span type taint name) := by
  unfold bindName
  refine .look (fun _ => rfl) fun a => .ite (.pure _) ?_
  refine .bind (reports_variantType _).makes.idle fun found => ?_
  split
  · exact (reports_otherVariant a span type _ name).makes.idle
  · exact .bind (idle_define _ _ _) fun _ => .pure _

end Idle

/-! ## What a task itself sees -/

/-- What is seen of a call, by what it calls and the taint of its arguments. -/
def Callee.sight (c : CallHead) (taint : Option Taint) : Callee → Option Observation
  | .declassifier => some (.clears c.span c.target taint)
  | .function sig =>
    some (.call { target := c.target, span := c.span, effect := sig.effect, taint })
  | .value _ _ =>
    some (.call { target := c.target, span := c.span, effect := c.tagged,
                  capability := c.capability, taint })
  | .external =>
    some (.call { target := c.target, span := c.span, effect := c.external.1,
                  capability := c.external.2, taint })
  | .notCallable _ | .undefined => none

/-- The missing return of a body, by whether its statements return on every path. -/
def missingReturn? (f : Func) (result : TypeId) (closed : Bool) (s : State) : Option Diagnostic :=
  if !closed && needsReturn s.types result then
    some (missingReturn f ((Walk.labelOf result).value s))
  else none

/-- **What a task itself sees**, when its parts are done. -/
def Task.sight : Start → Option Observation
  | (.expr (.call span target es effect capability), s) =>
    let c : CallHead := ⟨span, target, effect, capability⟩
    ((callee c).value s).sight c
      (Value.taintOfAll (((checkExprs span es).value ((callee c).after s)).map (·.1)))
  | (.expr (.await span _), _) => some (.suspends span "await")
  | (.stmt _ (.start span name _), _) =>
    some (.suspends span ("start of task " ++ Text.quote name))
  | (.stmt _ (.wait span _), _) => some (.suspends span "wait")
  | (.body f sig, s) =>
    let inside := (defineParams sig.params).after ((Walk.enter .function f.span).after s)
    let statements := checkBlock ⟨f.name, f.span, f.typeParams, sig.result⟩ f.body
    (missingReturn? f sig.result (statements.value inside) (statements.after inside)).map .problem
  | _ => none

/-- **A call is seen** when its arguments have been walked. -/
theorem notables_finishCall (c : CallHead) (callee : Callee) (args : List (Value × Span))
    (s : State) : ((finishCall c callee args).after s).notables
      = s.notables ++ (callee.sight c (Value.taintOfAll (args.map (·.1)))).toList := by
  have hparams := fun params => (reports_params c params args).makes.idle s
  cases callee with
  | declassifier => exact notables_observe _ s
  | function sig => exact (notables_observe _ _).trans (congrArg (· ++ _) (hparams _))
  | value params result => exact (notables_observe _ _).trans (congrArg (· ++ _) (hparams _))
  | external => exact notables_observe _ s
  | notCallable sym =>
    refine Eq.trans ?_ (List.append_nil _).symm
    exact (reports_label fun _ => .bind (reports_report .notCallable rfl rfl) fun _ => .pure _).makes.idle s
  | undefined => exact (reports_undefined _ _).makes.idle s |>.trans (List.append_nil _).symm

/-! ## Tasks one after the other -/

/-- **Tasks one after the other**, each in its state, with idle steps between them, and at the end
what may be seen there. -/
inductive Threads : State → List Start → Option Observation → State → Prop
  | last {s t : State} {o : Option Observation} :
    t.notables = s.notables ++ o.toList → Threads s [] o t
  | cons {s t : State} {y : Start} {ys : List Start} {o : Option Observation} :
    Idle s y.2 → Threads (y.1.after y.2) ys o t → Threads s (y :: ys) o t

section Threads

variable {s t u : State}

theorem Threads.nil (h : Idle s t) : Threads s [] none t :=
  .last (h.trans (List.append_nil _).symm)

theorem Threads.one {y : Start} (h : Idle s y.2) (h' : Idle (y.1.after y.2) t) :
    Threads s [y] none t := .cons h (.nil h')

/-- Something notable is seen, between idle steps. -/
theorem Threads.seen {o : Observation} (h : Idle s t) (ho : o.isNotable = true)
    (h' : Idle ((Walk.observe o).after t) u) : Threads s [] (some o) u := by
  refine .last (h'.trans ((notables_observe o t).trans ?_))
  rw [h, List.filter_cons_of_pos ho]
  rfl

theorem threads_ofPattern (outer : Span) (type : TypeId) (taint : Option Taint) (p : Pattern) :
    Threads s (Task.ofPattern outer type taint s p) none
      ((bindPattern outer type taint p).after s) := by
  cases p with
  | wildcard at_ =>
    rw [bindPattern]
    exact .nil rfl
  | name at_ name =>
    rw [bindPattern]
    exact .nil (idle_bindName _ type taint name s)
  | none at_ =>
    rw [bindPattern]
    exact .nil ((reports_nonePattern _ type).makes.idle s)
  | literal at_ value =>
    rw [bindPattern]
    exact .one rfl ((reports_literalPattern (at_.orElse outer) type value
      ((checkExpr value).value s)).makes.idle _)
  | wrap at_ kind inner =>
    rw [bindPattern]
    exact .one ((reports_wrappedType _ _ _).makes.idle s) ((reports_catchAll _ inner).makes.idle _)
  | ctor at_ name ps =>
    have htaken := (reports_takenBy (at_.orElse outer) type name ps.length).makes.idle s
    rw [bindPattern, Walk.after_bind, Task.ofPattern]
    cases (takenBy (at_.orElse outer) type name ps.length).value s with
    | variant => exact .nil htaken
    | unclear => exact .one htaken rfl
    | data id info => exact .one htaken rfl

theorem threads_ofElse (fn : Enclosing) (span : Span) (no : Option (List Stmt)) {s' : State}
    (h : Idle s' s) :
    Threads s' (Task.ofElse fn span s no) none ((checkElse fn span no).after s) := by
  cases no with
  | none =>
    rw [checkElse]
    exact .nil h
  | some ss =>
    rw [checkElse]
    exact .one (Walk.Course.trans h (idle_enter .block span s)) (idle_leave .block span _ s)

theorem threads_ofStmt (fn : Enclosing) (st : Stmt) :
    Threads s (Task.ofStmt fn s st) (Task.sight (.stmt fn st, s)) ((checkStmt fn st).after s) := by
  have hnoted : ∀ keyword about, Idle s ((Walk.observe (.visits keyword about)).after s) :=
    fun keyword about => idle_visits keyword about s
  cases st with
  | bind span name written value =>
    rw [checkStmt]
    exact .one (hnoted _ _) (Walk.Course.trans
      ((makes_bindingOf fn (value.span.orElse span) name written _).idle _)
      (idle_define name _ "binding" _))
  | set span name value =>
    rw [checkStmt]
    exact .one (hnoted _ _) (idle_assign span (value.span.orElse span) name _ _)
  | ret span value =>
    cases value with
    | none =>
      rw [checkStmt]
      exact .nil (Walk.Course.trans (hnoted _ _) ((reports_bareReturn fn span).makes.idle _))
    | some value =>
      rw [checkStmt]
      exact .one (hnoted _ _) ((reports_return fn (value.span.orElse span) _).makes.idle _)
  | eval span value =>
    rw [checkStmt]
    exact .one rfl rfl
  | branch span cond yes no =>
    rw [checkStmt]
    refine .cons (hnoted _ _) (.cons ?_ (threads_ofElse fn span no ?_))
    · exact Walk.Course.trans ((reports_condition (cond.span.orElse span) _).makes.idle _)
        (idle_enter .block span _)
    · exact idle_leave .block span (checkBlock fn yes) _
  | select span scrutinee cs =>
    rw [checkStmt]
    exact .cons (hnoted _ _) (.one rfl rfl)
  | scope span ss =>
    rw [checkStmt]
    exact .one (idle_enter .block span s) (idle_leave .block span _ s)
  | start span name task =>
    rw [checkStmt]
    exact .cons (hnoted _ _) (.seen rfl rfl (idle_define name _ "task" _))
  | wait span names =>
    rw [checkStmt]
    exact .seen (hnoted _ _) rfl (idle_awaitTasks span names _)

theorem threads_ofCases (fn : Enclosing) (outer : Span) (v : Value) (cs : List Case) :
    Threads s (Task.ofCases fn outer v s cs) none ((checkCases fn outer v cs).after s) := by
  cases cs with
  | nil =>
    rw [checkCases]
    exact .nil rfl
  | cons c rest =>
    obtain ⟨span, p, ss⟩ := c
    rw [after_cases_cons]
    refine .cons (idle_enter _ _ s) (.cons rfl (.one ?_ rfl))
    have hone : (checkCases fn outer v [.mk span p ss]).after s
        = (Walk.within .matchArm (span.orElse outer) (do
          let coverage ← bindPattern (span.orElse outer) v.type v.taint p
          let closed ← checkBlock fn ss
          return (closed, coverage))).after s := by
      rw [checkCases, checkCases]
      rfl
    rw [hone]
    exact idle_leave _ _ _ s

theorem threads_ofExpr (e : Expr) :
    Threads s (Task.ofExpr s e) (Task.sight (.expr e, s)) ((checkExpr e).after s) := by
  rw [checkExpr.eq_def]
  cases e with
  | name span name =>
    refine .nil ?_
    rw [Walk.after_bind]
    cases (Walk.lookup name).value s with
    | none => exact (reports_undefined name span).makes.idle s
    | some found => rfl
  | literal | none => exact .nil rfl
  | binary span op left right =>
    exact .cons rfl (.one rfl ((reports_binary span op _ _).makes.idle _))
  | unary span op operand => exact .one rfl ((reports_unary span op _).makes.idle _)
  | call span target args effect capability =>
    exact .cons ((reports_callee _).makes.idle s) (.last (notables_finishCall _ _ _ _))
  | construct span type fields =>
    exact .one ((reports_dataType type span).makes.idle s)
      ((reports_completeAll span _ _).makes.idle _)
  | member span base field => exact .one rfl ((reports_member span _ field).makes.idle _)
  | wrap span kind inner =>
    exact .one rfl ((makes_wrap kind ((checkExpr inner).value s)).idle ((checkExpr inner).after s))
  | list span items => exact .one rfl ((makes_make fun a => a.extends_intern _).idle _)
  | await span task => exact .cons rfl (.seen rfl rfl rfl)

/-- Behind its statements, a body sees that it misses a return. -/
theorem notables_ending (f : Func) (result : TypeId) (closed : Bool) (s : State) :
    ((ending f result closed).after s).notables
      = s.notables ++ ((missingReturn? f result closed s).map .problem).toList := by
  rw [after_ending, missingReturn?]
  split
  · refine (notables_observe _ s).trans (congrArg (_ ++ ·) (List.filter_cons_of_pos ?_))
    exact congrArg (!Code.isLocal ·) (code_missingReturn f _)
  · exact (List.append_nil _).symm

theorem threads_body (f : Func) (sig : Signature) :
    Threads s (Task.parts s (.body f sig)) (Task.sight (.body f sig, s))
      ((walkBody f sig).after s) := by
  rw [walkBody_eq]
  refine .cons (Walk.Course.trans (idle_enter .function f.span s) (idle_defineParams sig.params _)) ?_
  exact .last ((idle_leave .function f.span _ s).trans (notables_ending f sig.result _ _))

/-- **A task is its parts, one after the other**, and then what it sees itself. -/
theorem threads_parts (t : Task) : Threads s (t.parts s) (Task.sight (t, s)) (t.after s) := by
  cases t with
  | expr e => exact threads_ofExpr e
  | exprs outer es =>
    cases es <;> rw [Task.after, checkExprs]
    · exact .nil rfl
    · exact .cons rfl (.one rfl rfl)
  | items outer elem taint es =>
    cases es <;> rw [Task.after, checkItems]
    · exact .nil rfl
    · exact .cons rfl (.one ((makes_joinItem _ _ _).idle _) rfl)
  | inits outer info seen taint is =>
    cases is with
    | nil =>
      rw [Task.after, checkInits]
      exact .nil rfl
    | cons i rest =>
      obtain ⟨span, name, value⟩ := i
      rw [Task.after, checkInits]
      cases info with
      | none => exact .cons rfl (.one rfl rfl)
      | some info => exact .cons rfl (.one ((reports_init info seen name _ _ _).makes.idle _) rfl)
  | pattern outer type taint p => exact threads_ofPattern outer type taint p
  | args outer taint fields ps =>
    cases ps <;> rw [Task.after, bindArgs]
    · exact .nil rfl
    · exact .cons rfl (.one ((reports_catchAll _ _).makes.idle _) rfl)
  | stmt fn st => exact threads_ofStmt fn st
  | block fn ss =>
    cases ss <;> rw [Task.after, checkBlock]
    · exact .nil rfl
    · exact .cons rfl (.one rfl rfl)
  | cases fn outer v cs => exact threads_ofCases fn outer v cs
  | body f sig => exact threads_body f sig

theorem Threads.notables {ys : List Start} {o : Option Observation} (h : Threads s ys o t)
    (hys : ∀ y ∈ ys, (y.1.after y.2).notables = y.2.notables ++ gather Task.sight y) :
    t.notables = s.notables ++ (ys.flatMap (gather Task.sight) ++ o.toList) := by
  induction h with
  | last h => exact h
  | cons hidle _ ih =>
    rw [ih fun y hy => hys y (.tail _ hy), hys _ (.head _), hidle, List.flatMap_cons,
      List.append_assoc, List.append_assoc]

end Threads

/-- **A walk sees what the tasks that it reaches see**, in order. -/
theorem notables_after (x : Start) :
    (x.1.after x.2).notables = x.2.notables ++ gather Task.sight x := by
  induction x using Task.induct with
  | h x ih => rw [gather_eq, (threads_parts x.1).notables ih]

/-- The walk over a body, with the state it starts in. -/
def Body.start (m : Module) (b : Body) : Start :=
  (.body b.func b.signature, (survey m).start b)

/-- **What is read off the notable observations of a body** is what the tasks of the body give, in
order. -/
theorem filterMap_log {m : Module} {b : Body} (hb : b ∈ (survey m).bodies) {α : Type}
    {f : Observation → Option α} (hf : ∀ o, o.isNotable = false → f o = none) :
    b.log.filterMap f = gather (fun y => (Task.sight y).bind f) (b.start m) := by
  have hlog : b.log.filter Observation.isNotable = gather Task.sight (b.start m) :=
    List.append_cancel_left ((logGrows_body hb).notables.symm.trans (notables_after (b.start m)))
  rw [← filterMap_gather, ← hlog, List.filterMap_filter]
  refine List.filterMap_congr fun o _ => ?_
  split
  · rfl
  · next ho => exact hf o (Bool.eq_false_iff.2 ho)

end CoreCheck.Check

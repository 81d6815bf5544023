import CoreCheck.Proofs.Walk.Sealed

/-!
# Proofs/Walk/Covered — bindings that carry the taint of their types

Whatever is bound in a body, and whatever an expression of it answers, should carry at least the
taint of its type.  Every task keeps this, except two kinds: a call that removes taint, which is
meant to, and a name right under a wrapping pattern.  Such a name is bound with the taint of the
matched value, and the taint of its own type is not added.
-/

namespace CoreCheck.Check

open CoreCheck.Types CoreCheck.Scope CoreCheck.Ir

variable {d s : State}

/-! ## Tasks that are given and answer what is covered -/

/-- What a task is walked for is covered. -/
def Task.Fit (d s : State) : Task → Prop
  | .items _ elem taint _ => ∀ id, elem = some id → s.types.Covers taint id
  | .pattern outer type taint p => type ≤ s.types.size ∧ ∀ at_ name, p = .name at_ name →
      Task.Binds s (.pattern outer type taint p) → s.types.Covers taint type
  | .args _ _ fields _ => ∀ f ∈ fields, f.type ≤ d.types.size
  | .cases _ _ v _ => s.types.Covers v.taint v.type
  | .body _ sig => Signature.Known d.types sig
  | _ => True

/-- What a task answers is covered. -/
def Task.Answers (s : State) : Task → Prop
  | .expr e => ((checkExpr e).after s).types.Covers ((checkExpr e).value s).taint
      ((checkExpr e).value s).type
  | .items outer elem taint es => ∀ id, ((checkItems outer elem taint es).value s).1 = some id →
      ((checkItems outer elem taint es).after s).types.Covers
        ((checkItems outer elem taint es).value s).2 id
  | _ => True

/-- **A task can be walked**: it starts from covered symbols, for something covered. -/
structure Ready (d : State) (x : Start) : Prop where
  before : Sealed d x.2
  fit : x.1.Fit d x.2

/-- **A task was walked well**: the symbols are covered, and so is its answer. -/
structure Settled (d : State) (x : Start) : Prop where
  after : Sealed d (x.1.after x.2)
  answer : x.1.Answers x.2

/-- **A task loses no taint itself**: it is no call that removes taint, and no wrapping pattern that
binds a name to a part of more taint than the whole. -/
def Task.Lossless (s : State) : Task → Prop
  | .expr (.call _ target _ _ _) => isDeclassifier target = false
  | .pattern outer type taint (.wrap at_ kind (.name at' name)) =>
    Task.Binds s (.pattern outer type taint (.wrap at_ kind (.name at' name))) →
      Taint.Below (s.types.taintOf ((wrappedType kind (at_.orElse outer) type).value s)) taint
  | _ => True

/-! ## Expressions -/

theorem below_name (h : Sealed d s) (span : Span) (name : String) :
    Taint.Below (((checkExpr (.name span name)).after s).types.taintOf
        ((checkExpr (.name span name)).value s).type)
      ((checkExpr (.name span name)).value s).taint := by
  rw [checkExpr]
  simp only [Walk.after_bind, Walk.value_bind, Walk.after_lookup]
  cases hl : (Walk.lookup name).value s with
  | none => exact (h.types.covers_builtin (show unknown ≤ 8 by decide) none).below
  | some found => exact (h.lookup hl).below

theorem below_call (h : Sealed d s) (span : Span) (target : String) (args : List Expr)
    (effect : Option Effect) (capability : Option Capability)
    (hno : isDeclassifier target = false) :
    Taint.Below (((checkExpr (.call span target args effect capability)).after s).types.taintOf
        ((checkExpr (.call span target args effect capability)).value s).type)
      ((checkExpr (.call span target args effect capability)).value s).taint := by
  have hsound := (h.expr (.call span target args effect capability)).types
  have hcallee : (callee ⟨span, target, effect, capability⟩).value s ≠ .declassifier := by
    rw [value_callee, hno]
    exact called_ne_declassifier _ s
  rw [checkExpr] at hsound ⊢
  exact below_finishCall _ _ hsound hcallee

theorem below_construct (h : Sealed d s) (span : Span) (type : String) (fields : List Init) :
    Taint.Below (((checkExpr (.construct span type fields)).after s).types.taintOf
        ((checkExpr (.construct span type fields)).value s).type)
      ((checkExpr (.construct span type fields)).value s).taint := by
  have hquiet := quiet_expr (.construct span type fields) s
  have hsound := (h.expr (.construct span type fields)).types
  have hle : ((dataType type span).value s).1 ≤ s.types.size := by
    rw [h.paired.left.value_dataType h.paired.ground]
    exact h.paired.left.ext.le_size (h.paired.ground.dataType_le type span)
  have hvalue : ((checkExpr (.construct span type fields)).value s).type
      = ((dataType type span).value s).1 := by
    rw [checkExpr]
    rfl
  rw [hvalue]
  exact ((Arena.covers_of_taintOf hle (taintOf_dataType h.types type span) _).extends h.types hsound
    hquiet.types).below

/-- **What an expression answers is covered**, and so is what its parts are walked for. -/
theorem settle_expr (h : Sealed d s) (e : Expr) (hown : Task.Lossless s (.expr e))
    (hparts : ∀ y ∈ Task.ofExpr s e, Ready d y → Settled d y) :
    (∀ y ∈ Task.ofExpr s e, Ready d y) ∧ Settled d (.expr e, s) := by
  suffices hmain : (∀ y ∈ Task.ofExpr s e, Ready d y) ∧
      Taint.Below (((checkExpr e).after s).types.taintOf ((checkExpr e).value s).type)
        ((checkExpr e).value s).taint from
    ⟨hmain.1, h.expr e, (lockstep_expr e h.paired).2.type.right, hmain.2⟩
  cases e with
  | name span name => exact ⟨(fun _ hy => nomatch hy), below_name h span name⟩
  | literal span value =>
    refine ⟨(fun _ hy => nomatch hy), ?_⟩
    rw [checkExpr]
    exact (h.types.covers_builtin (literalType_le value) none).below
  | none span =>
    refine ⟨(fun _ hy => nomatch hy), ?_⟩
    rw [checkExpr]
    exact (h.types.covers_builtin (show null ≤ 8 by decide) none).below
  | binary span op left right =>
    refine ⟨List.forall_mem_cons.2 ⟨⟨h, trivial⟩, List.forall_mem_singleton.2
      ⟨h.expr left, trivial⟩⟩, ?_⟩
    rw [checkExpr]
    simp only [Walk.after_bind, Walk.value_bind]
    rw [(reports_binary span op _ _ _).types, taintOf_binary ((h.expr left).expr right).types]
    exact .none _
  | unary span op operand =>
    refine ⟨List.forall_mem_singleton.2 ⟨h, trivial⟩, ?_⟩
    rw [checkExpr]
    simp only [Walk.after_bind, Walk.value_bind]
    rw [(reports_unary span op _ _).types, taintOf_unary (h.expr operand).types]
    exact .none _
  | call span target args effect capability =>
    exact ⟨List.forall_mem_singleton.2 ⟨h.reports (reports_callee _ s), trivial⟩,
      below_call h span target args effect capability hown⟩
  | construct span type fields =>
    exact ⟨List.forall_mem_singleton.2 ⟨h.reports (reports_dataType type span s), trivial⟩,
      below_construct h span type fields⟩
  | member span base field =>
    refine ⟨List.forall_mem_singleton.2 ⟨h, trivial⟩, ?_⟩
    rw [checkExpr]
    simp only [Walk.after_bind, Walk.value_bind]
    rw [(reports_member span _ field _).types]
    exact below_member (h.expr base).types span _ field
  | wrap span kind inner =>
    have hready : Ready d (.expr inner, s) := ⟨h, trivial⟩
    refine ⟨List.forall_mem_singleton.2 hready, ?_⟩
    rw [checkExpr]
    exact (covers_wrap (h.expr inner) (hparts _ (.head _) hready).answer kind).below
  | list span items =>
    have hready : Ready d (.items span none none items, s) := ⟨h, fun _ he => nomatch he⟩
    have hdone := hparts _ (.head _) hready
    refine ⟨List.forall_mem_singleton.2 hready, ?_⟩
    have helem : ((checkItems span none none items).after s).types.Covers
        ((checkItems span none none items).value s).2
        (((checkItems span none none items).value s).1.getD unknown) := by
      cases he : ((checkItems span none none items).value s).1 with
      | none => exact hdone.after.types.covers_builtin (show unknown ≤ 8 by decide) _
      | some id => exact hdone.answer id he
    rw [checkExpr]
    exact (Arena.covers_list hdone.after.types helem).below
  | await span task =>
    have hready : Ready d (.expr task, s) := ⟨h, trivial⟩
    refine ⟨List.forall_mem_singleton.2 hready, ?_⟩
    rw [checkExpr]
    exact (hparts _ (.head _) hready).answer.below

/-! ## Lists of expressions -/

theorem settle_exprs (h : Sealed d s) (outer : Span) (es : List Expr)
    (hparts : ∀ y ∈ Task.parts s (.exprs outer es), Ready d y → Settled d y) :
    (∀ y ∈ Task.parts s (.exprs outer es), Ready d y) ∧ Settled d (.exprs outer es, s) := by
  cases es with
  | nil =>
    refine ⟨(fun _ hy => nomatch hy), ?_, trivial⟩
    change Sealed d ((checkExprs outer []).after s)
    rw [checkExprs]
    exact h
  | cons e es =>
    have hrest : Ready d (.exprs outer es, (checkExpr e).after s) := ⟨h.expr e, trivial⟩
    have hdone := hparts _ (.tail _ (.head _)) hrest
    refine ⟨List.forall_mem_cons.2 ⟨⟨h, trivial⟩, List.forall_mem_singleton.2 hrest⟩, ?_, trivial⟩
    change Sealed d ((checkExprs outer (e :: es)).after s)
    rw [checkExprs]
    exact hdone.after

theorem settle_items (h : Sealed d s) (outer : Span) {elem : Option TypeId} {taint : Option Taint}
    (he : ∀ id, elem = some id → s.types.Covers taint id) (es : List Expr)
    (hparts : ∀ y ∈ Task.parts s (.items outer elem taint es), Ready d y → Settled d y) :
    (∀ y ∈ Task.parts s (.items outer elem taint es), Ready d y) ∧
      Settled d (.items outer elem taint es, s) := by
  cases es with
  | nil =>
    refine ⟨(fun _ hy => nomatch hy), ?_, ?_⟩
    · change Sealed d ((checkItems outer elem taint []).after s)
      rw [checkItems]
      exact h
    · intro id
      rw [checkItems]
      exact he id
  | cons e es =>
    have hfirst : Ready d (.expr e, s) := ⟨h, trivial⟩
    have hvalue := (hparts _ (.head _) hfirst).answer
    obtain ⟨hjoin, hcovers⟩ := covers_joinItem (h.expr e) hvalue (e.span.orElse outer)
      fun id hid => (he id hid).extends h.types (h.expr e).types (quiet_expr e s).types
    have hrest : ∀ y ∈ (Task.parts s (.items outer elem taint (e :: es))).tail, Ready d y := by
      intro y hy
      obtain rfl := List.mem_singleton.1 hy
      refine ⟨hjoin, ?_⟩
      rintro _ ⟨⟩
      exact hcovers
    have hdone := hparts _ (.tail _ (.head _)) (hrest _ (.head _))
    refine ⟨List.forall_mem_cons.2 ⟨hfirst, hrest⟩, ?_, ?_⟩
    · change Sealed d ((checkItems outer elem taint (e :: es)).after s)
      rw [checkItems]
      exact hdone.after
    · intro id
      rw [checkItems]
      exact hdone.answer id

theorem settle_inits (h : Sealed d s) (outer : Span) (info : Option DataInfo) (seen : List String)
    (taint : Option Taint) (is : List Init)
    (hparts : ∀ y ∈ Task.parts s (.inits outer info seen taint is), Ready d y → Settled d y) :
    (∀ y ∈ Task.parts s (.inits outer info seen taint is), Ready d y) ∧
      Settled d (.inits outer info seen taint is, s) := by
  cases is with
  | nil =>
    refine ⟨(fun _ hy => nomatch hy), ?_, trivial⟩
    change Sealed d ((checkInits outer info seen taint []).after s)
    rw [checkInits]
    exact h
  | cons i rest =>
    obtain ⟨span, name, value⟩ := i
    have hrest : ∀ y ∈ (Task.parts s (.inits outer info seen taint
        (.mk span name value :: rest))).tail, Ready d y := by
      intro y hy
      obtain rfl := List.mem_singleton.1 hy
      refine ⟨?_, trivial⟩
      cases info with
      | none => exact h.expr value
      | some info => exact (h.expr value).reports (reports_init info seen name _ _ _ _)
    have hdone := hparts _ (.tail _ (.head _)) (hrest _ (.head _))
    refine ⟨List.forall_mem_cons.2 ⟨⟨h, trivial⟩, hrest⟩, ?_, trivial⟩
    change Sealed d ((checkInits outer info seen taint (.mk span name value :: rest)).after s)
    rw [checkInits]
    cases info <;> exact hdone.after

/-! ## Patterns -/

/-- What a task that only reports leaves has as many symbols. -/
theorem binds_of_reports {s s' t t' : State} (h : Reports s s') (h' : Reports t t') :
    s.table.symbols.size < t'.table.symbols.size ↔
      s'.table.symbols.size < t.table.symbols.size := by
  rw [h.table, h'.table]

theorem settle_pattern (h : Sealed d s) (outer : Span) {type : TypeId} {taint : Option Taint}
    (p : Pattern) (hfit : Task.Fit d s (.pattern outer type taint p))
    (hown : Task.Lossless s (.pattern outer type taint p))
    (hparts : ∀ y ∈ Task.ofPattern outer type taint s p, Ready d y → Settled d y) :
    (∀ y ∈ Task.ofPattern outer type taint s p, Ready d y) ∧
      Settled d (.pattern outer type taint p, s) := by
  suffices hmain : (∀ y ∈ Task.ofPattern outer type taint s p, Ready d y) ∧
      Sealed d ((bindPattern outer type taint p).after s) from ⟨hmain.1, hmain.2, trivial⟩
  obtain ⟨hle, hname⟩ := hfit
  cases p with
  | wildcard at_ =>
    rw [bindPattern]
    exact ⟨List.forall_mem_nil _, h⟩
  | name at_ name =>
    have hbinds := hname at_ name rfl
    rw [Task.Binds, Task.after] at hbinds
    rw [bindPattern] at hbinds ⊢
    exact ⟨List.forall_mem_nil _, h.bindName (at_.orElse outer) name hbinds⟩
  | literal at_ value =>
    rw [bindPattern]
    exact ⟨List.forall_mem_singleton.2 ⟨h, trivial⟩,
      (h.expr value).reports (reports_literalPattern (at_.orElse outer) type value _ _)⟩
  | none at_ =>
    rw [bindPattern]
    exact ⟨List.forall_mem_nil _, h.reports (reports_nonePattern (at_.orElse outer) type s)⟩
  | wrap at_ kind inner =>
    have hfirst := reports_wrappedType kind (at_.orElse outer) type s
    have hpart := (h.paired.wrappedType (.refl hle) kind (at_.orElse outer)
      (at_.orElse outer)).right
    have hready : Ready d (.pattern (at_.orElse outer)
        ((wrappedType kind (at_.orElse outer) type).value s) taint inner,
        (wrappedType kind (at_.orElse outer) type).after s) := by
      refine ⟨h.reports hfirst, hfirst.types ▸ hpart, ?_⟩
      rintro at' name rfl hbinds
      refine hfirst.types ▸ ⟨hpart, hown ?_⟩
      rw [Task.Binds, Task.after, bindPattern]
      exact (binds_of_reports hfirst (reports_catchAll _ (.name at' name) _)).2 hbinds
    have hdone := hparts _ (.head _) hready
    refine ⟨List.forall_mem_singleton.2 hready, ?_⟩
    rw [bindPattern]
    exact hdone.after.reports (reports_catchAll _ inner _)
  | ctor at_ name ps =>
    have hfirst := reports_takenBy (at_.orElse outer) type name ps.length s
    have hfields := @Paired.taken_le d s s h.paired (at_.orElse outer) type name ps.length
    rw [bindPattern, Walk.after_bind]
    rw [Task.ofPattern] at hparts ⊢
    cases htaken : (takenBy (at_.orElse outer) type name ps.length).value s with
    | variant => exact ⟨List.forall_mem_nil _, h.reports hfirst⟩
    | unclear =>
      rw [htaken] at hparts
      have hready : Ready d (.args (at_.orElse outer) taint [] ps, _) :=
        ⟨h.reports hfirst, List.forall_mem_nil _⟩
      exact ⟨List.forall_mem_singleton.2 hready, (hparts _ (.head _) hready).after⟩
    | data id info =>
      rw [htaken] at hparts
      have hready : Ready d (.args (at_.orElse outer) taint info.fields ps, _) :=
        ⟨h.reports hfirst, hfields htaken⟩
      exact ⟨List.forall_mem_singleton.2 hready, (hparts _ (.head _) hready).after⟩

theorem settle_args (h : Sealed d s) (outer : Span) (taint : Option Taint) {fields : List Field}
    (hfields : ∀ f ∈ fields, f.type ≤ d.types.size) (ps : List Pattern)
    (hparts : ∀ y ∈ Task.parts s (.args outer taint fields ps), Ready d y → Settled d y) :
    (∀ y ∈ Task.parts s (.args outer taint fields ps), Ready d y) ∧
      Settled d (.args outer taint fields ps, s) := by
  cases ps with
  | nil =>
    refine ⟨(fun _ hy => nomatch hy), ?_, trivial⟩
    change Sealed d ((bindArgs outer taint fields []).after s)
    rw [bindArgs]
    exact h
  | cons p ps =>
    have hle : (fields.head?.map Field.type).getD unknown ≤ s.types.size := by
      cases fields with
      | nil => exact h.types.builtin_le (show unknown ≤ 8 by decide)
      | cons f _ => exact h.paired.left.ext.le_size (hfields f (.head _))
    have hfirst : Ready d (.pattern outer _ _ p, s) :=
      ⟨h, hle, fun _ _ _ _ => Arena.covers_merge hle taint⟩
    have hpattern := hparts _ (.head _) hfirst
    have hrest : ∀ y ∈ (Task.parts s (.args outer taint fields (p :: ps))).tail, Ready d y := by
      intro y hy
      obtain rfl := List.mem_singleton.1 hy
      exact ⟨hpattern.after.reports (reports_catchAll _ p _),
        fun f hf => hfields f (List.mem_of_mem_tail hf)⟩
    have hdone := hparts _ (.tail _ (.head _)) (hrest _ (.head _))
    refine ⟨List.forall_mem_cons.2 ⟨hfirst, hrest⟩, ?_, trivial⟩
    change Sealed d ((bindArgs outer taint fields (p :: ps)).after s)
    rw [bindArgs]
    exact hdone.after

/-! ## Statements -/

/-- A statement with a value starts with that value. -/
theorem settle_value (h : Sealed d s) {keyword about : String} {value : Expr}
    (hparts : ∀ y ∈ Task.ofValue keyword about value s, Ready d y → Settled d y) :
    (∀ y ∈ Task.ofValue keyword about value s, Ready d y) ∧
      Settled d (.expr value, (Walk.observe (.visits keyword about)).after s) :=
  have hready := ⟨h.observe (.visits keyword about), trivial⟩
  ⟨List.forall_mem_singleton.2 hready, hparts _ (.head _) hready⟩

/-- A block in a scope of its own. -/
theorem settle_scope (h : Sealed d s) (fn : Enclosing) (span : Span) (ss : List Stmt)
    (hblock : Ready d (.block fn ss, (Walk.enter .block span).after s) →
      Settled d (.block fn ss, (Walk.enter .block span).after s)) :
    Ready d (.block fn ss, (Walk.enter .block span).after s) ∧
      Sealed d ((Walk.within .block span (checkBlock fn ss)).after s) :=
  have hready := ⟨h.enter .block span, trivial⟩
  ⟨hready, h.within .block span (onward_block fn ss) (hblock hready).after⟩

theorem settle_else (h : Sealed d s) (fn : Enclosing) (span : Span) (no : Option (List Stmt))
    (hparts : ∀ y ∈ Task.ofElse fn span s no, Ready d y → Settled d y) :
    (∀ y ∈ Task.ofElse fn span s no, Ready d y) ∧
      Sealed d ((checkElse fn span no).after s) := by
  cases no with
  | none => exact ⟨(fun _ hy => nomatch hy), h⟩
  | some ss =>
    obtain ⟨hready, hdone⟩ := settle_scope h fn span ss (hparts _ (.head _))
    rw [checkElse]
    exact ⟨List.forall_mem_singleton.2 hready, hdone⟩

theorem settle_stmt (h : Sealed d s) (fn : Enclosing) (st : Stmt)
    (hparts : ∀ y ∈ Task.ofStmt fn s st, Ready d y → Settled d y) :
    (∀ y ∈ Task.ofStmt fn s st, Ready d y) ∧ Settled d (.stmt fn st, s) := by
  suffices hmain : (∀ y ∈ Task.ofStmt fn s st, Ready d y) ∧
      Sealed d ((checkStmt fn st).after s) from ⟨hmain.1, hmain.2, trivial⟩
  cases st with
  | bind span name written value =>
    obtain ⟨hready, hdone⟩ := settle_value h hparts
    obtain ⟨hbinding, hcovers⟩ := covers_bindingOf hdone.after hdone.answer fn
      (value.span.orElse span) name written
    rw [checkStmt]
    exact ⟨hready, hbinding.define name (by decide) span _ hcovers "binding"⟩
  | set span name value =>
    obtain ⟨hready, hdone⟩ := settle_value h hparts
    rw [checkStmt]
    exact ⟨hready, hdone.after.assign span (value.span.orElse span) name _⟩
  | ret span value =>
    cases value with
    | none =>
      rw [checkStmt]
      exact ⟨(fun _ hy => nomatch hy), (h.observe _).reports (reports_bareReturn fn span _)⟩
    | some value =>
      obtain ⟨hready, hdone⟩ := settle_value h hparts
      rw [checkStmt]
      exact ⟨hready, hdone.after.reports (reports_return fn (value.span.orElse span) _ _)⟩
  | eval span value =>
    rw [checkStmt]
    exact ⟨List.forall_mem_singleton.2 ⟨h, trivial⟩, h.expr value⟩
  | branch span cond yes no =>
    have hnoted := h.observe (.visits "if" "")
    have hahead := fun v =>
      (hnoted.expr cond).reports (reports_condition (cond.span.orElse span) v _)
    obtain ⟨hyes, hleft⟩ := settle_scope (hahead _) fn span yes
      (hparts _ (List.mem_append_left _ (.tail _ (.head _))))
    obtain ⟨hno, hdone⟩ := settle_else hleft fn span no
      fun y hy => hparts y (List.mem_append_right _ hy)
    rw [checkStmt]
    exact ⟨List.forall_mem_append.2 ⟨List.forall_mem_cons.2 ⟨⟨hnoted, trivial⟩,
      List.forall_mem_singleton.2 hyes⟩, hno⟩, hdone⟩
  | select span scrutinee cs =>
    have hnoted : Ready d (.expr scrutinee, _) := ⟨h.observe (.visits "match" ""), trivial⟩
    have hvalue := hparts _ (.head _) hnoted
    have hcases : Ready d (.cases fn span _ cs, _) := ⟨hvalue.after, hvalue.answer⟩
    have hdone := hparts _ (.tail _ (.head _)) hcases
    rw [checkStmt]
    exact ⟨List.forall_mem_cons.2 ⟨hnoted, List.forall_mem_singleton.2 hcases⟩, hdone.after⟩
  | scope span ss =>
    obtain ⟨hready, hdone⟩ := settle_scope h fn span ss (hparts _ (.head _))
    rw [checkStmt]
    exact ⟨List.forall_mem_singleton.2 hready, hdone⟩
  | start span name task =>
    obtain ⟨hready, hdone⟩ := settle_value h hparts
    rw [checkStmt]
    exact ⟨hready, (hdone.after.observe _).define name (by decide) span {} hdone.answer "task"⟩
  | wait span names =>
    rw [checkStmt]
    exact ⟨(fun _ hy => nomatch hy), ((h.observe _).observe _).awaitTasks span names⟩

theorem settle_block (h : Sealed d s) (fn : Enclosing) (ss : List Stmt)
    (hparts : ∀ y ∈ Task.parts s (.block fn ss), Ready d y → Settled d y) :
    (∀ y ∈ Task.parts s (.block fn ss), Ready d y) ∧ Settled d (.block fn ss, s) := by
  cases ss with
  | nil =>
    refine ⟨(fun _ hy => nomatch hy), ?_, trivial⟩
    change Sealed d ((checkBlock fn []).after s)
    rw [checkBlock]
    exact h
  | cons st ss =>
    have hfirst : Ready d (.stmt fn st, s) := ⟨h, trivial⟩
    have hrest : Ready d (.block fn ss, _) := ⟨(hparts _ (.head _) hfirst).after, trivial⟩
    have hdone := hparts _ (.tail _ (.head _)) hrest
    refine ⟨List.forall_mem_cons.2 ⟨hfirst, List.forall_mem_singleton.2 hrest⟩, ?_, trivial⟩
    change Sealed d ((checkBlock fn (st :: ss)).after s)
    rw [checkBlock]
    exact hdone.after

theorem settle_cases (h : Sealed d s) (fn : Enclosing) (outer : Span) {v : Value}
    (hv : s.types.Covers v.taint v.type) (cs : List Case)
    (hparts : ∀ y ∈ Task.ofCases fn outer v s cs, Ready d y → Settled d y) :
    (∀ y ∈ Task.ofCases fn outer v s cs, Ready d y) ∧ Settled d (.cases fn outer v cs, s) := by
  cases cs with
  | nil =>
    refine ⟨(fun _ hy => nomatch hy), ?_, trivial⟩
    change Sealed d ((checkCases fn outer v []).after s)
    rw [checkCases]
    exact h
  | cons c rest =>
    obtain ⟨span, p, ss⟩ := c
    have hpattern : Ready d (.pattern (span.orElse outer) v.type v.taint p,
        (Walk.enter .matchArm (span.orElse outer)).after s) :=
      ⟨h.enter .matchArm (span.orElse outer), hv.known, fun _ _ _ _ => hv⟩
    have hbound := hparts _ (.head _) hpattern
    have hblock : Ready d (.block fn ss, _) := ⟨hbound.after, trivial⟩
    have hinside := hparts _ (.tail _ (.head _)) hblock
    have hleft : Sealed d ((checkCases fn outer v [.mk span p ss]).after s) := by
      rw [checkCases, checkCases]
      exact h.within .matchArm (span.orElse outer)
        (.bind (onward_pattern (span.orElse outer) v.type v.taint p) fun _ =>
          .bind (onward_block fn ss) fun _ => .pure _) hinside.after
    have hrest : Ready d (.cases fn outer v rest, _) := ⟨hleft, hv.extends h.types hleft.types
      (enclosed_cases fn outer v [.mk span p ss] s).types⟩
    have hdone := hparts _ (.tail _ (.tail _ (.head _))) hrest
    refine ⟨List.forall_mem_cons.2 ⟨hpattern, List.forall_mem_cons.2 ⟨hblock,
      List.forall_mem_singleton.2 hrest⟩⟩, ?_, trivial⟩
    change Sealed d ((checkCases fn outer v (.mk span p ss :: rest)).after s)
    rw [after_cases_cons]
    exact hdone.after

theorem settle_body (h : Sealed d s) (f : Func) {sig : Signature}
    (hsig : Signature.Known d.types sig)
    (hparts : ∀ y ∈ Task.parts s (.body f sig), Ready d y → Settled d y) :
    (∀ y ∈ Task.parts s (.body f sig), Ready d y) ∧ Settled d (.body f sig, s) := by
  have hready : Ready d (.block ⟨f.name, f.span, f.typeParams, sig.result⟩ f.body,
      (defineParams sig.params).after ((Walk.enter .function f.span).after s)) :=
    ⟨(h.enter .function f.span).params sig.params hsig.params, trivial⟩
  have hdone := hparts _ (.head _) hready
  refine ⟨List.forall_mem_singleton.2 hready, ?_, trivial⟩
  change Sealed d ((walkBody f sig).after s)
  rw [walkBody_eq]
  refine h.within .function f.span ?_ ?_
  · exact .bind (onward_defineParams sig.params) fun _ => .bind (onward_block _ f.body) fun closed =>
      (quiet_ending f sig.result closed).enclosed.onward
  · change Sealed d ((ending f sig.result _).after _)
    rw [after_ending]
    split
    · exact hdone.after.observe _
    · exact hdone.after

/-! ## Whole bodies -/

/-- **A task that loses no taint itself** is walked well when its parts are. -/
theorem Ready.settle {x : Start} (h : Ready d x) (hown : x.1.Lossless x.2)
    (hparts : ∀ y ∈ x.1.parts x.2, Ready d y → Settled d y) :
    (∀ y ∈ x.1.parts x.2, Ready d y) ∧ Settled d x := by
  obtain ⟨t, s⟩ := x
  obtain ⟨hs, hfit⟩ := h
  cases t with
  | expr e => exact settle_expr hs e hown hparts
  | exprs outer es => exact settle_exprs hs outer es hparts
  | items outer elem taint es => exact settle_items hs outer hfit es hparts
  | inits outer info seen taint is => exact settle_inits hs outer info seen taint is hparts
  | pattern outer type taint p => exact settle_pattern hs outer p hfit hown hparts
  | args outer taint fields ps => exact settle_args hs outer taint hfit ps hparts
  | stmt fn st => exact settle_stmt hs fn st hparts
  | block fn ss => exact settle_block hs fn ss hparts
  | cases fn outer v cs => exact settle_cases hs fn outer hfit cs hparts
  | body f sig => exact settle_body hs f hfit hparts

/-- **Where no task loses taint, every task is walked well.** -/
theorem Ready.settled_of_reaches (x : Start) (h : Ready d x)
    (hown : ∀ z, Reaches x z → z.1.Lossless z.2) : ∀ z, Reaches x z → Settled d z := by
  -- by induction over tasks: the parts are ready because the task is, and settle it
  induction x using Task.induct with
  | h x ih =>
    have hstep := h.settle (hown x (.here x)) fun y hy hready =>
      ih y hy hready (fun z hz => hown z (.step hy hz)) y (.here y)
    intro z hz
    obtain rfl | ⟨y, hy, hz⟩ := hz.eq_or_part
    · exact hstep.2
    · exact ih y hy (hstep.1 y hy) (fun z hz => hown z (.step hy hz)) z hz

/-- What the declarations bind is covered: it has no taint and needs none. -/
theorem sealed_start (m : Module) (b : Body) :
    Sealed (survey m).declared ((survey m).start b) := by
  refine ⟨paired_start m b, fun sym hsym => ?_⟩
  obtain ⟨sh, hsh, hbare⟩ := ((founded_survey m).symbols sym hsym).shape
  refine Arena.covers_of_taintOf (Arena.le_size_of_lookup hsh) (Arena.taintOf_of_lookup hsh ?_) _
  cases sh <;> first | rfl | exact nomatch hbare

section

variable (m : Module)

/-- **Taints cover types**: wherever the walks over the bodies of a module come, every symbol that
was bound carries the taint of its type, and so does every value that an expression answers. -/
def TypesCovered : Prop :=
  ∀ b ∈ (survey m).bodies, ∀ t s, b.Meets m (t, s) →
    (∀ sym ∈ (t.after s).table.symbols,
      Taint.Below ((t.after s).types.taintOf sym.type) sym.taint) ∧
    ∀ e, t = .expr e → Taint.Below (((checkExpr e).after s).types.taintOf
      ((checkExpr e).value s).type) ((checkExpr e).value s).taint

/-- **Wrapping patterns lose nothing**: where a name right under a wrapping pattern is bound, the
matched value carries the taint of the part that the name stands for. -/
def WrapsCovered : Prop :=
  ∀ b ∈ (survey m).bodies, ∀ outer type taint at_ kind at' name s,
    b.Meets m (.pattern outer type taint (.wrap at_ kind (.name at' name)), s) →
    Task.Binds s (.pattern outer type taint (.wrap at_ kind (.name at' name))) →
    Taint.Below (s.types.taintOf ((wrappedType kind (at_.orElse outer) type).value s)) taint

end

/-- A name under a wrapping pattern is bound with the taint of the whole. -/
theorem below_of_covered_wrap {outer : Span} {type : TypeId} {taint : Option Taint} {at_ : Span}
    {kind : Wrap} {at' : Span} {name : String} {s : State}
    (hbinds : Task.Binds s (.pattern outer type taint (.wrap at_ kind (.name at' name))))
    (h : ∀ sym ∈ ((bindPattern outer type taint (.wrap at_ kind (.name at' name))).after
        s).table.symbols,
      Taint.Below (((bindPattern outer type taint (.wrap at_ kind (.name at' name))).after
        s).types.taintOf sym.type) sym.taint) :
    Taint.Below (s.types.taintOf ((wrappedType kind (at_.orElse outer) type).value s)) taint := by
  have hfirst := reports_wrappedType kind (at_.orElse outer) type s
  rw [Task.Binds, Task.after] at hbinds
  rw [bindPattern] at hbinds h
  have hlast := reports_catchAll ((wrappedType kind (at_.orElse outer) type).value s)
    (.name at' name) ((bindPattern (at_.orElse outer)
      ((wrappedType kind (at_.orElse outer) type).value s) taint (.name at' name)).after
        ((wrappedType kind (at_.orElse outer) type).after s))
  have hsize := (binds_of_reports hfirst hlast).1 hbinds
  simp only [Walk.after_bind, Walk.after_pure] at h
  rw [hlast.table, hlast.types] at h
  rw [bindPattern] at h hsize
  obtain hr | ⟨-, -, hbound⟩ := bindName_cases (at'.orElse (at_.orElse outer))
    ((wrappedType kind (at_.orElse outer) type).value s) taint name
    ((wrappedType kind (at_.orElse outer) type).after s)
  · rw [hr.table] at hsize
    exact absurd hsize (Nat.lt_irrefl _)
  · rw [hbound, Table.symbols_bound] at h
    exact hfirst.types ▸ h _ Array.mem_push_self

/-- **Taints cover types exactly as far as wrapping patterns lose nothing**, in a module whose
bodies do not call what removes taint. -/
theorem typesCovered_iff_wrapsCovered (m : Module)
    (hno : ∀ b ∈ (survey m).bodies, ∀ c s, b.CallsAt m c s → isDeclassifier c.target = false) :
    TypesCovered m ↔ WrapsCovered m := by
  constructor
  · intro h b hb outer type taint at_ kind at' name s hmeets hbinds
    exact below_of_covered_wrap hbinds (h b hb _ s hmeets).1
  · intro h b hb t s hmeets
    have hready : Ready (survey m).declared (.body b.func b.signature, (survey m).start b) :=
      ⟨sealed_start m b, known_signature hb⟩
    have hsettled := Ready.settled_of_reaches _ hready (fun z hz => ?_) (t, s) hmeets
    · refine ⟨fun sym hsym => (hsettled.after.symbols sym hsym).below, ?_⟩
      rintro e rfl
      exact hsettled.answer.below
    · obtain ⟨t, s⟩ := z
      change Task.Lossless s t
      unfold Task.Lossless
      split
      · exact hno b hb ⟨_, _, _, _⟩ s ⟨_, hz⟩
      · exact h b hb _ _ _ _ _ _ _ s hz
      · trivial

/-! ## A part that is written to a log -/

/-- A mail address, as a type. -/
def mail : TypeExpr := .pii {} (.name {} "Text") .l3 "email"

/-- A function that takes one part out of its parameter and writes it to a log. -/
def writesPart (type : TypeExpr) (kind : Wrap) : Module := moduleOf [.func <| funcOf "f"
  [("r", type)] none .io
  [.select {} (.name {} "r") [.mk {} (.wrap {} kind (.name {} "x"))
    [.eval {} (.call {} "Log.write" [.name {} "x"] none none)]]]]

/-- The test that a name under a wrapping pattern stands for nothing of more taint. -/
def wrapsKeep : Start → Bool
  | (.pattern outer type taint (.wrap at_ kind (.name _ _)), s) =>
    Taint.Below (s.types.taintOf ((wrappedType kind (at_.orElse outer) type).value s)) taint
  | _ => true

/-- An optional has the taint of its element, so the element can be taken out. -/
theorem typesCovered_writesSome :
    (∀ b ∈ (survey (writesPart (.optional {} mail) .some)).bodies, ∀ c s,
      b.CallsAt (writesPart (.optional {} mail) .some) c s → isDeclassifier c.target = false) ∧
    TypesCovered (writesPart (.optional {} mail) .some) := by
  have hkeeps : everyTask (writesPart (.optional {} mail) .some) keepsTaint 10 = true := by
    decide +kernel
  have hwraps : everyTask (writesPart (.optional {} mail) .some) wrapsKeep 10 = true := by
    decide +kernel
  have hno : ∀ b ∈ (survey (writesPart (.optional {} mail) .some)).bodies, ∀ c s,
      b.CallsAt (writesPart (.optional {} mail) .some) c s → isDeclassifier c.target = false :=
    fun b hb c s hcall => hcall.of_everyTask hb hkeeps
  refine ⟨hno, (typesCovered_iff_wrapsCovered _ hno).2 ?_⟩
  intro b hb outer type taint at_ kind at' name s hmeets _
  exact of_decide_eq_true (hmeets.of_everyTask hb hwraps)

/-- **A result has no taint, whatever is in it**: what is taken out of one is bound without the
taint of its type, and can be written to a log. -/
theorem not_typesCovered_writesOk :
    (∀ b ∈ (survey (writesPart (.result {} mail (.name {} "Text")) .ok)).bodies, ∀ c s,
      b.CallsAt (writesPart (.result {} mail (.name {} "Text")) .ok) c s →
        isDeclassifier c.target = false) ∧
    (checkModule {} (writesPart (.result {} mail (.name {} "Text")) .ok)).diagnostics = [] ∧
    ¬ TypesCovered (writesPart (.result {} mail (.name {} "Text")) .ok) := by
  have hkeeps : everyTask (writesPart (.result {} mail (.name {} "Text")) .ok) keepsTaint 10
      = true := by
    decide +kernel
  refine ⟨fun b hb c s hcall => hcall.of_everyTask hb hkeeps, by decide +kernel, fun h => ?_⟩
  obtain ⟨b, hb, sym, hsym, hno⟩ :
      ∃ b ∈ (survey (writesPart (.result {} mail (.name {} "Text")) .ok)).bodies,
      ∃ sym ∈ ((walkBody b.func b.signature).after ((survey
        (writesPart (.result {} mail (.name {} "Text")) .ok)).start b)).table.symbols.toList,
      ¬ Taint.Below (((walkBody b.func b.signature).after ((survey
        (writesPart (.result {} mail (.name {} "Text")) .ok)).start b)).types.taintOf sym.type)
        sym.taint := by decide +kernel
  exact hno ((h b hb _ _ (.here _)).1 sym (Array.mem_toList_iff.1 hsym))

end CoreCheck.Check

import CoreCheck.Proofs.Path.Tracks
import CoreCheck.Proofs.Walk.Tasks

/-!
# Proofs/Path/Reached — what holds wherever a walk comes

Every task of a body starts in a state over the declarations, and is walked for types that are known
there.  One step from a task to its parts keeps this, so it holds of every task that is reached.
-/

namespace CoreCheck.Check

open CoreCheck.Types CoreCheck.Scope CoreCheck.Ir

variable {d s : State}

/-! ## After a piece of a body -/

section

variable (h : Paired d s s)

include h

theorem paired_reports {α : Type} {x : Walk α} (hx : Walk.Keeps Reports x) :
    Paired d (x.after s) (x.after s) := (Lockstep.reports h (hx s) (hx s)).stop

theorem paired_observe (o : Observation) :
    Paired d ((Walk.observe o).after s) ((Walk.observe o).after s) :=
  h.logs _ _

theorem paired_expr (e : Expr) : Paired d ((checkExpr e).after s) ((checkExpr e).after s) :=
  (lockstep_expr e h).1.stop

theorem expr_le (e : Expr) : ((checkExpr e).value s).type ≤ ((checkExpr e).after s).types.size :=
  (lockstep_expr e h).2.type.right

theorem paired_pattern (outer : Span) {type : TypeId} (hle : type ≤ s.types.size)
    (taint : Option Taint) (p : Pattern) :
    Paired d ((bindPattern outer type taint p).after s)
      ((bindPattern outer type taint p).after s) :=
  (Path.lockstep_receive p h (.refl hle) (.refl taint) outer).stop.diag

theorem paired_stmt (fn : Enclosing) (st : Stmt) :
    Paired d ((checkStmt fn st).after s) ((checkStmt fn st).after s) :=
  Path.after_alongStmt st [] s ▸ (Path.tracks_stmt st [] h).checked

theorem paired_block (fn : Enclosing) (ss : List Stmt) :
    Paired d ((checkBlock fn ss).after s) ((checkBlock fn ss).after s) :=
  Path.after_alongBlock ss [] s ▸ (Path.tracks_block ss [] h).checked

/-- A step in a scope of its own. -/
theorem paired_within {α : Type} (kind : ScopeKind) (span : Span) {x : Walk α}
    (hx : Walk.Keeps Onward x)
    (hin : Paired d (x.after ((Walk.enter kind span).after s))
      (x.after ((Walk.enter kind span).after s))) :
    Paired d ((Walk.within kind span x).after s) ((Walk.within kind span x).after s) := by
  have hsound := h.left.table
  have hscopes := (hx ((Walk.enter kind span).after s)).scopes_eq (hsound.enter kind span)
  exact .leave hsound hsound hin hscopes hscopes

/-- A block in a scope of its own. -/
theorem paired_scope (fn : Enclosing) (span : Span) (ss : List Stmt) :
    Paired d ((Walk.within .block span (checkBlock fn ss)).after s)
      ((Walk.within .block span (checkBlock fn ss)).after s) :=
  paired_within h .block span (onward_block fn ss)
    (paired_block (h.enter .block .block span span) fn ss)

theorem paired_params (ps : List Param) (hps : ∀ p ∈ ps, p.type ≤ d.types.size) :
    Paired d ((defineParams ps).after s) ((defineParams ps).after s) := by
  induction ps generalizing s with
  | nil => exact h
  | cons p ps ih =>
    rw [defineParams]
    have hs := h.same_declared (hps p (.head _))
    have hdefine := Lockstep.define h p.name (.plain .param (by decide) p.span p.span {}
      hs (.refl (s.types.taintOf p.type))) "parameter" "parameter"
    exact ih hdefine.stop fun q hq => hps q (.tail _ hq)

end

/-! ## From a task to its parts -/

/-- The types that a task is walked for are known. -/
def Task.Known (d s : State) : Task → Prop
  | .items _ elem _ _ => ∀ id, elem = some id → id ≤ s.types.size
  | .pattern _ type _ _ => type ≤ s.types.size
  | .args _ _ fields _ => ∀ f ∈ fields, f.type ≤ d.types.size
  | .cases _ _ v _ => v.type ≤ s.types.size
  | .body _ sig => Signature.Known d.types sig
  | _ => True

/-- **A task over the declarations**, for known types. -/
structure Grounded (d : State) (x : Start) : Prop where
  paired : Paired d x.2 x.2
  known : x.1.Known d x.2

theorem grounded_ofExpr (h : Paired d s s) (e : Expr) : ∀ y ∈ Task.ofExpr s e, Grounded d y := by
  cases e with
  | name | literal | none => exact fun _ hy => nomatch hy
  | binary span op left right =>
    exact List.forall_mem_cons.2 ⟨⟨h, trivial⟩, List.forall_mem_singleton.2
      ⟨paired_expr h left, trivial⟩⟩
  | call span target es effect capability =>
    exact List.forall_mem_singleton.2 ⟨paired_reports h (reports_callee _), trivial⟩
  | construct span type fields =>
    exact List.forall_mem_singleton.2 ⟨paired_reports h (reports_dataType type span), trivial⟩
  | list span es => exact List.forall_mem_singleton.2 ⟨h, fun _ he => nomatch he⟩
  | _ => exact List.forall_mem_singleton.2 ⟨h, trivial⟩

theorem grounded_ofPattern (h : Paired d s s) (outer : Span) {type : TypeId}
    (hle : type ≤ s.types.size) (taint : Option Taint) (p : Pattern) :
    ∀ y ∈ Task.ofPattern outer type taint s p, Grounded d y := by
  cases p with
  | wildcard | name | none => exact List.forall_mem_nil _
  | literal at_ value => exact List.forall_mem_singleton.2 ⟨h, trivial⟩
  | wrap at_ kind inner =>
    have hfirst := reports_wrappedType kind (at_.orElse outer) type
    have hpart := (h.wrappedType (.refl hle) kind (at_.orElse outer) (at_.orElse outer)).right
    rw [← (hfirst s).types] at hpart
    exact List.forall_mem_singleton.2 ⟨paired_reports h hfirst, hpart⟩
  | ctor at_ name ps =>
    have hfirst := paired_reports h (reports_takenBy (at_.orElse outer) type name ps.length)
    have hfields := @Paired.taken_le d s s h (at_.orElse outer) type name ps.length
    rw [Task.ofPattern]
    cases htaken : (takenBy (at_.orElse outer) type name ps.length).value s with
    | variant => exact List.forall_mem_nil _
    | unclear => exact List.forall_mem_singleton.2 ⟨hfirst, List.forall_mem_nil _⟩
    | data id info => exact List.forall_mem_singleton.2 ⟨hfirst, hfields htaken⟩

theorem grounded_ofValue (h : Paired d s s) {keyword about : String} {value : Expr} :
    ∀ y ∈ Task.ofValue keyword about value s, Grounded d y :=
  List.forall_mem_singleton.2 ⟨paired_observe h _, trivial⟩

/-- A block that is walked in a scope of its own. -/
theorem grounded_scope (h : Paired d s s) (fn : Enclosing) (span : Span) (ss : List Stmt) :
    Grounded d (.block fn ss, (Walk.enter .block span).after s) :=
  ⟨h.enter .block .block span span, trivial⟩

theorem grounded_ofStmt (h : Paired d s s) (fn : Enclosing) (st : Stmt) :
    ∀ y ∈ Task.ofStmt fn s st, Grounded d y := by
  cases st with
  | bind | set | start => exact grounded_ofValue h
  | ret span value =>
    cases value with
    | none => exact fun _ hy => nomatch hy
    | some value => exact grounded_ofValue h
  | eval span value => exact List.forall_mem_singleton.2 ⟨h, trivial⟩
  | branch span cond yes no =>
    have hnoted := paired_observe h (.visits "if" "")
    have hahead := fun v =>
      paired_reports (paired_expr hnoted cond) (reports_condition (cond.span.orElse span) v)
    have hyes := fun v => paired_scope (hahead v) fn span yes
    refine List.forall_mem_append.2 ⟨List.forall_mem_cons.2 ⟨⟨hnoted, trivial⟩,
      List.forall_mem_singleton.2 (grounded_scope (hahead _) fn span yes)⟩, ?_⟩
    cases no with
    | none => exact fun _ hy => nomatch hy
    | some ss => exact List.forall_mem_singleton.2 (grounded_scope (hyes _) fn span ss)
  | select span scrutinee cs =>
    have hnoted := paired_observe h (.visits "match" "")
    exact List.forall_mem_cons.2 ⟨⟨hnoted, trivial⟩, List.forall_mem_singleton.2
      ⟨paired_expr hnoted scrutinee, expr_le hnoted scrutinee⟩⟩
  | scope span ss => exact List.forall_mem_singleton.2 (grounded_scope h fn span ss)
  | wait span names => exact fun _ hy => nomatch hy

/-- One case of a match. -/
theorem paired_case (h : Paired d s s) (fn : Enclosing) (outer : Span) {v : Value}
    (hle : v.type ≤ s.types.size) (span : Span) (p : Pattern) (ss : List Stmt) :
    Paired d ((checkCases fn outer v [.mk span p ss]).after s)
      ((checkCases fn outer v [.mk span p ss]).after s) := by
  have henter := h.enter .matchArm .matchArm (span.orElse outer) (span.orElse outer)
  have hpattern := paired_pattern henter (span.orElse outer) hle v.taint p
  rw [checkCases, checkCases]
  exact paired_within h .matchArm (span.orElse outer)
    (.bind (onward_pattern (span.orElse outer) v.type v.taint p) fun _ =>
      .bind (onward_block fn ss) fun _ => .pure _) (paired_block hpattern fn ss)

theorem grounded_ofCases (h : Paired d s s) (fn : Enclosing) (outer : Span) {v : Value}
    (hle : v.type ≤ s.types.size) (cs : List Case) :
    ∀ y ∈ Task.ofCases fn outer v s cs, Grounded d y := by
  cases cs with
  | nil => exact fun _ hy => nomatch hy
  | cons c rest =>
    obtain ⟨span, p, ss⟩ := c
    have henter := h.enter .matchArm .matchArm (span.orElse outer) (span.orElse outer)
    have hpattern := paired_pattern henter (span.orElse outer) hle v.taint p
    have hcase := paired_case h fn outer hle span p ss
    have hext := (enclosed_cases fn outer v [.mk span p ss] s).types
    exact List.forall_mem_cons.2 ⟨⟨henter, hle⟩, List.forall_mem_cons.2 ⟨⟨hpattern, trivial⟩,
      List.forall_mem_singleton.2 ⟨hcase, hext.le_size hle⟩⟩⟩

/-- The fields of a record, or the placeholder behind the last one. -/
theorem fieldType_le (h : Paired d s s) {fields : List Field}
    (hfields : ∀ f ∈ fields, f.type ≤ d.types.size) :
    (fields.head?.map Field.type).getD unknown ≤ s.types.size :=
  h.left.ext.le_size (h.ground.fieldType_le hfields)

/-- **The parts of a grounded task are grounded.** -/
theorem Grounded.part {x y : Start} (h : Grounded d x) (hy : y ∈ x.1.parts x.2) :
    Grounded d y := by
  obtain ⟨t, s⟩ := x
  obtain ⟨h, hknown⟩ := h
  revert y
  change ∀ y ∈ t.parts s, Grounded d y
  cases t with
  | expr e => exact grounded_ofExpr h e
  | exprs outer es =>
    cases es with
    | nil => exact fun _ hy => nomatch hy
    | cons e es =>
      exact List.forall_mem_cons.2 ⟨⟨h, trivial⟩, List.forall_mem_singleton.2
        ⟨paired_expr h e, trivial⟩⟩
  | items outer elem taint es =>
    cases es with
    | nil => exact fun _ hy => nomatch hy
    | cons e es =>
      obtain ⟨hl, hv⟩ := lockstep_expr e h
      have helem : ElemPaired ((checkExpr e).after s) ((checkExpr e).after s) elem elem := by
        cases elem with
        | none => exact .none
        | some id => exact .some (.refl (hl.left.le_size (hknown id rfl)))
      obtain ⟨hjoin, hs⟩ := lockstep_joinItem hl.stop helem hv (e.span.orElse outer)
      refine List.forall_mem_cons.2 ⟨⟨h, trivial⟩, List.forall_mem_singleton.2 ⟨hjoin.stop, ?_⟩⟩
      rintro _ ⟨⟩
      exact hs.left
  | inits outer info seen taint is =>
    cases is with
    | nil => exact fun _ hy => nomatch hy
    | cons i rest =>
      obtain ⟨span, name, value⟩ := i
      refine List.forall_mem_cons.2 ⟨⟨h, trivial⟩, List.forall_mem_singleton.2 ⟨?_, trivial⟩⟩
      cases info with
      | none => exact paired_expr h value
      | some info => exact paired_reports (paired_expr h value) (reports_init info seen name _ _ _)
  | pattern outer type taint p => exact grounded_ofPattern h outer hknown taint p
  | args outer taint fields ps =>
    cases ps with
    | nil => exact fun _ hy => nomatch hy
    | cons p ps =>
      have hle := fieldType_le h hknown
      exact List.forall_mem_cons.2 ⟨⟨h, hle⟩, List.forall_mem_singleton.2
        ⟨paired_reports (paired_pattern h outer hle _ p) (reports_catchAll _ p),
          fun f hf => hknown f (List.mem_of_mem_tail hf)⟩⟩
  | stmt fn st => exact grounded_ofStmt h fn st
  | block fn ss =>
    cases ss with
    | nil => exact fun _ hy => nomatch hy
    | cons st ss =>
      exact List.forall_mem_cons.2 ⟨⟨h, trivial⟩, List.forall_mem_singleton.2
        ⟨paired_stmt h fn st, trivial⟩⟩
  | cases fn outer v cs => exact grounded_ofCases h fn outer hknown cs
  | body f sig =>
    exact List.forall_mem_singleton.2 ⟨paired_params (h.enter .function .function f.span f.span)
      sig.params hknown.params, trivial⟩

/-- **Every task that is reached is grounded.** -/
theorem Grounded.reaches {x z : Start} (h : Grounded d x) (hz : Reaches x z) : Grounded d z := by
  induction hz with
  | here => exact h
  | step hy _ ih => exact ih (h.part hy)

/-- **Every task of a body is grounded.** -/
theorem Body.Meets.grounded {m : Module} {b : Body} (hb : b ∈ (survey m).bodies) {x : Start}
    (h : b.Meets m x) : Grounded (survey m).declared x := by
  have hstart : Grounded (survey m).declared (.body b.func b.signature, (survey m).start b) :=
    ⟨paired_start m b, known_signature hb⟩
  exact hstart.reaches h

end CoreCheck.Check

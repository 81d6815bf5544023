import CoreCheck.Proofs.Walk.Declared
import CoreCheck.Proofs.Walk.Values

/-!
# Proofs/Walk/Tasks — where a walk goes

The walk over a body is made of walks over its parts, each from a state of its own.  A `Task` is a
piece of syntax with what it is walked for, and `Task.parts` lists the tasks that it starts and the
states it starts them in.  Whatever a task leaves behind, the tasks around it keep (`Reaches.later`).
-/

namespace CoreCheck.Check

open CoreCheck.Types CoreCheck.Scope CoreCheck.Ir

/-- **A piece of a body that is walked.** -/
inductive Task where
  | expr (e : Expr)
  | exprs (outer : Span) (es : List Expr)
  | items (outer : Span) (elem : Option TypeId) (taint : Option Taint) (es : List Expr)
  | inits (outer : Span) (info : Option DataInfo) (seen : List String) (taint : Option Taint)
      (is : List Init)
  | pattern (outer : Span) (type : TypeId) (taint : Option Taint) (p : Pattern)
  | args (outer : Span) (taint : Option Taint) (fields : List Field) (ps : List Pattern)
  | stmt (fn : Enclosing) (s : Stmt)
  | block (fn : Enclosing) (ss : List Stmt)
  | cases (fn : Enclosing) (outer : Span) (scrutinee : Value) (cs : List Case)
  | body (f : Func) (sig : Signature)

/-- A task and the state it starts in. -/
abbrev Start := Task × State

namespace Task

/-- **The state a task leaves.** -/
def after (s : State) : Task → State
  | .expr e => (checkExpr e).after s
  | .exprs outer es => (checkExprs outer es).after s
  | .items outer elem taint es => (checkItems outer elem taint es).after s
  | .inits outer info seen taint is => (checkInits outer info seen taint is).after s
  | .pattern outer type taint p => (bindPattern outer type taint p).after s
  | .args outer taint fields ps => (bindArgs outer taint fields ps).after s
  | .stmt fn st => (checkStmt fn st).after s
  | .block fn ss => (checkBlock fn ss).after s
  | .cases fn outer scrutinee cs => (checkCases fn outer scrutinee cs).after s
  | .body f sig => (walkBody f sig).after s

/-- The tasks that an expression starts. -/
def ofExpr (s : State) : Expr → List Start
  | .name _ _ | .literal _ _ | .none _ => []
  | .binary _ _ left right => [(.expr left, s), (.expr right, (checkExpr left).after s)]
  | .unary _ _ operand => [(.expr operand, s)]
  | .call span target es effect capability =>
    [(.exprs span es, (callee ⟨span, target, effect, capability⟩).after s)]
  | .construct span type fields =>
    [(.inits span ((dataType type span).value s).2 [] none fields, (dataType type span).after s)]
  | .member _ base _ => [(.expr base, s)]
  | .wrap _ _ inner => [(.expr inner, s)]
  | .list span es => [(.items span none none es, s)]
  | .await _ task => [(.expr task, s)]

/-- The tasks that a pattern starts. -/
def ofPattern (outer : Span) (type : TypeId) (taint : Option Taint) (s : State) :
    Pattern → List Start
  | .wildcard _ | .name _ _ | .none _ => []
  | .literal _ value => [(.expr value, s)]
  | .wrap at_ kind inner =>
    let part := wrappedType kind (at_.orElse outer) type
    [(.pattern (at_.orElse outer) (part.value s) taint inner, part.after s)]
  | .ctor at_ name ps =>
    let taken := takenBy (at_.orElse outer) type name ps.length
    match taken.value s with
    | .variant => []
    | .unclear => [(.args (at_.orElse outer) taint [] ps, taken.after s)]
    | .data _ info => [(.args (at_.orElse outer) taint info.fields ps, taken.after s)]

/-- The tasks that the value of a statement starts, once the statement was noted. -/
def ofValue (keyword about : String) (value : Expr) (s : State) : List Start :=
  [(.expr value, (Walk.observe (.visits keyword about)).after s)]

/-- The tasks that the second branch of a condition starts. -/
def ofElse (fn : Enclosing) (span : Span) (s : State) : Option (List Stmt) → List Start
  | none => []
  | some ss => [(.block fn ss, (Walk.enter .block span).after s)]

/-- The tasks that a statement starts. -/
def ofStmt (fn : Enclosing) (s : State) : Stmt → List Start
  | .bind _ name _ value => ofValue "let" name value s
  | .set _ name value => ofValue "set" name value s
  | .ret _ none | .wait _ _ => []
  | .ret _ (some value) => ofValue "return" "" value s
  | .eval _ value => [(.expr value, s)]
  | .branch span cond yes no =>
    let noted := (Walk.observe (.visits "if" "")).after s
    let ahead := (checkCondition (cond.span.orElse span) ((checkExpr cond).value noted)).after
      ((checkExpr cond).after noted)
    [(.expr cond, noted), (.block fn yes, (Walk.enter .block span).after ahead)] ++
      ofElse fn span ((Walk.within .block span (checkBlock fn yes)).after ahead) no
  | .select span scrutinee cs =>
    let noted := (Walk.observe (.visits "match" "")).after s
    [(.expr scrutinee, noted), (.cases fn span ((checkExpr scrutinee).value noted) cs,
      (checkExpr scrutinee).after noted)]
  | .scope span ss => [(.block fn ss, (Walk.enter .block span).after s)]
  | .start _ name task => ofValue "start" name task s

/-- The tasks that the first of some cases starts, and the other cases. -/
def ofCases (fn : Enclosing) (outer : Span) (v : Value) (s : State) : List Case → List Start
  | [] => []
  | .mk span p ss :: rest =>
    let inside := (Walk.enter .matchArm (span.orElse outer)).after s
    [(.pattern (span.orElse outer) v.type v.taint p, inside),
      (.block fn ss, (bindPattern (span.orElse outer) v.type v.taint p).after inside),
      (.cases fn outer v rest, (checkCases fn outer v [.mk span p ss]).after s)]

/-- **The tasks that a task starts**, each in its state. -/
def parts (s : State) : Task → List Start
  | .expr e => ofExpr s e
  | .exprs _ [] => []
  | .exprs outer (e :: es) => [(.expr e, s), (.exprs outer es, (checkExpr e).after s)]
  | .items _ _ _ [] => []
  | .items outer elem taint (e :: es) =>
    let joined := joinItem elem (e.span.orElse outer) ((checkExpr e).value s)
    [(.expr e, s), (.items outer (some (joined.value ((checkExpr e).after s)))
      (Taint.merge taint ((checkExpr e).value s).taint) es, joined.after ((checkExpr e).after s))]
  | .inits _ _ _ _ [] => []
  | .inits outer info seen taint (.mk span name value :: rest) =>
    let checked : Walk (List String) := match info with
      | none => pure seen
      | some info =>
        checkInit info seen name (span.orElse outer) value.span ((checkExpr value).value s)
    [(.expr value, s), (.inits outer info (checked.value ((checkExpr value).after s))
      (Taint.merge taint ((checkExpr value).value s).taint) rest,
      checked.after ((checkExpr value).after s))]
  | .pattern outer type taint p => ofPattern outer type taint s p
  | .args _ _ _ [] => []
  | .args outer taint fields (p :: ps) =>
    let type := (fields.head?.map Field.type).getD unknown
    let first := Taint.merge taint (s.types.taintOf type)
    [(.pattern outer type first p, s), (.args outer taint fields.tail ps,
      (isCatchAll type p).after ((bindPattern outer type first p).after s))]
  | .stmt fn st => ofStmt fn s st
  | .block _ [] => []
  | .block fn (st :: ss) => [(.stmt fn st, s), (.block fn ss, (checkStmt fn st).after s)]
  | .cases fn outer v cs => ofCases fn outer v s cs
  | .body f sig =>
    [(.block ⟨f.name, f.span, f.typeParams, sig.result⟩ f.body,
      (defineParams sig.params).after ((Walk.enter .function f.span).after s))]

end Task

/-- **A task reaches another**: it starts it, or a task that reaches it. -/
inductive Reaches : Start → Start → Prop
  | here (x : Start) : Reaches x x
  | step {x y z : Start} : y ∈ x.1.parts x.2 → Reaches y z → Reaches x z

theorem Reaches.trans {x y z : Start} (h : Reaches x y) (h' : Reaches y z) : Reaches x z := by
  induction h with
  | here => exact h'
  | step hy _ ih => exact .step hy (ih h')

theorem Reaches.eq_or_part {x z : Start} (h : Reaches x z) :
    z = x ∨ ∃ y ∈ x.1.parts x.2, Reaches y z := by
  cases h with
  | here => exact .inl rfl
  | step hy h => exact .inr ⟨_, hy, h⟩

/-- Whether a test holds of a task and all tasks it reaches, as far as `n` steps down. -/
def Task.everywhere (p : Start → Bool) : Nat → Start → Bool
  | 0, _ => false
  | n + 1, x => p x && (x.1.parts x.2).all (everywhere p n)

theorem Reaches.of_everywhere {p : Start → Bool} {x z : Start} (h : Reaches x z) {n : Nat}
    (hp : Task.everywhere p n x = true) : p z = true := by
  induction h generalizing n with
  | here x =>
    cases n with
    | zero => exact nomatch hp
    | succ n => exact (Bool.and_eq_true_iff.1 hp).1
  | step hy _ ih =>
    cases n with
    | zero => exact nomatch hp
    | succ n => exact ih (List.all_eq_true.1 (Bool.and_eq_true_iff.1 hp).2 _ hy)

/-! ## Smaller tasks -/

/-- The size of the syntax of a task. -/
noncomputable def Task.size : Task → Nat
  | .expr e => sizeOf e
  | .exprs _ es => sizeOf es
  | .items _ _ _ es => sizeOf es
  | .inits _ _ _ _ is => sizeOf is
  | .pattern _ _ _ p => sizeOf p
  | .args _ _ _ ps => sizeOf ps
  | .stmt _ st => sizeOf st
  | .block _ ss => sizeOf ss
  | .cases _ _ _ cs => sizeOf cs
  | .body f _ => sizeOf f.body + 1

namespace Task

variable {s : State} {x : Start}

theorem size_ofExpr {e : Expr} (h : x ∈ ofExpr s e) : x.1.size < sizeOf e := by
  cases e <;> simp only [ofExpr, List.mem_cons, List.not_mem_nil, or_false] at h
  case binary => obtain rfl | rfl := h <;> simp +arith [size]
  all_goals
    subst h
    simp +arith [size]

theorem size_ofPattern {outer : Span} {type : TypeId} {taint : Option Taint} {p : Pattern}
    (h : x ∈ ofPattern outer type taint s p) : x.1.size < sizeOf p := by
  cases p <;> simp only [ofPattern, List.mem_cons, List.not_mem_nil, or_false] at h
  case ctor =>
    split at h
    · cases h
    · obtain rfl := List.mem_singleton.1 h
      simp +arith [size]
    · obtain rfl := List.mem_singleton.1 h
      simp +arith [size]
  all_goals
    subst h
    simp +arith [size]

theorem size_ofStmt {fn : Enclosing} {st : Stmt} (h : x ∈ ofStmt fn s st) :
    x.1.size < sizeOf st := by
  cases st with
  | branch span cond yes no =>
    simp only [ofStmt, List.mem_append, List.mem_cons, List.not_mem_nil, or_false] at h
    obtain (rfl | rfl) | h := h
    · simp +arith [size]
    · simp +arith [size]
    · cases no with
      | none => cases h
      | some ss =>
        obtain rfl := List.mem_singleton.1 h
        simp +arith [size]
  | select span scrutinee cs =>
    simp only [ofStmt, List.mem_cons, List.not_mem_nil, or_false] at h
    obtain rfl | rfl := h <;> simp +arith [size]
  | ret span value =>
    cases value with
    | none => cases h
    | some value =>
      obtain rfl := List.mem_singleton.1 h
      simp +arith [size]
  | wait => cases h
  | _ =>
    obtain rfl := List.mem_singleton.1 h
    simp +arith [size]

theorem size_ofCases {fn : Enclosing} {outer : Span} {v : Value} {cs : List Case}
    (h : x ∈ ofCases fn outer v s cs) : x.1.size < sizeOf cs := by
  cases cs with
  | nil => exact nomatch h
  | cons c rest =>
    obtain ⟨span, p, ss⟩ := c
    simp only [ofCases, List.mem_cons, List.not_mem_nil, or_false] at h
    obtain rfl | rfl | rfl := h <;> simp +arith [size]

/-- **The tasks that a task starts are smaller.** -/
theorem size_lt_of_mem_parts {t : Task} (h : x ∈ t.parts s) : x.1.size < t.size := by
  cases t with
  | expr e => exact size_ofExpr h
  | pattern outer type taint p => exact size_ofPattern h
  | stmt fn st => exact size_ofStmt h
  | cases fn outer v cs => exact size_ofCases h
  | body f sig =>
    obtain rfl := List.mem_singleton.1 h
    exact Nat.lt_succ_self _
  | exprs outer es =>
    cases es <;> simp only [parts, List.mem_cons, List.not_mem_nil, or_false] at h
    obtain rfl | rfl := h <;> simp +arith [size]
  | items outer elem taint es =>
    cases es <;> simp only [parts, List.mem_cons, List.not_mem_nil, or_false] at h
    obtain rfl | rfl := h <;> simp +arith [size]
  | inits outer info seen taint is =>
    cases is with
    | nil => cases h
    | cons i rest =>
      obtain ⟨span, name, value⟩ := i
      simp only [parts, List.mem_cons, List.not_mem_nil, or_false] at h
      obtain rfl | rfl := h <;> simp +arith [size]
  | args outer taint fields ps =>
    cases ps <;> simp only [parts, List.mem_cons, List.not_mem_nil, or_false] at h
    obtain rfl | rfl := h <;> simp +arith [size]
  | block fn ss =>
    cases ss <;> simp only [parts, List.mem_cons, List.not_mem_nil, or_false] at h
    obtain rfl | rfl := h <;> simp +arith [size]

end Task

/-- **Induction over tasks**: what holds of a task when it holds of the tasks it starts holds of all
tasks. -/
theorem Task.induct {P : Start → Prop} (h : ∀ x, (∀ y ∈ x.1.parts x.2, P y) → P x) (x : Start) :
    P x :=
  h x fun y hy =>
    have := Task.size_lt_of_mem_parts hy
    Task.induct h y
termination_by x.1.size

/-! ## What a task leaves behind -/

section

variable {s : State}

theorem later_of_reports {α : Type} {x : Walk α} (h : Walk.Keeps Reports x) (s : State) :
    Later s (x.after s) := (h.quiet.enclosed s).toLater

theorem later_of_quiet {α : Type} {x : Walk α} (h : Walk.Keeps Quiet x) (s : State) :
    Later s (x.after s) := (h.enclosed s).toLater

/-- Leaving a scope keeps what was written down. -/
theorem later_leave (kind : ScopeKind) (span : Span) {α : Type} (x : Walk α) (s : State) :
    Later (x.after ((Walk.enter kind span).after s)) ((Walk.within kind span x).after s) := by
  rw [Walk.after_within]
  generalize x.after ((Walk.enter kind span).after s) = t
  exact Later.leave t

/-- What is kept of both of two tasks is kept of each. -/
theorem later_of_mem_pair {x y z : Start} (hx : x ∈ [y, z]) {t : State}
    (hy : Later (y.1.after y.2) t) (hz : Later (z.1.after z.2) t) : Later (x.1.after x.2) t := by
  obtain rfl | hx := List.mem_cons.1 hx
  · exact hy
  · obtain rfl := List.mem_singleton.1 hx
    exact hz

theorem Task.later_ofExpr (e : Expr) {x : Start} (hx : x ∈ Task.ofExpr s e) :
    Later (x.1.after x.2) ((checkExpr e).after s) := by
  cases e with
  | name | literal | none => exact nomatch hx
  | binary span op left right =>
    rw [checkExpr]
    have hlast := fun l r => later_of_reports (reports_binary span op l r)
    exact later_of_mem_pair hx ((later_of_quiet (quiet_expr right) _).trans (hlast _ _ _))
      (hlast _ _ _)
  | unary span op operand =>
    obtain rfl := List.mem_singleton.1 hx
    rw [checkExpr]
    exact later_of_reports (reports_unary span op _) _
  | call span target args effect capability =>
    obtain rfl := List.mem_singleton.1 hx
    rw [checkExpr]
    exact later_of_quiet (quiet_finishCall ⟨span, target, effect, capability⟩
      ((callee ⟨span, target, effect, capability⟩).value s) _) _
  | construct span type fields =>
    obtain rfl := List.mem_singleton.1 hx
    rw [checkExpr]
    exact later_of_reports (reports_completeAll span _ _) _
  | member span base field =>
    obtain rfl := List.mem_singleton.1 hx
    rw [checkExpr, Walk.after_bind]
    exact later_of_reports (reports_member span _ field) _
  | wrap span kind inner =>
    obtain rfl := List.mem_singleton.1 hx
    rw [checkExpr, Walk.after_bind]
    exact later_of_quiet (makes_wrap kind _).quietly _
  | list span items =>
    obtain rfl := List.mem_singleton.1 hx
    rw [checkExpr]
    exact later_of_quiet (makes_make fun a => a.extends_intern _).quietly _
  | await span task =>
    obtain rfl := List.mem_singleton.1 hx
    rw [checkExpr]
    exact later_of_quiet (quiet_observe _ rfl) _

theorem Task.later_ofPattern (outer : Span) (type : TypeId) (taint : Option Taint) (p : Pattern)
    {x : Start} (hx : x ∈ Task.ofPattern outer type taint s p) :
    Later (x.1.after x.2) ((bindPattern outer type taint p).after s) := by
  cases p with
  | wildcard | name | none => exact nomatch hx
  | literal at_ value =>
    obtain rfl := List.mem_singleton.1 hx
    rw [bindPattern]
    exact later_of_reports (reports_literalPattern (at_.orElse outer) type value
      ((checkExpr value).value s)) _
  | wrap at_ kind inner =>
    obtain rfl := List.mem_singleton.1 hx
    rw [bindPattern]
    exact later_of_reports (reports_catchAll _ inner) _
  | ctor at_ name ps =>
    rw [bindPattern, Walk.after_bind]
    rw [Task.ofPattern] at hx
    cases htaken : (takenBy (at_.orElse outer) type name ps.length).value s with
    | variant =>
      rw [htaken] at hx
      exact nomatch hx
    | unclear =>
      rw [htaken] at hx
      obtain rfl := List.mem_singleton.1 hx
      exact .refl _
    | data id info =>
      rw [htaken] at hx
      obtain rfl := List.mem_singleton.1 hx
      exact .refl _

/-- Once its value is walked, a statement goes on from there. -/
theorem Task.later_ofValue {keyword about : String} {value : Expr} {x : Start}
    (hx : x ∈ Task.ofValue keyword about value s) {t : State}
    (ht : Later ((checkExpr value).after
      ((Walk.observe (.visits keyword about)).after s)) t) : Later (x.1.after x.2) t := by
  obtain rfl := List.mem_singleton.1 hx
  exact ht

theorem Task.later_ofElse (fn : Enclosing) (span : Span) (no : Option (List Stmt)) {x : Start}
    (hx : x ∈ Task.ofElse fn span s no) :
    Later (x.1.after x.2) ((checkElse fn span no).after s) := by
  cases no with
  | none => exact nomatch hx
  | some ss =>
    obtain rfl := List.mem_singleton.1 hx
    rw [checkElse]
    exact later_leave .block span (checkBlock fn ss) s

theorem Task.later_ofStmt (fn : Enclosing) (st : Stmt) {x : Start}
    (hx : x ∈ Task.ofStmt fn s st) : Later (x.1.after x.2) ((checkStmt fn st).after s) := by
  cases st with
  | bind span name written value =>
    refine Task.later_ofValue hx ?_
    rw [checkStmt]
    exact (later_of_quiet (makes_bindingOf fn (value.span.orElse span) name written _).quietly _).trans
      (onward_define name _ "binding" _).toLater
  | set span name value =>
    refine Task.later_ofValue hx ?_
    rw [checkStmt]
    exact (enclosed_assign span (value.span.orElse span) name _ _).toLater
  | ret span value =>
    cases value with
    | none => exact nomatch hx
    | some value =>
      refine Task.later_ofValue hx ?_
      rw [checkStmt]
      exact later_of_reports (reports_return fn (value.span.orElse span) _) _
  | eval span value =>
    obtain rfl := List.mem_singleton.1 hx
    rw [checkStmt]
    exact .refl _
  | branch span cond yes no =>
    rw [checkStmt]
    have helse := fun t => (enclosed_else fn span no t).toLater
    have hyes := fun t => ((enclosed_within .block span (onward_block fn yes)) t).toLater
    obtain hx | hx := List.mem_append.1 hx
    · exact later_of_mem_pair hx
        (((later_of_reports (reports_condition (cond.span.orElse span) _) _).trans
          (hyes _)).trans (helse _))
        ((later_leave .block span (checkBlock fn yes) _).trans (helse _))
    · exact Task.later_ofElse fn span no hx
  | select span scrutinee cs =>
    rw [checkStmt]
    exact later_of_mem_pair hx (enclosed_cases fn span _ cs _).toLater (.refl _)
  | scope span ss =>
    obtain rfl := List.mem_singleton.1 hx
    rw [checkStmt]
    exact later_leave .block span (checkBlock fn ss) s
  | start span name task =>
    refine Task.later_ofValue hx ?_
    rw [checkStmt]
    exact (later_of_quiet (quiet_observe _ rfl) _).trans (onward_define name _ "task" _).toLater
  | wait span names => exact nomatch hx

theorem Task.later_ofCases (fn : Enclosing) (outer : Span) (v : Value) (cs : List Case)
    {x : Start} (hx : x ∈ Task.ofCases fn outer v s cs) :
    Later (x.1.after x.2) ((checkCases fn outer v cs).after s) := by
  cases cs with
  | nil => exact nomatch hx
  | cons c rest =>
    obtain ⟨span, p, ss⟩ := c
    have hrest := fun t => (enclosed_cases fn outer v rest t).toLater
    have hleave := later_leave .matchArm (span.orElse outer) (do
      let coverage ← bindPattern (span.orElse outer) v.type v.taint p
      let closed ← checkBlock fn ss
      return (closed, coverage)) s
    obtain rfl | hx := List.mem_cons.1 hx
    · rw [checkCases]
      exact ((onward_block fn ss _).toLater.trans hleave).trans (hrest _)
    · obtain rfl | hx := List.mem_cons.1 hx
      · rw [checkCases]
        exact hleave.trans (hrest _)
      · obtain rfl := List.mem_singleton.1 hx
        rw [after_cases_cons]
        exact .refl _

/-- **What a part leaves behind is kept by the whole.** -/
theorem Task.later_of_mem_parts (t : Task) {x : Start} (hx : x ∈ t.parts s) :
    Later (x.1.after x.2) (t.after s) := by
  cases t with
  | expr e => exact Task.later_ofExpr e hx
  | exprs outer es =>
    cases es with
    | nil => exact nomatch hx
    | cons e es =>
      change Later _ ((checkExprs outer (e :: es)).after s)
      rw [checkExprs]
      exact later_of_mem_pair hx (later_of_quiet (quiet_exprs outer es) _) (.refl _)
  | items outer elem taint es =>
    cases es with
    | nil => exact nomatch hx
    | cons e es =>
      change Later _ ((checkItems outer elem taint (e :: es)).after s)
      rw [checkItems]
      exact later_of_mem_pair hx ((later_of_quiet (makes_joinItem _ _ _).quietly _).trans
        (later_of_quiet (quiet_items outer _ _ es) _)) (.refl _)
  | inits outer info seen taint is =>
    cases is with
    | nil => exact nomatch hx
    | cons i rest =>
      obtain ⟨span, name, value⟩ := i
      change Later _ ((checkInits outer info seen taint (.mk span name value :: rest)).after s)
      rw [checkInits]
      obtain rfl | hx := List.mem_cons.1 hx
      · cases info with
        | none => exact later_of_quiet (quiet_inits outer none _ _ rest) _
        | some info =>
          exact (later_of_reports (reports_init info seen name _ _ _) _).trans
            (later_of_quiet (quiet_inits outer (some info) _ _ rest) _)
      · obtain rfl := List.mem_singleton.1 hx
        cases info <;> exact .refl _
  | pattern outer type taint p => exact Task.later_ofPattern outer type taint p hx
  | args outer taint fields ps =>
    cases ps with
    | nil => exact nomatch hx
    | cons p ps =>
      change Later _ ((bindArgs outer taint fields (p :: ps)).after s)
      rw [bindArgs]
      exact later_of_mem_pair hx ((later_of_reports (reports_catchAll _ p) _).trans
        (onward_args outer taint fields.tail ps _).toLater) (.refl _)
  | stmt fn st => exact Task.later_ofStmt fn st hx
  | block fn ss =>
    cases ss with
    | nil => exact nomatch hx
    | cons st ss =>
      change Later _ ((checkBlock fn (st :: ss)).after s)
      rw [checkBlock]
      exact later_of_mem_pair hx (onward_block fn ss _).toLater (.refl _)
  | cases fn outer v cs => exact Task.later_ofCases fn outer v cs hx
  | body f sig =>
    obtain rfl := List.mem_singleton.1 hx
    change Later _ ((walkBody f sig).after s)
    rw [walkBody]
    refine Later.trans ?_ (later_leave .function f.span _ s)
    exact later_of_quiet (quiet_ending f sig.result _) _

/-- **What a task leaves behind is kept by every task that reaches it.** -/
theorem Reaches.later {x y : Start} (h : Reaches x y) :
    Later (y.1.after y.2) (x.1.after x.2) := by
  induction h with
  | here => exact .refl _
  | step hy _ ih => exact ih.trans (Task.later_of_mem_parts _ hy)

end

/-! ## The tasks of a body -/

section

variable (m : Module) (b : Body)

/-- **A task of a body**: one that the walk over the body reaches. -/
def Body.Meets (x : Start) : Prop := Reaches (.body b.func b.signature, (survey m).start b) x

/-- **A call in a body**, with the state in which its target is looked up. -/
def Body.CallsAt (c : CallHead) (s : State) : Prop :=
  ∃ args, b.Meets m (.expr (.call c.span c.target args c.effect c.capability), s)

/-- Whether a test holds of every task of the bodies of a module, as far as `n` steps down. -/
def everyTask (p : Start → Bool) (n : Nat) : Bool :=
  (survey m).bodies.all fun b =>
    Task.everywhere p n (.body b.func b.signature, (survey m).start b)

end

/-- The test that a call is none that removes taint. -/
def keepsTaint : Start → Bool
  | (.expr (.call _ target _ _ _), _) => !isDeclassifier target
  | _ => true

section

variable {m : Module} {b : Body} (hb : b ∈ (survey m).bodies)

include hb

theorem Body.Meets.of_everyTask {x : Start} (h : b.Meets m x) {p : Start → Bool} {n : Nat}
    (hp : everyTask m p n = true) : p x = true :=
  Reaches.of_everywhere h (List.all_eq_true.1 hp b hb)

theorem Body.CallsAt.of_everyTask {c : CallHead} {s : State} (h : b.CallsAt m c s) {n : Nat}
    (hp : everyTask m keepsTaint n = true) : isDeclassifier c.target = false := by
  obtain ⟨args, h⟩ := h
  exact Bool.not_eq_true' _ ▸ h.of_everyTask hb hp

end

end CoreCheck.Check

import CoreCheck.Proofs.Path.Run
import CoreCheck.Proofs.Walk.Bindings

/-!
# Proofs/Path/Along — a walk as seen from one path

The walk over a body goes through all of it.  `Path.along` is that walk, and answers which of the
flows it saw lie on a given path: it leaves the very state that the walk leaves (`after_alongStmt`),
and the flows it answers are among those of the walk, in order (`picks_alongStmt`).
-/

namespace CoreCheck.Check.Path

open CoreCheck.Types CoreCheck.Scope CoreCheck.Ir

/-- Runs a step and answers the flows that it saw, too. -/
def seen {α : Type} (x : Walk α) : Walk (α × List Observation) := do
  let before := (← get).flows
  let a ← x
  return (a, (← get).flows.drop before.length)

/-- How a path goes on, and the flows on it so far. -/
abbrev Trail := Onwards × List Observation

section

variable (fn : Enclosing)

/-- A statement that lies on the path as a whole. -/
def whole (on : Onwards) (s : Stmt) : Walk Trail := do
  let (_, flows) ← seen (checkStmt fn s)
  return (on, flows)

/-- Binds a pattern, with the flows of its constants, before the rest of a case. -/
def alongArm (outer : Span) (scrutinee : Value) (pattern : Pattern) (body : Walk Trail) :
    Walk Trail := do
  let (_, before) ← seen (bindPattern outer scrutinee.type scrutinee.taint pattern)
  let (on, flows) ← body
  return (on, before ++ flows)

mutual

/-- **Walks a statement** and answers the flows on the path through it. -/
def alongStmt (turns : Turns) : Stmt → Walk Trail
  | .bind span name type value => whole fn (some turns) (.bind span name type value)
  | .set span name value => whole fn (some turns) (.set span name value)
  | .ret span value => whole fn none (.ret span value)
  | .eval span value => whole fn (some turns) (.eval span value)
  | .branch span cond yes no => do
    let (_, before) ← seen do
      Walk.observe (.visits "if" "")
      let v ← checkExpr cond
      checkCondition (cond.span.orElse span) v
    if turns.headD 0 = 0 then
      let (on, flows) ← Walk.within .block span (alongBlock turns.tail yes)
      let _ ← checkElse fn span no
      return (on, before ++ flows)
    else
      let _ ← Walk.within .block span (checkBlock fn yes)
      let (on, flows) ← alongElse span turns.tail no
      return (on, before ++ flows)
  | .select span scrutinee cases => do
    let (v, before) ← seen do
      Walk.observe (.visits "match" "")
      checkExpr scrutinee
    let (on, flows) ← alongCase span v (turns.headD 0) turns.tail cases
    return (on, before ++ flows)
  | .scope span body => Walk.within .block span (alongBlock turns body)
  | .start span name task => whole fn (some turns) (.start span name task)
  | .wait span names => whole fn (some turns) (.wait span names)

/-- Walks statements; behind a return nothing lies on the path. -/
def alongBlock (turns : Turns) : List Stmt → Walk Trail
  | [] => return (some turns, [])
  | s :: ss => do
    let (on, before) ← alongStmt turns s
    match on with
    | none =>
      let _ ← checkBlock fn ss
      return (none, before)
    | some turns =>
      let (on, flows) ← alongBlock turns ss
      return (on, before ++ flows)

def alongElse (span : Span) (turns : Turns) : Option (List Stmt) → Walk Trail
  | none => return (some turns, [])
  | some body => Walk.within .block span (alongBlock turns body)

/-- Walks all cases; the one of the given number lies on the path. -/
def alongCase (outer : Span) (scrutinee : Value) (n : Nat) (turns : Turns) :
    List Case → Walk Trail
  | [] => return (some turns, [])
  | .mk span pattern body :: rest =>
    match n with
    | 0 => do
      let trail ← Walk.within .matchArm (span.orElse outer)
        (alongArm (span.orElse outer) scrutinee pattern (alongBlock turns body))
      let _ ← checkCases fn outer scrutinee rest
      return trail
    | n + 1 => do
      let _ ← checkCases fn outer scrutinee [.mk span pattern body]
      alongCase outer scrutinee n turns rest

end

end

/-- **Walks the body of a function** and answers the flows on the path through it. -/
def alongBody (f : Func) (sig : Signature) (turns : Turns) : Walk Trail :=
  Walk.within .function f.span do
    defineParams sig.params
    alongBlock ⟨f.name, f.span, f.typeParams, sig.result⟩ turns f.body

/-! ## The walk itself -/

section

variable {α : Type} {fn : Enclosing}

@[simp] theorem after_seen (x : Walk α) (s : State) : (seen x).after s = x.after s := rfl

theorem value_seen (x : Walk α) (s : State) :
    (seen x).value s = (x.value s, (x.after s).flows.drop s.flows.length) := rfl

theorem after_within_congr {β : Type} (kind : ScopeKind) (span : Span) {x : Walk α} {y : Walk β}
    (h : ∀ s, x.after s = y.after s) (s : State) :
    (Walk.within kind span x).after s = (Walk.within kind span y).after s := by
  rw [Walk.after_within, Walk.after_within, h]

/-- A case that is taken is walked like any other. -/
theorem after_arm (span : Span) (pattern : Pattern) (body : List Stmt) (outer : Span) (v : Value)
    {y : Walk Trail} (hy : ∀ s, y.after s = (checkBlock fn body).after s) (st : State) :
    (Walk.within .matchArm (span.orElse outer)
        (alongArm (span.orElse outer) v pattern y)).after st
      = (checkCases fn outer v [.mk span pattern body]).after st := by
  rw [checkCases, checkCases]
  exact after_within_congr .matchArm (span.orElse outer)
    (x := alongArm (span.orElse outer) v pattern y)
    (y := do
      let coverage ← bindPattern (span.orElse outer) v.type v.taint pattern
      let closed ← checkBlock fn body
      return (closed, coverage))
    (fun s => hy _) st

mutual

/-- **The walk along a path is the walk.** -/
theorem after_alongStmt : ∀ (s : Stmt) (turns : Turns) (st : State),
    (alongStmt fn turns s).after st = (checkStmt fn s).after st
  | .bind span name type value, turns, st => by rw [alongStmt]; rfl
  | .set span name value, turns, st => by rw [alongStmt]; rfl
  | .ret span value, turns, st => by rw [alongStmt]; rfl
  | .eval span value, turns, st => by rw [alongStmt]; rfl
  | .branch span cond yes no, turns, st => by
    rw [alongStmt, checkStmt]
    simp only [Walk.after_bind, after_seen]
    rw [Walk.after_ite]
    split
    · simp only [Walk.after_bind, after_within_congr _ _ (after_alongBlock yes turns.tail)]
      rfl
    · simp only [Walk.after_bind, after_alongElse no span turns.tail]
      rfl
  | .select span scrutinee cases, turns, st => by
    rw [alongStmt, checkStmt]
    simp only [Walk.after_bind, after_seen, Walk.value_bind, value_seen]
    exact after_alongCase cases span _ _ _ _
  | .scope span body, turns, st => by
    rw [alongStmt, checkStmt]
    exact after_within_congr _ _ (after_alongBlock body turns) st
  | .start span name task, turns, st => by rw [alongStmt]; rfl
  | .wait span names, turns, st => by rw [alongStmt]; rfl

theorem after_alongBlock : ∀ (ss : List Stmt) (turns : Turns) (st : State),
    (alongBlock fn turns ss).after st = (checkBlock fn ss).after st
  | [], turns, st => by rw [alongBlock, checkBlock]; rfl
  | s :: ss, turns, st => by
    rw [alongBlock, checkBlock]
    simp only [Walk.after_bind, after_alongStmt s turns]
    cases ((alongStmt fn turns s).value st).1 with
    | none => rfl
    | some turns' => exact after_alongBlock ss turns' _

theorem after_alongElse : ∀ (no : Option (List Stmt)) (span : Span) (turns : Turns) (st : State),
    (alongElse fn span turns no).after st = (checkElse fn span no).after st
  | none, span, turns, st => by rw [alongElse, checkElse]; rfl
  | some body, span, turns, st => by
    rw [alongElse, checkElse]
    exact after_within_congr _ _ (after_alongBlock body turns) st

theorem after_alongCase : ∀ (cases : List Case) (outer : Span) (v : Value) (n : Nat)
    (turns : Turns) (st : State),
    (alongCase fn outer v n turns cases).after st = (checkCases fn outer v cases).after st
  | [], outer, v, n, turns, st => by rw [alongCase, checkCases]; rfl
  | .mk span pattern body :: rest, outer, v, 0, turns, st => by
    rw [alongCase, checkCases]
    simp only [Walk.after_bind, after_arm span pattern body outer v (after_alongBlock body turns)]
    rw [checkCases, checkCases]
    rfl
  | .mk span pattern body :: rest, outer, v, n + 1, turns, st => by
    rw [alongCase, checkCases]
    simp only [Walk.after_bind, after_alongCase rest outer v n turns]
    rw [checkCases, checkCases]
    rfl

end

/-! ## The flows on a path -/

/-- The flows that a step sees are a piece at the end of the log. -/
theorem flows_of_later {s t : State} (h : Later s t) : ∃ l, t.flows = s.flows ++ l := by
  obtain ⟨obs, hobs, -⟩ := h.grows
  exact ⟨_, hobs.flows⟩

/-- **The answered flows are among those that were seen**, in order. -/
def Picks (x : Walk Trail) : Prop :=
  ∀ st, ∃ l, (x.after st).flows = st.flows ++ l ∧ (x.value st).2.Sublist l

theorem picks_seen {x : Walk α} (hx : Walk.Keeps Later x) (st : State) :
    ∃ l, (x.after st).flows = st.flows ++ l ∧ ((seen x).value st).2 = l := by
  obtain ⟨l, hl⟩ := flows_of_later (hx st)
  exact ⟨l, hl, by rw [value_seen, hl, List.drop_left]⟩

theorem picks_whole (on : Onwards) (s : Stmt) : Picks (whole fn on s) := by
  intro st
  obtain ⟨l, hl, hseen⟩ := picks_seen (onward_stmt fn s).later st
  exact ⟨l, hl, hseen ▸ .refl _⟩

/-- Neither entering nor leaving a scope sees anything. -/
theorem flows_within (kind : ScopeKind) (span : Span) (x : Walk α) (st : State) :
    ((Walk.within kind span x).after st).flows
      = (x.after ((Walk.enter kind span).after st)).flows := by
  rw [Walk.after_within]
  generalize x.after ((Walk.enter kind span).after st) = t
  obtain ⟨id, opened, table, -, -, he⟩ | ⟨e, he⟩ := Walk.leave_cases t
  all_goals
    rw [he]
    rfl

theorem picks_within (kind : ScopeKind) (span : Span) {x : Walk Trail} (hx : Picks x) :
    Picks (Walk.within kind span x) := by
  intro st
  obtain ⟨l, hl, hsub⟩ := hx ((Walk.enter kind span).after st)
  exact ⟨l, (flows_within kind span x st).trans hl, hsub⟩

/-- What follows on the path and what does not, one after the other. -/
theorem picks_trans {s t u : State} {l l' k k' : List Observation}
    (h : t.flows = s.flows ++ l ∧ k.Sublist l) (h' : u.flows = t.flows ++ l' ∧ k'.Sublist l') :
    ∃ m, u.flows = s.flows ++ m ∧ (k ++ k').Sublist m :=
  ⟨l ++ l', by rw [h'.1, h.1, List.append_assoc], h.2.append h'.2⟩

theorem later_else (span : Span) (no : Option (List Stmt)) :
    Walk.Keeps Later (checkElse fn span no) := (enclosed_else fn span no).onward.later

mutual

theorem picks_alongStmt : ∀ (s : Stmt) (turns : Turns), Picks (alongStmt fn turns s)
  | .bind span name type value, turns => by rw [alongStmt]; exact picks_whole _ _
  | .set span name value, turns => by rw [alongStmt]; exact picks_whole _ _
  | .ret span value, turns => by rw [alongStmt]; exact picks_whole _ _
  | .eval span value, turns => by rw [alongStmt]; exact picks_whole _ _
  | .branch span cond yes no, turns => by
    rw [alongStmt]
    intro st
    have hcond : Walk.Keeps Later (do
        Walk.observe (.visits "if" "")
        let v ← checkExpr cond
        checkCondition (cond.span.orElse span) v) :=
      (Walk.Keeps.bind (quiet_observe _ rfl) fun _ => .bind (quiet_expr cond) fun _ =>
        (reports_condition _ _).quiet).enclosed.onward.later
    obtain ⟨l, hl, hk⟩ := picks_seen hcond st
    simp only [Walk.after_bind, Walk.value_bind, after_seen, hk]
    rw [Walk.after_ite, Walk.value_ite]
    split
    · obtain ⟨l', hyes⟩ := picks_within .block span (picks_alongBlock yes turns.tail) _
      obtain ⟨m, hm⟩ := flows_of_later (@later_else fn span no _)
      obtain ⟨m', hm'⟩ := picks_trans ⟨hl, .refl l⟩ hyes
      obtain ⟨k, hk⟩ := picks_trans hm' ⟨hm, List.nil_sublist m⟩
      rw [List.append_nil] at hk
      exact ⟨k, hk⟩
    · obtain ⟨m, hm⟩ := flows_of_later
        ((enclosed_within .block span (onward_block fn yes)).onward.later _)
      obtain ⟨l', hno⟩ := picks_alongElse no span turns.tail _
      obtain ⟨m', hm'⟩ := picks_trans ⟨hl, .refl l⟩ ⟨hm, List.nil_sublist m⟩
      rw [List.append_nil] at hm'
      exact picks_trans hm' hno
  | .select span scrutinee cases, turns => by
    rw [alongStmt]
    intro st
    have hscrutinee : Walk.Keeps Later (do
        Walk.observe (.visits "match" "")
        checkExpr scrutinee) :=
      (Walk.Keeps.bind (quiet_observe _ rfl) fun _ => quiet_expr scrutinee).enclosed.onward.later
    obtain ⟨l, hl, hk⟩ := picks_seen hscrutinee st
    simp only [Walk.after_bind, Walk.value_bind, after_seen, hk]
    obtain ⟨l', hcase⟩ := picks_alongCase cases span _ (turns.headD 0) turns.tail _
    exact picks_trans ⟨hl, .refl l⟩ hcase
  | .scope span body, turns => by
    rw [alongStmt]
    exact picks_within _ _ (picks_alongBlock body turns)
  | .start span name task, turns => by rw [alongStmt]; exact picks_whole _ _
  | .wait span names, turns => by rw [alongStmt]; exact picks_whole _ _

theorem picks_alongBlock : ∀ (ss : List Stmt) (turns : Turns), Picks (alongBlock fn turns ss)
  | [], turns => by
    rw [alongBlock]
    exact fun st => ⟨[], (List.append_nil _).symm, .refl _⟩
  | s :: ss, turns => by
    rw [alongBlock]
    intro st
    obtain ⟨l, hl, hk⟩ := picks_alongStmt s turns st
    simp only [Walk.after_bind, Walk.value_bind]
    cases ((alongStmt fn turns s).value st).1 with
    | none =>
      obtain ⟨m, hm⟩ := flows_of_later
        ((onward_block fn ss).later ((alongStmt fn turns s).after st))
      obtain ⟨m', hm'⟩ := picks_trans ⟨hl, hk⟩ ⟨hm, List.nil_sublist m⟩
      rw [List.append_nil] at hm'
      exact ⟨m', hm'⟩
    | some turns' =>
      obtain ⟨l', hrest⟩ := picks_alongBlock ss turns' ((alongStmt fn turns s).after st)
      exact picks_trans ⟨hl, hk⟩ hrest

theorem picks_alongElse : ∀ (no : Option (List Stmt)) (span : Span) (turns : Turns),
    Picks (alongElse fn span turns no)
  | none, span, turns => by
    rw [alongElse]
    exact fun st => ⟨[], (List.append_nil _).symm, .refl _⟩
  | some body, span, turns => by
    rw [alongElse]
    exact picks_within _ _ (picks_alongBlock body turns)

theorem picks_alongCase : ∀ (cases : List Case) (outer : Span) (v : Value) (n : Nat)
    (turns : Turns), Picks (alongCase fn outer v n turns cases)
  | [], outer, v, n, turns => by
    rw [alongCase]
    exact fun st => ⟨[], (List.append_nil _).symm, .refl _⟩
  | .mk span pattern body :: rest, outer, v, 0, turns => by
    rw [alongCase]
    intro st
    have hcase : Picks (alongArm (span.orElse outer) v pattern (alongBlock fn turns body)) := by
      intro t
      obtain ⟨l, hl, hk⟩ := picks_seen (onward_pattern (span.orElse outer) v.type v.taint
        pattern).later t
      simp only [alongArm, Walk.after_bind, Walk.value_bind, after_seen, hk]
      obtain ⟨l', hbody⟩ := picks_alongBlock body turns _
      exact picks_trans ⟨hl, .refl l⟩ hbody
    obtain ⟨l, hl⟩ := picks_within .matchArm (span.orElse outer) hcase st
    obtain ⟨m, hm⟩ := flows_of_later ((enclosed_cases fn outer v rest).onward.later _)
    obtain ⟨m', hm'⟩ := picks_trans hl ⟨hm, List.nil_sublist m⟩
    rw [List.append_nil] at hm'
    exact ⟨m', hm'⟩
  | .mk span pattern body :: rest, outer, v, n + 1, turns => by
    rw [alongCase]
    intro st
    obtain ⟨m, hm⟩ := flows_of_later
      ((enclosed_cases fn outer v [.mk span pattern body]).onward.later st)
    obtain ⟨l', hrest⟩ := picks_alongCase rest outer v n turns _
    exact picks_trans ⟨hm, List.nil_sublist m⟩ hrest

end

end

end CoreCheck.Check.Path

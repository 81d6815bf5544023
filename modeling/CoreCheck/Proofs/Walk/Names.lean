import CoreCheck.Proofs.Walk.Tasks

/-!
# Proofs/Walk/Names — what becomes of the taint of a name

An expression has the taint of every name in it, whatever is built from the name on the way up:
operators, records, lists and calls join what they are handed, also where they are reported.  Two
calls answer without it, the ones that are meant to remove taint and the ones whose name nothing
binds.  So taint is kept exactly as long as the latter are handed none
(`keepsTaint_iff_unboundClean`).
-/

namespace CoreCheck.Ir

open CoreCheck.Check (isDeclassifier)

mutual

/-- **The names that an expression is made of**, except those that are handed to a call that removes
taint. The target of a call is a text and none of them. -/
def Expr.names : Expr → List String
  | .name _ name => [name]
  | .literal _ _ | .none _ => []
  | .binary _ _ left right => left.names ++ right.names
  | .unary _ _ operand => operand.names
  | .call _ target args _ _ => if isDeclassifier target then [] else namesOfExprs args
  | .construct _ _ fields => namesOfInits fields
  | .member _ base _ => base.names
  | .wrap _ _ inner => inner.names
  | .list _ items => namesOfExprs items
  | .await _ task => task.names

/-- The names that some expressions are made of. -/
def namesOfExprs : List Expr → List String
  | [] => []
  | e :: es => e.names ++ namesOfExprs es

/-- The names that some initialisers are made of. -/
def namesOfInits : List Init → List String
  | [] => []
  | .mk _ _ value :: rest => value.names ++ namesOfInits rest

end

end CoreCheck.Ir

namespace CoreCheck.Check

open CoreCheck.Types CoreCheck.Scope CoreCheck.Ir

/-- The taint of what a name stands for. -/
def State.taintOf (s : State) (name : String) : Option Taint :=
  ((Walk.lookup name).value s).bind (·.2.taint)

/-- **An expression keeps the taint of a name** that it is made of. -/
def KeepsTaint (n : String) (e : Expr) (s : State) : Prop :=
  n ∈ e.names → Taint.Below (s.taintOf n) ((checkExpr e).value s).taint

/-- **A call whose name nothing binds**, and that does not say by a dot or a tag that it leaves the
module. -/
structure CallHead.Unbound (c : CallHead) (s : State) : Prop where
  plain : isDeclassifier c.target = false
  undotted : isDotted c.target = false
  lookup : (Walk.lookup c.target).value s = none
  effect : c.effect = none
  capability : c.capability = none

/-- **A name is tainted in no call of an unbound name** that a task reaches. -/
def UnboundClean (n : String) (x : Start) : Prop :=
  ∀ (c : CallHead) (args : List Expr) (t : State),
    Reaches x (.expr (.call c.span c.target args c.effect c.capability), t) →
    c.Unbound t → n ∈ namesOfExprs args → Taint.Below (t.taintOf n) none

/-! ## The two calls that answer without taint -/

/-- A symbol is never undefined. -/
theorem calledSymbol_ne_undefined (a : Arena) (sym : Symbol) : calledSymbol a sym ≠ .undefined := by
  intro h
  rw [calledSymbol] at h
  split at h
  · cases h
  rw [calledValue] at h
  split at h
  · cases h
  split at h <;> cases h

theorem callee_eq_undefined_iff {c : CallHead} {s : State} :
    (callee c).value s = .undefined ↔ c.Unbound s := by
  rw [value_callee]
  constructor
  · intro h
    split at h
    · cases h
    next hplain =>
    rw [called] at h
    split at h
    · cases h
    next hdot =>
    split at h
    · next hlookup =>
      split at h
      · next htags =>
        rw [Bool.and_eq_true, Option.isNone_iff_eq_none, Option.isNone_iff_eq_none] at htags
        exact ⟨Bool.eq_false_iff.2 hplain, Bool.eq_false_iff.2 hdot, hlookup, htags.1, htags.2⟩
      · cases h
    · exact absurd h (calledSymbol_ne_undefined _ _)
  · intro h
    rw [h.plain, called, h.undotted, h.lookup, h.effect, h.capability]
    rfl

theorem callee_eq_declassifier {c : CallHead} {s : State}
    (h : (callee c).value s = .declassifier) : isDeclassifier c.target = true := by
  rw [value_callee] at h
  split at h
  · assumption
  · exact absurd h (called_ne_declassifier c s)

/-- **Every other call has the taint of its arguments.** -/
theorem below_taint_finishCall (c : CallHead) {callee : Callee} (args : List (Value × Span))
    (s : State) (hclears : callee ≠ .declassifier) (hbound : callee ≠ .undefined) :
    Taint.Below (Value.taintOfAll (args.map (·.1))) ((finishCall c callee args).value s).taint := by
  cases callee with
  | declassifier => exact absurd rfl hclears
  | undefined => exact absurd rfl hbound
  | function sig => exact Taint.below_merge_left _ _
  | value params result => exact Taint.below_merge_left _ _
  | external => exact .refl _
  | notCallable sym => exact .refl _

/-! ## One step up -/

/-- The names that a task over expressions is made of. -/
def Task.names : Task → List String
  | .expr e => e.names
  | .exprs _ es => namesOfExprs es
  | .items _ _ _ es => namesOfExprs es
  | .inits _ _ _ _ is => namesOfInits is
  | _ => []

/-- The taint that a task over expressions answers. -/
def Task.taint (s : State) : Task → Option Taint
  | .expr e => ((checkExpr e).value s).taint
  | .exprs outer es => Value.taintOfAll (((checkExprs outer es).value s).map (·.1))
  | .items outer elem taint es => ((checkItems outer elem taint es).value s).2
  | .inits outer info seen taint is => ((checkInits outer info seen taint is).value s).2
  | _ => none

/-- **A task keeps the taint of a name** that it is made of. -/
def Task.Retains (n : String) (x : Start) : Prop :=
  n ∈ x.1.names → Taint.Below (x.2.taintOf n) (x.1.taint x.2)

/-- Steps that bind nothing change the taint of no name. -/
theorem Quiet.taintOf {s t : State} (h : Quiet s t) (name : String) :
    t.taintOf name = s.taintOf name := by
  rw [State.taintOf, State.taintOf, Walk.value_lookup, Walk.value_lookup, h.eq]

/-- A name keeps its taint in what is made of a task that keeps it. -/
theorem Task.Retains.up {n : String} {y : Start} (h : Task.Retains n y) {s : State}
    (hy : Quiet s y.2) (hn : n ∈ y.1.names) {taint : Option Taint}
    (ht : Taint.Below (y.1.taint y.2) taint) : Taint.Below (s.taintOf n) taint := by
  rw [← hy.taintOf n]
  exact (h hn).trans ht

theorem below_taint_items (outer : Span) (es : List Expr) (elem : Option TypeId)
    (taint : Option Taint) (s : State) :
    Taint.Below taint ((checkItems outer elem taint es).value s).2 := by
  induction es generalizing elem taint s with
  | nil =>
    rw [checkItems]
    exact .refl _
  | cons e es ih =>
    rw [checkItems]
    exact (Taint.below_merge_left _ _).trans (ih _ _ _)

theorem below_taint_inits (outer : Span) (info : Option DataInfo) (is : List Init)
    (seen : List String) (taint : Option Taint) (s : State) :
    Taint.Below taint ((checkInits outer info seen taint is).value s).2 := by
  induction is generalizing seen taint s with
  | nil =>
    rw [checkInits]
    exact .refl _
  | cons i rest ih =>
    obtain ⟨span, name, value⟩ := i
    rw [checkInits]
    cases info <;> exact (Taint.below_merge_left _ _).trans (ih _ _ _)

theorem below_taint_member (span : Span) (v : Value) (field : String) (s : State) :
    Taint.Below v.taint ((checkMember span v field).value s).taint := by
  rw [value_member]
  split
  · exact .refl _
  split
  · exact .refl _
  · exact Taint.below_merge_left _ _

theorem taint_wrap (kind : Wrap) (v : Value) (s : State) :
    ((checkWrap kind v).value s).taint = v.taint := by
  cases kind with
  | some =>
    rw [checkWrap, Walk.value_bind, Walk.value_ite]
    split <;> rfl
  | ok => rfl
  | err => rfl

section

variable {n : String}

/-- **An expression keeps the taint of a name** when its parts do, unless it is a call of an unbound
name. -/
theorem Task.retains_expr (e : Expr) (s : State) (hclean : UnboundClean n (.expr e, s))
    (ih : ∀ y ∈ Task.ofExpr s e, Task.Retains n y) : Task.Retains n (.expr e, s) := by
  have refl : Quiet s s := Walk.Course.refl s
  intro hn
  dsimp only [Task.taint, Task.names] at hn ⊢
  cases e with
  | literal | none => exact nomatch hn
  | name span name =>
    obtain rfl := List.mem_singleton.1 hn
    rw [checkExpr, Walk.value_bind]
    change Taint.Below (((Walk.lookup n).value s).bind (·.2.taint)) _
    cases (Walk.lookup n).value s with
    | none => exact .none _
    | some found => exact .refl _
  | binary span op left right =>
    have hl := ih _ (.head _)
    have hr := ih _ (.tail _ (.head _))
    rw [checkExpr, Walk.value_bind, Walk.value_bind, value_binary]
    obtain hn | hn := List.mem_append.1 hn
    · exact hl.up refl hn (Taint.below_merge_left _ _)
    · exact hr.up (quiet_expr left s) hn (Taint.below_merge_right _ _)
  | unary span op operand =>
    rw [checkExpr, Walk.value_bind, value_unary]
    exact (ih _ (.head _)).up refl hn (.refl _)
  | call span target args effect capability =>
    let c : CallHead := ⟨span, target, effect, capability⟩
    rw [Expr.names] at hn
    have hplain : ¬ isDeclassifier c.target = true := by
      intro hclears
      rw [if_pos hclears] at hn
      exact nomatch hn
    have hargs : n ∈ namesOfExprs args := by rwa [if_neg hplain] at hn
    have hstart : Quiet s ((callee c).after s) := (after_callee c s).symm ▸ refl
    -- of the calls that answer without taint, this can only be the one that is handed none
    by_cases hbound : (callee c).value s = .undefined
    · exact (hclean c args s (.here _) (callee_eq_undefined_iff.1 hbound) hargs).trans (.none _)
    · rw [checkExpr]
      exact (ih _ (.head _)).up hstart hargs (below_taint_finishCall c _ _
        (fun hclears => hplain (callee_eq_declassifier hclears)) hbound)
  | construct span type fields =>
    rw [checkExpr]
    have hstart : Quiet s ((dataType type span).after s) := (reports_dataType type span).quiet s
    exact (ih _ (.head _)).up hstart hn (.refl _)
  | member span base field =>
    rw [checkExpr, Walk.value_bind]
    exact (ih _ (.head _)).up refl hn (below_taint_member span _ field _)
  | wrap span kind inner =>
    rw [checkExpr, Walk.value_bind, taint_wrap]
    exact (ih _ (.head _)).up refl hn (.refl _)
  | list span items =>
    rw [checkExpr]
    exact (ih _ (.head _)).up refl hn (.refl _)
  | await span task =>
    rw [checkExpr]
    exact (ih _ (.head _)).up refl hn (.refl _)

/-- The items that are walked first hand their taint on. -/
theorem Task.retains_items (outer : Span) (elem : Option TypeId) (taint : Option Taint)
    (es : List Expr) (s : State)
    (ih : ∀ y ∈ Task.parts s (.items outer elem taint es), Task.Retains n y) :
    Task.Retains n (.items outer elem taint es, s) := by
  intro hn
  cases es with
  | nil => exact nomatch hn
  | cons e es =>
    dsimp only [Task.taint]
    rw [checkItems]
    obtain hn | hn := List.mem_append.1 hn
    · exact (ih _ (.head _)).up (Walk.Course.refl s) hn
        ((Taint.below_merge_right _ _).trans (below_taint_items outer es _ _ _))
    · exact (ih _ (.tail _ (.head _))).up
        (Walk.Course.trans (quiet_expr e s) ((makes_joinItem _ _ _).quietly _)) hn (.refl _)

theorem Task.retains_inits (outer : Span) (info : Option DataInfo) (seen : List String)
    (taint : Option Taint) (is : List Init) (s : State)
    (ih : ∀ y ∈ Task.parts s (.inits outer info seen taint is), Task.Retains n y) :
    Task.Retains n (.inits outer info seen taint is, s) := by
  intro hn
  cases is with
  | nil => exact nomatch hn
  | cons i rest =>
    obtain ⟨span, name, value⟩ := i
    dsimp only [Task.taint]
    rw [checkInits]
    obtain hfirst | hmore := List.mem_append.1 hn
    · cases info <;> exact (ih _ (.head _)).up (Walk.Course.refl s) hfirst
        ((Taint.below_merge_right _ _).trans (below_taint_inits outer _ rest _ _ _))
    · have hrest := ih _ (.tail _ (.head _))
      cases info with
      | none => exact hrest.up (quiet_expr value s) hmore (.refl _)
      | some info =>
        have hinit := (reports_init info seen name (span.orElse outer) value.span
          ((checkExpr value).value s)).quiet ((checkExpr value).after s)
        exact hrest.up (Walk.Course.trans (quiet_expr value s) hinit) hmore (.refl _)

theorem Task.retains_exprs (outer : Span) (es : List Expr) (s : State)
    (ih : ∀ y ∈ Task.parts s (.exprs outer es), Task.Retains n y) :
    Task.Retains n (.exprs outer es, s) := by
  intro hn
  cases es with
  | nil => exact nomatch hn
  | cons e es =>
    dsimp only [Task.taint]
    rw [checkExprs]
    have hall := Taint.mergeAll_below_iff.1 (.refl (Value.taintOfAll
      ((checkExpr e).value s :: ((checkExprs outer es).value ((checkExpr e).after s)).map (·.1))))
    obtain hn | hn := List.mem_append.1 hn
    · exact (ih _ (.head _)).up (Walk.Course.refl s) hn (hall _ (.head _))
    · exact (ih _ (.tail _ (.head _))).up (quiet_expr e s) hn
        (Taint.mergeAll_below_iff.2 fun t ht => hall t (.tail _ ht))

/-! ## All the way up -/

theorem UnboundClean.of_reaches {x y : Start} (h : UnboundClean n x) (hy : Reaches x y) :
    UnboundClean n y := fun c args t hcall => h c args t (hy.trans hcall)

/-- **A task keeps the taint of a name** that is tainted in no call of an unbound name. -/
theorem Task.retains (x : Start) (hclean : UnboundClean n x) : Task.Retains n x := by
  induction x using Task.induct with
  | h x ih =>
    obtain ⟨task, s⟩ := x
    -- what a part reaches the whole reaches, so the condition passes down to the parts
    have hparts : ∀ y ∈ task.parts s, Task.Retains n y := fun y hy =>
      ih y hy (hclean.of_reaches (.step hy (.here y)))
    cases task with
    | expr e => exact Task.retains_expr e s hclean hparts
    | exprs outer es => exact Task.retains_exprs outer es s hparts
    | items outer elem taint es => exact Task.retains_items outer elem taint es s hparts
    | inits outer info seen taint is => exact Task.retains_inits outer info seen taint is s hparts
    | _ => exact fun hn => nomatch hn

end

/-- A call of an unbound name has no taint at all. -/
theorem taint_of_unbound {c : CallHead} {s : State} (h : c.Unbound s) (args : List Expr) :
    ((checkExpr (.call c.span c.target args c.effect c.capability)).value s).taint = none := by
  rw [checkExpr, Walk.value_bind, callee_eq_undefined_iff.2 h]
  rfl

/-- **The taint of a name is kept everywhere in an expression exactly if no call of an unbound name
in it is handed the name with taint.** -/
theorem keepsTaint_iff_unboundClean (n : String) (e : Expr) (s : State) :
    (∀ e' t, Reaches (.expr e, s) (.expr e', t) → KeepsTaint n e' t) ↔
      UnboundClean n (.expr e, s) := by
  constructor
  · intro h c args t hreach hc hn
    have hkeeps := h _ t hreach
    rw [KeepsTaint, taint_of_unbound hc args, Expr.names,
      if_neg (Bool.eq_false_iff.1 hc.plain)] at hkeeps
    exact hkeeps hn
  · intro h e' t hreach
    exact Task.retains (.expr e', t) (h.of_reaches hreach)

/-- A function that writes what a call of an unbound name makes of an address. -/
def writesMissing : Module := moduleOf [.func <| funcOf "f"
  [("mail", .pii {} (.name {} "Text") .l3 "email")] none .io
  [.eval {} (.call {} "Log.write" [.call {} "missing" [.name {} "mail"] none none] none none)]]

/-- **An address that is handed to an unbound name is written down unseen.** -/
theorem not_keepsTaint_writesMissing :
    (∀ d ∈ (checkModule {} writesMissing).diagnostics, d.code ≠ .piiLeak) ∧
      ∃ b ∈ (survey writesMissing).bodies, ∃ s,
        b.Meets writesMissing (.expr (.call {} "missing" [.name {} "mail"] none none), s) ∧
        ¬ KeepsTaint "mail" (.call {} "missing" [.name {} "mail"] none none) s := by
  refine ⟨by decide +kernel, _, .head _, _,
    .step (.head _) (.step (.head _) (.step (.head _) (.step (.head _) (.step (.head _) (.here _))))),
    fun h => ?_⟩
  have hmail := h (.head _)
  revert hmail
  decide +kernel

end CoreCheck.Check

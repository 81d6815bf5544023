import CoreCheck.Proofs.Levels.Kept
import CoreCheck.Proofs.Passage.Owners

/-!
# Proofs/Levels/Written — levels are never made up

Types, statements and declarations bring in the levels that are written in them, and no others.  So
what flows into any call of a module is not sensitive, or of a level that is written in the module.
-/

namespace CoreCheck

namespace Ir

mutual

/-- The levels that are written in a type. -/
def TypeExpr.levels : TypeExpr → List Level
  | .name _ _ | .var _ _ => []
  | .optional _ elem | .list _ elem => elem.levels
  | .map _ key value => key.levels ++ value.levels
  | .result _ ok err => ok.levels ++ err.levels
  | .func _ params ret => levelsOfTypes params ++ levelsOfResult ret
  | .pii _ elem level _ => level :: elem.levels

def levelsOfTypes : List TypeExpr → List Level
  | [] => []
  | t :: ts => t.levels ++ levelsOfTypes ts

def levelsOfResult : Option TypeExpr → List Level
  | none => []
  | some t => t.levels

end

mutual

/-- The levels that are written in a statement. -/
def Stmt.levels : Stmt → List Level
  | .bind _ _ type _ => levelsOfResult type
  | .branch _ _ yes no => levelsOfBlock yes ++ levelsOfElse no
  | .select _ _ cases => levelsOfCases cases
  | .scope _ body => levelsOfBlock body
  | _ => []

def levelsOfBlock : List Stmt → List Level
  | [] => []
  | s :: ss => s.levels ++ levelsOfBlock ss

def levelsOfElse : Option (List Stmt) → List Level
  | none => []
  | some body => levelsOfBlock body

def levelsOfCases : List Case → List Level
  | [] => []
  | .mk _ _ body :: rest => levelsOfBlock body ++ levelsOfCases rest

end

/-- The levels that are written in the types of some names. -/
def levelsOfNames (ns : List TypedName) : List Level := ns.flatMap (·.type.levels)

/-- The levels that are written in a declaration. -/
def Decl.levels : Decl → List Level
  | .func f => levelsOfNames f.params ++ levelsOfResult f.ret ++ levelsOfBlock f.body
  | .data _ _ fields => levelsOfNames fields
  | .alias _ _ target => target.levels
  | .enum _ _ _ | .imported _ _ => []

/-- **The levels that are written in a module.** -/
def Module.levels (m : Module) : List Level := m.decls.flatMap Decl.levels

end Ir

namespace Check

open CoreCheck.Types CoreCheck.Scope CoreCheck.Ir

variable {P : Level → Prop}

/-! ## Written types -/

section Resolve

variable {find : Resolver}

mutual

/-- **A written type is marked with the levels that are written in it.** -/
theorem stays_resolveType (hfind : ∀ name, Stays P (find name)) (vars : List String)
    (fallback : Span) : ∀ t : TypeExpr, (∀ l ∈ t.levels, P l) →
    Stays P (resolveType find vars fallback t)
  | .name at_ name, _ => by
    rw [resolveType]
    refine .ite (stays_var name) (.bind (hfind name) fun found _ => ?_)
    cases found with
    | some id => exact .pure trivial
    | none => exact .bind (reports_unknownType _ _).stays fun _ _ => .pure trivial
  | .var _ name, _ => by
    rw [resolveType]
    exact stays_var name
  | .optional at_ elem, h => by
    rw [resolveType]
    exact .bind (stays_resolveType hfind vars _ elem h) fun _ _ => .look (fun _ => rfl) fun _ =>
      .ite (.pure trivial) (stays_intern fun _ => rfl)
  | .list at_ elem, h => by
    rw [resolveType]
    exact .bind (stays_resolveType hfind vars _ elem h) fun _ _ => stays_intern fun _ => rfl
  | .map at_ key value, h => by
    obtain ⟨hk, hv⟩ := List.forall_mem_append.1 h
    rw [resolveType]
    exact .bind (stays_resolveType hfind vars _ key hk) fun _ _ =>
      .bind (stays_resolveType hfind vars _ value hv) fun _ _ => stays_intern fun _ => rfl
  | .result at_ ok err, h => by
    obtain ⟨hok, herr⟩ := List.forall_mem_append.1 h
    rw [resolveType]
    exact .bind (stays_resolveType hfind vars _ ok hok) fun _ _ =>
      .bind (stays_resolveType hfind vars _ err herr) fun _ _ => stays_intern fun _ => rfl
  | .func at_ params ret, h => by
    obtain ⟨hps, hret⟩ := List.forall_mem_append.1 h
    rw [resolveType]
    exact .bind (stays_resolveTypes hfind vars _ params hps) fun _ _ =>
      .bind (stays_resolveResult hfind vars _ ret hret) fun _ _ => stays_func _ _
  | .pii at_ elem level category, h => by
    obtain ⟨hl, helem⟩ := List.forall_mem_cons.1 h
    rw [resolveType]
    exact .bind (stays_resolveType hfind vars _ elem helem) fun base _ =>
      stays_make fun a ha => ha.pii hl base category

theorem stays_resolveTypes (hfind : ∀ name, Stays P (find name)) (vars : List String)
    (fallback : Span) : ∀ ts : List TypeExpr, (∀ l ∈ levelsOfTypes ts, P l) →
    Stays P (resolveTypes find vars fallback ts)
  | [], _ => by
    rw [resolveTypes]
    exact .pure trivial
  | t :: ts, h => by
    obtain ⟨ht, hts⟩ := List.forall_mem_append.1 h
    rw [resolveTypes]
    exact .bind (stays_resolveType hfind vars fallback t ht) fun _ _ =>
      .bind (stays_resolveTypes hfind vars fallback ts hts) fun _ _ => .pure trivial

theorem stays_resolveResult (hfind : ∀ name, Stays P (find name)) (vars : List String)
    (fallback : Span) : ∀ t : Option TypeExpr, (∀ l ∈ levelsOfResult t, P l) →
    Stays P (resolveResult find vars fallback t)
  | none, _ => by
    rw [resolveResult]
    exact .pure trivial
  | some t, h => by
    rw [resolveResult]
    exact stays_resolveType hfind vars fallback t h

end

end Resolve

theorem stays_tableResolver (name : String) : Stays P (tableResolver name) := fun _ h => ⟨h, trivial⟩

/-! ## Statements -/

section Statements

theorem yields_bindingOf (hnone : P .none) (fn : Enclosing) (span : Span) (name : String)
    {written : Option TypeExpr} (hw : ∀ l ∈ levelsOfResult written, P l) {v : Value}
    (hv : v.Meets P) : Yields P (bindingOf fn span name written v) (Value.Meets P) := by
  cases written with
  | some t =>
    intro s h
    obtain ⟨htype, -⟩ := stays_resolveType stays_tableResolver fn.typeParams fn.span t hw s h
    refine ⟨htype.reports (reports_bindingOf fn span name t v s), ?_⟩
    rw [value_bindingOf_some]
    exact Taint.levelOf_merge hv (htype.types.taintOf hnone _)
  | none =>
    exact .look (fun _ => rfl) fun _ => .ite (.bind (stays_intern fun _ => rfl) fun _ _ => .pure hv)
      (.pure hv)

theorem stays_assign (span at_ : Span) (name : String) {v : Value} (hv : v.Meets P) :
    Stays P (assign span at_ name v) := by
  intro s h
  refine ⟨?_, trivial⟩
  obtain ⟨-, hr⟩ | ⟨id, sym, -, ⟨-, hr⟩ | ⟨-, t, hr, he⟩⟩ := assign_cases span at_ name v s
  · exact h.reports hr
  · exact h.reports hr
  · rw [he]
    exact (stays_update id (fun _ hsym => Taint.levelOf_merge hsym hv) t (h.reports hr)).1

theorem stays_awaitTasks (span : Span) : ∀ names : List String, Stays P (awaitTasks span names)
  | [] => .pure trivial
  | name :: names => by
    have hrest := stays_awaitTasks span names
    rw [awaitTasks]
    exact .lookup name (.bind (reports_undefined _ _).stays fun _ _ => hrest) fun id sym _ =>
      .ite (.bind (stays_update id fun _ hsym => hsym) fun _ _ => hrest)
        (.bind (reports_error _ _ _ rfl).stays fun _ _ => hrest)

theorem stays_visits (keyword about : String) : Stays P (Walk.observe (.visits keyword about)) :=
  stays_observe _ fun _ he => nomatch he

theorem stays_suspends (span : Span) (cause : String) :
    Stays P (Walk.observe (.suspends span cause)) := stays_observe _ fun _ he => nomatch he

mutual

/-- **A statement keeps the levels**, if those that are written in it are right. -/
theorem stays_stmt (hnone : P .none) (fn : Enclosing) : ∀ st : Stmt, (∀ l ∈ st.levels, P l) →
    Stays P (checkStmt fn st)
  | .bind span name type value, h => by
    rw [checkStmt]
    exact .bind (stays_visits _ _) fun _ _ => .bind (yields_expr hnone value) fun v hv =>
      .bind (yields_bindingOf hnone fn _ name h hv) fun w hw =>
        .bind (stays_define name hw _) fun _ _ => .pure trivial
  | .set span name value, _ => by
    rw [checkStmt]
    exact .bind (stays_visits _ _) fun _ _ => .bind (yields_expr hnone value) fun v hv =>
      .bind (stays_assign _ _ name hv) fun _ _ => .pure trivial
  | .ret span none, _ => by
    rw [checkStmt]
    exact .bind (stays_visits _ _) fun _ _ => .bind (reports_bareReturn _ _).stays fun _ _ =>
      .pure trivial
  | .ret span (some value), _ => by
    rw [checkStmt]
    exact .bind (stays_visits _ _) fun _ _ => .bind (yields_expr hnone value) fun v _ =>
      .bind (reports_return _ _ _).stays fun _ _ => .pure trivial
  | .eval _ value, _ => by
    rw [checkStmt]
    exact .bind (yields_expr hnone value) fun _ _ => .pure trivial
  | .branch span cond yes no, h => by
    obtain ⟨hyes, hno⟩ := List.forall_mem_append.1 h
    rw [checkStmt]
    exact .bind (stays_visits _ _) fun _ _ => .bind (yields_expr hnone cond) fun _ _ =>
      .bind (reports_condition _ _).stays fun _ _ =>
        .bind ((stays_block hnone fn yes hyes).within _ _) fun _ _ =>
          .bind (stays_else hnone fn span no hno) fun _ _ => .pure trivial
  | .select span scrutinee cases, h => by
    rw [checkStmt]
    exact .bind (stays_visits _ _) fun _ _ => .bind (yields_expr hnone scrutinee) fun v hv =>
      .bind (stays_cases hnone fn span hv cases h) fun _ _ => .look (fun _ => rfl) fun _ =>
        .pure trivial
  | .scope span body, h => by
    rw [checkStmt]
    exact (stays_block hnone fn body h).within _ _
  | .start span name task, _ => by
    rw [checkStmt]
    exact .bind (stays_visits _ _) fun _ _ => .bind (yields_expr hnone task) fun v hv =>
      .bind (stays_suspends _ _) fun _ _ => .bind (stays_define name hv _) fun _ _ => .pure trivial
  | .wait span names, _ => by
    rw [checkStmt]
    exact .bind (stays_visits _ _) fun _ _ => .bind (stays_suspends _ _) fun _ _ =>
      .bind (stays_awaitTasks _ _) fun _ _ => .pure trivial

theorem stays_block (hnone : P .none) (fn : Enclosing) : ∀ ss : List Stmt,
    (∀ l ∈ levelsOfBlock ss, P l) → Stays P (checkBlock fn ss)
  | [], _ => by
    rw [checkBlock]
    exact .pure trivial
  | st :: ss, h => by
    obtain ⟨hst, hss⟩ := List.forall_mem_append.1 h
    rw [checkBlock]
    exact .bind (stays_stmt hnone fn st hst) fun _ _ => .bind (stays_block hnone fn ss hss)
      fun _ _ => .pure trivial

theorem stays_else (hnone : P .none) (fn : Enclosing) (span : Span) : ∀ no : Option (List Stmt),
    (∀ l ∈ levelsOfElse no, P l) → Stays P (checkElse fn span no)
  | none, _ => by
    rw [checkElse]
    exact .pure trivial
  | some body, h => by
    rw [checkElse]
    exact (stays_block hnone fn body h).within _ _

theorem stays_cases (hnone : P .none) (fn : Enclosing) (outer : Span) {v : Value} (hv : v.Meets P) :
    ∀ cs : List Case, (∀ l ∈ levelsOfCases cs, P l) → Stays P (checkCases fn outer v cs)
  | [], _ => by
    rw [checkCases]
    exact .pure trivial
  | .mk span pattern body :: rest, h => by
    obtain ⟨hbody, hrest⟩ := List.forall_mem_append.1 h
    rw [checkCases]
    refine .bind (Yields.within (Q := fun _ => True) ?_ _ _) fun _ _ =>
      .bind (stays_cases hnone fn outer hv rest hrest) fun _ _ => .pure trivial
    exact .bind (stays_pattern hnone _ _ hv pattern) fun _ _ =>
      .bind (stays_block hnone fn body hbody) fun _ _ => .pure trivial

end

theorem stays_defineParams (hnone : P .none) : ∀ ps : List Param, Stays P (defineParams ps)
  | [] => .pure trivial
  | p :: ps => by
    rw [defineParams]
    exact .types fun a ha => .bind (stays_define _ (ha.taintOf hnone _) _) fun _ _ =>
      stays_defineParams hnone ps

theorem stays_ending (f : Func) (result : TypeId) (closed : Bool) :
    Stays P (ending f result closed) := by
  intro s h
  rw [after_ending]
  split
  · exact ⟨⟨h.types, h.symbols, fun owner site hsite => h.calls owner site (by simpa [Walk.report] using hsite)⟩,
      trivial⟩
  · exact ⟨h, trivial⟩

/-- **A body keeps the levels.** -/
theorem stays_walkBody (hnone : P .none) (f : Func) (sig : Signature)
    (h : ∀ l ∈ levelsOfBlock f.body, P l) : Stays P (walkBody f sig) := by
  unfold walkBody
  exact Yields.within (.bind (stays_defineParams hnone _) fun _ _ =>
    .bind (stays_block hnone _ f.body h) fun closed _ => stays_ending f sig.result closed)
    _ _

end Statements

/-! ## Declarations -/

section Declarations

/-- A step on behalf of a declaration. -/
theorem Yields.ownedBy {α : Type} {x : Walk α} {Q : α → Prop} (hx : Yields P x Q) (i : Nat) :
    Yields P (Walk.ownedBy i x) Q := by
  intro s h
  obtain ⟨hstep, hq⟩ := hx { s with owner := some i } ⟨h.types, h.symbols, h.calls⟩
  exact ⟨⟨hstep.types, hstep.symbols, hstep.calls⟩, hq⟩

/-- A step that changes something else. -/
theorem stays_modify {f : State → State} (ht : ∀ s, (f s).types = s.types)
    (hs : ∀ s, (f s).table = s.table) (hl : ∀ s, (f s).log = s.log) :
    Stays P (modify f : Walk PUnit) := by
  refine fun s h => ⟨⟨?_, ?_, ?_⟩, trivial⟩
  · rw [Walk.after_modify, ht]
    exact h.types
  · rw [Walk.after_modify, hs]
    exact h.symbols
  · rw [Walk.after_modify, hl]
    exact h.calls

theorem stays_aliasResolver {targets : List AliasTarget}
    (ht : ∀ t ∈ targets, ∀ l ∈ t.target.levels, P l) :
    ∀ (fuel : Nat) (name : String), Stays P (aliasResolver targets fuel name)
  | 0, _ => .pure trivial
  | fuel + 1, name => by
    rw [aliasResolver]
    cases hfind : targets.find? (·.name = name) with
    | none => exact .look (fun _ => rfl) fun _ => .pure trivial
    | some t =>
      refine .look (fun _ => rfl) fun s => ?_
      split
      · exact .look (fun _ => rfl) fun _ => .pure trivial
      · exact .bind (Yields.ownedBy (reports_report .unknownType rfl rfl).stays _) fun _ _ => .pure trivial
      · refine .bind (stays_modify (fun _ => rfl) (fun _ => rfl) fun _ => rfl) fun _ _ => ?_
        have htarget := stays_resolveType (stays_aliasResolver ht fuel) [] t.span t.target
          (ht t (List.mem_of_find?_eq_some hfind))
        exact .bind (htarget.ownedBy _) fun _ _ =>
          .bind (stays_modify (fun _ => rfl) (fun _ => rfl) fun _ => rfl) fun _ _ => .pure trivial

theorem stays_registerName (known : TypeNames) (i : Nat) (name : String) (span : Span)
    (id : TypeId) : Stays P (registerName known i name span id) := by
  unfold registerName
  refine .ite (.bind (reports_error _ _ _ rfl).stays fun _ _ => .pure trivial)
    (.look (fun _ => rfl) fun s => ?_)
  split
  · exact .bind (reports_duplicate _ _ _ _).stays fun _ _ => .pure trivial
  · exact .bind (stays_modify (fun _ => rfl) (fun _ => rfl) fun _ => rfl) fun _ _ => .pure trivial

theorem stays_declareType (known : TypeNames) (i : Nat) (d : Decl) :
    Stays P (declareType known i d) := by
  refine Yields.ownedBy ?_ i
  cases d with
  | data span name fields =>
    exact .bind (stays_make fun a ha => ha.newData name span) fun _ _ =>
      .bind (stays_registerName _ _ _ _ _) fun _ _ => .pure trivial
  | enum span name variants =>
    exact .bind (stays_make fun a ha => ha.newEnum name span variants) fun _ _ =>
      .bind (reports_repeats _ _ _).stays fun _ _ =>
        .bind (stays_registerName _ _ _ _ _) fun _ _ => .pure trivial
  | «alias» span name target =>
    exact .bind (stays_registerName _ _ _ _ _) fun _ _ => .pure trivial
  | func f => exact .pure trivial
  | imported span name => exact .pure trivial

theorem stays_declareTypes : ∀ (ds : List (Decl × Nat)) (known : TypeNames),
    Stays P (declareTypes known ds)
  | [], _ => .pure trivial
  | (d, i) :: ds, known => by
    rw [declareTypes]
    exact .bind (stays_declareType known i d) fun _ _ => .bind (stays_declareTypes ds _) fun _ _ =>
      .pure trivial

theorem stays_resolveFields {find : Resolver} (hfind : ∀ name, Stays P (find name)) (owner : Span) :
    ∀ fs : List TypedName, (∀ l ∈ levelsOfNames fs, P l) → ∀ seen : List (String × Span),
    Stays P (resolveFields find owner seen fs)
  | [], _, _ => .pure trivial
  | f :: fs, h, seen => by
    obtain ⟨hf, hfs⟩ := List.forall_mem_append.1 h
    rw [resolveFields]
    split
    · exact .bind (reports_duplicate _ _ _ _).stays fun _ _ =>
        stays_resolveFields hfind owner fs hfs _
    · exact .bind (stays_resolveType hfind [] owner f.type hf) fun _ _ =>
        .bind (stays_resolveFields hfind owner fs hfs _) fun _ _ => .pure trivial

theorem stays_resolveDecl {targets : List AliasTarget}
    (ht : ∀ t ∈ targets, ∀ l ∈ t.target.levels, P l) (e : Decl × Nat × Option TypeId)
    (he : ∀ l ∈ e.1.levels, P l) : Stays P (resolveDecl targets e) := by
  have hfind : ∀ name, Stays P (onDemand targets name) := stays_aliasResolver ht _
  obtain ⟨d, i, id⟩ := e
  cases d with
  | «alias» span name target =>
    rw [resolveDecl]
    exact .ite (.bind (hfind name) fun _ _ => .pure trivial)
      (.bind ((stays_resolveType hfind [] span target he).ownedBy i) fun _ _ => .pure trivial)
  | data span name fields =>
    cases id with
    | none => exact .pure trivial
    | some id =>
      refine Yields.ownedBy (.bind (stays_resolveFields hfind span fields he []) fun fs _ => ?_) i
      exact fun s h => ⟨⟨h.types.setFields id fs, h.symbols, h.calls⟩, trivial⟩
  | enum span name variants => exact .pure trivial
  | func f => exact .pure trivial
  | imported span name => exact .pure trivial

theorem stays_resolveDecls {targets : List AliasTarget}
    (ht : ∀ t ∈ targets, ∀ l ∈ t.target.levels, P l) :
    ∀ ds : List (Decl × Nat × Option TypeId), (∀ e ∈ ds, ∀ l ∈ e.1.levels, P l) →
    Stays P (ds.forM (resolveDecl targets))
  | [], _ => .pure trivial
  | e :: ds, h => .bind (stays_resolveDecl ht e (h e (.head _))) fun _ _ =>
      stays_resolveDecls ht ds fun e he => h e (.tail _ he)

theorem stays_collectTypes {ds : List (Decl × Nat)} (h : ∀ e ∈ ds, ∀ l ∈ e.1.levels, P l) :
    Stays P (collectTypes ds) := by
  have htargets : ∀ known, ∀ t ∈ aliasTargets known ds, ∀ l ∈ t.target.levels, P l := by
    intro known t ht
    obtain ⟨⟨d, i⟩, hmem, ht⟩ := List.mem_filterMap.1 ht
    cases d with
    | «alias» span name target =>
      simp only [Option.ite_none_right_eq_some] at ht
      obtain rfl := Option.some.inj ht.2
      exact h _ hmem
    | _ => exact nomatch ht
  intro s hs
  obtain ⟨hmid, -⟩ := stays_declareTypes ds [] s hs
  refine ⟨(stays_resolveDecls (htargets _) _ ?_ _ hmid).1, trivial⟩
  exact fun e he => h _ (index_mem_declareTypes ds [] s e he)

theorem stays_defineVariants (hnone : P .none) (span : Span) (type : TypeId) :
    ∀ vs : List String, Stays P (defineVariants span type vs)
  | [] => .pure trivial
  | v :: vs => by
    rw [defineVariants]
    have hrest := stays_defineVariants hnone span type vs
    exact .look (fun _ => rfl) fun _ => .ite hrest (.bind (stays_define v hnone _) fun _ _ => hrest)

theorem stays_resolveParams (vars : List String) (owner : Span) :
    ∀ ps : List TypedName, (∀ l ∈ levelsOfNames ps, P l) →
    Stays P (resolveParams tableResolver vars owner ps)
  | [], _ => .pure trivial
  | p :: ps, h => by
    obtain ⟨hp, hps⟩ := List.forall_mem_append.1 h
    rw [resolveParams]
    exact .bind (stays_resolveType stays_tableResolver vars _ p.type hp) fun _ _ =>
      .bind (stays_resolveParams vars owner ps hps) fun _ _ => .pure trivial

theorem stays_declareValue (hnone : P .none) (known : TypeNames) (d : Decl) (i : Nat)
    (h : ∀ l ∈ d.levels, P l) : Stays P (declareValue known d i) := by
  refine Yields.ownedBy ?_ i
  cases d with
  | func f =>
    obtain ⟨hsig, -⟩ := List.forall_mem_append.1 h
    obtain ⟨hps, hret⟩ := List.forall_mem_append.1 hsig
    have hsignature : Stays P (signatureOf f) :=
      .bind (stays_resolveParams _ _ _ hps) fun _ _ =>
        .bind (stays_resolveResult stays_tableResolver _ _ f.ret hret) fun _ _ => .pure trivial
    exact .bind hsignature fun _ _ => .bind (stays_func _ _) fun _ _ =>
      .bind (stays_define _ hnone _) fun _ _ => .pure trivial
  | enum span name variants =>
    exact .ite (.look (fun _ => rfl) fun _ => .bind (stays_defineVariants hnone _ _ _) fun _ _ =>
      .pure trivial) (.pure trivial)
  | imported span name => exact .bind (stays_define _ hnone _) fun _ _ => .pure trivial
  | data span name fields => exact .pure trivial
  | «alias» span name target => exact .pure trivial

theorem stays_declareValues (hnone : P .none) (known : TypeNames) : ∀ ds : List (Decl × Nat),
    (∀ e ∈ ds, ∀ l ∈ e.1.levels, P l) → Stays P (declareValues known ds)
  | [], _ => .pure trivial
  | (d, i) :: ds, h => by
    rw [declareValues]
    exact .bind (stays_declareValue hnone known d i (h (d, i) (.head _))) fun _ _ =>
      .bind (stays_declareValues hnone known ds fun e he => h e (.tail _ he)) fun _ _ =>
        .pure trivial

/-- **Collecting declarations keeps the levels.** -/
theorem levels_declared (hnone : P .none) {m : Module} (h : ∀ l ∈ m.levels, P l) :
    Levels P (survey m).declared := by
  have hdecls : ∀ e ∈ m.decls.zipIdx, ∀ l ∈ e.1.levels, P l := by
    intro e he l hl
    have hmem := List.mem_of_getElem? (List.mem_zipIdx_iff_getElem?.1 he)
    exact h l (List.mem_flatMap.2 ⟨e.1, hmem, hl⟩)
  have hinitial : Levels P {} :=
    ⟨Arena.marks_initial, fun _ hx => absurd hx (Array.not_mem_empty _),
      fun _ _ hx => absurd hx (Array.not_mem_empty _)⟩
  have hdeclare : Stays P (declare m.decls) :=
    .bind (stays_collectTypes hdecls) fun known _ => stays_declareValues hnone known _ hdecls
  exact (hdeclare {} hinitial).1

end Declarations

/-- **Levels are never made up**: what flows into a call is not sensitive, or of a level that is
written in the module. -/
theorem level_of_call {m : Module} {b : Body} (hb : b ∈ (survey m).bodies) {site : CallSite}
    (hsite : .call site ∈ b.log) :
    Taint.levelOf site.taint = .none ∨ Taint.levelOf site.taint ∈ m.levels := by
  have hdeclared : Levels (fun l => l = .none ∨ l ∈ m.levels) (survey m).declared :=
    levels_declared (.inl rfl) fun l hl => .inr hl
  have hstart : Levels (fun l => l = .none ∨ l ∈ m.levels) ((survey m).start b) :=
    ⟨hdeclared.types, hdeclared.symbols, fun _ _ hx => absurd hx (Array.not_mem_empty _)⟩
  have hbody : ∀ l ∈ levelsOfBlock b.func.body, l = .none ∨ l ∈ m.levels := by
    intro l hl
    have hmem := List.mem_of_getElem? (List.mem_zipIdx_iff_getElem?.1 (mem_bodies hb).1)
    exact .inr (List.mem_flatMap.2 ⟨_, hmem, List.mem_append_right _ hl⟩)
  obtain ⟨hend, -⟩ := stays_walkBody (.inl rfl) b.func b.signature hbody _ hstart
  refine hend.calls (some b.index) site (Array.mem_toList_iff.1 ?_)
  rw [logGrows_body hb]
  exact List.mem_append_right _ (List.mem_map.2 ⟨_, hsite, rfl⟩)

end Check

end CoreCheck

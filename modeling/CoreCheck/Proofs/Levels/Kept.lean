import CoreCheck.Proofs.Walk.Declared
import CoreCheck.Proofs.Walk.Values

/-!
# Proofs/Levels/Kept — steps that make no level up

The higher of two levels is one of the two.  So a condition on levels that the marks of all types,
all symbols and all calls so far meet, is met after a step as well, and by what the step answers
(`Yields`).  One rule for each way to put steps together, and then expressions and patterns.
-/

namespace CoreCheck

variable {P : Level → Prop}

theorem Taint.levelOf_merge {a b : Option Taint} (ha : P (levelOf a)) (hb : P (levelOf b)) :
    P (levelOf (merge a b)) := by
  cases a with
  | none => exact hb
  | some a =>
    cases b with
    | none => exact ha
    | some b =>
      rw [merge]
      split
      · exact ha
      · change P (a.level.max b.level)
        rw [Level.max]
        split
        · exact ha
        · exact hb

theorem Taint.levelOf_foldl {ts : List (Option Taint)} (hts : ∀ t ∈ ts, P (levelOf t)) :
    ∀ {a : Option Taint}, P (levelOf a) → P (levelOf (ts.foldl merge a)) := by
  induction ts with
  | nil => exact fun ha => ha
  | cons t ts ih =>
    intro a ha
    exact ih (fun u hu => hts u (.tail _ hu)) (levelOf_merge ha (hts t (.head _)))

namespace Types.Arena

variable {a : Arena}

/-- The levels that types are marked with meet a condition. -/
def Marks (P : Level → Prop) (a : Arena) : Prop :=
  ∀ base level category, .pii base level category ∈ a.shapes → P level

theorem marks_initial : Marks P .initial := by
  intro base level category h
  simp [initial] at h

theorem Marks.intern (h : a.Marks P) {s : Shape}
    (hs : ∀ base level category, s = .pii base level category → P level) :
    (a.intern s).1.Marks P := by
  unfold Arena.intern
  split
  · exact h
  · intro base level category hmem
    obtain hmem | hmem := Array.mem_push.1 hmem
    · exact h base level category hmem
    · exact hs base level category hmem.symm

theorem Marks.pii (h : a.Marks P) {level : Level} (hl : P level) (base : TypeId)
    (category : String) : (a.pii base level category).1.Marks P := by
  rw [pii_eq_intern]
  refine Marks.intern (a := a.note category) h ?_
  rintro _ _ _ ⟨⟩
  unfold markedLevel
  split
  · next inner l c hlook =>
    rw [Level.max]
    split
    · exact hl
    · exact h _ _ _ (mem_shapes_of_lookup hlook)
  · exact hl

theorem Marks.newData (h : a.Marks P) (name : String) (span : Span) :
    (a.newData name span).1.Marks P :=
  Marks.intern (a := { a with datas := a.datas.push { name, span } }) h fun _ _ _ hs => nomatch hs

theorem Marks.newEnum (h : a.Marks P) (name : String) (span : Span) (variants : List String) :
    (a.newEnum name span variants).1.Marks P :=
  Marks.intern (a := { a with enums := a.enums.push { name, span, variants } }) h
    fun _ _ _ hs => nomatch hs

theorem Marks.setFields (h : a.Marks P) (id : TypeId) (fields : List Field) :
    (a.setFields id fields).Marks P := by
  unfold Arena.setFields
  split
  · exact h
  · exact h

theorem Marks.join (h : a.Marks P) (s t : TypeId) : (a.join s t).1.Marks P := by
  obtain ⟨i, -, he | he⟩ | he := a.join_cases s t
  · rwa [he]
  · rw [he]
    exact h.intern fun _ _ _ hs => nomatch hs
  · rwa [he]

/-- **The taint of a type is of a level that some type is marked with.** -/
theorem Marks.taintOf (hnone : P .none) (h : a.Marks P) (id : TypeId) :
    P (Taint.levelOf (a.taintOf id)) := by
  induction id using Nat.strongRecOn with
  | ind id ih =>
    have hpart : ∀ e, P (Taint.levelOf (if _h : e < id then a.taintOf e else none)) := by
      intro e
      split
      · next he => exact ih e he
      · exact hnone
    rw [Arena.taintOf]
    split
    · next hl => exact h _ _ _ (mem_shapes_of_lookup hl)
    · exact hpart _
    · exact hpart _
    · exact Taint.levelOf_merge (hpart _) (hpart _)
    · exact hnone

end Types.Arena

namespace Check

open CoreCheck.Types CoreCheck.Scope CoreCheck.Ir

/-- **The levels that a state knows meet a condition**: the marks of types, the taints of symbols and
those of the calls that were seen. -/
structure Levels (P : Level → Prop) (s : State) : Prop where
  types : s.types.Marks P
  symbols : ∀ sym ∈ s.table.symbols, P (Taint.levelOf sym.taint)
  calls : ∀ owner site, (owner, .call site) ∈ s.log → P (Taint.levelOf site.taint)

/-- **A step keeps the levels**, and what it answers is as it should be. -/
def Yields (P : Level → Prop) {α : Type} (x : Walk α) (Q : α → Prop) : Prop :=
  ∀ s, Levels P s → Levels P (x.after s) ∧ Q (x.value s)

/-- A step keeps the levels. -/
abbrev Stays (P : Level → Prop) {α : Type} (x : Walk α) : Prop := Yields P x fun _ => True

/-- The level of a value meets the condition. -/
def Value.Meets (P : Level → Prop) (v : Value) : Prop := P (Taint.levelOf v.taint)

theorem Levels.reports {s t : State} (h : Levels P s) (hr : Reports s t) : Levels P t := by
  refine ⟨hr.types ▸ h.types, hr.table ▸ h.symbols, fun owner site hmem => ?_⟩
  obtain ⟨ds, hds, -⟩ := hr.grows
  rw [← Array.mem_toList_iff, hds] at hmem
  obtain hmem | hmem := List.mem_append.1 hmem
  · exact h.calls owner site (Array.mem_toList_iff.1 hmem)
  · simp at hmem

namespace Yields

variable {α β : Type} {x : Walk α} {f : α → Walk β} {Q Q' : α → Prop} {R : β → Prop}

theorem pure {a : α} (ha : Q a) : Yields P (Pure.pure a) Q := fun _ h => ⟨h, ha⟩

/-- **One step after the other.** -/
theorem bind (hx : Yields P x Q) (hf : ∀ a, Q a → Yields P (f a) R) : Yields P (x >>= f) R := by
  intro s h
  obtain ⟨hmid, hq⟩ := hx s h
  exact hf _ hq _ hmid

theorem ite {c : Prop} [Decidable c] {y : Walk α} (hx : Yields P x Q) (hy : Yields P y Q) :
    Yields P (if c then x else y) Q := by split <;> assumption

/-- A step that only looks at the state, and what follows it. -/
theorem look (hx : ∀ s, x.after s = s) (hf : ∀ a, Yields P (f a) R) : Yields P (x >>= f) R :=
  bind (Q := fun _ => True) (fun s h => ⟨(hx s).symm ▸ h, trivial⟩) fun a _ => hf a

/-- **The types are looked at**: their marks meet the condition. -/
theorem types {f : Arena → Walk β} (hf : ∀ a, a.Marks P → Yields P (f a) R) :
    Yields P (Walk.types >>= f) R :=
  bind (Q := Arena.Marks P) (fun _ h => ⟨h, h.types⟩) hf

/-- A name is looked up: what it stands for meets the condition. -/
theorem lookup (name : String) {f : Option (Nat × Symbol) → Walk β} (hnone : Yields P (f none) R)
    (hsome : ∀ id sym, P (Taint.levelOf sym.taint) → Yields P (f (some (id, sym))) R) :
    Yields P (Walk.lookup name >>= f) R := by
  intro s h
  rw [Walk.after_bind, Walk.value_bind, Walk.after_lookup]
  cases hl : (Walk.lookup name).value s with
  | none => exact hnone s h
  | some found =>
    obtain ⟨id, sym⟩ := found
    refine hsome id sym (h.symbols sym ?_) s h
    exact Table.mem_symbols_of_symbol? (symbol?_of_lookup hl)

/-- A step that only reports. -/
theorem reports (hx : Walk.Keeps Reports x) (hq : ∀ s, Levels P s → Q (x.value s)) :
    Yields P x Q := fun s h => ⟨h.reports (hx s), hq s h⟩

end Yields

section Steps

variable {α : Type} {x : Walk α}

theorem Walk.Keeps.stays (h : Walk.Keeps Reports x) : Stays P x := .reports h fun _ _ => trivial

theorem stays_make {f : Arena → Arena × TypeId} (hf : ∀ a, a.Marks P → (f a).1.Marks P) :
    Stays P (Walk.make f) :=
  fun s h => ⟨⟨hf s.types h.types, h.symbols, h.calls⟩, trivial⟩

/-- A type that is no mark is made. -/
theorem stays_intern {s : Arena → Shape} (hs : ∀ a, (s a).isMark = false) :
    Stays P (Walk.make fun a => a.intern (s a)) :=
  stays_make fun a ha => ha.intern fun base level category h => by
    have := hs a
    rw [h] at this
    exact nomatch this

theorem stays_func (params : List TypeId) (res : TypeId) :
    Stays P (Walk.make (·.func params res)) :=
  stays_make fun _ ha => by
    rw [Arena.func_eq_intern]
    exact ha.intern fun _ _ _ hs => nomatch hs

theorem stays_var (name : String) : Stays P (Walk.make (·.var name)) :=
  stays_make fun _ ha => Arena.Marks.intern ha fun _ _ _ hs => nomatch hs

theorem stays_observe (o : Observation) (ho : ∀ site, o = .call site → P (Taint.levelOf site.taint)) :
    Stays P (Walk.observe o) := by
  refine fun s h => ⟨⟨h.types, h.symbols, fun owner site hmem => ?_⟩, trivial⟩
  obtain hmem | hmem := Array.mem_push.1 hmem
  · exact h.calls owner site hmem
  · exact ho site (Prod.mk.inj hmem).2.symm

theorem stays_define (name : String) {sym : Symbol} (hsym : P (Taint.levelOf sym.taint))
    (what : String) : Stays P (Walk.define name sym what) := by
  intro s h
  refine ⟨?_, trivial⟩
  cases hd : s.table.define name sym with
  | error d =>
    rw [Walk.after_define_error hd]
    exact h.reports (reports_duplicate _ _ _ _ s)
  | ok r =>
    rw [Walk.after_define_ok hd]
    refine ⟨h.types, fun x hx => ?_, h.calls⟩
    rw [Table.define_eq] at hd
    split at hd
    · exact nomatch hd
    · obtain rfl := Except.ok.inj hd
      rw [Table.symbols_bound] at hx
      obtain hx | rfl := Array.mem_push.1 hx
      · exact h.symbols x hx
      · exact hsym

theorem stays_update (id : Nat) {f : Symbol → Symbol}
    (hf : ∀ sym : Symbol, P (Taint.levelOf sym.taint) → P (Taint.levelOf (f sym).taint)) :
    Stays P (Walk.update id f) := by
  refine fun s h => ⟨⟨h.types, fun x hx => ?_, h.calls⟩, trivial⟩
  rw [Walk.after_update, Table.updateSymbol] at hx
  split at hx
  · exact h.symbols x hx
  · obtain ⟨i, hi⟩ := Array.mem_iff_getElem?.1 hx
    rw [Array.getElem?_modify] at hi
    split at hi
    · obtain ⟨sym, hsym, rfl⟩ := Option.map_eq_some_iff.1 hi
      exact hf sym (h.symbols sym (Array.mem_of_getElem? hsym))
    · exact h.symbols x (Array.mem_of_getElem? hi)

/-- A step inside a fresh scope. -/
theorem Yields.within {Q : α → Prop} (hx : Yields P x Q) (kind : ScopeKind) (span : Span) :
    Yields P (Walk.within kind span x) Q := by
  intro s h
  have hin : Levels P ((Walk.enter kind span).after s) := by
    refine ⟨h.types, ?_, h.calls⟩
    rw [Walk.after_enter, Table.symbols_enter]
    exact h.symbols
  obtain ⟨hstep, hq⟩ := hx _ hin
  refine ⟨?_, hq⟩
  rw [Walk.after_within]
  generalize x.after ((Walk.enter kind span).after s) = t at hstep
  obtain ⟨id, opened, table, -, hexit, he⟩ | ⟨e, he⟩ := Walk.leave_cases t
  · rw [he, Table.eq_of_exit hexit]
    exact ⟨hstep.types, hstep.symbols, hstep.calls⟩
  · rw [he]
    exact ⟨hstep.types, hstep.symbols, hstep.calls⟩

end Steps

/-! ## Expressions -/

section Expressions

theorem meets_taintOfAll (hnone : P .none) {vs : List (Value × Span)}
    (hvs : ∀ e ∈ vs, e.1.Meets P) : P (Taint.levelOf (Value.taintOfAll (vs.map (·.1)))) := by
  refine Taint.levelOf_foldl (fun t ht => ?_) hnone
  obtain ⟨v, hv, rfl⟩ := List.mem_map.1 ht
  obtain ⟨e, he, rfl⟩ := List.mem_map.1 hv
  exact hvs e he

theorem yields_binary (span : Span) (op : String) {l r : Value} (hl : l.Meets P) (hr : r.Meets P) :
    Yields P (checkBinary span op l r) (Value.Meets P) := by
  refine .reports (reports_binary span op l r) fun s _ => ?_
  rw [value_binary]
  exact Taint.levelOf_merge hl hr

theorem yields_unary (span : Span) (op : String) {v : Value} (hv : v.Meets P) :
    Yields P (checkUnary span op v) (Value.Meets P) := by
  refine .reports (reports_unary span op v) fun s _ => ?_
  rw [value_unary]
  exact hv

theorem yields_member (hnone : P .none) (span : Span) {v : Value} (hv : v.Meets P) (field : String) :
    Yields P (checkMember span v field) (Value.Meets P) := by
  refine .reports (reports_member span v field) fun s h => ?_
  rw [value_member]
  split
  · exact hv
  · split
    · exact hv
    · exact Taint.levelOf_merge hv (h.types.taintOf hnone _)

theorem yields_wrap (kind : Wrap) {v : Value} (hv : v.Meets P) :
    Yields P (checkWrap kind v) (Value.Meets P) := by
  have hmake := fun shape (hs : shape.isMark = false) =>
    stays_intern (P := P) (s := fun _ => shape) fun _ => hs
  cases kind with
  | some =>
    exact .look (fun _ => rfl) fun _ => .ite (.pure hv) (.bind (hmake (.optional v.type) rfl)
      fun _ _ => .pure hv)
  | ok => exact .bind (hmake (.result v.type unknown) rfl) fun _ _ => .pure hv
  | err => exact .bind (hmake (.result unknown v.type) rfl) fun _ _ => .pure hv

theorem stays_joinItem (elem : Option TypeId) (span : Span) (v : Value) :
    Stays P (joinItem elem span v) := by
  cases elem with
  | none => exact .pure trivial
  | some elem =>
    intro s h
    refine ⟨?_, trivial⟩
    have hjoin : Levels P { s with types := (s.types.join elem v.type).1 } :=
      ⟨h.types.join elem v.type, h.symbols, h.calls⟩
    unfold joinItem
    simp only [Walk.after_bind, Walk.value_types, Walk.after_types, Walk.after_modify]
    cases (s.types.join elem v.type).2 with
    | some id => exact hjoin
    | none => exact hjoin.reports (reports_unjoined elem span v _)

theorem yields_finishCall (hnone : P .none) (c : CallHead) (callee : Callee)
    {args : List (Value × Span)} (hargs : ∀ e ∈ args, e.1.Meets P) :
    Yields P (finishCall c callee args) (Value.Meets P) := by
  have htaint := meets_taintOfAll hnone hargs
  have hobserve : ∀ site : CallSite, site.taint = Value.taintOfAll (args.map (·.1)) →
      Stays P (Walk.observe (.call site)) := fun site hs =>
    stays_observe _ fun _ he => by
      obtain rfl := Observation.call.inj he
      rw [hs]
      exact htaint
  unfold finishCall
  cases callee with
  | declassifier =>
    exact .bind (stays_observe _ fun _ he => nomatch he) fun _ _ => .types fun _ _ => .pure hnone
  | function sig =>
    exact .bind (reports_params _ _ _).stays fun _ _ => .bind (hobserve _ rfl) fun _ _ =>
      .types fun a ha => .pure (Taint.levelOf_merge htaint (ha.taintOf hnone _))
  | value params result =>
    exact .bind (reports_params _ _ _).stays fun _ _ => .bind (hobserve _ rfl) fun _ _ =>
      .types fun a ha => .pure (Taint.levelOf_merge htaint (ha.taintOf hnone _))
  | external => exact .bind (hobserve _ rfl) fun _ _ => .pure htaint
  | notCallable sym =>
    exact .look (fun _ => rfl) fun _ => .bind (reports_report .notCallable rfl rfl).stays fun _ _ => .pure htaint
  | undefined => exact .bind (reports_undefined _ _).stays fun _ _ => .pure hnone

mutual

/-- **What an expression answers is of a level that was there.** -/
theorem yields_expr (hnone : P .none) : ∀ e : Expr, Yields P (checkExpr e) (Value.Meets P)
  | .name span name => by
    rw [checkExpr]
    exact .lookup name (.bind (reports_undefined _ _).stays fun _ _ => .pure hnone)
      fun _ _ hsym => .pure hsym
  | .literal _ value => by
    rw [checkExpr]
    exact .pure hnone
  | .binary span op left right => by
    rw [checkExpr]
    exact .bind (yields_expr hnone left) fun _ hl => .bind (yields_expr hnone right) fun _ hr =>
      yields_binary span op hl hr
  | .unary span op operand => by
    rw [checkExpr]
    exact .bind (yields_expr hnone operand) fun _ hv => yields_unary span op hv
  | .call span target args effect capability => by
    rw [checkExpr]
    exact .bind (reports_callee _).stays fun _ _ => .bind (yields_exprs hnone span args)
      fun _ hvs => yields_finishCall hnone _ _ hvs
  | .construct span type fields => by
    rw [checkExpr]
    have hclear : P (Taint.levelOf none) := hnone
    exact .bind (reports_dataType _ _).stays fun _ _ =>
      .bind (yields_inits hnone span _ [] hclear fields) fun _ ht =>
        .bind (reports_completeAll _ _ _).stays fun _ _ => .pure ht
  | .member span base field => by
    rw [checkExpr]
    exact .bind (yields_expr hnone base) fun _ hv => yields_member hnone span hv field
  | .wrap _ kind inner => by
    rw [checkExpr]
    exact .bind (yields_expr hnone inner) fun _ hv => yields_wrap kind hv
  | .none _ => by
    rw [checkExpr]
    exact .pure hnone
  | .list span items => by
    rw [checkExpr]
    have hclear : P (Taint.levelOf none) := hnone
    exact .bind (yields_items hnone span none hclear items) fun _ ht =>
      .bind (stays_intern fun _ => rfl) fun _ _ => .pure ht
  | .await span task => by
    rw [checkExpr]
    exact .bind (yields_expr hnone task) fun _ hv =>
      .bind (stays_observe _ fun _ he => nomatch he) fun _ _ => .pure hv

theorem yields_exprs (hnone : P .none) (outer : Span) : ∀ es : List Expr,
    Yields P (checkExprs outer es) fun vs => ∀ e ∈ vs, e.1.Meets P
  | [] => by
    rw [checkExprs]
    exact .pure fun _ he => nomatch he
  | e :: es => by
    rw [checkExprs]
    exact .bind (yields_expr hnone e) fun _ hv => .bind (yields_exprs hnone outer es) fun _ hvs =>
      .pure (List.forall_mem_cons.2 ⟨hv, hvs⟩)

theorem yields_items (hnone : P .none) (outer : Span) (elem : Option TypeId) {taint : Option Taint}
    (ht : P (Taint.levelOf taint)) : ∀ es : List Expr,
    Yields P (checkItems outer elem taint es) fun r => P (Taint.levelOf r.2)
  | [] => by
    rw [checkItems]
    exact .pure ht
  | e :: es => by
    rw [checkItems]
    exact .bind (yields_expr hnone e) fun _ hv => .bind (stays_joinItem _ _ _) fun _ _ =>
      yields_items hnone outer _ (Taint.levelOf_merge ht hv) es

theorem yields_inits (hnone : P .none) (outer : Span) (info : Option DataInfo) (seen : List String)
    {taint : Option Taint} (ht : P (Taint.levelOf taint)) : ∀ is : List Init,
    Yields P (checkInits outer info seen taint is) fun r => P (Taint.levelOf r.2)
  | [] => by
    rw [checkInits]
    exact .pure ht
  | .mk span name value :: rest => by
    rw [checkInits]
    refine .bind (yields_expr hnone value) fun _ hv => ?_
    cases info with
    | none => exact yields_inits hnone outer none _ (Taint.levelOf_merge ht hv) rest
    | some info =>
      exact .bind (reports_init _ _ _ _ _ _).stays fun _ _ =>
        yields_inits hnone outer (some info) _ (Taint.levelOf_merge ht hv) rest

end

end Expressions

/-! ## Patterns -/

section Patterns

theorem stays_bindName (span : Span) (type : TypeId) {taint : Option Taint}
    (ht : P (Taint.levelOf taint)) (name : String) : Stays P (bindName span type taint name) := by
  unfold bindName
  refine .types fun a _ => .ite (.pure trivial) (.bind (reports_variantType _).stays fun found _ => ?_)
  cases found with
  | some t => exact (reports_otherVariant a span type t name).stays
  | none => exact .bind (stays_define _ ht _) fun _ _ => .pure trivial

mutual

/-- **What a pattern binds is of a level that was there.** -/
theorem stays_pattern (hnone : P .none) (outer : Span) (type : TypeId) {taint : Option Taint}
    (ht : P (Taint.levelOf taint)) : ∀ p : Pattern, Stays P (bindPattern outer type taint p)
  | .wildcard _ => by
    rw [bindPattern]
    exact .pure trivial
  | .name at_ name => by
    rw [bindPattern]
    exact stays_bindName _ type ht name
  | .literal at_ value => by
    rw [bindPattern]
    exact .bind (yields_expr hnone value) fun v _ => (reports_literalPattern _ type value v).stays
  | .none at_ => by
    rw [bindPattern]
    exact (reports_nonePattern _ type).stays
  | .wrap at_ kind inner => by
    rw [bindPattern]
    exact .bind (reports_wrappedType _ _ _).stays fun part _ =>
      .bind (stays_pattern hnone _ part ht inner) fun _ _ =>
        .bind (reports_catchAll _ _).stays fun _ _ => .pure trivial
  | .ctor at_ name args => by
    rw [bindPattern]
    refine .bind (reports_takenBy _ _ _ _).stays fun taken _ => ?_
    cases taken with
    | variant => exact .pure trivial
    | unclear => exact .bind (stays_args hnone _ ht [] args) fun _ _ => .pure trivial
    | data id info =>
      exact .bind (stays_args hnone _ ht _ args) fun _ _ => .look (fun _ => rfl) fun _ =>
        .pure trivial

theorem stays_args (hnone : P .none) (outer : Span) {taint : Option Taint}
    (ht : P (Taint.levelOf taint)) (fields : List Field) :
    ∀ ps : List Pattern, Stays P (bindArgs outer taint fields ps)
  | [] => by
    rw [bindArgs]
    exact .pure trivial
  | p :: ps => by
    rw [bindArgs]
    exact .types fun a ha =>
      .bind (stays_pattern hnone outer _ (Taint.levelOf_merge ht (ha.taintOf hnone _)) p)
        fun _ _ => .bind (reports_catchAll _ _).stays fun _ _ =>
          .bind (stays_args hnone outer ht _ ps) fun _ _ => .pure trivial

end

end Patterns

end Check

end CoreCheck

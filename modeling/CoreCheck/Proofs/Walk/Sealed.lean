import CoreCheck.Proofs.Types.Covered
import CoreCheck.Proofs.Walk.Bindings
import CoreCheck.Proofs.Walk.Tasks

/-!
# Proofs/Walk/Sealed — steps that keep bindings covered

A walk should never hold something of a marked type without the taint of the mark.  A state is
`Sealed` when the taint of every symbol covers its type, and the steps of a walk keep it so as long
as what they bind is covered.  What expressions answer is covered too: most have a type that carries
no taint, and the others add the taint of their type.
-/

namespace CoreCheck.Check

open CoreCheck.Types CoreCheck.Scope CoreCheck.Ir

variable {d s t : State}

/-- **Every symbol is covered** by its taint, in a state over the declarations. -/
structure Sealed (d s : State) : Prop where
  paired : Paired d s s
  symbols : ∀ sym ∈ s.table.symbols, s.types.Covers sym.taint sym.type

namespace Sealed

variable (h : Sealed d s)

include h

theorem types : s.types.Sound := h.paired.left.types

/-- Steps that bind nothing keep the symbols covered. -/
theorem quiet (hq : Quiet s t) (ht : t.types.Sound) : Sealed d t := by
  refine ⟨h.paired.quiet hq hq ht ht, ?_⟩
  rw [show t.table = s.table by rw [hq.eq]]
  exact fun sym hsym => (h.symbols sym hsym).extends h.types ht hq.types

theorem reports (hr : Reports s t) : Sealed d t := by
  refine h.quiet hr.quiet ?_
  rw [hr.eq]
  exact h.types

theorem observe (o : Observation) : Sealed d ((Walk.observe o).after s) :=
  ⟨h.paired.logs _ _, h.symbols⟩

theorem expr (e : Expr) : Sealed d ((checkExpr e).after s) :=
  h.quiet (quiet_expr e s) (lockstep_expr e h.paired).1.stop.left.types

/-- What a name stands for is covered. -/
theorem lookup {name : String} {id : Nat} {sym : Symbol}
    (hl : (Walk.lookup name).value s = some (id, sym)) : s.types.Covers sym.taint sym.type := by
  exact h.symbols sym (Table.mem_symbols_of_symbol? (symbol?_of_lookup hl))

/-- **A name is bound** to something covered. -/
theorem define (name : String) {kind : SymbolKind} (hk : kind ≠ .variant) (span : Span)
    (flags : Flags) {type : TypeId} {taint : Option Taint} (hc : s.types.Covers taint type)
    (what : String) :
    Sealed d ((Walk.define name { kind, span, flags, type, taint } what).after s) := by
  have hpaired := (Lockstep.define h.paired name
    (.plain kind hk span span flags (.refl hc.known) (.refl taint)) what what).stop
  obtain ⟨-, e, he⟩ | ⟨-, hd, -⟩ := h.paired.left.table.define_cases name
    { kind, span, flags, type, taint }
  · rw [Walk.after_define_error he]
    exact h.reports (reports_duplicate _ _ _ _ s)
  · rw [Walk.after_define_ok hd] at hpaired ⊢
    refine ⟨hpaired, fun sym hsym => ?_⟩
    rw [Table.symbols_bound] at hsym
    obtain hsym | rfl := Array.mem_push.1 hsym
    · exact h.symbols sym hsym
    · exact hc

/-- What a name stands for grows in place. -/
theorem update {name : String} {i : Nat} (hi : s.table.lookupId? name = some i)
    {f : Symbol → Symbol} (hf : ∀ sym : Symbol, sym.Grown (f sym))
    (hplace : ∀ sym, (f sym).scope = sym.scope ∧ (f sym).name = sym.name) :
    Sealed d ((Walk.update i f).after s) := by
  have hpaired := (Lockstep.update_right h.paired hi (g := f) hplace fun {x y} hs =>
    ⟨hs.kind_eq.trans (hf y).kind_eq.symm, hs.mutable_eq.trans (hf y).mutable_eq.symm,
      hs.signature_eq.trans (hf y).signature_eq.symm, hs.known, (hf y).type_eq ▸ hs.variant,
      (hf y).type_eq ▸ hs.type, hs.taint.trans (hf y).taint_le⟩).stop.diag
  refine ⟨hpaired, fun sym hsym => ?_⟩
  rw [Walk.after_update, Table.updateSymbol] at hsym
  split at hsym
  · exact h.symbols sym hsym
  · obtain ⟨j, hj, rfl⟩ := Array.mem_iff_getElem.1 hsym
    rw [Array.getElem_modify]
    split
    · have hold := h.symbols _ (Array.getElem_mem (by simpa using hj))
      rw [(hf _).type_eq]
      exact hold.mono (hf _).taint_le
    · exact h.symbols _ (Array.getElem_mem _)

theorem assign (span at_ : Span) (name : String) (v : Value) :
    Sealed d ((Check.assign span at_ name v).after s) := by
  obtain ⟨-, hr⟩ | ⟨id, sym, hl, ⟨-, hr⟩ | ⟨-, t, hr, he⟩⟩ := assign_cases span at_ name v s
  · exact h.reports hr
  · exact h.reports hr
  · rw [he]
    obtain ⟨hno, -⟩ | ⟨i, x, hi, hid, -⟩ := value_lookup_cases h.paired.left.table name
    · exact nomatch hno.symm.trans hl
    obtain ⟨rfl, -⟩ := Prod.mk.inj (Option.some.inj (hi.symm.trans hl))
    have hid' : t.table.lookupId? name = some i := by
      rw [hr.eq]
      exact hid
    exact (h.reports hr).update hid'
      (fun _ => ⟨rfl, Taint.below_merge_left _ _, fun h => h⟩) fun _ => ⟨rfl, rfl⟩

theorem awaitTasks (span : Span) (names : List String) :
    Sealed d ((Check.awaitTasks span names).after s) := by
  induction names generalizing s with
  | nil => exact h
  | cons name names ih =>
    rw [Check.awaitTasks, Walk.after_bind, Walk.after_lookup]
    obtain ⟨hl, -⟩ | ⟨i, sym, hl, hi, -⟩ := value_lookup_cases h.paired.left.table name
    · rw [hl]
      exact ih (h.reports (reports_undefined name span s))
    · rw [hl]
      dsimp only
      rw [Walk.after_ite]
      split
      · exact ih (h.update hi (fun _ => ⟨rfl, .refl _, fun _ => rfl⟩) fun _ => ⟨rfl, rfl⟩)
      · have hreport := fun m => h.reports ((reports_error .typeMismatch span m rfl) s)
        exact ih (hreport _)

theorem enter (kind : ScopeKind) (span : Span) : Sealed d ((Walk.enter kind span).after s) := by
  refine ⟨h.paired.enter kind kind span span, ?_⟩
  rw [Walk.after_enter, Table.symbols_enter]
  exact h.symbols

/-- **A scope is left again** as it was entered. -/
theorem within {α : Type} (kind : ScopeKind) (span : Span) {x : Walk α} (hx : Walk.Keeps Onward x)
    (hin : Sealed d (x.after ((Walk.enter kind span).after s))) :
    Sealed d ((Walk.within kind span x).after s) := by
  have hsound := h.paired.left.table
  have hscopes := (hx ((Walk.enter kind span).after s)).scopes_eq (hsound.enter kind span)
  refine ⟨.leave hsound hsound hin.paired hscopes hscopes, ?_⟩
  rw [Walk.after_within, after_leave kind span hsound hscopes]
  exact hin.symbols

/-- Parameters carry the taint of their types. -/
theorem params (ps : List Param) (hps : ∀ p ∈ ps, p.type ≤ d.types.size) :
    Sealed d ((defineParams ps).after s) := by
  induction ps generalizing s with
  | nil => exact h
  | cons p ps ih =>
    rw [defineParams]
    have hle : p.type ≤ s.types.size := h.paired.left.ext.le_size (hps p (.head _))
    exact ih (h.define p.name (by decide) p.span {} ⟨hle, .refl _⟩ "parameter")
      fun q hq => hps q (.tail _ hq)

end Sealed

/-! ## Patterns that are names -/

/-- **What a name in a pattern does**: it binds nothing, or itself if it is no variant. -/
theorem bindName_cases (span : Span) (type : TypeId) (taint : Option Taint) (name : String)
    (s : State) :
    Reports s ((bindName span type taint name).after s) ∨
      ((variantType? name).value s = none ∧
        (bindName span type taint name).after s
          = (Walk.define name { kind := .binding, span, type, taint } "binding").after s ∧
        (bindName span type taint name).after s
          = { s with table := s.table.bound name { kind := .binding, span, type, taint } }) := by
  unfold bindName
  rw [Walk.after_bind, Walk.value_types, Walk.after_types, Walk.after_ite]
  split
  · exact .inl (Walk.Course.refl s)
  rw [Walk.after_bind, after_variantType]
  cases hfound : (variantType? name).value s with
  | some t => exact .inl (reports_otherVariant s.types span type t name s)
  | none =>
    dsimp only
    rw [Walk.after_bind, Walk.after_pure]
    cases hd : s.table.define name { kind := .binding, span, type, taint } with
    | error e =>
      rw [Walk.after_define_error hd]
      exact .inl (reports_duplicate _ _ _ _ s)
    | ok r =>
      refine .inr ⟨rfl, rfl, ?_⟩
      rw [Walk.after_define_ok hd]
      rw [Table.define_eq] at hd
      split at hd
      · exact nomatch hd
      · obtain rfl := Except.ok.inj hd
        rfl

/-- A task binds a name: there are more symbols when it is done. -/
def Task.Binds (s : State) (t : Task) : Prop :=
  s.table.symbols.size < (t.after s).table.symbols.size

/-- A name is bound to something covered, if it is bound at all. -/
theorem Sealed.bindName (h : Sealed d s) (span : Span) {type : TypeId} {taint : Option Taint}
    (name : String)
    (hc : s.table.symbols.size < ((Check.bindName span type taint name).after s).table.symbols.size →
      s.types.Covers taint type) :
    Sealed d ((Check.bindName span type taint name).after s) := by
  obtain hr | ⟨-, hdefine, hbound⟩ := bindName_cases span type taint name s
  · exact h.reports hr
  · rw [hbound, Table.symbols_bound, Array.size_push] at hc
    rw [hdefine]
    exact h.define name (by decide) span {} (hc (Nat.lt_succ_self _)) "binding"

/-! ## What expressions answer -/

theorem taintOf_binary (h : s.types.Sound) (span : Span) (op : String) (l r : Value) :
    s.types.taintOf ((checkBinary span op l r).value s).type = none := by
  rw [value_binary]
  dsimp only
  have hsettle : ∀ o, s.types.taintOf (unsettled o) = none :=
    fun o => h.taintOf_builtin (unsettled_le o)
  have hrules := fun rule hr ho => @Arena.any_not_left op rule hr ho
  cases hop : binaryRules op with
  | nil => exact h.taintOf_builtin (show unknown ≤ 8 by decide)
  | cons first more =>
    rw [hop] at hrules
    dsimp only
    split
    · exact hsettle _
    · split
      · next rule hfind =>
        split
        · exact h.taintOf_builtin (show bool ≤ 8 by decide)
        · next ho =>
          have htakes := List.find?_some hfind
          simp only [takes, Bool.and_eq_true] at htakes
          exact Arena.taintOf_unwrap (Arena.carries_of_fits htakes.1.1
            (hrules rule (List.mem_of_find?_eq_some hfind) ho))
      · exact hsettle _

theorem carries_of_isOpaque {a : Arena} {id : TypeId} (h : isOpaque a id = true) :
    (a.kindOf id).carries = false := by
  rw [isOpaque] at h
  cases hk : a.kindOf id <;> rw [hk] at h <;> first | rfl | exact Bool.noConfusion h

theorem taintOf_unary (h : s.types.Sound) (span : Span) (op : String) (v : Value) :
    s.types.taintOf ((checkUnary span op v).value s).type = none := by
  rw [value_unary]
  dsimp only
  split
  · exact h.taintOf_builtin (show unknown ≤ 8 by decide)
  · next rule hrule =>
    split
    · next hfits =>
      split
      · exact h.taintOf_builtin (show bool ≤ 8 by decide)
      · refine Arena.taintOf_unwrap ?_
        obtain hopaque | hfits := Bool.or_eq_true_iff.1 hfits
        · exact carries_of_isOpaque hopaque
        · exact Arena.carries_of_fits hfits (Arena.any_not_operand hrule)
    · exact h.taintOf_builtin (unsettled_le _)

theorem below_member (h : s.types.Sound) (span : Span) (v : Value) (field : String) :
    Taint.Below (s.types.taintOf ((checkMember span v field).value s).type)
      ((checkMember span v field).value s).taint := by
  have hunknown : Taint.Below (s.types.taintOf unknown) v.taint :=
    (h.covers_builtin (show unknown ≤ 8 by decide) v.taint).below
  rw [value_member]
  split
  · exact hunknown
  · split
    · exact hunknown
    · exact Taint.below_merge_right _ _

theorem taintOf_dataType (h : s.types.Sound) (name : String) (span : Span) :
    s.types.taintOf ((dataType name span).value s).1 = none := by
  have hunknown : s.types.taintOf unknown = none :=
    h.taintOf_builtin (show unknown ≤ 8 by decide)
  rw [value_dataType]
  split
  · exact hunknown
  · split
    · next info hinfo =>
      rw [Arena.dataInfo?] at hinfo
      split at hinfo
      · next hslot => exact Arena.taintOf_of_lookup hslot rfl
      · cases hinfo
    · exact hunknown

/-- Calls that remove no taint add the taint of their result. -/
theorem below_finishCall (c : CallHead) {callee : Callee} (args : List (Value × Span))
    (hs : ((finishCall c callee args).after s).types.Sound)
    (hcallee : callee ≠ .declassifier) :
    Taint.Below (((finishCall c callee args).after s).types.taintOf
        ((finishCall c callee args).value s).type)
      ((finishCall c callee args).value s).taint := by
  have hunknown := fun taint => (hs.covers_builtin (show unknown ≤ 8 by decide) taint).below
  cases callee with
  | declassifier => exact absurd rfl hcallee
  | function sig => exact Taint.below_merge_right _ _
  | value params result => exact Taint.below_merge_right _ _
  | external => exact hunknown _
  | notCallable sym => exact hunknown _
  | undefined => exact hunknown _

section

variable (h : Sealed d s) {v : Value} (hv : s.types.Covers v.taint v.type)

include h hv

theorem covers_wrap (kind : Wrap) :
    ((checkWrap kind v).after s).types.Covers ((checkWrap kind v).value s).taint
      ((checkWrap kind v).value s).type := by
  have hunknown : unknown ≤ s.types.size := h.types.builtin_le (by decide)
  cases kind with
  | some =>
    by_cases hk : s.types.kindOf v.type = .optional
    · simp only [checkWrap, Walk.after_bind, Walk.value_bind, Walk.value_types, Walk.after_types,
        hk, beq_self_eq_true, if_true]
      exact hv
    · simp only [checkWrap, Walk.after_bind, Walk.value_bind, Walk.value_types, Walk.after_types,
        beq_false_of_ne hk, Bool.false_eq_true, if_false]
      exact Arena.covers_optional h.types hv
  | ok => exact Arena.covers_result h.types hv.known hunknown _
  | err => exact Arena.covers_result h.types hunknown hv.known _

/-- **The element type of a list is covered** by the taint of its items. -/
theorem covers_joinItem {elem : Option TypeId} {taint : Option Taint} (span : Span)
    (he : ∀ id, elem = some id → s.types.Covers taint id) :
    Sealed d ((joinItem elem span v).after s) ∧
      ((joinItem elem span v).after s).types.Covers (Taint.merge taint v.taint)
        ((joinItem elem span v).value s) := by
  have hitem := hv.mono (Taint.below_merge_right taint v.taint)
  cases elem with
  | none => exact ⟨h, hitem⟩
  | some id =>
    have helem := (he id rfl).mono (Taint.below_merge_left taint v.taint)
    obtain ⟨hsound, -⟩ := h.types.join helem.known hv.known
    have hext := s.types.extends_join id v.type
    have hjoin : Sealed d { s with types := (s.types.join id v.type).1 } :=
      h.quiet ⟨rfl, hext, .nil rfl⟩ hsound
    simp only [joinItem, Walk.after_bind, Walk.value_bind, Walk.value_types, Walk.after_types,
      Walk.after_modify]
    cases hj : (s.types.join id v.type).2 with
    | some j => exact ⟨hjoin, Arena.covers_join h.types helem hitem hj⟩
    | none =>
      have hreport := hjoin.reports (reports_unjoined id span v _)
      exact ⟨hreport, helem.extends h.types hreport.types hext⟩

/-- **A binding is covered** by its taint, whether or not its type is written. -/
theorem covers_bindingOf (fn : Enclosing) (span : Span) (name : String)
    (written : Option TypeExpr) :
    Sealed d ((bindingOf fn span name written v).after s) ∧
      ((bindingOf fn span name written v).after s).types.Covers
        ((bindingOf fn span name written v).value s).taint
        ((bindingOf fn span name written v).value s).type := by
  cases written with
  | some t =>
    obtain ⟨hl, hs⟩ := lockstep_resolveType fn.typeParams t fn.span h.paired
    have hresolve := h.quiet (makes_resolveType makes_tableResolver fn.typeParams fn.span t s).quiet
      hl.stop.left.types
    have hreport := reports_bindingOf fn span name t v s
    have htypes : ((bindingOf fn span name (some t) v).after s).types
        = ((resolveType tableResolver fn.typeParams fn.span t).after s).types := by
      rw [hreport.eq]
    rw [value_bindingOf_some, htypes]
    exact ⟨hresolve.reports hreport, Arena.covers_merge hs.left v.taint⟩
  | none =>
    have hunknown := h.types.covers_builtin (show unknown ≤ 8 by decide) v.taint
    rw [value_bindingOf_none, after_bindingOf_none]
    by_cases hk : s.types.kindOf v.type = .null
    · simp only [hk, beq_self_eq_true, if_true]
      have hmade := Arena.made_optional h.types hunknown.known
      exact ⟨h.quiet ⟨rfl, hmade.ext, .nil rfl⟩ hmade.sound,
        Arena.covers_optional h.types hunknown⟩
    · simp only [beq_false_of_ne hk, Bool.false_eq_true, if_false]
      exact ⟨h, hv⟩

end

end CoreCheck.Check

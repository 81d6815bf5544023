import CoreCheck.Proofs.Scope.Lawful
import CoreCheck.Proofs.Taint.Order
import CoreCheck.Proofs.Walk.Growth
import Mathlib.Data.List.Forall2

/-!
# Proofs/Walk/Blocks — what statements do to names

A statement may bind names in the innermost scope and may taint what is bound already, but it takes
no name away and changes no type.  So after any statement the view of the names is a widened one
(`Onward`), and after a scope that was opened and left again it is the old one, more tainted
(`Enclosed`).
-/

namespace CoreCheck.Scope

/-- **A symbol later in a walk**: its taint may have grown, and it may have been waited for. -/
structure Symbol.Grown (s t : Symbol) : Prop where
  eq : t = { s with taint := t.taint, flags := { s.flags with awaited := t.flags.awaited } }
  taint_le : Taint.Below s.taint t.taint
  awaited : s.flags.awaited = true → t.flags.awaited = true

namespace Symbol.Grown

variable {s t u : Symbol}

theorem refl (s : Symbol) : s.Grown s := ⟨rfl, .refl _, fun h => h⟩

theorem trans (h : s.Grown t) (h' : t.Grown u) : s.Grown u :=
  ⟨by rw [h'.eq, h.eq], h.taint_le.trans h'.taint_le, fun ha => h'.awaited (h.awaited ha)⟩

theorem kind_eq (h : s.Grown t) : t.kind = s.kind := by rw [h.eq]

theorem type_eq (h : s.Grown t) : t.type = s.type := by rw [h.eq]

theorem signature_eq (h : s.Grown t) : t.signature = s.signature := by rw [h.eq]

theorem mutable_eq (h : s.Grown t) : t.flags.mutable = s.flags.mutable := by rw [h.eq]

theorem span_eq (h : s.Grown t) : t.span = s.span := by rw [h.eq]

end Symbol.Grown

/-- **A symbol after some steps of a walk**: without an assignment to it its taint is the old one. -/
structure Symbol.Kept (s t : Symbol) : Prop extends Symbol.Grown s t where
  fixed : s.flags.mutable = false → s.kind ≠ .param → t.taint = s.taint

theorem Symbol.Kept.refl (s : Symbol) : s.Kept s := ⟨.refl s, fun _ _ => rfl⟩

theorem Symbol.Kept.trans {s t u : Symbol} (h : s.Kept t) (h' : t.Kept u) : s.Kept u :=
  ⟨h.toGrown.trans h'.toGrown, fun hm hp =>
    (h'.fixed (h.mutable_eq.trans hm) (h.kind_eq ▸ hp)).trans (h.fixed hm hp)⟩

/-- The same names, with grown symbols. -/
def Names.Grown (ns ms : Names) : Prop := ∀ m, Option.Rel Symbol.Kept (ns m) (ms m)

/-- The names that were there, with grown symbols, and maybe more. -/
def Names.Widened (ns ms : Names) : Prop :=
  ∀ m sym, ns m = some sym → ∃ sym', ms m = some sym' ∧ sym.Kept sym'

namespace Names

theorem Grown.refl (ns : Names) : Grown ns ns := fun m => by
  cases ns m with
  | none => exact .none
  | some sym => exact .some (.refl sym)

theorem Grown.widened {ns ms : Names} (h : Grown ns ms) : Widened ns ms := by
  intro m sym hm
  have hr := h m
  rw [hm] at hr
  generalize ms m = found at hr ⊢
  obtain hg | _ := hr
  exact ⟨_, rfl, hg⟩

theorem Grown.trans {ns ms ks : Names} (h : Grown ns ms) (h' : Grown ms ks) : Grown ns ks := by
  intro m
  have h₁ := h m
  have h₂ := h' m
  generalize ns m = x at h₁ ⊢
  generalize ms m = y at h₁ h₂
  generalize ks m = z at h₂ ⊢
  cases h₁ with
  | none => cases h₂; exact .none
  | some hg => cases h₂ with | some hg' => exact .some (hg.trans hg')

theorem Widened.trans {ns ms ks : Names} (h : Widened ns ms) (h' : Widened ms ks) :
    Widened ns ks := by
  intro m sym hm
  obtain ⟨sym', hm', hg⟩ := h m sym hm
  obtain ⟨sym'', hm'', hg'⟩ := h' m sym' hm'
  exact ⟨sym'', hm'', hg.trans hg'⟩

end Names

namespace View

/-- The same names in every open scope, with grown symbols. -/
def Grown (v w : View) : Prop := List.Forall₂ Names.Grown v w

/-- The names that were there in every open scope, and maybe more in the innermost one. -/
inductive Widened : View → View → Prop
  | mk {ns ms : Names} {rest rest' : View} :
    Names.Widened ns ms → Grown rest rest' → Widened (ns :: rest) (ms :: rest')

theorem Grown.refl (v : View) : Grown v v := List.forall₂_same.2 fun ns _ => .refl ns

theorem Grown.trans {v w x : View} (h : Grown v w) (h' : Grown w x) : Grown v x := by
  induction h generalizing x with
  | nil => exact h'
  | cons hns _ ih =>
    cases h' with
    | cons hms hrest => exact .cons (hns.trans hms) (ih hrest)

theorem Grown.widened {v w : View} (h : Grown v w) (hv : v ≠ []) : Widened v w := by
  cases h with
  | nil => exact absurd rfl hv
  | cons hns hrest => exact .mk hns.widened hrest

theorem Widened.trans {v w x : View} (h : Widened v w) (h' : Widened w x) : Widened v x := by
  cases h with
  | mk hns hrest =>
    cases h' with
    | mk hms hrest' => exact .mk (hns.trans hms) (hrest.trans hrest')

theorem Widened.tail {v w : View} (h : Widened v w) : Grown v.tail w.tail := by
  cases h with
  | mk _ hrest => exact hrest

/-- Binding a name that the innermost scope does not have. -/
theorem widened_bind {v : View} {name : String} (hv : v ≠ []) (hfree : v.binds name = false)
    (sym : Symbol) : Widened v (v.bind name sym) := by
  cases v with
  | nil => exact absurd rfl hv
  | cons ns rest =>
    refine .mk (fun m s hm => ?_) (.refl rest)
    have hne : m ≠ name := by
      rintro rfl
      have hsome : (ns m).isSome = false := hfree
      rw [hm] at hsome
      exact Bool.noConfusion hsome
    exact ⟨s, (if_neg hne).trans hm, .refl s⟩

end View

namespace Table

theorem Sound.view_ne_nil {t : Table} (h : t.Sound) : t.view ≠ [] := fun hv =>
  h.rooted (List.map_eq_nil_iff.1 hv)

/-- A symbol that grows in place. -/
theorem grown_updateSymbol (t : Table) (id : Nat) {f : Symbol → Symbol}
    (hf : ∀ sym : Symbol, t.symbol? id = some sym → sym.Kept (f sym)) :
    t.view.Grown (t.updateSymbol id f).view := by
  have hnames : ∀ scope, Names.Grown (t.names scope) ((t.updateSymbol id f).names scope) := by
    intro scope m
    unfold names
    rw [strings_updateSymbol]
    cases t.strings.find? m with
    | none => exact .none
    | some n =>
      rw [Option.bind_some, Option.bind_some, inFrame?_updateSymbol]
      cases t.inFrame? scope n with
      | none => exact .none
      | some other =>
        rw [Option.bind_some, Option.bind_some, symbol?_updateSymbol]
        cases hs : t.symbol? other with
        | none => split <;> exact .none
        | some sym =>
          split
          · next hid => exact .some (hf sym (hid ▸ hs))
          · exact .some (.refl sym)
  rw [view, view, stack_updateSymbol, View.Grown, List.forall₂_map_left_iff,
    List.forall₂_map_right_iff]
  exact List.forall₂_same.2 fun scope _ => hnames scope

end Table

end CoreCheck.Scope

namespace CoreCheck.Check

open CoreCheck.Types CoreCheck.Scope CoreCheck.Ir

/-! ## The relations -/

/-- **What every step of a body keeps.** -/
structure Later (s t : State) : Prop where
  types : s.types.Extends t.types
  aliases : t.aliases = s.aliases
  owner : t.owner = s.owner
  grows : Grows s t
  /-- A fault is not forgotten. -/
  fault : s.fault ≠ none → t.fault ≠ none

theorem Later.refl (s : State) : Later s s := ⟨.refl _, rfl, rfl, .nil rfl, fun h => h⟩

theorem Later.trans {s t u : State} (h : Later s t) (h' : Later t u) : Later s u :=
  ⟨h.types.trans h'.types, h'.aliases.trans h.aliases, h'.owner.trans h.owner,
    h.grows.trans h.owner h'.grows, fun hf => h'.fault (h.fault hf)⟩

/-- Leaving a scope keeps the types and what was written down. -/
theorem Later.leave (s : State) : Later s (Walk.leave.after s) := by
  obtain ⟨id, opened, table, -, -, he⟩ | ⟨e, he⟩ := Walk.leave_cases s
  · rw [he]
    exact ⟨.refl _, rfl, rfl, .nil rfl, fun h => h⟩
  · rw [he]
    exact ⟨.refl _, rfl, rfl, .nil rfl, fun _ => Option.some_ne_none e⟩

instance : Walk.Course Later := ⟨Later.refl, Later.trans⟩

/-- **What a step does to scopes and symbols**: it leaves every scope it opens, without a fault, and
symbols only grow. -/
structure Balanced (s t : State) : Prop where
  opened : t.opened = s.opened
  symbols : ∀ id sym, s.table.symbol? id = some sym →
    ∃ sym', t.table.symbol? id = some sym' ∧ sym.Grown sym'
  faultless : s.table.Sound → t.fault = s.fault
  lawful : s.table.Lawful → t.table.Lawful

theorem Balanced.of_table_eq {s t : State} (htable : t.table = s.table) (hopened : t.opened = s.opened)
    (hfault : t.fault = s.fault) : Balanced s t :=
  ⟨hopened, fun _ sym hs => ⟨sym, htable ▸ hs, .refl sym⟩, fun _ => hfault, fun h => htable ▸ h⟩

theorem Balanced.refl (s : State) : Balanced s s := .of_table_eq rfl rfl rfl

theorem Balanced.trans {s t u : State} (h : Balanced s t) (h' : Balanced t u)
    (hsound : s.table.Sound → t.table.Sound) : Balanced s u where
  opened := h'.opened.trans h.opened
  symbols id sym hs := by
    obtain ⟨sym', hs', hg⟩ := h.symbols id sym hs
    obtain ⟨sym'', hs'', hg'⟩ := h'.symbols id sym' hs'
    exact ⟨sym'', hs'', hg.trans hg'⟩
  faultless hs := (h'.faultless (hsound hs)).trans (h.faultless hs)
  lawful hs := h'.lawful (h.lawful hs)

/-- The open scopes, and those that the walk has opened. -/
def State.scopes (s : State) : List Nat × List Nat := (s.table.stack, s.opened)

/-- **A step of a block**: the innermost scope may have more names. -/
structure Onward (s t : State) : Prop extends Later s t, Balanced s t where
  table : s.table.Sound →
    t.table.Sound ∧ t.table.stack = s.table.stack ∧ s.table.view.Widened t.table.view

/-- **A step that leaves every scope it opens**: all names are as before. -/
structure Enclosed (s t : State) : Prop extends Later s t, Balanced s t where
  table : s.table.Sound →
    t.table.Sound ∧ t.table.stack = s.table.stack ∧ s.table.view.Grown t.table.view

theorem Quiet.later {s t : State} (h : Quiet s t) : Later s t :=
  ⟨h.types, by rw [h.eq], by rw [h.eq], h.grows, by rw [h.eq]; exact fun hf => hf⟩

theorem Quiet.enclosed {s t : State} (h : Quiet s t) : Enclosed s t := by
  have ht : t.table = s.table := by rw [h.eq]
  refine ⟨h.later, .of_table_eq ht (by rw [h.eq]) (by rw [h.eq]), fun hs => ?_⟩
  rw [ht]
  exact ⟨hs, rfl, .refl _⟩

theorem Enclosed.onward {s t : State} (h : Enclosed s t) : Onward s t :=
  ⟨h.toLater, h.toBalanced, fun hs =>
    (h.table hs).imp_right (.imp_right (·.widened hs.view_ne_nil))⟩

instance : Walk.Course Onward where
  refl s := ⟨.refl s, .refl s, fun hs => ⟨hs, rfl, (View.Grown.refl _).widened hs.view_ne_nil⟩⟩
  trans h h' := by
    refine ⟨h.toLater.trans h'.toLater, h.toBalanced.trans h'.toBalanced fun hs => (h.table hs).1,
      fun hs => ?_⟩
    obtain ⟨ht, hstack, hview⟩ := h.table hs
    obtain ⟨hu, hstack', hview'⟩ := h'.table ht
    exact ⟨hu, hstack'.trans hstack, hview.trans hview'⟩

instance : Walk.Course Enclosed where
  refl s := ⟨.refl s, .refl s, fun hs => ⟨hs, rfl, .refl _⟩⟩
  trans h h' := by
    refine ⟨h.toLater.trans h'.toLater, h.toBalanced.trans h'.toBalanced fun hs => (h.table hs).1,
      fun hs => ?_⟩
    obtain ⟨ht, hstack, hview⟩ := h.table hs
    obtain ⟨hu, hstack', hview'⟩ := h'.table ht
    exact ⟨hu, hstack'.trans hstack, hview.trans hview'⟩

theorem Onward.scopes_eq {s t : State} (h : Onward s t) (hs : s.table.Sound) :
    t.scopes = s.scopes := Prod.ext (h.table hs).2.1 h.opened

section Widen

variable {α : Type} {x : Walk α}

theorem Walk.Keeps.enclosed (h : Walk.Keeps Quiet x) : Walk.Keeps Enclosed x :=
  h.mono fun _ _ => Quiet.enclosed

theorem Walk.Keeps.onward (h : Walk.Keeps Enclosed x) : Walk.Keeps Onward x :=
  h.mono fun _ _ => Enclosed.onward

theorem Walk.Keeps.later (h : Walk.Keeps Onward x) : Walk.Keeps Later x :=
  h.mono fun _ _ => Onward.toLater

end Widen

/-! ## Steps on names -/

theorem onward_define (name : String) (sym : Symbol) (what : String) :
    Walk.Keeps Onward (Walk.define name sym what) := by
  intro s
  have hcases := s.table.define_eq name sym
  cases hnone : s.table.inFrame? s.table.current (s.table.strings.intern name).2 with
  | some previous =>
    rw [hnone] at hcases
    rw [Walk.after_define_error hcases]
    exact (reports_duplicate _ _ _ _).quiet.enclosed.onward s
  | none =>
    rw [hnone] at hcases
    rw [Walk.after_define_ok hcases]
    refine ⟨⟨.refl _, rfl, rfl, .nil rfl, fun h => h⟩, ⟨rfl, fun id old hs => ?_, fun _ => rfl,
      fun hs => hs.bound sym hnone⟩, fun hs => ?_⟩
    · exact ⟨old, Table.symbol?_bound_of_some hs name sym, .refl old⟩
    · have hfree : s.table.view.binds name = false := by
        obtain ⟨-, d, hd⟩ | ⟨hfree, -, -⟩ := hs.define_cases name sym
        · exact nomatch hcases.symm.trans hd
        · exact hfree
      exact ⟨hs.bound sym hnone, Table.stack_bound _ _ _,
        hs.view_bound sym hnone ▸ View.widened_bind hs.view_ne_nil hfree _⟩

theorem enclosed_update (id : Nat) {f : Symbol → Symbol} {s : State}
    (hf : ∀ sym : Symbol, s.table.symbol? id = some sym → sym.Kept (f sym))
    (hplace : ∀ s, (f s).scope = s.scope ∧ (f s).name = s.name) :
    Enclosed s ((Walk.update id f).after s) := by
  refine ⟨⟨.refl _, rfl, rfl, .nil rfl, fun h => h⟩, ⟨rfl, fun other sym hs => ?_, fun _ => rfl,
    fun hs => hs.updateSymbol id hplace⟩, fun hs => ⟨hs.updateSymbol id hplace,
      Table.stack_updateSymbol _ _ _, s.table.grown_updateSymbol id hf⟩⟩
  rw [Walk.after_update, Table.symbol?_updateSymbol, hs]
  split
  · next hid => exact ⟨f sym, rfl, (hf sym (hid ▸ hs)).toGrown⟩
  · exact ⟨sym, rfl, .refl sym⟩

/-- **Inside a scope that was entered**, that scope stands before the scopes that were open. -/
theorem exists_stack_of_entered (kind : ScopeKind) (span : Span) {s t : State}
    (hs : s.table.Sound) (h : t.scopes = ((Walk.enter kind span).after s).scopes) :
    ∃ top next rest, t.opened = top :: s.opened ∧ s.table.stack = next :: rest ∧
      t.table.stack = top :: next :: rest := by
  obtain ⟨ht, ho⟩ := Prod.mk.inj h
  rw [Walk.after_enter, Table.stack_enter] at ht
  cases hrest : s.table.stack with
  | nil => exact absurd hrest hs.rooted
  | cons next rest => exact ⟨_, next, rest, ho, rfl, hrest ▸ ht⟩

/-- **Leaving the scope that was entered** goes back to the scopes that were open before. -/
theorem after_leave (kind : ScopeKind) (span : Span) {s t : State} (hs : s.table.Sound)
    (h : t.scopes = ((Walk.enter kind span).after s).scopes) :
    Walk.leave.after t
      = { t with table := { t.table with stack := s.table.stack }, opened := s.opened } := by
  obtain ⟨top, next, rest, ho, hrest, ht⟩ := exists_stack_of_entered kind span hs h
  rw [hrest]
  exact Walk.after_leave_ok ho (Table.exit_of_stack ht)

/-- What is seen after leaving a scope is what is seen outside it. -/
theorem sound_leave (kind : ScopeKind) (span : Span) {s t : State} (hs : s.table.Sound)
    (h : t.scopes = ((Walk.enter kind span).after s).scopes) (hsound : t.table.Sound) :
    ({ t.table with stack := s.table.stack } : Table).Sound ∧
      ({ t.table with stack := s.table.stack } : Table).view = t.table.view.tail := by
  obtain ⟨top, next, rest, -, hrest, ht⟩ := exists_stack_of_entered kind span hs h
  rw [hrest]
  exact ⟨hsound.exit ht, Table.view_exit ht⟩

theorem lawful_leave (kind : ScopeKind) (span : Span) {s t : State} (hs : s.table.Sound)
    (h : t.scopes = ((Walk.enter kind span).after s).scopes) (hlawful : t.table.Lawful) :
    ({ t.table with stack := s.table.stack } : Table).Lawful := by
  obtain ⟨top, next, rest, -, hrest, ht⟩ := exists_stack_of_entered kind span hs h
  rw [hrest]
  exact hlawful.exit ht

/-- Leaving a scope forgets it, and changes no symbol. -/
theorem leave_keeps (s : State) : (Walk.leave.after s).opened = s.opened.tail ∧
    ∀ id, (Walk.leave.after s).table.symbol? id = s.table.symbol? id := by
  obtain ⟨id, opened, table, ho, hexit, he⟩ | ⟨e, he⟩ := Walk.leave_cases s
  · rw [he, ho, Table.eq_of_exit hexit]
    exact ⟨rfl, fun _ => rfl⟩
  · rw [he]
    exact ⟨rfl, fun _ => rfl⟩

/-- **A step inside a fresh scope leaves the names outside.** -/
theorem enclosed_within {α : Type} (kind : ScopeKind) (span : Span) {step : Walk α}
    (h : Walk.Keeps Onward step) (hkind : kind ≠ .invalid := by decide) :
    Walk.Keeps Enclosed (Walk.within kind span step) := by
  intro s
  set mid := (Walk.enter kind span).after s with hmid
  have hlater : Later s mid := ⟨.refl _, rfl, rfl, .nil rfl, fun hf => hf⟩
  have hstep := h mid
  rw [Walk.after_within, ← hmid]
  generalize step.after mid = t at hstep
  have hin : s.table.Sound → t.scopes = mid.scopes ∧ Walk.leave.after t
      = { t with table := { t.table with stack := s.table.stack }, opened := s.opened } := by
    intro hs
    have hscopes := hstep.scopes_eq (hs.enter kind span)
    exact ⟨hscopes, after_leave kind span hs hscopes⟩
  obtain ⟨hopened, hsymbols⟩ := leave_keeps t
  refine ⟨(hlater.trans hstep.toLater).trans (.leave t), ⟨?_, fun id sym hs => ?_, fun hs => ?_,
    fun hs => ?_⟩, fun hs => ?_⟩
  · rw [hopened, hstep.opened]
    rfl
  · rw [hsymbols]
    exact hstep.symbols id sym (Table.symbol?_enter s.table kind span id ▸ hs)
  · rw [(hin hs).2]
    exact hstep.faultless (hs.enter kind span)
  · obtain ⟨hscopes, he⟩ := hin hs.toSound
    rw [he]
    exact lawful_leave kind span hs.toSound hscopes (hstep.lawful (hs.enter hkind span))
  · obtain ⟨hscopes, he⟩ := hin hs
    obtain ⟨ht, -, hview⟩ := hstep.table (hs.enter kind span)
    obtain ⟨hsound, htail⟩ := sound_leave kind span hs hscopes ht
    rw [show mid.table.view = (fun _ => none) :: s.table.view from Table.view_enter _ _ _] at hview
    rw [he]
    exact ⟨hsound, rfl, htail ▸ hview.tail⟩

/-- What a name was found to stand for is the symbol of the number that was found with it. -/
theorem symbol?_of_lookup {name : String} {s : State} {id : Nat} {sym : Symbol}
    (h : (Walk.lookup name).value s = some (id, sym)) : s.table.symbol? id = some sym := by
  rw [Walk.value_lookup] at h
  obtain ⟨i, -, hi⟩ := Option.bind_eq_some_iff.1 h
  obtain ⟨x, hx, he⟩ := Option.map_eq_some_iff.1 hi
  obtain ⟨rfl, rfl⟩ := Prod.mk.inj he
  exact hx

theorem enclosed_assign (span at_ : Span) (name : String) (v : Value) :
    Walk.Keeps Enclosed (assign span at_ name v) := by
  intro s
  obtain ⟨-, hr⟩ | ⟨id, sym, hl, ⟨-, hr⟩ | ⟨hyes, t, hr, he⟩⟩ := assign_cases span at_ name v s
  · exact hr.quiet.enclosed
  · exact hr.quiet.enclosed
  · rw [he]
    refine Walk.Course.trans hr.quiet.enclosed (enclosed_update id (fun x hx => ?_) ?_)
    · -- what is assigned to is what was found, and that can be assigned to
      obtain rfl : x = sym := by
        rw [hr.table] at hx
        exact Option.some.inj (hx.symm.trans (symbol?_of_lookup hl))
      refine ⟨⟨rfl, Taint.below_merge_left _ _, fun h => h⟩, fun hm hp => ?_⟩
      simp [hm, hp] at hyes
    · exact fun _ => ⟨rfl, rfl⟩

theorem enclosed_awaitTasks (span : Span) (names : List String) :
    Walk.Keeps Enclosed (awaitTasks span names) := by
  refine keeps_awaitTasks (fun hr => hr.quiet.enclosed) (fun id s => ?_) span names
  exact enclosed_update id (fun x _ => ⟨⟨rfl, .refl _, fun _ => rfl⟩, fun _ _ => rfl⟩)
    fun _ => ⟨rfl, rfl⟩

/-! ## Bodies -/

/-- **What the steps of a body keep**: `E` those that bind no name in the scope they stand in, and
`R` all of them. -/
structure KeepingBody (E R : State → State → Prop) : Prop extends Keeping E where
  widen : ∀ {s t}, E s t → R s t
  bindingOf : ∀ fn span name written v, Walk.Keeps E (bindingOf fn span name written v)
  assign : ∀ span at_ name v, Walk.Keeps E (assign span at_ name v)
  awaitTasks : ∀ span names, Walk.Keeps E (awaitTasks span names)
  define : ∀ name sym what, Walk.Keeps R (Walk.define name sym what)
  within : ∀ {α : Type} (kind : ScopeKind) (span : Span) {x : Walk α}, kind ≠ .invalid →
    Walk.Keeps R x → Walk.Keeps E (Walk.within kind span x)

namespace KeepingBody

variable {E R : State → State → Prop}

theorem all (h : KeepingBody E R) {α : Type} {x : Walk α} (hx : Walk.Keeps E x) :
    Walk.Keeps R x := hx.mono fun _ _ => h.widen

theorem report (h : KeepingBody E R) {α : Type} {x : Walk α} (hx : Walk.Keeps Reports x) :
    Walk.Keeps R x := h.all (h.of_reports hx)

theorem observed (h : KeepingBody E R) (o : Observation) (ho : o.isPlain = true) :
    Walk.Keeps R (Walk.observe o) := h.all (h.observe o ho)

theorem walked [Walk.Course E] (h : KeepingBody E R) (e : Expr) :
    Walk.Keeps R (checkExpr e) := h.all (h.expr e)

theorem bindName [Walk.Course R] (h : KeepingBody E R) (span : Span) (type : TypeId)
    (taint : Option Taint) (name : String) : Walk.Keeps R (Check.bindName span type taint name) := by
  unfold Check.bindName
  refine .look (fun _ => rfl) fun a => .ite (.pure _) ?_
  refine .bind (h.report (reports_variantType _)) fun found => ?_
  split
  · exact h.report (reports_otherVariant a span type _ name)
  · exact .bind (h.define _ _ _) fun _ => .pure _

mutual

/-- **Patterns keep what their steps keep.** -/
theorem pattern [Walk.Course E] [Walk.Course R] (h : KeepingBody E R) (outer : Span)
    (type : TypeId) (taint : Option Taint) :
    ∀ p : Pattern, Walk.Keeps R (bindPattern outer type taint p)
  | .wildcard _ => by rw [bindPattern]; exact .pure _
  | .name at_ name => by rw [bindPattern]; exact h.bindName _ _ _ _
  | .literal at_ value => by
    rw [bindPattern]
    exact .bind (h.walked value) fun v => h.report (reports_literalPattern _ type value v)
  | .none at_ => by
    rw [bindPattern]
    exact h.report (reports_nonePattern _ type)
  | .wrap at_ kind inner => by
    rw [bindPattern]
    exact .bind (h.report (reports_wrappedType _ _ _)) fun part =>
      .bind (pattern h _ part taint inner) fun _ =>
        .bind (h.report (reports_catchAll _ _)) fun _ => .pure _
  | .ctor at_ name ps => by
    rw [bindPattern]
    refine .bind (h.report (reports_takenBy _ _ _ _)) fun taken => ?_
    split
    · exact .pure _
    · exact .bind (args h _ taint [] ps) fun _ => .pure _
    · exact .bind (args h _ taint _ ps) fun _ => .look (fun _ => rfl) fun _ => .pure _

theorem args [Walk.Course E] [Walk.Course R] (h : KeepingBody E R) (outer : Span)
    (taint : Option Taint) (fields : List Field) :
    ∀ ps : List Pattern, Walk.Keeps R (bindArgs outer taint fields ps)
  | [] => by rw [bindArgs]; exact .pure _
  | p :: ps => by
    rw [bindArgs]
    exact .look (fun _ => rfl) fun a => .bind (pattern h outer _ _ p) fun _ =>
      .bind (h.report (reports_catchAll _ _)) fun _ =>
        .bind (args h outer taint _ ps) fun _ => .pure _

end

mutual

/-- **Statements keep what their steps keep.** -/
theorem stmt [Walk.Course E] [Walk.Course R] (h : KeepingBody E R) (fn : Enclosing) :
    ∀ s : Stmt, Walk.Keeps R (checkStmt fn s)
  | .bind span name type value => by
    rw [checkStmt]
    exact .bind (h.observed _ rfl) fun _ => .bind (h.walked value) fun _ =>
      .bind (h.all (h.bindingOf _ _ _ _ _)) fun _ => .bind (h.define _ _ _) fun _ => .pure _
  | .set span name value => by
    rw [checkStmt]
    exact .bind (h.observed _ rfl) fun _ => .bind (h.walked value) fun _ =>
      .bind (h.all (h.assign _ _ _ _)) fun _ => .pure _
  | .ret span none => by
    rw [checkStmt]
    exact .bind (h.observed _ rfl) fun _ => .bind (h.report (reports_bareReturn _ _)) fun _ =>
      .pure _
  | .ret span (some value) => by
    rw [checkStmt]
    exact .bind (h.observed _ rfl) fun _ => .bind (h.walked value) fun _ =>
      .bind (h.report (reports_return _ _ _)) fun _ => .pure _
  | .eval _ value => by
    rw [checkStmt]
    exact .bind (h.walked value) fun _ => .pure _
  | .branch span cond yes no => by
    rw [checkStmt]
    exact .bind (h.observed _ rfl) fun _ => .bind (h.walked cond) fun _ =>
      .bind (h.report (reports_condition _ _)) fun _ =>
        .bind (h.all (h.within _ _ (by decide) (block h fn yes))) fun _ =>
          .bind (h.all (elseBlock h fn span no)) fun _ => .pure _
  | .select span scrutinee cs => by
    rw [checkStmt]
    exact .bind (h.observed _ rfl) fun _ => .bind (h.walked scrutinee) fun _ =>
      .bind (h.all (cases h fn span _ cs)) fun _ => .look (fun _ => rfl) fun _ => .pure _
  | .scope span body => by
    rw [checkStmt]
    exact h.all (h.within _ _ (by decide) (block h fn body))
  | .start span name task => by
    rw [checkStmt]
    exact .bind (h.observed _ rfl) fun _ => .bind (h.walked task) fun _ =>
      .bind (h.observed _ rfl) fun _ => .bind (h.define _ _ _) fun _ => .pure _
  | .wait span names => by
    rw [checkStmt]
    exact .bind (h.observed _ rfl) fun _ => .bind (h.observed _ rfl) fun _ =>
      .bind (h.all (h.awaitTasks _ _)) fun _ => .pure _

theorem block [Walk.Course E] [Walk.Course R] (h : KeepingBody E R) (fn : Enclosing) :
    ∀ ss : List Stmt, Walk.Keeps R (checkBlock fn ss)
  | [] => by rw [checkBlock]; exact .pure _
  | s :: ss => by
    rw [checkBlock]
    exact .bind (stmt h fn s) fun _ => .bind (block h fn ss) fun _ => .pure _

theorem elseBlock [Walk.Course E] [Walk.Course R] (h : KeepingBody E R) (fn : Enclosing)
    (span : Span) :
    ∀ no : Option (List Stmt), Walk.Keeps E (checkElse fn span no)
  | none => by rw [checkElse]; exact .pure _
  | some body => by rw [checkElse]; exact h.within _ _ (by decide) (block h fn body)

theorem cases [Walk.Course E] [Walk.Course R] (h : KeepingBody E R) (fn : Enclosing)
    (outer : Span) (scrutinee : Value) :
    ∀ cs : List Case, Walk.Keeps E (checkCases fn outer scrutinee cs)
  | [] => by rw [checkCases]; exact .pure _
  | .mk span p body :: rest => by
    rw [checkCases]
    refine .bind (h.within _ _ (by decide) ?_) fun _ =>
      .bind (cases h fn outer scrutinee rest) fun _ => .pure _
    exact .bind (h.pattern _ _ _ p) fun _ => .bind (block h fn body) fun _ => .pure _

end

end KeepingBody

/-- **A step of a body binds names in the innermost scope only.** -/
theorem keepingBody_onward : KeepingBody Enclosed Onward where
  reports h := h.quiet.enclosed
  observe o ho := (quiet_observe o ho).enclosed
  wrap kind inner := (makes_wrap kind inner).quietly.enclosed
  join elem span item := (makes_joinItem elem span item).quietly.enclosed
  list _ := (makes_make fun a => a.extends_intern _).quietly.enclosed
  widen := Enclosed.onward
  bindingOf fn span name written v := (makes_bindingOf fn span name written v).quietly.enclosed
  assign := enclosed_assign
  awaitTasks := enclosed_awaitTasks
  define := onward_define
  within kind span _ hkind hx := enclosed_within kind span hx hkind

theorem onward_pattern (outer : Span) (type : TypeId) (taint : Option Taint) (p : Pattern) :
    Walk.Keeps Onward (bindPattern outer type taint p) :=
  keepingBody_onward.pattern outer type taint p

theorem onward_args (outer : Span) (taint : Option Taint) (fields : List Field)
    (ps : List Pattern) : Walk.Keeps Onward (bindArgs outer taint fields ps) :=
  keepingBody_onward.args outer taint fields ps

theorem onward_stmt (fn : Enclosing) (s : Stmt) : Walk.Keeps Onward (checkStmt fn s) :=
  keepingBody_onward.stmt fn s

theorem onward_block (fn : Enclosing) (ss : List Stmt) : Walk.Keeps Onward (checkBlock fn ss) :=
  keepingBody_onward.block fn ss

theorem enclosed_else (fn : Enclosing) (span : Span) (no : Option (List Stmt)) :
    Walk.Keeps Enclosed (checkElse fn span no) := keepingBody_onward.elseBlock fn span no

theorem enclosed_cases (fn : Enclosing) (outer : Span) (scrutinee : Value) (cs : List Case) :
    Walk.Keeps Enclosed (checkCases fn outer scrutinee cs) :=
  keepingBody_onward.cases fn outer scrutinee cs

end CoreCheck.Check

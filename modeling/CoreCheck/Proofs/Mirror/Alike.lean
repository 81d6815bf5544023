import CoreCheck.Proofs.Walk.Lockstep

/-!
# Proofs/Mirror/Alike — two walks that write down the same

All bodies of a module share one table of names and one arena of types, so a body is walked in a
state that the bodies before it have changed.  What they change is only how things are numbered.  Two
states are `Alike` when every name stands for the same kind of thing on both sides, at the same place
and with the same taint, of types with one structure.  Steps from alike states `Mirror` each other:
they write down the same observations, answer related values and leave alike states.  One rule for
each way to put steps together carries this from the parts of a walk to the whole.
-/

namespace CoreCheck.Check

open CoreCheck.Types CoreCheck.Scope CoreCheck.Ir

/-! ## Alike values, symbols and states -/

/-- **Alike values**: of one structure, with one taint. -/
structure Value.Alike (a b : Arena) (v w : Value) : Prop where
  type : Arena.Same a v.type b w.type
  taint : v.taint = w.taint

theorem Value.Alike.paired {a b : Arena} {v w : Value} (h : v.Alike a b w) : v.Paired a b w :=
  ⟨h.type, h.taint ▸ .refl _⟩

/-- **Alike symbols.** -/
structure Symbol.Alike (d a b : Arena) (s t : Symbol) : Prop extends Symbol.Paired d a b s t where
  span_eq : s.span = t.span
  taint_eq : s.taint = t.taint

/-- Symbols without a signature that are no variants. -/
theorem Symbol.Alike.plain {d a b : Arena} {v w : Value} (kind : SymbolKind) (hk : kind ≠ .variant)
    (span : Span) (flags : Flags) (hv : v.Alike a b w) :
    Symbol.Alike d a b { kind, span, flags, type := v.type, taint := v.taint }
      { kind, span, flags, type := w.type, taint := w.taint } :=
  ⟨.plain kind hk span span flags hv.type hv.paired.taint, rfl, hv.taint⟩

/-- **Alike states** over the same declarations. -/
structure Alike (d p c : State) : Prop where
  ground : Ground d
  left : Over d p
  right : Over d c
  view : List.Forall₂ (Names.Rel (Symbol.Alike d.types p.types c.types)) p.table.view c.table.view

variable {d p c p' c' : State}

theorem Alike.paired (h : Alike d p c) : Paired d p c :=
  ⟨h.ground, h.left, h.right, h.view.imp fun _ _ hn => hn.mono fun hs => hs.toPaired⟩

/-- Whatever is noted on either side, and whoever it belongs to, the states stay alike. -/
theorem Alike.logs (h : Alike d p c) (o o' : Option Nat) (l r : Array (Option Nat × Observation)) :
    Alike d { p with owner := o, log := l } { c with owner := o', log := r } :=
  ⟨h.ground, ⟨h.left.types, h.left.ext, h.left.aliases, h.left.table⟩,
    ⟨h.right.types, h.right.ext, h.right.aliases, h.right.table⟩, h.view⟩

/-- Types are made on both sides. -/
theorem Alike.made (h : Alike d p c) {a b : Arena} (ha : a.Sound) (hpa : p.types.Extends a)
    (hb : b.Sound) (hcb : c.types.Extends b) :
    Alike d { p with types := a } { c with types := b } :=
  ⟨h.ground, ⟨ha, h.left.ext.trans hpa, h.left.aliases, h.left.table⟩,
    ⟨hb, h.right.ext.trans hcb, h.right.aliases, h.right.table⟩,
    h.view.imp fun _ _ hn => hn.mono fun hs =>
      ⟨hs.toPaired.extends h.left.types ha hpa h.right.types hb hcb, hs.span_eq, hs.taint_eq⟩⟩

/-- Types of one structure are written alike. -/
theorem Alike.label_eq (h : Alike d p c) {i j : TypeId} (hs : Arena.Same p.types i c.types j) :
    (Walk.labelOf i).value p = (Walk.labelOf j).value c := by
  change (if i = 0 then "Unknown" else p.types.label i)
    = if j = 0 then "Unknown" else c.types.label j
  rw [hs.label_eq h.left.types h.right.types h.paired.datas_eq h.paired.enums_eq]
  simp only [hs.eq_zero_iff h.left.types h.right.types]

theorem Alike.lookup (h : Alike d p c) (name : String) :
    ((Walk.lookup name).value p = none ∧ (Walk.lookup name).value c = none) ∨
      ∃ i s j t, (Walk.lookup name).value p = some (i, s) ∧ p.table.lookupId? name = some i ∧
        (Walk.lookup name).value c = some (j, t) ∧ c.table.lookupId? name = some j ∧
        Symbol.Alike d.types p.types c.types s t :=
  lookup_both h.left.table h.right.table h.view name

/-! ## Steps that mirror each other -/

/-- **Alike states before and after**, with the same observations in between. -/
structure Mirrored (d p c p' c' : State) : Prop where
  start : Alike d p c
  stop : Alike d p' c'
  left : p.types.Extends p'.types
  right : c.types.Extends c'.types
  left_scopes : p'.scopes = p.scopes
  right_scopes : c'.scopes = c.scopes
  left_owner : p'.owner = p.owner
  right_owner : c'.owner = c.owner
  log : ∃ obs, LogGrows p p' obs ∧ LogGrows c c' obs

namespace Mirrored

theorem refl (h : Alike d p c) : Mirrored d p c p c :=
  ⟨h, h, .refl _, .refl _, rfl, rfl, rfl, rfl, [], .nil rfl, .nil rfl⟩

theorem trans {p'' c'' : State} (h : Mirrored d p c p' c') (h' : Mirrored d p' c' p'' c'') :
    Mirrored d p c p'' c'' := by
  obtain ⟨obs, hl, hr⟩ := h.log
  obtain ⟨more, hl', hr'⟩ := h'.log
  exact ⟨h.start, h'.stop, h.left.trans h'.left, h.right.trans h'.right,
    h'.left_scopes.trans h.left_scopes, h'.right_scopes.trans h.right_scopes,
    h'.left_owner.trans h.left_owner, h'.right_owner.trans h.right_owner, obs ++ more,
    hl.append h.left_owner hl', hr.append h.right_owner hr'⟩

/-- Types of one structure stay so. -/
theorem same {i j : TypeId} (h : Mirrored d p c p' c') (hs : Arena.Same p.types i c.types j) :
    Arena.Same p'.types i c'.types j :=
  hs.extends h.start.left.types h.stop.left.types h.left h.start.right.types h.stop.right.types
    h.right

theorem value {v w : Value} (h : Mirrored d p c p' c') (hv : v.Alike p.types c.types w) :
    v.Alike p'.types c'.types w := ⟨h.same hv.type, hv.taint⟩

/-- Only the tables change. -/
theorem tables (h : Alike d p c) {t u : Table} (ht : t.Sound) (hu : u.Sound)
    (hts : t.stack = p.table.stack) (hus : u.stack = c.table.stack)
    (hview : List.Forall₂ (Names.Rel (Symbol.Alike d.types p.types c.types)) t.view u.view) :
    Mirrored d p c { p with table := t } { c with table := u } :=
  ⟨h, ⟨h.ground, ⟨h.left.types, h.left.ext, h.left.aliases, ht⟩,
    ⟨h.right.types, h.right.ext, h.right.aliases, hu⟩, hview⟩, .refl _, .refl _,
    congrArg (·, p.opened) hts, congrArg (·, c.opened) hus, rfl, rfl, [], .nil rfl, .nil rfl⟩

end Mirrored

section Rules

variable {α β γ δ : Type}

/-- **Two steps mirror each other** and answer related values. -/
def Mirror (d p c : State) (x : Walk α) (y : Walk β) (Q : Arena → Arena → α → β → Prop) : Prop :=
  Mirrored d p c (x.after p) (y.after c) ∧
    Q (x.after p).types (y.after c).types (x.value p) (y.value c)

/-- The same answer. -/
def Equally : Arena → Arena → α → α → Prop := fun _ _ a b => a = b

/-- Types of one structure. -/
def Types : Arena → Arena → TypeId → TypeId → Prop := fun a b i j => Arena.Same a i b j

namespace Mirror

variable {x : Walk α} {y : Walk β} {f : α → Walk γ} {g : β → Walk δ}
  {Q : Arena → Arena → α → β → Prop} {R : Arena → Arena → γ → δ → Prop}

theorem pure (h : Alike d p c) {a : α} {b : β} (hq : Q p.types c.types a b) :
    Mirror d p c (Pure.pure a) (Pure.pure b) Q := ⟨.refl h, hq⟩

/-- **One step after the other.** -/
theorem bind (hx : Mirror d p c x y Q)
    (hf : ∀ {p' c' : State} {a : α} {b : β}, Mirrored d p c p' c' → Q p'.types c'.types a b →
      Mirror d p' c' (f a) (g b) R) :
    Mirror d p c (x >>= f) (y >>= g) R := by
  obtain ⟨hstep, hq⟩ := hx
  obtain ⟨hrest, hr⟩ := hf hstep hq
  exact ⟨hstep.trans hrest, hr⟩

/-- A step that answers the same on both sides, and what follows it. -/
theorem andThen {x y : Walk α} {f : α → Walk γ} {g : α → Walk δ} (hx : Mirror d p c x y Equally)
    (hf : ∀ {p' c' : State} (a : α), Mirrored d p c p' c' → Mirror d p' c' (f a) (g a) R) :
    Mirror d p c (x >>= f) (y >>= g) R :=
  hx.bind fun hstep he => by
    obtain rfl : _ = _ := he
    exact hf _ hstep

/-- The types are looked at. -/
theorem types {f : Arena → Walk γ} {g : Arena → Walk δ} (h : Mirror d p c (f p.types) (g c.types) R) :
    Mirror d p c (Walk.types >>= f) (Walk.types >>= g) R := h

/-- The state is looked at. -/
theorem get {f : State → Walk γ} {g : State → Walk δ} (h : Mirror d p c (f p) (g c) R) :
    Mirror d p c (MonadState.get >>= f) (MonadState.get >>= g) R := h

/-- **A type is written into a message.** -/
theorem label {f : String → Walk γ} {g : String → Walk δ} (h : Alike d p c) {i j : TypeId}
    (hs : Arena.Same p.types i c.types j) (hf : ∀ label, Mirror d p c (f label) (g label) R) :
    Mirror d p c (Walk.labelOf i >>= f) (Walk.labelOf j >>= g) R := by
  have hrest := hf ((Walk.labelOf i).value p)
  rw [Mirror, Walk.after_bind, Walk.value_bind, Walk.after_bind, Walk.value_bind, ← h.label_eq hs]
  exact hrest

/-- Two types are written into a message. -/
theorem labels {f g : String → String → Walk γ} {R : Arena → Arena → γ → γ → Prop}
    (h : Alike d p c) {i j i' j' : TypeId} (hs : Arena.Same p.types i c.types j)
    (hs' : Arena.Same p.types i' c.types j') (hf : ∀ l r, Mirror d p c (f l r) (g l r) R) :
    Mirror d p c (Walk.labelOf i >>= fun l => Walk.labelOf i' >>= f l)
      (Walk.labelOf j >>= fun l => Walk.labelOf j' >>= g l) R :=
  label h hs fun l => label h hs' (hf l)

/-- **A decision that comes out alike.** -/
theorem ite {P P' : Prop} [Decidable P] [Decidable P'] (hP : P ↔ P') {x' : Walk α} {y' : Walk β}
    (hx : P' → Mirror d p c x y Q) (hy : ¬P' → Mirror d p c x' y' Q) :
    Mirror d p c (if P then x else x') (if P' then y else y') Q := by
  by_cases h : P'
  · rw [if_pos h, if_pos (hP.2 h)]
    exact hx h
  · rw [if_neg h, if_neg fun hp => h (hP.1 hp)]
    exact hy h

/-- Something is written down on both sides. -/
theorem observe (h : Alike d p c) (o : Observation) :
    Mirror d p c (Walk.observe o) (Walk.observe o) Equally :=
  ⟨⟨h, h.logs _ _ _ _, .refl _, .refl _, rfl, rfl, rfl, rfl, [o], by simp [LogGrows],
    by simp [LogGrows]⟩, rfl⟩

theorem report (h : Alike d p c) (diagnostic : Diagnostic) :
    Mirror d p c (Walk.report diagnostic) (Walk.report diagnostic) Equally := observe h _

theorem error (h : Alike d p c) (code : Code) (span : Span) (message : String) :
    Mirror d p c (Walk.error code span message) (Walk.error code span message) Equally := report h _

/-- A type is made on both sides. -/
theorem make (h : Alike d p c) {f g : Arena → Arena × TypeId}
    (hm : Arena.MadeAlike p.types (f p.types) c.types (g c.types)) :
    Mirror d p c (Walk.make f) (Walk.make g) Types :=
  ⟨⟨h, h.made hm.left.sound hm.left.ext hm.right.sound hm.right.ext, hm.left.ext, hm.right.ext, rfl,
    rfl, rfl, rfl, [], .nil rfl, .nil rfl⟩, hm.same⟩

/-- **A name is looked up.** -/
theorem lookup (h : Alike d p c) (name : String) {f : Option (Nat × Symbol) → Walk γ}
    {g : Option (Nat × Symbol) → Walk δ} (hnone : Mirror d p c (f none) (g none) R)
    (hsome : ∀ {i s j t}, p.table.lookupId? name = some i → c.table.lookupId? name = some j →
      Symbol.Alike d.types p.types c.types s t → Mirror d p c (f (some (i, s))) (g (some (j, t))) R) :
    Mirror d p c (Walk.lookup name >>= f) (Walk.lookup name >>= g) R := by
  rw [Mirror, Walk.after_bind, Walk.value_bind, Walk.after_bind, Walk.value_bind,
    Walk.after_lookup, Walk.after_lookup]
  obtain ⟨hp, hc⟩ | ⟨i, s, j, t, hp, hi, hc, hj, hs⟩ := h.lookup name
  · rw [hp, hc]
    exact hnone
  · rw [hp, hc]
    exact hsome hi hj hs

/-- **A name is bound on both sides**, or refused on both with the same report. -/
theorem define (h : Alike d p c) (name : String) {s t : Symbol}
    (hs : Symbol.Alike d.types p.types c.types s t) (what : String) :
    Mirror d p c (Walk.define name s what) (Walk.define name t what) Equally := by
  refine ⟨?_, rfl⟩
  have hbinds := binds_eq h.view name
  obtain ⟨hp, e, he⟩ | ⟨hp, hd, hnone⟩ := h.left.table.define_cases name s
  · obtain ⟨-, e', he'⟩ | ⟨hc, -, -⟩ := h.right.table.define_cases name t
    · obtain ⟨x, hx, hxe⟩ := h.left.table.span_of_define_error he
      obtain ⟨y, hy, hye⟩ := h.right.table.span_of_define_error he'
      have hxy : x.span = y.span := by
        have hview := h.view
        generalize p.table.view = v at hview hx
        generalize c.table.view = w at hview hy
        cases hview with
        | nil => exact nomatch hx
        | cons hns _ =>
          have hm := hns name
          rw [List.head?_cons, Option.bind_some] at hx hy
          rw [hx, hy] at hm
          obtain hsym | _ := hm
          exact hsym.span_eq
      rw [Walk.after_define_error he, Walk.after_define_error he', hxe, hye, hxy, hs.span_eq]
      exact (report h _).1
    · exact absurd (hp.symm.trans (hbinds.trans hc)) Bool.noConfusion
  · obtain ⟨hc, -, -⟩ | ⟨-, hd', hnone'⟩ := h.right.table.define_cases name t
    · exact absurd (hc.symm.trans (hbinds.symm.trans hp)) Bool.noConfusion
    · rw [Walk.after_define_ok hd, Walk.after_define_ok hd']
      refine .tables h (h.left.table.bound s hnone) (h.right.table.bound t hnone')
        (Table.stack_bound _ _ _) (Table.stack_bound _ _ _) ?_
      rw [h.left.table.view_bound s hnone, h.right.table.view_bound t hnone']
      exact bind_rel h.view name
        ⟨⟨hs.kind_eq, hs.mutable_eq, hs.signature_eq, hs.known, hs.variant, hs.type, hs.taint⟩,
          hs.span_eq, hs.taint_eq⟩

/-- **What a name stands for is changed on both sides.** -/
theorem update (h : Alike d p c) {name : String} {i j : Nat} {f g : Symbol → Symbol}
    (hi : p.table.lookupId? name = some i) (hj : c.table.lookupId? name = some j)
    (hf : ∀ s, (f s).scope = s.scope ∧ (f s).name = s.name)
    (hg : ∀ s, (g s).scope = s.scope ∧ (g s).name = s.name)
    (hfg : ∀ {s t}, Symbol.Alike d.types p.types c.types s t →
      Symbol.Alike d.types p.types c.types (f s) (g t)) :
    Mirror d p c (Walk.update i f) (Walk.update j g) Equally := by
  refine ⟨.tables h (h.left.table.updateSymbol i hf) (h.right.table.updateSymbol j hg)
    (Table.stack_updateSymbol _ _ _) (Table.stack_updateSymbol _ _ _) ?_, rfl⟩
  rw [h.left.table.view_updateSymbol hi, h.right.table.view_updateSymbol hj]
  exact change_rel h.view name hfg

end Mirror

/-! ## Scopes -/

theorem Alike.enter (h : Alike d p c) (kind : ScopeKind) (span : Span) :
    Alike d ((Walk.enter kind span).after p) ((Walk.enter kind span).after c) := by
  refine ⟨h.ground, ⟨h.left.types, h.left.ext, h.left.aliases, h.left.table.enter kind span⟩,
    ⟨h.right.types, h.right.ext, h.right.aliases, h.right.table.enter kind span⟩, ?_⟩
  rw [Walk.after_enter, Walk.after_enter, Table.view_enter, Table.view_enter]
  exact .cons (fun _ => .none) h.view

/-- **A step inside a fresh scope.** -/
theorem Mirror.within (h : Alike d p c) (kind : ScopeKind) (span : Span) {x : Walk α} {y : Walk β}
    {Q : Arena → Arena → α → β → Prop}
    (hx : Mirror d ((Walk.enter kind span).after p) ((Walk.enter kind span).after c) x y Q) :
    Mirror d p c (Walk.within kind span x) (Walk.within kind span y) Q := by
  obtain ⟨hin, hq⟩ := hx
  have hp := h.left.table
  have hc := h.right.table
  obtain ⟨hpsound, hpview⟩ := sound_leave kind span hp hin.left_scopes hin.stop.left.table
  obtain ⟨hcsound, hcview⟩ := sound_leave kind span hc hin.right_scopes hin.stop.right.table
  rw [Mirror, Walk.after_within, Walk.after_within, Walk.value_within, Walk.value_within,
    after_leave kind span hp hin.left_scopes, after_leave kind span hc hin.right_scopes]
  refine ⟨⟨h, ⟨h.ground, ⟨hin.stop.left.types, hin.stop.left.ext, hin.stop.left.aliases, hpsound⟩,
    ⟨hin.stop.right.types, hin.stop.right.ext, hin.stop.right.aliases, hcsound⟩, ?_⟩, hin.left,
    hin.right, rfl, rfl, hin.left_owner, hin.right_owner, hin.log⟩, hq⟩
  rw [hpview, hcview]
  have hview := hin.stop.view
  generalize (x.after ((Walk.enter kind span).after p)).table.view = v at hview ⊢
  generalize (y.after ((Walk.enter kind span).after c)).table.view = w at hview ⊢
  cases hview with
  | nil => exact .nil
  | cons _ hrest => exact hrest

end Rules

end CoreCheck.Check

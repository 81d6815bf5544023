import CoreCheck.Proofs.Types.Same
import CoreCheck.Proofs.Walk.Blocks

/-!
# Proofs/Walk/Lockstep — two walks that see the same names

Two walks over a body start from the same declarations.  They are `Paired` when every name stands for
the same kind of thing of the same type on both sides, and whatever the left walk holds is no more
tainted than what the right walk holds.  Types may be numbered differently.  Walking an expression on
both sides keeps the pairing, answers paired values, and lets no more taint flow on the left.
-/

namespace CoreCheck.Check

open CoreCheck.Types CoreCheck.Scope CoreCheck.Ir

/-! ## Flows -/

/-- Whether taint flows where an observation was made: into a call, or into one that removes it. -/
def Observation.isFlow : Observation → Bool
  | .call _ | .clears _ _ _ => true
  | _ => false

/-- **The same flow with less taint.** -/
inductive Observation.Below : Observation → Observation → Prop
  | call (site : CallSite) {taint taint' : Option Taint} : Taint.Below taint taint' →
      Below (.call { site with taint }) (.call { site with taint := taint' })
  | clears (span : Span) (target : String) {taint taint' : Option Taint} :
      Taint.Below taint taint' → Below (.clears span target taint) (.clears span target taint')

/-- The flows that a walk has seen so far. -/
def State.flows (s : State) : List Observation := (s.log.toList.map (·.2)).filter (·.isFlow)

theorem LogGrows.flows {s t : State} {obs : List Observation} (h : LogGrows s t obs) :
    t.flows = s.flows ++ obs.filter (·.isFlow) := by
  rw [State.flows, h, State.flows, List.map_append, List.filter_append, List.map_map]
  congr 2
  exact List.map_id'' (fun _ => rfl) obs

theorem Reports.flows {s t : State} (h : Reports s t) : t.flows = s.flows := by
  obtain ⟨ds, hds, -⟩ := h.grows
  rw [hds.flows, List.filter_eq_nil_iff.2, List.append_nil]
  intro o ho
  obtain ⟨d, -, rfl⟩ := List.mem_map.1 ho
  exact Bool.false_ne_true

theorem flows_report (d : Diagnostic) (s : State) : ((Walk.report d).after s).flows = s.flows := by
  simp [State.flows, Walk.report, Observation.isFlow]

/-- Whatever stands on the right of paired lists has a partner on the left. -/
theorem exists_left_of_mem {α β : Type} {R : α → β → Prop} {l : List α} {r : List β}
    (h : List.Forall₂ R l r) {b : β} (hb : b ∈ r) : ∃ a ∈ l, R a b := by
  induction h with
  | nil => exact nomatch hb
  | cons hab _ ih =>
    obtain rfl | hb := List.mem_cons.1 hb
    · exact ⟨_, .head _, hab⟩
    · obtain ⟨a, ha, hr⟩ := ih hb
      exact ⟨a, .tail _ ha, hr⟩

/-! ## Pairs of values, symbols and states -/

/-- **Paired values**: of one structure, the left one no more tainted. -/
structure Value.Paired (a b : Arena) (v w : Value) : Prop where
  type : Arena.Same a v.type b w.type
  taint : Taint.Below v.taint w.taint

/-- The types of a signature are types of an arena. -/
structure Signature.Known (a : Arena) (sig : Signature) : Prop where
  params : ∀ p ∈ sig.params, p.type ≤ a.size
  result : sig.result ≤ a.size

/-- **Paired symbols.** Signatures and variants come from the declarations. -/
structure Symbol.Paired (d a b : Arena) (s t : Symbol) : Prop where
  kind_eq : s.kind = t.kind
  mutable_eq : s.flags.mutable = t.flags.mutable
  signature_eq : s.signature = t.signature
  known : ∀ sig, s.signature = some sig → Signature.Known d sig
  variant : s.kind = .variant → s.type = t.type ∧ ∃ slot, d.lookup s.type = some (.enum slot)
  type : Arena.Same a s.type b t.type
  taint : Taint.Below s.taint t.taint

/-- Symbols without a signature that are no variants. -/
theorem Symbol.Paired.plain {d a b : Arena} {i j : TypeId} {t t' : Option Taint}
    (kind : SymbolKind) (hk : kind ≠ .variant) (span span' : Span) (flags : Flags)
    (hs : Arena.Same a i b j) (ht : Taint.Below t t') :
    Symbol.Paired d a b { kind, span, flags, type := i, taint := t }
      { kind, span := span', flags, type := j, taint := t' } :=
  ⟨rfl, rfl, rfl, (fun _ hsig => nomatch hsig), fun h => absurd h hk, hs, ht⟩

/-- The names of two scopes, bound on both sides or on neither, to related symbols. -/
def Names.Rel (R : Symbol → Symbol → Prop) (ns ms : Names) : Prop := ∀ m, Option.Rel R (ns m) (ms m)

theorem Names.Rel.mono {R S : Symbol → Symbol → Prop} {ns ms : Names} (h : Names.Rel R ns ms)
    (hRS : ∀ {s t}, R s t → S s t) : Names.Rel S ns ms := by
  intro m
  have hm := h m
  generalize ns m = x at hm ⊢
  generalize ms m = y at hm ⊢
  cases hm with
  | none => exact .none
  | some hs => exact .some (hRS hs)

/-- Paired names of a scope. -/
def Names.Paired (d a b : Arena) : Names → Names → Prop := Names.Rel (Symbol.Paired d a b)

/-- **A state over the declarations**: types were added to theirs, and the tables are sound. -/
structure Over (d s : State) : Prop where
  types : s.types.Sound
  ext : d.types.Extends s.types
  aliases : s.aliases = d.aliases
  table : s.table.Sound

/-- What declarations leave behind: sound types, and names of types that are known. -/
structure Ground (d : State) : Prop where
  types : d.types.Sound
  aliases : ∀ {name id}, d.aliases.resolve? name = some id → id ≤ d.types.size

/-- The type of the first field, or the placeholder where there is none, is known. -/
theorem Ground.fieldType_le {d : State} (h : Ground d) {fields : List Field}
    (hf : ∀ f ∈ fields, f.type ≤ d.types.size) :
    (fields.head?.map Field.type).getD unknown ≤ d.types.size := by
  cases fields with
  | nil => exact h.types.builtin_le (show unknown ≤ 8 by decide)
  | cons f _ => exact hf f (.head _)

/-- **Paired states** over the same declarations. -/
structure Paired (d p c : State) : Prop where
  ground : Ground d
  left : Over d p
  right : Over d c
  view : List.Forall₂ (Names.Paired d.types p.types c.types) p.table.view c.table.view

variable {d p c p' c' : State}

namespace Paired

variable (h : Paired d p c)

include h

/-- A type of the declarations is the same type on both sides. -/
theorem same_declared {id : TypeId} (hid : id ≤ d.types.size) :
    Arena.Same p.types id c.types id :=
  (Arena.Same.refl hid).extends h.ground.types h.left.types h.left.ext h.ground.types
    h.right.types h.right.ext

theorem same_builtin {id : TypeId} (hid : id ≤ 8) : Arena.Same p.types id c.types id :=
  h.same_declared (h.ground.types.builtin_le hid)

theorem datas_eq : p.types.datas = c.types.datas :=
  h.left.ext.datas_eq.trans h.right.ext.datas_eq.symm

theorem enums_eq : p.types.enums = c.types.enums :=
  h.left.ext.enums_eq.trans h.right.ext.enums_eq.symm

/-- The fields of a record are types of the declarations. -/
theorem field_le {id : TypeId} {info : DataInfo} (hi : p.types.dataInfo? id = some info)
    {f : Field} (hf : f ∈ info.fields) : f.type ≤ d.types.size := by
  rw [Arena.dataInfo?] at hi
  split at hi
  · rw [h.left.ext.datas_eq] at hi
    exact h.ground.types.fields info (Array.mem_of_getElem? hi) f hf
  · cases hi

end Paired

theorem Value.Paired.extends {a b a' b' : Arena} {v w : Value} (h : v.Paired a b w) (ha : a.Sound)
    (ha' : a'.Sound) (haa : a.Extends a') (hb : b.Sound) (hb' : b'.Sound) (hbb : b.Extends b') :
    v.Paired a' b' w := ⟨h.type.extends ha ha' haa hb hb' hbb, h.taint⟩

theorem Value.Paired.diag {a b b' : Arena} {v w : Value} (h : v.Paired a b w) (hb : b.Extends b') :
    w.Paired b' b' w := ⟨.refl (hb.le_size h.type.right), .refl _⟩

/-! ## Steps in lockstep -/

/-- **Two steps in lockstep**: paired states before and after, and no more taint flows on the left. -/
structure Lockstep (d p c p' c' : State) : Prop where
  start : Paired d p c
  stop : Paired d p' c'
  left : p.types.Extends p'.types
  right : c.types.Extends c'.types
  left_scopes : p'.scopes = p.scopes
  right_scopes : c'.scopes = c.scopes
  flows : ∃ l r, p'.flows = p.flows ++ l ∧ c'.flows = c.flows ++ r ∧
    List.Forall₂ Observation.Below l r

namespace Lockstep

theorem refl (h : Paired d p c) : Lockstep d p c p c :=
  ⟨h, h, .refl _, .refl _, rfl, rfl, [], [], (List.append_nil _).symm, (List.append_nil _).symm, .nil⟩

theorem trans {p'' c'' : State} (h : Lockstep d p c p' c') (h' : Lockstep d p' c' p'' c'') :
    Lockstep d p c p'' c'' := by
  refine ⟨h.start, h'.stop, h.left.trans h'.left, h.right.trans h'.right,
    h'.left_scopes.trans h.left_scopes, h'.right_scopes.trans h.right_scopes, ?_⟩
  obtain ⟨l, r, hl, hr, hlr⟩ := h.flows
  obtain ⟨l', r', hl', hr', hlr'⟩ := h'.flows
  exact ⟨l ++ l', r ++ r', by rw [hl', hl, List.append_assoc], by rw [hr', hr, List.append_assoc],
    List.rel_append hlr hlr'⟩

/-- Types that are the same stay so. -/
theorem same {i j : TypeId} (h : Lockstep d p c p' c') (hs : Arena.Same p.types i c.types j) :
    Arena.Same p'.types i c'.types j :=
  hs.extends h.start.left.types h.stop.left.types h.left h.start.right.types h.stop.right.types
    h.right

theorem value {v w : Value} (h : Lockstep d p c p' c') (hv : Value.Paired p.types c.types v w) :
    Value.Paired p'.types c'.types v w := ⟨h.same hv.type, hv.taint⟩

end Lockstep

/-- Symbols that are paired stay so when both arenas grow. -/
theorem Symbol.Paired.extends {a b a' b' : Arena} {s t : Symbol} (h : Symbol.Paired d.types a b s t)
    (ha : a.Sound) (ha' : a'.Sound) (haa : a.Extends a') (hb : b.Sound) (hb' : b'.Sound)
    (hbb : b.Extends b') : Symbol.Paired d.types a' b' s t :=
  ⟨h.kind_eq, h.mutable_eq, h.signature_eq, h.known, h.variant,
    h.type.extends ha ha' haa hb hb' hbb, h.taint⟩

theorem Names.Paired.extends {a b a' b' : Arena} {ns ms : Names} (h : Names.Paired d.types a b ns ms)
    (ha : a.Sound) (ha' : a'.Sound) (haa : a.Extends a') (hb : b.Sound) (hb' : b'.Sound)
    (hbb : b.Extends b') : Names.Paired d.types a' b' ns ms :=
  Names.Rel.mono h fun hs => hs.extends ha ha' haa hb hb' hbb

/-- A quiet step on both sides keeps the pairing, as long as the types stay sound. -/
theorem Paired.quiet (h : Paired d p c) (hp : Quiet p p') (hc : Quiet c c')
    (hps : p'.types.Sound) (hcs : c'.types.Sound) : Paired d p' c' := by
  have hpt : p'.table = p.table := by rw [hp.eq]
  have hct : c'.table = c.table := by rw [hc.eq]
  refine ⟨h.ground, ⟨hps, h.left.ext.trans hp.types, ?_, hpt ▸ h.left.table⟩,
    ⟨hcs, h.right.ext.trans hc.types, ?_, hct ▸ h.right.table⟩, ?_⟩
  · rw [hp.eq]
    exact h.left.aliases
  · rw [hc.eq]
    exact h.right.aliases
  · rw [hpt, hct]
    exact h.view.imp fun ns ms hn =>
      hn.extends h.left.types hps hp.types h.right.types hcs hc.types

/-- Whatever is noted on either side, the states stay paired. -/
theorem Paired.logs (h : Paired d p c) (l r : Array (Option Nat × Observation)) :
    Paired d { p with log := l } { c with log := r } :=
  ⟨h.ground, ⟨h.left.types, h.left.ext, h.left.aliases, h.left.table⟩,
    ⟨h.right.types, h.right.ext, h.right.aliases, h.right.table⟩, h.view⟩

namespace Lockstep

/-- Whatever is noted on either side, as long as no flow is, the walks stay in lockstep. -/
theorem logs (h : Paired d p c) {l r : Array (Option Nat × Observation)}
    (hl : ({ p with log := l } : State).flows = p.flows)
    (hr : ({ c with log := r } : State).flows = c.flows) :
    Lockstep d p c { p with log := l } { c with log := r } :=
  ⟨h, h.logs l r, .refl _, .refl _, rfl, rfl, [], [], by rw [hl, List.append_nil],
    by rw [hr, List.append_nil], .nil⟩

theorem reports (h : Paired d p c) (hp : Reports p p') (hc : Reports c c') :
    Lockstep d p c p' c' := by
  have hlogs := logs h (hp.eq ▸ hp.flows) (hc.eq ▸ hc.flows)
  rwa [← hp.eq, ← hc.eq] at hlogs

/-- A report on the right. -/
theorem reports_right {α : Type} (h : Paired d p c) {x : Walk α} (hx : Walk.Keeps Reports x) :
    Lockstep d p c p (x.after c) := reports h (Walk.Course.refl p) (hx c)

/-- A type is made on both sides. -/
theorem made (h : Paired d p c) {r r' : Arena × TypeId}
    (hm : Arena.MadeAlike p.types r c.types r') :
    Lockstep d p c { p with types := r.1 } { c with types := r'.1 } :=
  ⟨h, h.quiet ⟨rfl, hm.left.ext, .nil rfl⟩ ⟨rfl, hm.right.ext, .nil rfl⟩ hm.left.sound
      hm.right.sound, hm.left.ext, hm.right.ext, rfl, rfl, [], [], (List.append_nil _).symm,
    (List.append_nil _).symm, .nil⟩

theorem flows_observe (s : State) (o : Observation) :
    ((Walk.observe o).after s).flows = s.flows ++ [o].filter (·.isFlow) :=
  LogGrows.flows (by simp [LogGrows])

theorem flows_observe_of_not {o : Observation} (ho : o.isFlow = false) (s : State) :
    ((Walk.observe o).after s).flows = s.flows := by
  rw [flows_observe]
  simp [ho]

/-- An observation on both sides that is no flow. -/
theorem observe (h : Paired d p c) {o : Observation} (ho : o.isFlow = false) :
    Lockstep d p c ((Walk.observe o).after p) ((Walk.observe o).after c) :=
  logs h (flows_observe_of_not ho p) (flows_observe_of_not ho c)

/-- An observation on the right that is no flow. -/
theorem observe_right (h : Paired d p c) {o : Observation} (ho : o.isFlow = false) :
    Lockstep d p c p ((Walk.observe o).after c) := logs h rfl (flows_observe_of_not ho c)

/-- A flow on both sides, with less taint on the left. -/
theorem flow (h : Paired d p c) {o o' : Observation} (hle : o.Below o') :
    Lockstep d p c ((Walk.observe o).after p) ((Walk.observe o').after c) := by
  have ho : o.isFlow = true := by cases hle <;> rfl
  have ho' : o'.isFlow = true := by cases hle <;> rfl
  exact ⟨h, h.logs _ _, .refl _, .refl _, rfl, rfl, [o], [o'], by rw [flows_observe]; simp [ho],
    by rw [flows_observe]; simp [ho'], .cons hle .nil⟩

end Lockstep

/-! ## Names -/

section Views

variable {R : Symbol → Symbol → Prop} {v w : View} (h : List.Forall₂ (Names.Rel R) v w)

include h

theorem lookup_rel (name : String) : Option.Rel R (v.lookup name) (w.lookup name) := by
  induction h with
  | nil => exact .none
  | @cons ns ms rest rest' hns _ ih =>
    have hm := hns name
    rw [View.lookup, View.lookup, List.findSome?_cons, List.findSome?_cons]
    generalize ns name = x at hm ⊢
    generalize ms name = y at hm ⊢
    cases hm with
    | none => exact ih
    | some hs => exact .some hs

theorem binds_eq (name : String) : v.binds name = w.binds name := by
  cases h with
  | nil => rfl
  | @cons ns ms _ _ hns _ =>
    have hm := hns name
    change (ns name).isSome = (ms name).isSome
    generalize ns name = x at hm ⊢
    generalize ms name = y at hm ⊢
    cases hm <;> rfl

theorem bind_rel (name : String) {s t : Symbol} (hs : R s t) :
    List.Forall₂ (Names.Rel R) (v.bind name s) (w.bind name t) := by
  cases h with
  | nil => exact .nil
  | cons hns hrest =>
    refine .cons (fun m => ?_) hrest
    split
    · exact .some hs
    · exact hns m

theorem change_rel (name : String) {f g : Symbol → Symbol}
    (hfg : ∀ {s t}, R s t → R (f s) (g t)) :
    List.Forall₂ (Names.Rel R) (v.change name f) (w.change name g) := by
  induction h with
  | nil => exact .nil
  | @cons ns ms rest rest' hns hrest ih =>
    rw [View.change, View.change]
    have hm := hns name
    generalize ns name = x at hm ⊢
    generalize ms name = y at hm ⊢
    cases hm with
    | none => exact .cons hns ih
    | some hs =>
      refine .cons (fun m => ?_) hrest
      split
      · exact .some (hfg hs)
      · exact hns m

end Views

/-- What a name stands for, with its number, is what the view says. -/
theorem value_lookup_cases {s : State} (h : s.table.Sound) (name : String) :
    ((Walk.lookup name).value s = none ∧ s.table.view.lookup name = none) ∨
      ∃ i sym, (Walk.lookup name).value s = some (i, sym) ∧ s.table.lookupId? name = some i ∧
        s.table.view.lookup name = some sym := by
  rw [Walk.value_lookup, ← h.lookup_eq]
  cases s.table.lookupId? name with
  | none => exact .inl ⟨rfl, rfl⟩
  | some i =>
    rw [Option.bind_some, Option.bind_some]
    cases s.table.symbol? i with
    | none => exact .inl ⟨rfl, rfl⟩
    | some sym => exact .inr ⟨i, sym, rfl, rfl, rfl⟩

/-- **A name is found on both sides or on neither**, and what is found is related. -/
theorem lookup_both {R : Symbol → Symbol → Prop} (hpt : p.table.Sound) (hct : c.table.Sound)
    (hview : List.Forall₂ (Names.Rel R) p.table.view c.table.view) (name : String) :
    ((Walk.lookup name).value p = none ∧ (Walk.lookup name).value c = none) ∨
      ∃ i s j t, (Walk.lookup name).value p = some (i, s) ∧ p.table.lookupId? name = some i ∧
        (Walk.lookup name).value c = some (j, t) ∧ c.table.lookupId? name = some j ∧ R s t := by
  have hrel := lookup_rel hview name
  obtain ⟨hp, hpv⟩ | ⟨i, s, hp, hi, hpv⟩ := value_lookup_cases hpt name
  · obtain ⟨hc, -⟩ | ⟨j, t, -, -, hcv⟩ := value_lookup_cases hct name
    · exact .inl ⟨hp, hc⟩
    · rw [hpv, hcv] at hrel
      exact nomatch hrel
  · obtain ⟨-, hcv⟩ | ⟨j, t, hc, hj, hcv⟩ := value_lookup_cases hct name
    · rw [hpv, hcv] at hrel
      exact nomatch hrel
    · rw [hpv, hcv] at hrel
      obtain hst | _ := hrel
      exact .inr ⟨i, s, j, t, hp, hi, hc, hj, hst⟩

theorem Paired.lookup (h : Paired d p c) (name : String) :
    ((Walk.lookup name).value p = none ∧ (Walk.lookup name).value c = none) ∨
      ∃ i s j t, (Walk.lookup name).value p = some (i, s) ∧ p.table.lookupId? name = some i ∧
        (Walk.lookup name).value c = some (j, t) ∧ c.table.lookupId? name = some j ∧
        Symbol.Paired d.types p.types c.types s t :=
  lookup_both h.left.table h.right.table h.view name

namespace Lockstep

/-- Only the tables change. -/
theorem tables (h : Paired d p c) {t u : Table} (ht : t.Sound) (hu : u.Sound)
    (hts : t.stack = p.table.stack) (hus : u.stack = c.table.stack)
    (hview : List.Forall₂ (Names.Paired d.types p.types c.types) t.view u.view) :
    Lockstep d p c { p with table := t } { c with table := u } :=
  ⟨h, ⟨h.ground, ⟨h.left.types, h.left.ext, h.left.aliases, ht⟩,
    ⟨h.right.types, h.right.ext, h.right.aliases, hu⟩, hview⟩, .refl _, .refl _,
    congrArg (·, p.opened) hts, congrArg (·, c.opened) hus, [], [], (List.append_nil _).symm, (List.append_nil _).symm, .nil⟩

/-- **A name is bound on both sides**, or refused on both. -/
theorem define (h : Paired d p c) (name : String) {s t : Symbol}
    (hs : Symbol.Paired d.types p.types c.types s t) (what what' : String) :
    Lockstep d p c ((Walk.define name s what).after p) ((Walk.define name t what').after c) := by
  have hbinds := binds_eq h.view name
  obtain ⟨hp, e, he⟩ | ⟨hp, hd, hnone⟩ := h.left.table.define_cases name s
  · obtain ⟨-, e', he'⟩ | ⟨hc, -, -⟩ := h.right.table.define_cases name t
    · rw [Walk.after_define_error he, Walk.after_define_error he']
      exact reports h (reports_duplicate _ _ _ _ p) (reports_duplicate _ _ _ _ c)
    · exact absurd (hp.symm.trans (hbinds.trans hc)) Bool.noConfusion
  · obtain ⟨hc, -, -⟩ | ⟨-, hd', hnone'⟩ := h.right.table.define_cases name t
    · exact absurd (hc.symm.trans (hbinds.symm.trans hp)) Bool.noConfusion
    · rw [Walk.after_define_ok hd, Walk.after_define_ok hd']
      refine tables h (h.left.table.bound s hnone) (h.right.table.bound t hnone')
        (Table.stack_bound _ _ _) (Table.stack_bound _ _ _) ?_
      rw [h.left.table.view_bound s hnone, h.right.table.view_bound t hnone']
      exact bind_rel h.view name
        ⟨hs.kind_eq, hs.mutable_eq, hs.signature_eq, hs.known, hs.variant, hs.type, hs.taint⟩

/-- **What a name stands for is changed on both sides.** -/
theorem update (h : Paired d p c) {name : String} {i j : Nat} {f g : Symbol → Symbol}
    (hi : p.table.lookupId? name = some i) (hj : c.table.lookupId? name = some j)
    (hf : ∀ s, (f s).scope = s.scope ∧ (f s).name = s.name)
    (hg : ∀ s, (g s).scope = s.scope ∧ (g s).name = s.name)
    (hfg : ∀ {s t}, Symbol.Paired d.types p.types c.types s t →
      Symbol.Paired d.types p.types c.types (f s) (g t)) :
    Lockstep d p c ((Walk.update i f).after p) ((Walk.update j g).after c) := by
  refine tables h (h.left.table.updateSymbol i hf) (h.right.table.updateSymbol j hg)
    (Table.stack_updateSymbol _ _ _) (Table.stack_updateSymbol _ _ _) ?_
  rw [h.left.table.view_updateSymbol hi, h.right.table.view_updateSymbol hj]
  exact change_rel h.view name hfg

/-- What a name stands for is changed on the right. -/
theorem update_right (h : Paired d p c) {name : String} {j : Nat} {g : Symbol → Symbol}
    (hj : c.table.lookupId? name = some j)
    (hg : ∀ s, (g s).scope = s.scope ∧ (g s).name = s.name)
    (hfg : ∀ {s t}, Symbol.Paired d.types p.types c.types s t →
      Symbol.Paired d.types p.types c.types s (g t)) :
    Lockstep d p c p ((Walk.update j g).after c) := by
  refine tables h h.left.table (h.right.table.updateSymbol j hg) rfl
    (Table.stack_updateSymbol _ _ _) ?_
  rw [h.right.table.view_updateSymbol hj, ← View.change_id name p.table.view]
  exact change_rel h.view name hfg

end Lockstep

/-! ## Scopes -/

/-- What the right side holds is paired with itself. -/
theorem Paired.diag (h : Paired d p c) : Paired d c c := by
  refine ⟨h.ground, h.right, h.right, List.forall₂_same.2 fun ms hms m => ?_⟩
  obtain ⟨ns, -, hnm⟩ := exists_left_of_mem h.view hms
  have hm := hnm m
  generalize ns m = x at hm
  generalize ms m = y at hm ⊢
  cases hm with
  | none => exact .none
  | some hs =>
    refine .some ⟨rfl, rfl, rfl, fun sig hsig => hs.known sig (hs.signature_eq.trans hsig),
      fun hk => ?_, .refl hs.type.right, .refl _⟩
    obtain ⟨heq, hslot⟩ := hs.variant (hs.kind_eq.trans hk)
    exact ⟨rfl, heq ▸ hslot⟩

/-- **The right side may go on alone**, as long as it leaves every scope that it opens. -/
theorem Paired.aside (h : Paired d p c) (hc : Enclosed c c') (hd : Paired d c' c') :
    Paired d p c' := by
  obtain ⟨hsound, -, hgrown⟩ := hc.table h.right.table
  refine ⟨h.ground, h.left, hd.right, ?_⟩
  have hnames : ∀ {ns ms ks : Names}, Names.Paired d.types p.types c.types ns ms →
      Names.Grown ms ks → Names.Paired d.types p.types c'.types ns ks := by
    intro ns ms ks hnm hmk m
    have h₁ := hnm m
    have h₂ := hmk m
    generalize ns m = x at h₁ ⊢
    generalize ms m = y at h₁ h₂
    generalize ks m = z at h₂ ⊢
    cases h₁ with
    | none => cases h₂; exact .none
    | some hs =>
      cases h₂ with
      | some hg =>
        refine .some ⟨hs.kind_eq.trans hg.kind_eq.symm, hs.mutable_eq.trans hg.mutable_eq.symm,
          hs.signature_eq.trans hg.signature_eq.symm, hs.known, hg.type_eq ▸ hs.variant, ?_,
          hs.taint.trans hg.taint_le⟩
        rw [hg.type_eq]
        exact hs.type.extends h.left.types h.left.types (.refl _) h.right.types hd.right.types
          hc.types
  have hview := h.view
  generalize p.table.view = v at hview ⊢
  generalize c.table.view = w at hview hgrown
  generalize c'.table.view = x at hgrown ⊢
  induction hview generalizing x with
  | nil => cases hgrown; exact .nil
  | cons hnm _ ih =>
    cases hgrown with
    | cons hmk hrest => exact .cons (hnames hnm hmk) (ih _ hrest)

theorem Paired.enter (h : Paired d p c) (kind kind' : ScopeKind) (span span' : Span) :
    Paired d ((Walk.enter kind span).after p) ((Walk.enter kind' span').after c) := by
  refine ⟨h.ground, ⟨h.left.types, h.left.ext, h.left.aliases, h.left.table.enter kind span⟩,
    ⟨h.right.types, h.right.ext, h.right.aliases, h.right.table.enter kind' span'⟩, ?_⟩
  rw [Walk.after_enter, Walk.after_enter, Table.view_enter, Table.view_enter]
  exact .cons (fun _ => .none) h.view

/-- **Leaving on both sides** the scopes that were entered. -/
theorem Paired.leave {kind kind' : ScopeKind} {span span' : Span} (hp : p.table.Sound)
    (hc : c.table.Sound) (h : Paired d p' c')
    (hps : p'.scopes = ((Walk.enter kind span).after p).scopes)
    (hcs : c'.scopes = ((Walk.enter kind' span').after c).scopes) :
    Paired d (Walk.leave.after p') (Walk.leave.after c') := by
  obtain ⟨hpsound, hpview⟩ := sound_leave kind span hp hps h.left.table
  obtain ⟨hcsound, hcview⟩ := sound_leave kind' span' hc hcs h.right.table
  rw [after_leave kind span hp hps, after_leave kind' span' hc hcs]
  refine ⟨h.ground, ⟨h.left.types, h.left.ext, h.left.aliases, hpsound⟩,
    ⟨h.right.types, h.right.ext, h.right.aliases, hcsound⟩, ?_⟩
  rw [hpview, hcview]
  have hview := h.view
  generalize p'.table.view = v at hview ⊢
  generalize c'.table.view = w at hview ⊢
  cases hview with
  | nil => exact .nil
  | cons _ hrest => exact hrest

end CoreCheck.Check

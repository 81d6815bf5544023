import CoreCheck.Proofs.Walk.Expressions

/-!
# Proofs/Walk/Bindings — what is bound on both sides

Written types are resolved alike by two walks that are related in any way that making types and
reporting names respects (`Coupling`); being in lockstep is one such way.  The parts that a pattern
takes out of a value are alike on both sides as well.
-/

namespace CoreCheck.Check

open CoreCheck.Types CoreCheck.Scope CoreCheck.Ir

variable {d p c : State}

/-! ## Written types -/

/-- **A relation of two walks that written types keep**: it holds of the states that the walks start
from and of those that they come to, where types of one structure are made on both sides, and where an
unknown name is reported. -/
structure Coupling (d : State) (At : State → State → Prop)
    (R : State → State → State → State → Prop) : Prop where
  paired {p c : State} : At p c → Paired d p c
  stop {p c p' c' : State} : R p c p' c' → At p' c'
  same {p c p' c' : State} {i j : TypeId} :
    R p c p' c' → Arena.Same p.types i c.types j → Arena.Same p'.types i c'.types j
  refl {p c : State} : At p c → R p c p c
  trans {p c p' c' p'' c'' : State} : R p c p' c' → R p' c' p'' c'' → R p c p'' c''
  made {p c : State} {r r' : Arena × TypeId} : At p c →
    Arena.MadeAlike p.types r c.types r' → R p c { p with types := r.1 } { c with types := r'.1 }
  unnamed {p c : State} : At p c → ∀ name span,
    R p c ((Walk.reportUnknownType name span).after p) ((Walk.reportUnknownType name span).after c)

/-- Two walks come to related states, and answer types of one structure. -/
def Coupled (R : State → State → State → State → Prop) (p c : State) (x y : Walk TypeId) : Prop :=
  R p c (x.after p) (y.after c) ∧
    Arena.Same (x.after p).types (x.value p) (y.after c).types (y.value c)

namespace Coupling

variable {At : State → State → Prop} {R : State → State → State → State → Prop}
  (k : Coupling d At R)

include k

theorem make (h : At p c) {f g : Arena → Arena × TypeId}
    (hm : Arena.MadeAlike p.types (f p.types) c.types (g c.types)) :
    Coupled R p c (Walk.make f) (Walk.make g) := ⟨k.made h hm, hm.same⟩

theorem bind {x y : Walk TypeId} {f g : TypeId → Walk TypeId} (hx : Coupled R p c x y)
    (hf : Coupled R (x.after p) (y.after c) (f (x.value p)) (g (y.value c))) :
    Coupled R p c (x >>= f) (y >>= g) := ⟨k.trans hx.1 hf.1, hf.2⟩

theorem sound {p' c' : State} (h : R p c p' c') : p'.types.Sound ∧ c'.types.Sound :=
  have hp := k.paired (k.stop h)
  ⟨hp.left.types, hp.right.types⟩

/-- A name stands for what it was declared for, or it is reported. -/
theorem named (h : At p c) (name : String) (span : Span) :
    Coupled R p c
      (do
        match ← tableResolver name with
        | some id => return id
        | none =>
          Walk.reportUnknownType name span
          return unknown)
      (do
        match ← tableResolver name with
        | some id => return id
        | none =>
          Walk.reportUnknownType name span
          return unknown) := by
  have hpaired := k.paired h
  have hp : (tableResolver name).value p = d.aliases.resolve? name := by
    rw [← hpaired.left.aliases]
    rfl
  have hc : (tableResolver name).value c = d.aliases.resolve? name := by
    rw [← hpaired.right.aliases]
    rfl
  rw [Coupled, Walk.after_bind, Walk.value_bind, Walk.after_bind, Walk.value_bind, hp, hc]
  cases hr : d.aliases.resolve? name with
  | none =>
    have hreport := k.unnamed h name span
    exact ⟨hreport, (k.paired (k.stop hreport)).same_builtin (show unknown ≤ 8 by decide)⟩
  | some id => exact ⟨k.refl h, hpaired.same_declared (hpaired.ground.aliases hr)⟩

/-- An optional type stays as it is, and any other is made optional. -/
theorem optional (h : At p c) {i j : TypeId} (hs : Arena.Same p.types i c.types j) :
    Coupled R p c
      (do if (← Walk.types).kindOf i == .optional then return i else Walk.make (·.optional i))
      (do if (← Walk.types).kindOf j == .optional then return j else Walk.make (·.optional j)) := by
  have ha := (k.paired h).left.types
  have hb := (k.paired h).right.types
  rw [Coupled, Walk.after_bind, Walk.value_bind, Walk.after_bind, Walk.value_bind,
    Walk.value_types, Walk.after_types, Walk.value_types, Walk.after_types, hs.kindOf_eq ha hb]
  split
  · exact ⟨k.refl h, hs⟩
  · have hmade := hs.optional ha hb
    exact ⟨k.made h hmade, hmade.same⟩

end Coupling

mutual

/-- **Written types are resolved alike by walks that are related.** -/
theorem Coupling.resolveType {At : State → State → Prop} {R : State → State → State → State → Prop}
    (k : Coupling d At R) (vars : List String) : ∀ (t : TypeExpr) (fallback : Span) {p c : State},
    At p c → Coupled R p c (Check.resolveType tableResolver vars fallback t)
      (Check.resolveType tableResolver vars fallback t)
  | .name at_ name, fallback, p, c, h => by
    have hp := k.paired h
    rw [Check.resolveType]
    split
    · exact k.make h (Arena.alike_var hp.left.types hp.right.types name)
    · exact k.named h name (at_.orElse fallback)
  | .var _ name, fallback, p, c, h => by
    have hp := k.paired h
    rw [Check.resolveType]
    exact k.make h (Arena.alike_var hp.left.types hp.right.types name)
  | .optional at_ elem, fallback, p, c, h => by
    rw [Check.resolveType]
    have he := k.resolveType vars elem (at_.orElse fallback) h
    exact k.bind he (k.optional (k.stop he.1) he.2)
  | .list at_ elem, fallback, p, c, h => by
    rw [Check.resolveType]
    have he := k.resolveType vars elem (at_.orElse fallback) h
    obtain ⟨ha, hb⟩ := k.sound he.1
    exact k.bind he (k.make (k.stop he.1) (he.2.list ha hb))
  | .map at_ key value, fallback, p, c, h => by
    rw [Check.resolveType]
    have hk := k.resolveType vars key (at_.orElse fallback) h
    have hv := k.resolveType vars value (at_.orElse fallback) (k.stop hk.1)
    obtain ⟨ha, hb⟩ := k.sound hv.1
    exact k.bind hk (k.bind hv (k.make (k.stop hv.1) ((k.same hv.1 hk.2).map ha hb hv.2)))
  | .result at_ ok err, fallback, p, c, h => by
    rw [Check.resolveType]
    have hx := k.resolveType vars ok (at_.orElse fallback) h
    have hy := k.resolveType vars err (at_.orElse fallback) (k.stop hx.1)
    obtain ⟨ha, hb⟩ := k.sound hy.1
    exact k.bind hx (k.bind hy (k.make (k.stop hy.1) ((k.same hy.1 hx.2).result ha hb hy.2)))
  | .func at_ params ret, fallback, p, c, h => by
    rw [Check.resolveType]
    obtain ⟨hps, hss⟩ := k.resolveTypes vars params (at_.orElse fallback) h
    have hr := k.resolveResult vars ret (at_.orElse fallback) (k.stop hps)
    obtain ⟨ha, hb⟩ := k.sound hr.1
    have hmade := Arena.alike_func ha hb (hss.imp fun _ _ hs => k.same hr.1 hs) hr.2
    exact ⟨k.trans hps (k.trans hr.1 (k.made (k.stop hr.1) hmade)), hmade.same⟩
  | .pii at_ elem level category, fallback, p, c, h => by
    rw [Check.resolveType]
    have he := k.resolveType vars elem (at_.orElse fallback) h
    obtain ⟨ha, hb⟩ := k.sound he.1
    exact k.bind he (k.make (k.stop he.1) (he.2.pii ha hb level category))

theorem Coupling.resolveTypes {At : State → State → Prop} {R : State → State → State → State → Prop}
    (k : Coupling d At R) (vars : List String) : ∀ (ts : List TypeExpr) (fallback : Span)
    {p c : State}, At p c →
    R p c ((Check.resolveTypes tableResolver vars fallback ts).after p)
        ((Check.resolveTypes tableResolver vars fallback ts).after c) ∧
      List.Forall₂ (fun i j =>
          Arena.Same ((Check.resolveTypes tableResolver vars fallback ts).after p).types i
            ((Check.resolveTypes tableResolver vars fallback ts).after c).types j)
        ((Check.resolveTypes tableResolver vars fallback ts).value p)
        ((Check.resolveTypes tableResolver vars fallback ts).value c)
  | [], fallback, p, c, h => by
    rw [Check.resolveTypes]
    exact ⟨k.refl h, .nil⟩
  | t :: ts, fallback, p, c, h => by
    rw [Check.resolveTypes]
    have ht := k.resolveType vars t fallback h
    obtain ⟨hts, hss⟩ := k.resolveTypes vars ts fallback (k.stop ht.1)
    exact ⟨k.trans ht.1 hts, .cons (k.same hts ht.2) hss⟩

theorem Coupling.resolveResult {At : State → State → Prop} {R : State → State → State → State → Prop}
    (k : Coupling d At R) (vars : List String) : ∀ (t : Option TypeExpr) (fallback : Span)
    {p c : State}, At p c → Coupled R p c (Check.resolveResult tableResolver vars fallback t)
      (Check.resolveResult tableResolver vars fallback t)
  | none, fallback, p, c, h => by
    rw [Check.resolveResult]
    exact ⟨k.refl h, (k.paired h).same_builtin (show unit ≤ 8 by decide)⟩
  | some t, fallback, p, c, h => by
    rw [Check.resolveResult]
    exact k.resolveType vars t fallback h

end

/-- Walks in lockstep keep in step over written types. -/
theorem coupling_lockstep : Coupling d (Paired d) (Lockstep d) where
  paired h := h
  stop h := h.stop
  same h := h.same
  refl := .refl
  trans := .trans
  made h hm := .made h hm
  unnamed h name span :=
    .reports h (reports_unknownType name span _) (reports_unknownType name span _)

/-- **Written types are resolved in lockstep.** -/
theorem lockstep_resolveType (vars : List String) (t : TypeExpr) (fallback : Span)
    (h : Paired d p c) :
    Lockstep d p c ((resolveType tableResolver vars fallback t).after p)
        ((resolveType tableResolver vars fallback t).after c) ∧
      Arena.Same ((resolveType tableResolver vars fallback t).after p).types
        ((resolveType tableResolver vars fallback t).value p)
        ((resolveType tableResolver vars fallback t).after c).types
        ((resolveType tableResolver vars fallback t).value c) :=
  coupling_lockstep.resolveType vars t fallback h

/-! ## Parts of matched values -/

/-- Types of one structure have parts of one structure under a wrapper. -/
theorem wrapPart_rel {a b : Arena} (ha : a.Sound) (hb : b.Sound) {i j : TypeId}
    (h : Arena.Same a i b j) (kind : Wrap) :
    Option.Rel (Arena.Same a · b ·) (wrapPart? kind (a.lookup i)) (wrapPart? kind (b.lookup j)) := by
  have hshape := h.shape ha hb
  cases hx : a.lookup i with
  | none =>
    rw [hx] at hshape
    generalize b.lookup j = y at hshape ⊢
    cases hshape
    cases kind <;> exact .none
  | some s =>
    cases hy : b.lookup j with
    | none => rw [hx, hy] at hshape; exact nomatch hshape
    | some t =>
      rw [hx, hy] at hshape
      obtain hst | _ := hshape
      have hpart : ∀ {x y}, x ∈ s.parts → y ∈ t.parts → a.tree x = b.tree y → Arena.Same a x b y :=
        Arena.Same.parts ha hb hx hy
      cases s <;> cases t <;> first
        | (simp only [Shape.assemble, reduceCtorEq] at hst; done)
        | skip
      case optional.optional =>
        cases kind with
        | some => exact .some (hpart (.head _) (.head _) (Ty.optional.inj hst))
        | ok => exact .none
        | err => exact .none
      case result.result =>
        obtain ⟨hok, herr⟩ := Ty.result.inj hst
        cases kind with
        | some => exact .none
        | ok => exact .some (hpart (.head _) (.head _) hok)
        | err => exact .some (hpart (.tail _ (.head _)) (.tail _ (.head _)) herr)
      all_goals cases kind <;> exact .none

theorem Paired.wrappedType (h : Paired d p c) {i j : TypeId} (hs : Arena.Same p.types i c.types j)
    (kind : Wrap) (span span' : Span) :
    Arena.Same p.types ((Check.wrappedType kind span i).value p) c.types
      ((Check.wrappedType kind span' j).value c) := by
  have ha := h.left.types
  have hb := h.right.types
  have hu : Arena.Same p.types unknown c.types unknown := h.same_builtin (by decide)
  rw [value_wrappedType, value_wrappedType, isOpaque_eq ha hb hs]
  split
  · exact hu
  · have hpart := wrapPart_rel ha hb (hs.unwrap ha hb) kind
    generalize wrapPart? kind (p.types.lookup (p.types.unwrap i)) = x at hpart ⊢
    generalize wrapPart? kind (c.types.lookup (c.types.unwrap j)) = y at hpart ⊢
    cases hpart with
    | none => exact hu
    | some hsame => exact hsame

/-- What a record pattern takes apart is settled by the declarations and the matched type. -/
theorem Paired.takenBy (h : Paired d p c) {i j : TypeId} (hs : Arena.Same p.types i c.types j)
    (span span' : Span) (name : String) (count : Nat) :
    (Check.takenBy span i name count).value p = (Check.takenBy span' j name count).value c := by
  rw [value_takenBy, value_takenBy, h.left.aliases, h.right.aliases, hasVariant_eq h hs]
  cases hr : d.aliases.resolve? name with
  | none => rfl
  | some id =>
    have hid := h.ground.aliases hr
    dsimp only
    rw [h.left.dataInfo_eq hid, h.right.dataInfo_eq hid]

/-- The fields that a record pattern takes apart are types of the declarations. -/
theorem Paired.taken_le (h : Paired d p c) {span : Span} {i : TypeId} {name : String} {count : Nat}
    {id : TypeId} {info : DataInfo}
    (ht : (Check.takenBy span i name count).value p = .data id info) :
    ∀ f ∈ info.fields, f.type ≤ d.types.size := by
  rw [value_takenBy] at ht
  split at ht
  · split at ht <;> exact nomatch ht
  · split at ht
    · exact nomatch ht
    · next hi =>
      obtain ⟨rfl, rfl⟩ := Taken.data.inj ht
      exact fun f hf => h.field_le hi hf

theorem Paired.variantType (h : Paired d p c) (name : String) :
    ((variantType? name).value p).isSome = ((variantType? name).value c).isSome := by
  rw [value_variantType, value_variantType]
  obtain ⟨hp, hc⟩ | ⟨i, s, j, t, hp, -, hc, -, hs⟩ := h.lookup name
  · rw [hp, hc]
  · rw [hp, hc]
    dsimp only
    rw [hs.kind_eq]
    split <;> rfl

end CoreCheck.Check

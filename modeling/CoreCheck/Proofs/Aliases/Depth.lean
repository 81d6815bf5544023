import CoreCheck.Proofs.Aliases.Resolved

/-!
# Proofs/Aliases/Depth — how deep looking up a name goes

Looking up an alias looks up the names in its target, which may be aliases again.  `lookUpBy` is one
such step, where the names in the target are looked up in a way that is passed in, and `lookUpTo`
takes so many of them.  Every alias is begun at most once, so no look-up goes deeper than there are
aliases: what would be done at a greater depth does not matter (`lookUpTo_eq_onDemand`), and a way
to look up names that goes on in its own way all along is the one that is used (`lookUpBy_eq_iff`).
-/

namespace CoreCheck.Check

open CoreCheck.Types CoreCheck.Ir

/-! ## Steps that agree -/

/-- **Two steps agree in a state**, and what they leave is still such a state. -/
structure Agree {α : Type} (J : State → Prop) (s : State) (x y : Walk α) : Prop where
  eq : x.run s = y.run s
  kept : J (x.after s)

section Agree

variable {J : State → Prop} {s : State} {α β : Type}

theorem Agree.bind {x y : Walk α} {f g : α → Walk β} (h : Agree J s x y)
    (hf : Agree J (x.after s) (f (x.value s)) (g (x.value s))) : Agree J s (x >>= f) (y >>= g) where
  eq := Walk.run_bind_congr h.eq hf.eq
  kept := hf.kept

theorem Agree.mono {J' : State → Prop} {x y : Walk α} (h : Agree J s x y) (hJ : ∀ t, J t → J' t) :
    Agree J' s x y := ⟨h.eq, hJ _ h.kept⟩

variable (hJ : ∀ {s t : State}, t.visits = s.visits → J s → J t)

include hJ

/-- A step that visits no alias agrees with itself. -/
theorem Agree.still {x : Walk α} (hx : (x.after s).visits = s.visits) (h : J s) : Agree J s x x :=
  ⟨rfl, hJ hx h⟩

/-- Steps on behalf of a declaration agree if they do on behalf of another. -/
theorem Agree.ownedBy {x y : Walk α} {i : Nat} (h : Agree J { s with owner := some i } x y) :
    Agree J s (Walk.ownedBy i x) (Walk.ownedBy i y) where
  eq := by
    have hy : (Walk.ownedBy i y).run s = ((y.run { s with owner := some i }).1,
      { (y.run { s with owner := some i }).2 with owner := s.owner }) := rfl
    rw [hy, ← h.eq]
    rfl
  kept := hJ (s := x.after { s with owner := some i }) rfl h.kept

variable {find find' : Resolver} (vars : List String)

/-- Some written types, one after the other. -/
theorem agree_resolveTypes (fallback : Span) (ts : List TypeExpr)
    (hts : ∀ t ∈ ts, ∀ {s}, J s →
      Agree J s (resolveType find vars fallback t) (resolveType find' vars fallback t)) (h : J s) :
    Agree J s (resolveTypes find vars fallback ts) (resolveTypes find' vars fallback ts) := by
  induction ts generalizing s with
  | nil => exact .still hJ rfl h
  | cons t ts ih =>
    have hfirst := hts t (.head _) h
    rw [resolveTypes, resolveTypes]
    exact hfirst.bind ((ih (fun u hu => hts u (.tail _ hu)) hfirst.kept).bind
      (.still hJ rfl (ih (fun u hu => hts u (.tail _ hu)) hfirst.kept).kept))

/-- **Two ways to look up names that agree resolve written types alike.** -/
theorem agree_resolveType (t : TypeExpr) (fallback : Span)
    (hfind : ∀ n, ∀ {s}, J s → Agree J s (find n) (find' n)) (h : J s) :
    Agree J s (resolveType find vars fallback t) (resolveType find' vars fallback t) := by
  have hmake : ∀ f, ∀ {s}, J s → Agree J s (Walk.make f) (Walk.make f) := fun _ => .still hJ rfl
  induction t using TypeExpr.induct generalizing fallback s with
  | name at_ n =>
    rw [resolveType, resolveType]
    split
    · exact hmake _ h
    · refine (hfind n h).bind (.still hJ ?_ (hfind n h).kept)
      cases (find n).value s <;> rfl
  | var at_ n => exact hmake _ h
  | optional at_ e ih =>
    have he := ih (at_.orElse fallback) h
    rw [resolveType, resolveType]
    refine he.bind (.still hJ ?_ he.kept)
    rw [Walk.after_bind, Walk.after_ite]
    split <;> rfl
  | list at_ e ih =>
    have he := ih (at_.orElse fallback) h
    rw [resolveType, resolveType]
    exact he.bind (hmake _ he.kept)
  | map at_ k v ihk ihv =>
    have hk := ihk (at_.orElse fallback) h
    have hv := ihv (at_.orElse fallback) hk.kept
    rw [resolveType, resolveType]
    exact hk.bind (hv.bind (hmake _ hv.kept))
  | result at_ x y ihx ihy =>
    have hx := ihx (at_.orElse fallback) h
    have hy := ihy (at_.orElse fallback) hx.kept
    rw [resolveType, resolveType]
    exact hx.bind (hy.bind (hmake _ hy.kept))
  | func at_ ps r ihps ihr =>
    have hps := agree_resolveTypes hJ vars (at_.orElse fallback) ps
      (fun t ht _ h => ihps t ht _ h) h
    have hr : Agree J ((resolveTypes find vars (at_.orElse fallback) ps).after s)
        (resolveResult find vars (at_.orElse fallback) r)
        (resolveResult find' vars (at_.orElse fallback) r) := by
      cases r with
      | none => exact .still hJ rfl hps.kept
      | some t => exact ihr t rfl _ hps.kept
    rw [resolveType, resolveType]
    exact hps.bind (hr.bind (hmake _ hr.kept))
  | pii at_ e level category ih =>
    have he := ih (at_.orElse fallback) h
    rw [resolveType, resolveType]
    exact he.bind (hmake _ he.kept)

end Agree

/-! ## Looking up, step by step -/

section Depth

variable (targets : List AliasTarget)

/-- **Looking up a name, one step**: the names in the target of an alias that was not resolved yet
are looked up by `inner`. -/
def lookUpBy (inner : Resolver) : Resolver := fun name => do
  match targets.find? (·.name = name) with
  | none => return (← get).aliases.resolve? name
  | some t =>
    match (← get).visits.lookup name with
    | some .done => return some (((← get).aliases.resolve? name).getD 0)
    | some .visiting =>
      Walk.ownedBy t.index <| Walk.report <|
        (Diagnostic.error .unknownType t.span
          ("type alias " ++ Text.quote name ++ " refers to itself")).withHelp
          "break the cycle by spelling out the target type"
      return some unknown
    | none =>
      modify fun s => { s with visits := (name, .visiting) :: s.visits }
      let id ← Walk.ownedBy t.index (resolveType inner [] t.span t.target)
      modify fun s =>
        { s with aliases := s.aliases.set name id, visits := (name, .done) :: s.visits }
      return some id

/-- **Looking up a name, so many steps deep**; what comes then is passed in. -/
def lookUpTo (stop : Resolver) : Nat → Resolver
  | 0 => stop
  | depth + 1 => lookUpBy targets (lookUpTo stop depth)

theorem aliasResolver_eq (depth : Nat) :
    aliasResolver targets depth = lookUpTo targets (fun _ => return some unknown) depth := by
  induction depth with
  | zero =>
    funext name
    rw [aliasResolver]
    rfl
  | succ depth ih =>
    funext name
    rw [aliasResolver, lookUpTo, ← ih]
    rfl

variable {targets}

/-- **As many steps as there are aliases that were not begun settle a look-up**, whatever comes
then. -/
theorem agree_lookUpTo {n depth depth' : Nat} (hn : n < depth) (hn' : n < depth')
    (stop stop' : Resolver) (x : String) {s : State}
    (hs : (unbegun targets s.visits).length ≤ n) :
    Agree (fun s => (unbegun targets s.visits).length ≤ n) s (lookUpTo targets stop depth x)
      (lookUpTo targets stop' depth' x) := by
  have hJ : ∀ k {s t : State}, t.visits = s.visits → (unbegun targets s.visits).length ≤ k →
      (unbegun targets t.visits).length ≤ k := fun _ _ _ hv h => hv ▸ h
  induction depth generalizing n depth' x s with
  | zero => exact absurd hn (Nat.not_lt_zero n)
  | succ depth ih =>
    obtain ⟨depth', rfl⟩ := Nat.exists_eq_succ_of_ne_zero (Nat.ne_zero_of_lt hn')
    rw [lookUpTo, lookUpTo, lookUpBy, lookUpBy]
    cases hfind : targets.find? (·.name = x) with
    | none => exact .still (hJ n) rfl hs
    | some a =>
      refine .bind (.still (hJ n) rfl hs) ?_
      simp only [Walk.value_get, Walk.after_get]
      cases hv : s.visits.lookup x with
      | some visit => cases visit <;> exact .still (hJ n) rfl hs
      | none =>
        -- one alias less is left to begin, for the names in the target
        have hless := length_unbegun_lt hfind hv .visiting
        obtain ⟨n, rfl⟩ := Nat.exists_eq_succ_of_ne_zero (Nat.ne_zero_of_lt (hless.trans_le hs))
        have hbegun : (unbegun targets ((x, .visiting) :: s.visits)).length ≤ n :=
          Nat.le_of_lt_succ (hless.trans_le hs)
        have hinner := Agree.ownedBy (hJ n) (i := a.index)
          (s := { s with visits := (x, .visiting) :: s.visits })
          (agree_resolveType (hJ n) [] a.target a.span (fun m _ hm =>
            ih (Nat.lt_of_succ_lt_succ hn) (Nat.lt_of_succ_lt_succ hn') m hm) hbegun)
        have hdone := hinner.kept
        refine Agree.mono (J := fun s => (unbegun targets s.visits).length ≤ n) ?_
          fun _ ht => Nat.le_succ_of_le ht
        refine .bind ⟨rfl, hbegun⟩ (hinner.bind (.bind ⟨rfl, ?_⟩ ⟨rfl, ?_⟩))
        all_goals
          change (unbegun targets ((x, .done) :: _)).length ≤ n
          rw [unbegun_cons]
          exact (List.length_filter_le _ _).trans hdone

/-- **No look-up goes deeper than there are aliases**: what would be done then does not matter. -/
theorem lookUpTo_eq_onDemand {depth : Nat} (h : targets.length < depth) (stop : Resolver) :
    lookUpTo targets stop depth = onDemand targets := by
  funext x
  rw [onDemand, aliasResolver_eq]
  refine funext fun s => ?_
  exact (agree_lookUpTo h (Nat.lt_succ_self _) _ _ x (List.length_filter_le _ _)).eq

/-- **A way to look up names that goes on in its own way** is the one that is used. -/
theorem lookUpBy_eq_iff (find : Resolver) :
    lookUpBy targets find = find ↔ find = onDemand targets := by
  constructor
  · intro h
    have hall : ∀ depth, lookUpTo targets find depth = find := by
      intro depth
      induction depth with
      | zero => rfl
      | succ depth ih => rw [lookUpTo, ih, h]
    rw [← hall (targets.length + 1), lookUpTo_eq_onDemand (Nat.lt_succ_self _)]
  · rintro rfl
    have hstep : lookUpBy targets (lookUpTo targets (onDemand targets) (targets.length + 1))
        = lookUpTo targets (onDemand targets) (targets.length + 2) := rfl
    rw [lookUpTo_eq_onDemand (Nat.lt_succ_self _), lookUpTo_eq_onDemand (by omega)] at hstep
    exact hstep

end Depth

end CoreCheck.Check

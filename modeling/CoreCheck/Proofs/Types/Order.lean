import CoreCheck.Proofs.Types.Exposed
import CoreCheck.Proofs.Types.Fit

/-!
# Proofs/Types/Order — where types fit is an order up to marks

Marks say nothing about where a type fits: `Ty.unmarked` takes them off at every depth, and a type
fits exactly where it does without them (`compatible_unmarked`).  Among types without placeholders
and type parameters fitting is transitive, and two types fit into each other exactly if they are the
same up to marks.  The parameters of functions are compared the other way round, so transitivity is
proved by induction on the size of all three types and not of one of them.
-/

namespace CoreCheck.Types

namespace Ty

/-! ## Types without marks -/

mutual

/-- **A type without its marks**, at every depth. -/
def unmarked : Ty → Ty
  | .pii base _ _ => base.unmarked
  | .func ps r => .func (unmarkedAll ps) r.unmarked
  | .optional e => .optional e.unmarked
  | .list e => .list e.unmarked
  | .map k v => .map k.unmarked v.unmarked
  | .result x y => .result x.unmarked y.unmarked
  | t => t

/-- Types without their marks. -/
def unmarkedAll : List Ty → List Ty
  | [] => []
  | t :: ts => t.unmarked :: unmarkedAll ts

end

/-- Whether a type is neither a mark nor fits anywhere. -/
def isPlain (t : Ty) : Bool := !t.isWild && t.kind != .pii

theorem isPlain_iff {t : Ty} : t.isPlain = true ↔ t.isWild = false ∧ t.kind ≠ .pii := by
  simp [isPlain]

theorem kind_unmarked {t : Ty} (h : t.kind ≠ .pii) : t.unmarked.kind = t.kind := by
  cases t with
  | pii => exact absurd rfl h
  | _ => rw [unmarked] <;> first | rfl | (intros; contradiction)

theorem isWild_unmarked {t : Ty} (h : t.kind ≠ .pii) : t.unmarked.isWild = t.isWild := by
  cases t with
  | pii => exact absurd rfl h
  | _ => rw [unmarked] <;> first | rfl | (intros; contradiction)

/-- An optional of anything fits as its element does, null and optionals apart. -/
theorem compatible_optional_of_isPlain {x t : Ty} (ht : t.isPlain = true) (hn : t.kind ≠ .null)
    (ho : t.kind ≠ .optional) : (Ty.optional x).compatible t = x.compatible t :=
  compatible_optional (isPlain_iff.1 ht).1 (isPlain_iff.1 ht).2 hn ho

/-- Plain types of different kinds do not fit, optionals apart. -/
theorem not_compatible_of_kind_ne {e t : Ty} (he : e.isPlain = true) (ht : t.isPlain = true)
    (ho : e.kind ≠ .optional) (hk : e.kind ≠ t.kind) : e.compatible t = false :=
  compatible_of_kind_ne (isPlain_iff.1 he).1 (isPlain_iff.1 ht).1 (isPlain_iff.1 he).2
    (isPlain_iff.1 ht).2 ho hk

theorem isPlain_unmarked {t : Ty} (h : t.isPlain = true) : t.unmarked.isPlain = true := by
  obtain ⟨hw, hp⟩ := isPlain_iff.1 h
  rw [isPlain_iff, isWild_unmarked hp, kind_unmarked hp]
  exact ⟨hw, hp⟩

theorem compatibleAll_nil_cons (t : Ty) (ts : List Ty) : compatibleAll [] (t :: ts) = false := by
  simp [compatibleAll]

theorem compatibleAll_cons_nil (e : Ty) (es : List Ty) : compatibleAll (e :: es) [] = false := by
  simp [compatibleAll]

/-- What a type of a given kind is. -/
def Of : Kind → Ty → Prop
  | .unknown, t => t = .missing ∨ t = .unknown
  | .int, t => t = .int
  | .long, t => t = .long
  | .double, t => t = .double
  | .text, t => t = .text
  | .bool, t => t = .bool
  | .unit, t => t = .unit
  | .null, t => t = .null
  | .data, t => ∃ slot, t = .data slot
  | .enum, t => ∃ slot, t = .enum slot
  | .var, t => ∃ name, t = .var name
  | .func, t => ∃ ps r, t = .func ps r
  | .optional, t => ∃ e, t = .optional e
  | .list, t => ∃ e, t = .list e
  | .map, t => ∃ k v, t = .map k v
  | .result, t => ∃ x y, t = .result x y
  | .pii, t => ∃ b l c, t = .pii b l c

theorem of_kind {t : Ty} {k : Kind} (h : t.kind = k) : Of k t := by
  subst h
  cases t <;> simp [Of, kind]

mutual

/-- **A type fits exactly where it does without marks.** -/
theorem compatible_unmarked (e t : Ty) : e.unmarked.compatible t.unmarked = e.compatible t := by
  by_cases hpe : e.kind = .pii
  · obtain ⟨b, l, c, rfl⟩ := of_kind hpe
    rw [unmarked, compatible_unmarked b t, compatible_pii_left]
  by_cases hpt : t.kind = .pii
  · obtain ⟨b, l, c, rfl⟩ := of_kind hpt
    rw [unmarked.eq_1, compatible_unmarked e b, compatible_pii_right]
  by_cases hwe : e.isWild = true
  · rw [compatible_of_wild_left _ hwe, compatible_of_wild_left _ (isWild_unmarked hpe ▸ hwe)]
  by_cases hwt : t.isWild = true
  · rw [compatible_of_wild_right _ hwt, compatible_of_wild_right _ (isWild_unmarked hpt ▸ hwt)]
  have he : e.isPlain = true := isPlain_iff.2 ⟨Bool.eq_false_iff.2 hwe, hpe⟩
  have ht : t.isPlain = true := isPlain_iff.2 ⟨Bool.eq_false_iff.2 hwt, hpt⟩
  by_cases hk : e.kind = t.kind
  · have hof := of_kind hk.symm
    cases e with
    | missing | unknown | var => exact absurd rfl hwe
    | pii => exact absurd rfl hpe
    | func ps r =>
      obtain ⟨ps', r', rfl⟩ := hof
      simp only [unmarked, compatible, compatibleAll_unmarked ps' ps, compatible_unmarked r r']
    | optional x =>
      obtain ⟨y, rfl⟩ := hof
      simp only [unmarked, compatible, compatible_unmarked x y]
    | list x =>
      obtain ⟨y, rfl⟩ := hof
      simp only [unmarked, compatible, compatible_unmarked x y]
    | map k v =>
      obtain ⟨k', v', rfl⟩ := hof
      simp only [unmarked, compatible, compatible_unmarked k k', compatible_unmarked v v']
    | result x y =>
      obtain ⟨x', y', rfl⟩ := hof
      simp only [unmarked, compatible, compatible_unmarked x x', compatible_unmarked y y']
    | data i =>
      obtain ⟨j, rfl⟩ := hof
      simp only [unmarked]
    | enum i =>
      obtain ⟨j, rfl⟩ := hof
      simp only [unmarked]
    | _ =>
      obtain rfl := hof
      simp only [unmarked]
  by_cases ho : e.kind = .optional
  · obtain ⟨x, rfl⟩ := of_kind ho
    have hto : t.kind ≠ .optional := fun h => hk h.symm
    by_cases hn : t.kind = .null
    · obtain rfl := of_kind hn
      simp only [unmarked, compatible]
    · rw [unmarked, compatible_optional_of_isPlain ht hn hto, ← compatible_unmarked x t]
      exact compatible_optional_of_isPlain (isPlain_unmarked ht) (kind_unmarked hpt ▸ hn)
        (kind_unmarked hpt ▸ hto)
  · rw [not_compatible_of_kind_ne he ht ho hk]
    exact not_compatible_of_kind_ne (isPlain_unmarked he) (isPlain_unmarked ht)
      (kind_unmarked hpe ▸ ho) (by rwa [kind_unmarked hpe, kind_unmarked hpt])
termination_by sizeOf e + sizeOf t
decreasing_by
  all_goals
    subst_vars
    simp only [pii.sizeOf_spec, func.sizeOf_spec, optional.sizeOf_spec, list.sizeOf_spec,
      map.sizeOf_spec, result.sizeOf_spec]
    omega

theorem compatibleAll_unmarked : ∀ es ts : List Ty,
    compatibleAll (unmarkedAll es) (unmarkedAll ts) = compatibleAll es ts
  | [], [] => by rw [unmarkedAll]
  | [], t :: ts => by
    rw [unmarkedAll, unmarkedAll, compatibleAll_nil_cons, compatibleAll_nil_cons]
  | e :: es, [] => by
    rw [unmarkedAll, unmarkedAll, compatibleAll_cons_nil, compatibleAll_cons_nil]
  | e :: es, t :: ts => by
    rw [unmarkedAll, unmarkedAll, compatibleAll, compatibleAll, compatible_unmarked e t,
      compatibleAll_unmarked es ts]
termination_by es ts => sizeOf es + sizeOf ts
decreasing_by
  all_goals
    simp only [List.cons.sizeOf_spec]
    omega

end

/-! ## How types fit -/

/-- Whether a type has no parts and fits only where it stands itself. -/
def isLeaf : Ty → Bool
  | .int | .long | .double | .text | .bool | .unit | .null | .data _ | .enum _ => true
  | _ => false

/-- **The ways in which plain types fit.** -/
inductive Fits : Ty → Ty → Prop
  | leaf {t : Ty} (h : t.isLeaf = true) : Fits t t
  | null (x : Ty) : Fits (.optional x) .null
  | optional {x y : Ty} (h : x.compatible y = true) : Fits (.optional x) (.optional y)
  | elem {x t : Ty} (hn : t.kind ≠ .null) (ho : t.kind ≠ .optional) (h : x.compatible t = true) :
    Fits (.optional x) t
  | list {x y : Ty} (h : x.compatible y = true) : Fits (.list x) (.list y)
  | map {k v k' v' : Ty} (hk : k.compatible k' = true) (hv : v.compatible v' = true) :
    Fits (.map k v) (.map k' v')
  | result {x y x' y' : Ty} (hx : x.compatible x' = true) (hy : y.compatible y' = true) :
    Fits (.result x y) (.result x' y')
  | func {ps ps' : List Ty} {r r' : Ty} (hps : compatibleAll ps' ps = true)
    (hr : r.compatible r' = true) : Fits (.func ps r) (.func ps' r')

theorem Fits.compatible {e t : Ty} (h : Fits e t) (ht : t.isPlain = true) :
    e.compatible t = true := by
  cases h with
  | leaf => exact compatible_refl _
  | null => rw [Ty.compatible]
  | optional h => rwa [Ty.compatible]
  | elem hn ho h => rwa [compatible_optional_of_isPlain ht hn ho]
  | list h => rwa [Ty.compatible]
  | map hk hv => rw [Ty.compatible, hk, hv]; rfl
  | result hx hy => rw [Ty.compatible, hx, hy]; rfl
  | func hps hr => rw [Ty.compatible, hps, hr]; rfl

/-- **Plain types fit in no other way.** -/
theorem fits_of_compatible {e t : Ty} (he : e.isPlain = true) (ht : t.isPlain = true)
    (h : e.compatible t = true) : Fits e t := by
  by_cases ho : e.kind = .optional
  · obtain ⟨x, rfl⟩ := of_kind ho
    by_cases hn : t.kind = .null
    · obtain rfl := of_kind hn
      exact .null x
    by_cases hto : t.kind = .optional
    · obtain ⟨y, rfl⟩ := of_kind hto
      rw [compatible] at h
      exact .optional h
    · rw [compatible_optional_of_isPlain ht hn hto] at h
      exact .elem hn hto h
  by_cases hk : e.kind = t.kind
  · have hof := of_kind hk.symm
    cases e with
    | missing | unknown | var | pii => cases he
    | data i =>
      obtain ⟨j, rfl⟩ := hof
      rw [compatible, beq_iff_eq] at h
      exact h ▸ .leaf rfl
    | enum i =>
      obtain ⟨j, rfl⟩ := hof
      rw [compatible, beq_iff_eq] at h
      exact h ▸ .leaf rfl
    | optional => exact absurd rfl ho
    | func ps r =>
      obtain ⟨ps', r', rfl⟩ := hof
      rw [compatible, Bool.and_eq_true_iff] at h
      exact .func h.1 h.2
    | list x =>
      obtain ⟨y, rfl⟩ := hof
      rw [compatible] at h
      exact .list h
    | map k v =>
      obtain ⟨k', v', rfl⟩ := hof
      rw [compatible, Bool.and_eq_true_iff] at h
      exact .map h.1 h.2
    | result x y =>
      obtain ⟨x', y', rfl⟩ := hof
      rw [compatible, Bool.and_eq_true_iff] at h
      exact .result h.1 h.2
    | _ =>
      obtain rfl := hof
      exact .leaf rfl
  · exact absurd ((not_compatible_of_kind_ne he ht ho hk).symm.trans h) Bool.false_ne_true

/-- What fits into a type that is no optional is of its kind. -/
theorem Fits.kind_eq {e t : Ty} (h : Fits e t) (ho : e.kind ≠ .optional) : t.kind = e.kind := by
  cases h <;> first | rfl | exact absurd rfl ho

/-! ## Optionals take what their elements take -/

mutual

theorem compatible_optional_of_compatible {x t : Ty} (h : x.compatible t = true) :
    (Ty.optional x).compatible t = true := by
  by_cases hw : t.isWild = true
  · exact compatible_of_wild_right _ hw
  by_cases hp : t.kind = .pii
  · obtain ⟨b, l, c, rfl⟩ := of_kind hp
    rw [compatible_pii_right] at h ⊢
    exact compatible_optional_of_compatible h
  by_cases hn : t.kind = .null
  · obtain rfl := of_kind hn
    rw [compatible]
  by_cases ho : t.kind = .optional
  · obtain ⟨y, rfl⟩ := of_kind ho
    rw [compatible]
    exact compatible_of_compatible_optional h
  · rwa [compatible_optional (Bool.eq_false_iff.2 hw) hp hn ho]
termination_by sizeOf x + sizeOf t
decreasing_by
  all_goals
    subst_vars
    simp only [pii.sizeOf_spec, optional.sizeOf_spec]
    omega

theorem compatible_of_compatible_optional {e y : Ty} (h : e.compatible (.optional y) = true) :
    e.compatible y = true := by
  by_cases hw : e.isWild = true
  · exact compatible_of_wild_left _ hw
  by_cases hp : e.kind = .pii
  · obtain ⟨b, l, c, rfl⟩ := of_kind hp
    rw [compatible_pii_left] at h ⊢
    exact compatible_of_compatible_optional h
  by_cases ho : e.kind = .optional
  · obtain ⟨x, rfl⟩ := of_kind ho
    rw [compatible] at h
    exact compatible_optional_of_compatible h
  · have hno := not_compatible_of_kind_ne (t := .optional y)
      (isPlain_iff.2 ⟨Bool.eq_false_iff.2 hw, hp⟩) rfl ho ho
    cases hno.symm.trans h
termination_by sizeOf e + sizeOf y
decreasing_by
  all_goals
    subst_vars
    simp only [pii.sizeOf_spec, optional.sizeOf_spec]
    omega

end

theorem compatible_unwrap_right (e t : Ty) : e.compatible t.unwrap = e.compatible t := by
  cases t with
  | pii b l c => exact (compatible_pii_right e b l c).symm
  | _ => rfl

/-- Anything fits where the type under a mark is open. -/
theorem compatible_of_unwrap_unknown (e : Ty) {t : Ty} (h : t.unwrap.kind = .unknown) :
    e.compatible t = true := by
  rw [← compatible_unwrap_right]
  refine compatible_of_wild_right e ?_
  obtain h | h := of_kind h <;> rw [h] <;> rfl

/-- Null fits into an optional, with a mark or without. -/
theorem compatible_optional_of_unwrap_null (x : Ty) {t : Ty} (h : t.unwrap.kind = .null) :
    (Ty.optional x).compatible t = true := by
  have ht : t.unwrap = .null := of_kind h
  rw [← compatible_unwrap_right, ht, compatible]

/-! ## Ground types -/

mutual

/-- **Whether a type is ground**: nothing in it fits anywhere. -/
def isGround : Ty → Bool
  | .missing | .unknown | .var _ => false
  | .pii base _ _ => base.isGround
  | .func ps r => areGround ps && r.isGround
  | .optional e | .list e => e.isGround
  | .map k v => k.isGround && v.isGround
  | .result x y => x.isGround && y.isGround
  | _ => true

/-- Whether all of some types are ground. -/
def areGround : List Ty → Bool
  | [] => true
  | t :: ts => t.isGround && areGround ts

end

/-- A ground type is a mark or plain. -/
theorem mark_or_isPlain {t : Ty} (h : t.isGround = true) :
    (∃ b l c, t = .pii b l c ∧ b.isGround = true) ∨ t.isPlain = true := by
  cases t with
  | missing | unknown | var => simp [isGround] at h
  | pii b l c => exact .inl ⟨b, l, c, rfl, by rwa [isGround] at h⟩
  | _ => exact .inr rfl

mutual

/-- **Fitting is transitive** on ground types. -/
theorem compatible_trans {a b c : Ty} (ha : a.isGround = true) (hb : b.isGround = true)
    (hc : c.isGround = true) (hab : a.compatible b = true) (hbc : b.compatible c = true) :
    a.compatible c = true := by
  -- marks are taken off first, whichever of the three they stand on
  obtain ⟨x, l, k, rfl, hx⟩ | hpa := mark_or_isPlain ha
  · rw [compatible_pii_left] at hab ⊢
    exact compatible_trans hx hb hc hab hbc
  obtain ⟨x, l, k, rfl, hx⟩ | hpb := mark_or_isPlain hb
  · rw [compatible_pii_right] at hab
    rw [compatible_pii_left] at hbc
    exact compatible_trans ha hx hc hab hbc
  obtain ⟨x, l, k, rfl, hx⟩ | hpc := mark_or_isPlain hc
  · rw [compatible_pii_right] at hbc ⊢
    exact compatible_trans ha hb hx hab hbc
  refine Fits.compatible ?_ hpc
  have hfit := fits_of_compatible hpb hpc hbc
  cases fits_of_compatible hpa hpb hab with
  | leaf => exact hfit
  | null x =>
    cases hfit with
    | leaf => exact .null x
  | optional hxy =>
    rw [isGround] at ha hb
    cases hfit with
    | leaf h => cases h
    | null => exact .null _
    | optional hyz =>
      rw [isGround] at hc
      exact .optional (compatible_trans ha hb hc hxy hyz)
    | elem hn ho hyc => exact .elem hn ho (compatible_trans ha hb hc hxy hyc)
  | elem hn ho hxb =>
    rw [isGround] at ha
    have hkind := hfit.kind_eq ho
    exact .elem (hkind ▸ hn) (hkind ▸ ho) (compatible_trans ha hb hc hxb hbc)
  | list hxy =>
    cases hfit with
    | leaf h => cases h
    | list hyz =>
      rw [isGround] at ha hb hc
      exact .list (compatible_trans ha hb hc hxy hyz)
  | map hk hv =>
    cases hfit with
    | leaf h => cases h
    | map hk' hv' =>
      rw [isGround, Bool.and_eq_true_iff] at ha hb hc
      exact .map (compatible_trans ha.1 hb.1 hc.1 hk hk') (compatible_trans ha.2 hb.2 hc.2 hv hv')
  | result hx hy =>
    cases hfit with
    | leaf h => cases h
    | result hx' hy' =>
      rw [isGround, Bool.and_eq_true_iff] at ha hb hc
      exact .result (compatible_trans ha.1 hb.1 hc.1 hx hx')
        (compatible_trans ha.2 hb.2 hc.2 hy hy')
  | func hps hr =>
    cases hfit with
    | leaf h => cases h
    | func hps' hr' =>
      rw [isGround, Bool.and_eq_true_iff] at ha hb hc
      exact .func (compatibleAll_trans hc.1 hb.1 ha.1 hps' hps)
        (compatible_trans ha.2 hb.2 hc.2 hr hr')
termination_by sizeOf a + sizeOf b + sizeOf c
decreasing_by
  all_goals
    subst_vars
    simp only [pii.sizeOf_spec, func.sizeOf_spec, optional.sizeOf_spec, list.sizeOf_spec,
      map.sizeOf_spec, result.sizeOf_spec]
    omega

theorem compatibleAll_trans {as bs cs : List Ty} (ha : areGround as = true)
    (hb : areGround bs = true) (hc : areGround cs = true) (hab : compatibleAll as bs = true)
    (hbc : compatibleAll bs cs = true) : compatibleAll as cs = true := by
  cases as with
  | nil =>
    cases bs with
    | nil => exact hbc
    | cons b bs => cases (compatibleAll_nil_cons b bs).symm.trans hab
  | cons a as =>
    cases bs with
    | nil => cases (compatibleAll_cons_nil a as).symm.trans hab
    | cons b bs =>
      cases cs with
      | nil => cases (compatibleAll_cons_nil b bs).symm.trans hbc
      | cons c cs =>
        rw [areGround, Bool.and_eq_true_iff] at ha hb hc
        rw [compatibleAll, Bool.and_eq_true_iff] at hab hbc ⊢
        exact ⟨compatible_trans ha.1 hb.1 hc.1 hab.1 hbc.1,
          compatibleAll_trans ha.2 hb.2 hc.2 hab.2 hbc.2⟩
termination_by sizeOf as + sizeOf bs + sizeOf cs
decreasing_by
  all_goals
    subst_vars
    simp only [List.cons.sizeOf_spec]
    omega

end

mutual

/-- **Ground types that fit into each other differ in their marks only.** -/
theorem unmarked_eq_of_compatible {a b : Ty} (ha : a.isGround = true) (hb : b.isGround = true)
    (hab : a.compatible b = true) (hba : b.compatible a = true) : a.unmarked = b.unmarked := by
  obtain ⟨x, l, k, rfl, hx⟩ | hpa := mark_or_isPlain ha
  · rw [compatible_pii_left] at hab
    rw [compatible_pii_right] at hba
    rw [unmarked]
    exact unmarked_eq_of_compatible hx hb hab hba
  obtain ⟨x, l, k, rfl, hx⟩ | hpb := mark_or_isPlain hb
  · rw [compatible_pii_right] at hab
    rw [compatible_pii_left] at hba
    rw [unmarked.eq_1 x]
    exact unmarked_eq_of_compatible ha hx hab hba
  have hfit := fits_of_compatible hpb hpa hba
  cases fits_of_compatible hpa hpb hab with
  | leaf => rfl
  | null => cases hfit
  | optional hxy =>
    rw [isGround] at ha hb
    cases hfit with
    | leaf h => cases h
    | optional hyx => rw [unmarked, unmarked, unmarked_eq_of_compatible ha hb hxy hyx]
    | elem hn ho h => exact absurd rfl ho
  | elem hn ho h => exact absurd (hfit.kind_eq ho).symm ho
  | list hxy =>
    cases hfit with
    | leaf h => cases h
    | list hyx =>
      rw [isGround] at ha hb
      rw [unmarked, unmarked, unmarked_eq_of_compatible ha hb hxy hyx]
  | map hk hv =>
    cases hfit with
    | leaf h => cases h
    | map hk' hv' =>
      rw [isGround, Bool.and_eq_true_iff] at ha hb
      rw [unmarked, unmarked, unmarked_eq_of_compatible ha.1 hb.1 hk hk',
        unmarked_eq_of_compatible ha.2 hb.2 hv hv']
  | result hx hy =>
    cases hfit with
    | leaf h => cases h
    | result hx' hy' =>
      rw [isGround, Bool.and_eq_true_iff] at ha hb
      rw [unmarked, unmarked, unmarked_eq_of_compatible ha.1 hb.1 hx hx',
        unmarked_eq_of_compatible ha.2 hb.2 hy hy']
  | func hps hr =>
    cases hfit with
    | leaf h => cases h
    | func hps' hr' =>
      rw [isGround, Bool.and_eq_true_iff] at ha hb
      rw [unmarked, unmarked, unmarkedAll_eq_of_compatibleAll ha.1 hb.1 hps' hps,
        unmarked_eq_of_compatible ha.2 hb.2 hr hr']
termination_by sizeOf a + sizeOf b
decreasing_by
  all_goals
    subst_vars
    simp only [pii.sizeOf_spec, func.sizeOf_spec, optional.sizeOf_spec, list.sizeOf_spec,
      map.sizeOf_spec, result.sizeOf_spec]
    omega

theorem unmarkedAll_eq_of_compatibleAll {as bs : List Ty} (ha : areGround as = true)
    (hb : areGround bs = true) (hab : compatibleAll as bs = true)
    (hba : compatibleAll bs as = true) : unmarkedAll as = unmarkedAll bs := by
  cases as with
  | nil =>
    cases bs with
    | nil => rfl
    | cons b bs => cases (compatibleAll_nil_cons b bs).symm.trans hab
  | cons a as =>
    cases bs with
    | nil => cases (compatibleAll_cons_nil a as).symm.trans hab
    | cons b bs =>
      rw [areGround, Bool.and_eq_true_iff] at ha hb
      rw [compatibleAll, Bool.and_eq_true_iff] at hab hba
      rw [unmarkedAll, unmarkedAll, unmarked_eq_of_compatible ha.1 hb.1 hab.1 hba.1,
        unmarkedAll_eq_of_compatibleAll ha.2 hb.2 hab.2 hba.2]
termination_by sizeOf as + sizeOf bs
decreasing_by
  all_goals
    subst_vars
    simp only [List.cons.sizeOf_spec]
    omega

end

/-- What fits is a matter of the types without marks. -/
theorem compatible_eq_of_unmarked_eq {e e' t t' : Ty} (he : e.unmarked = e'.unmarked)
    (ht : t.unmarked = t'.unmarked) : e.compatible t = e'.compatible t' := by
  rw [← compatible_unmarked e t, he, ht, compatible_unmarked]

/-- **Ground types fit into each other exactly if they are the same up to marks.** -/
theorem compatible_and_compatible_iff {a b : Ty} (ha : a.isGround = true) (hb : b.isGround = true) :
    a.compatible b = true ∧ b.compatible a = true ↔ a.unmarked = b.unmarked := by
  refine ⟨fun h => unmarked_eq_of_compatible ha hb h.1 h.2, fun h => ⟨?_, ?_⟩⟩
  · rw [compatible_eq_of_unmarked_eq h rfl]
    exact compatible_refl b
  · rw [compatible_eq_of_unmarked_eq rfl h]
    exact compatible_refl b

end Ty

/-! ## Joining -/

/-- **A structure is a bound of two others**: both fit into it, and it is ground if they are. -/
structure Ty.Bounds (j s t : Ty) : Prop where
  left : j.compatible s = true
  right : j.compatible t = true
  ground : s.isGround = true → t.isGround = true → j.isGround = true

namespace Ty.Bounds

theorem symm {j s t : Ty} (h : j.Bounds s t) : j.Bounds t s :=
  ⟨h.right, h.left, fun ht hs => h.ground hs ht⟩

/-- The one type is a bound if the other fits into it. -/
theorem of_compatible {s t : Ty} (h : s.compatible t = true) : s.Bounds s t :=
  ⟨compatible_refl s, h, fun hs _ => hs⟩

/-- The optional of a type is a bound of the type and null. -/
theorem optional {s t : Ty} (h : t.unwrap.kind = .null) : (Ty.optional s).Bounds s t :=
  ⟨compatible_optional_of_compatible (compatible_refl s), compatible_optional_of_unwrap_null s h,
    fun hs _ => by rwa [isGround]⟩

end Ty.Bounds

/-- **Joining answers a bound.** -/
theorem Arena.Sound.bounds_join {a : Arena} (h : a.Sound) {s t j : TypeId} (hs : s ≤ a.size)
    (ht : t ≤ a.size) (hj : (a.join s t).2 = some j) :
    ((a.join s t).1.tree j).Bounds (a.tree s) (a.tree t) := by
  have optional : ∀ i ≤ a.size, (a.optional i).1.tree (a.optional i).2 = .optional (a.tree i) :=
    fun i hi => Request.tree_make h (r := .optional i) (by simpa [Request.args] using hi)
  revert hj
  unfold Arena.join Arena.isUnknown
  rw [h.kindOf_eq s, h.kindOf_eq t, h.compatible_eq s t, h.compatible_eq t s]
  split
  · rintro ⟨⟩
    next he => exact he ▸ .of_compatible (Ty.compatible_refl _)
  split
  · rintro ⟨⟩
    next hu =>
    exact (Ty.Bounds.of_compatible (Ty.compatible_of_unwrap_unknown _ (beq_iff_eq.1 hu))).symm
  split
  · rintro ⟨⟩
    next hu => exact .of_compatible (Ty.compatible_of_unwrap_unknown _ (beq_iff_eq.1 hu))
  split
  · intro hj
    next hn =>
    rw [← Option.some.inj hj, optional t ht]
    exact (Ty.Bounds.optional (beq_iff_eq.1 (Bool.and_eq_true_iff.1 hn).1)).symm
  split
  · intro hj
    next hn =>
    rw [← Option.some.inj hj, optional s hs]
    exact .optional (beq_iff_eq.1 (Bool.and_eq_true_iff.1 hn).1)
  split
  · rintro ⟨⟩
    next hst => exact .of_compatible hst
  split
  · rintro ⟨⟩
    next hts => exact (Ty.Bounds.of_compatible hts).symm
  · exact fun hj => by cases hj

/-! ## The types of an arena -/

/-- Whether nothing in a type of an arena is a placeholder or a type parameter. -/
def Arena.isGround (a : Arena) (id : TypeId) : Bool := (a.tree id).isGround

namespace Issued

/-- **The ground types of an arena are ordered**: by where they fit, up to marks. -/
structure FitsInOrder (d : Issued) : Prop where
  refl : ∀ i ∈ d.ids, d.arena.isGround i = true → d.arena.compatible i i = true
  trans : ∀ i ∈ d.ids, ∀ j ∈ d.ids, ∀ k ∈ d.ids, d.arena.isGround i = true →
    d.arena.isGround j = true → d.arena.isGround k = true →
    d.arena.compatible i j = true → d.arena.compatible j k = true → d.arena.compatible i k = true
  antisymm : ∀ i ∈ d.ids, ∀ j ∈ d.ids, d.arena.isGround i = true → d.arena.isGround j = true →
    (d.arena.compatible i j = true ∧ d.arena.compatible j i = true ↔
      (d.arena.tree i).unmarked = (d.arena.tree j).unmarked)

/-- **Where ground types fit is an order**, in every arena in use. -/
theorem fitsInOrder_of_used {pool : Strings} {d : Issued} (hd : (start pool).Used d) :
    d.FitsInOrder := by
  obtain ⟨h, -, -⟩ := (ordered_start pool).run Ordered.use hd
  refine ⟨fun i _ _ => ?_, ?_, ?_⟩
  · rw [h.sound.compatible_eq]
    exact Ty.compatible_refl _
  · intro i _ j _ k _ hi hj hk hij hjk
    rw [h.sound.compatible_eq] at hij hjk ⊢
    exact Ty.compatible_trans hi hj hk hij hjk
  · intro i _ j _ hi hj
    rw [h.sound.compatible_eq, h.sound.compatible_eq]
    exact Ty.compatible_and_compatible_iff hi hj

/-- Texts, addresses and where they may be missing; a call from the one to the other, and the same
call with its marks at other places; and a call of which the parameter is open. -/
def callsAsked : List Request :=
  [.pii text .l3 "email", .optional 9, .optional text, .func [11] 9, .func [text] 11, .func [9] 10,
    .var "T", .func [15] 9, .func [15] text]

/-- A call that takes less and answers more fits where the other is asked for, with marks or
without. -/
theorem fitsInOrder_callsAsked :
    (start {}).accepts callsAsked = true ∧
      (let d := callsAsked.foldl serve (start {})
      (∀ i ∈ [12, 13, 14], i ∈ d.ids ∧ d.arena.isGround i = true) ∧
        d.arena.compatible 13 12 = true ∧ d.arena.compatible 12 13 = false ∧
        d.arena.compatible 13 14 = true ∧ d.arena.compatible 14 13 = true ∧
        d.FitsInOrder) := by
  have hall : (start {}).accepts callsAsked = true := by decide +kernel
  refine ⟨hall, ?_, ?_, ?_, ?_, ?_, fitsInOrder_of_used (later_foldl hall).used⟩
  all_goals decide +kernel

/-- **Marks have no part in where a type fits**, at whatever depth they stand and whatever fits
anywhere beside them. -/
theorem compatible_eq_up_to_marks {pool : Strings} {d : Issued} (hd : (start pool).Used d) :
    ∀ e ∈ d.ids, ∀ e' ∈ d.ids, ∀ t ∈ d.ids, ∀ t' ∈ d.ids,
      (d.arena.tree e).unmarked = (d.arena.tree e').unmarked →
      (d.arena.tree t).unmarked = (d.arena.tree t').unmarked →
      d.arena.compatible e t = d.arena.compatible e' t' := by
  obtain ⟨h, -, -⟩ := (ordered_start pool).run Ordered.use hd
  intro e _ e' _ t _ t' _ hee htt
  rw [h.sound.compatible_eq, h.sound.compatible_eq]
  exact Ty.compatible_eq_of_unmarked_eq hee htt

/-- Two calls that differ in a mark, with an open parameter, take each other alike. -/
theorem compatible_eq_up_to_marks_callsAsked :
    (start {}).accepts callsAsked = true ∧
      (let d := callsAsked.foldl serve (start {})
      (d.arena.tree 16).unmarked = (d.arena.tree 17).unmarked ∧
        d.arena.compatible 16 17 = d.arena.compatible 17 16) := by
  have hall : (start {}).accepts callsAsked = true := by decide +kernel
  obtain ⟨h, -, -⟩ := (ordered_start {}).run Ordered.use (later_foldl hall).used
  obtain ⟨h9, h16, h17⟩ : (callsAsked.foldl serve (start {})).arena.lookup 9
        = some (.pii text .l3 "email") ∧
      (callsAsked.foldl serve (start {})).arena.lookup 16 = some (.func [15] 9) ∧
      (callsAsked.foldl serve (start {})).arena.lookup 17 = some (.func [15] text) := by
    decide +kernel
  have he : ((callsAsked.foldl serve (start {})).arena.tree 16).unmarked
      = ((callsAsked.foldl serve (start {})).arena.tree 17).unmarked := by
    rw [h.sound.tree_eq h16, h.sound.tree_eq h17, Shape.assemble, Shape.assemble,
      h.sound.tree_eq h9]
    simp only [Shape.assemble, Ty.unmarked]
  refine ⟨hall, he, ?_⟩
  exact compatible_eq_up_to_marks (later_foldl hall).used 16 (by decide +kernel) 17
    (by decide +kernel) 17 (by decide +kernel) 16 (by decide +kernel) he he.symm

end Issued

end CoreCheck.Types

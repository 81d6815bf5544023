import CoreCheck.Proofs.Types.Structure

/-!
# Proofs/Types/Fit — where a type fits is a matter of structure

`Ty.compatible` asks the question of structures, without numbers, and `Sound.compatible_eq` says that
a sound arena gives the same answer.
-/

namespace CoreCheck.Types

mutual

/-- Whether a value of one structure may be used where another is required. -/
def Ty.compatible : Ty → Ty → Bool
  | .missing, _ | .unknown, _ | .var _, _ => true
  | _, .missing | _, .unknown | _, .var _ => true
  | .pii b _ _, t => b.compatible t
  | e, .pii b _ _ => e.compatible b
  | .optional _, .null => true
  | .optional x, .optional y => x.compatible y
  | .optional x, t => x.compatible t
  | .list x, .list y => x.compatible y
  | .map k v, .map k' v' => k.compatible k' && v.compatible v'
  | .result x y, .result x' y' => x.compatible x' && y.compatible y'
  | .func ps r, .func ps' r' => Ty.compatibleAll ps' ps && r.compatible r'
  | .data i, .data j => i == j
  | .enum i, .enum j => i == j
  | e, t => e.kind == t.kind
termination_by e t => sizeOf e + sizeOf t

/-- The same for lists, position by position. -/
def Ty.compatibleAll : List Ty → List Ty → Bool
  | [], [] => true
  | e :: es, t :: ts => e.compatible t && Ty.compatibleAll es ts
  | _, _ => false
termination_by es ts => sizeOf es + sizeOf ts

end

namespace Ty

theorem compatible_of_wild_left {e : Ty} (t : Ty) (h : e.isWild = true) :
    e.compatible t = true := by
  cases e with
  | missing | unknown | var => simp [compatible]
  | _ => exact nomatch h

theorem compatible_of_wild_right (e : Ty) {t : Ty} (h : t.isWild = true) :
    e.compatible t = true := by
  cases t with
  | missing | unknown | var => cases e <;> simp [compatible]
  | _ => exact nomatch h

theorem compatible_pii_left (b t : Ty) (l : Level) (c : String) :
    (Ty.pii b l c).compatible t = b.compatible t := by
  by_cases ht : t.isWild = true
  · rw [compatible_of_wild_right _ ht, compatible_of_wild_right _ ht]
  · rw [compatible] <;> (intros; subst_vars; exact ht rfl)

theorem compatible_pii_right (e b : Ty) (l : Level) (c : String) :
    e.compatible (.pii b l c) = e.compatible b := by
  by_cases he : e.isWild = true
  · rw [compatible_of_wild_left _ he, compatible_of_wild_left _ he]
  · cases e with
    | pii b' l' c' => rw [compatible_pii_left, compatible_pii_left, compatible_pii_right b' b l c]
    | missing | unknown | var => exact absurd rfl he
    | _ => simp [compatible]

mutual

theorem compatible_refl : ∀ t : Ty, t.compatible t = true
  | .pii b l c => by rw [compatible_pii_left, compatible_pii_right, compatible_refl b]
  | .optional e => by rw [compatible, compatible_refl e]
  | .list e => by rw [compatible, compatible_refl e]
  | .map k v => by rw [compatible, compatible_refl k, compatible_refl v]; rfl
  | .result x y => by rw [compatible, compatible_refl x, compatible_refl y]; rfl
  | .func ps r => by rw [compatible, compatibleAll_refl ps, compatible_refl r]; rfl
  | .data i => by rw [compatible]; exact beq_self_eq_true i
  | .enum i => by rw [compatible]; exact beq_self_eq_true i
  | .missing | .unknown | .var _ => by rw [compatible]
  | .int | .long | .double | .text | .bool | .unit | .null => by simp [compatible, kind]

theorem compatibleAll_refl : ∀ ts : List Ty, compatibleAll ts ts = true
  | [] => by rw [compatibleAll]
  | t :: ts => by rw [compatibleAll, compatible_refl t, compatibleAll_refl ts]; rfl

end

/-- Structures of different kinds do not fit, marks and optionals apart. -/
theorem compatible_of_kind_ne {e t : Ty} (he : e.isWild = false) (ht : t.isWild = false)
    (hpe : e.kind ≠ .pii) (hpt : t.kind ≠ .pii) (ho : e.kind ≠ .optional) (hk : e.kind ≠ t.kind) :
    e.compatible t = false := by
  unfold compatible
  split <;> first
    | exact beq_false_of_ne hk
    | exact absurd rfl hpe
    | exact absurd rfl hpt
    | exact absurd rfl ho
    | exact absurd rfl hk
    | exact Bool.noConfusion he
    | exact Bool.noConfusion ht

/-- An optional takes what its element takes, null and optionals apart. -/
theorem compatible_optional {x t : Ty} (hw : t.isWild = false) (hp : t.kind ≠ .pii)
    (hn : t.kind ≠ .null) (ho : t.kind ≠ .optional) :
    (Ty.optional x).compatible t = x.compatible t := by
  rw [compatible]
  all_goals
    intros
    subst_vars
    first
      | exact absurd rfl hp
      | exact absurd rfl hn
      | exact absurd rfl ho
      | exact Bool.noConfusion hw

end Ty

/-- Whether a shape has parts. -/
def Shape.isComposite : Shape → Bool
  | .func _ _ | .optional _ | .list _ | .map _ _ | .result _ _ | .pii _ _ _ => true
  | _ => false

/-- What shapes of one kind can be. -/
theorem Shape.eq_of_kind {e t : Shape} (hk : e.kind = t.kind) :
    e = t ∨ (∃ i j, e = .data i ∧ t = .data j) ∨ (∃ i j, e = .enum i ∧ t = .enum j) ∨
      e.isWild = true ∨ e.isComposite = true := by
  cases e <;> first
    | exact .inr (.inr (.inr (.inr rfl)))
    | exact .inr (.inr (.inr (.inl rfl)))
    | skip
  case data => cases t <;> first | exact .inr (.inl ⟨_, _, rfl, rfl⟩) | cases hk
  case enum => cases t <;> first | exact .inr (.inr (.inl ⟨_, _, rfl, rfl⟩)) | cases hk
  all_goals cases t <;> first | exact .inl rfl | cases hk

theorem Shape.isWild_assemble (f : TypeId → Ty) (s : Shape) :
    (s.assemble f).isWild = s.isWild := by cases s <;> rfl

theorem Shape.kind_assemble (f : TypeId → Ty) (s : Shape) : (s.assemble f).kind = s.kind := by
  cases s <;> rfl

theorem Shape.kind_ne_pii {s : Shape} (h : ∀ b l c, s ≠ .pii b l c) : s.kind ≠ .pii := fun hk => by
  cases s with
  | pii => exact h _ _ _ rfl
  | _ => cases hk

theorem Shape.kind_ne_optional {s : Shape} (h : ∀ x, s ≠ .optional x) : s.kind ≠ .optional :=
  fun hk => by
    cases s with
    | optional => exact h _ rfl
    | _ => cases hk

theorem Shape.kind_ne_null {s : Shape} (h : s ≠ .null) : s.kind ≠ .null := fun hk => by
  cases s with
  | null => exact h rfl
  | _ => cases hk

/-- **Different shapes do not fit**, if there are no parts of the one to fit into parts of the
other. -/
theorem Shape.compatible_of_ne (f : TypeId → Ty) {e t : Shape} (hne : e ≠ t)
    (he : e.isWild = false) (ht : t.isWild = false) (hpe : e.kind ≠ .pii) (hpt : t.kind ≠ .pii)
    (ho : e.kind ≠ .optional) (hparts : e.kind = t.kind → e.isComposite = false) :
    (e.assemble f).compatible (t.assemble f) = false := by
  by_cases hk : e.kind = t.kind
  · obtain heq | ⟨i, j, rfl, rfl⟩ | ⟨i, j, rfl, rfl⟩ | hw | hc := Shape.eq_of_kind hk
    · exact absurd heq hne
    · rw [assemble, assemble, Ty.compatible]
      exact beq_false_of_ne fun hij => hne (congrArg _ hij)
    · rw [assemble, assemble, Ty.compatible]
      exact beq_false_of_ne fun hij => hne (congrArg _ hij)
    · exact Bool.noConfusion (hw.symm.trans he)
    · exact Bool.noConfusion (hc.symm.trans (hparts hk))
  · apply Ty.compatible_of_kind_ne
    · rwa [isWild_assemble]
    · rwa [isWild_assemble]
    all_goals simpa only [kind_assemble]

namespace Arena

variable {a : Arena}

theorem compatibleAll_eq {i j : Nat}
    (ih : ∀ x y, x + y < i + j → a.compatible x y = (a.tree x).compatible (a.tree y))
    {ps ps' : List TypeId} (hi : ∀ p ∈ ps, p < i) (hj : ∀ p ∈ ps', p < j) :
    (ps.length == ps'.length && (ps.zip ps').all fun (p, p') =>
        if _h : p < i ∧ p' < j then a.compatible p' p else true)
      = Ty.compatibleAll (ps'.map a.tree) (ps.map a.tree) := by
  induction ps generalizing ps' with
  | nil => cases ps' <;> simp [Ty.compatibleAll]
  | cons p ps ihp =>
    cases ps' with
    | nil => simp [Ty.compatibleAll]
    | cons p' ps' =>
      have hp : p < i := hi p (.head _)
      have hp' : p' < j := hj p' (.head _)
      have ih1 := ih p' p (Nat.add_comm p p' ▸ Nat.add_lt_add hp hp')
      have ih2 := ihp (fun q hq => hi q (.tail _ hq)) (fun q hq => hj q (.tail _ hq))
      simp only [List.map_cons, Ty.compatibleAll, ← ih1, ← ih2]
      simp only [List.length_cons, List.zip_cons_cons, List.all_cons, hp, hp', and_self, dite_true]
      simp [Bool.and_left_comm]

theorem Sound.compatible_eq (h : a.Sound) (i j : TypeId) :
    a.compatible i j = (a.tree i).compatible (a.tree j) := by
  induction hn : i + j using Nat.strongRecOn generalizing i j with
  | _ n ih =>
    subst hn
    have ih : ∀ x y, x + y < i + j → a.compatible x y = (a.tree x).compatible (a.tree y) :=
      fun x y hlt => ih _ hlt x y rfl
    rw [Arena.compatible]
    by_cases hij : i = j
    · subst hij
      rw [if_pos rfl, Ty.compatible_refl]
    rw [if_neg hij]
    cases hi : a.lookup i with
    | none => rw [tree_of_none hi, Ty.compatible_of_wild_left _ rfl]
    | some e =>
      cases hj : a.lookup j with
      | none => rw [tree_of_none hj, Ty.compatible_of_wild_right _ rfl]
      | some t =>
        have oi := h.older hi
        have oj := h.older hj
        rw [h.tree_eq hi, h.tree_eq hj]
        by_cases hwe : e.isWild = true
        · rw [Ty.compatible_of_wild_left _ (e.isWild_assemble _ ▸ hwe)]
          simp [hwe]
        by_cases hwt : t.isWild = true
        · rw [Ty.compatible_of_wild_right _ (t.isWild_assemble _ ▸ hwt)]
          simp [hwt]
        simp only [hwe, hwt, Bool.or_self, Bool.false_eq_true, if_false]
        have left : ∀ {x}, x ∈ e.parts → a.compatible x j = (a.tree x).compatible (t.assemble a.tree) :=
          fun hx => by rw [ih _ j (Nat.add_lt_add_right (oi _ hx) j), h.tree_eq hj]
        have right : ∀ {y}, y ∈ t.parts → a.compatible i y = (e.assemble a.tree).compatible (a.tree y) :=
          fun hy => by rw [ih i _ (Nat.add_lt_add_left (oj _ hy) i), h.tree_eq hi]
        have both : ∀ {x y}, x ∈ e.parts → y ∈ t.parts →
            (if _h : x < i ∧ y < j then a.compatible x y else true) = (a.tree x).compatible (a.tree y) :=
          fun hx hy => by rw [dif_pos ⟨oi _ hx, oj _ hy⟩, ih _ _ (Nat.add_lt_add (oi _ hx) (oj _ hy))]
        split
        · next b l c =>
          rw [dif_pos (oi b (.head _)), left (.head _), Shape.assemble, Ty.compatible_pii_left]
        · next b l c _ =>
          rw [dif_pos (oj b (.head _)), right (.head _)]
          exact (Ty.compatible_pii_right _ _ _ _).symm
        · rw [Shape.assemble, Shape.assemble, Ty.compatible]
        · rw [both (.head _) (.head _), Shape.assemble, Shape.assemble, Ty.compatible]
        · next x hnp hnn hno =>
          rw [dif_pos (oi x (.head _)), left (.head _), Shape.assemble.eq_def _ (.optional x)]
          refine (Ty.compatible_optional ?_ ?_ ?_ ?_).symm
          · rw [Shape.isWild_assemble]
            exact Bool.eq_false_iff.2 hwt
          all_goals rw [Shape.kind_assemble]
          · exact Shape.kind_ne_pii hnp
          · exact Shape.kind_ne_null hnn
          · exact Shape.kind_ne_optional hno
        · rw [both (.head _) (.head _), Shape.assemble, Shape.assemble, Ty.compatible]
        · rw [both (.head _) (.head _), both (.tail _ (.head _)) (.tail _ (.head _)),
            Shape.assemble, Shape.assemble, Ty.compatible]
        · rw [both (.head _) (.head _), both (.tail _ (.head _)) (.tail _ (.head _)),
            Shape.assemble, Shape.assemble, Ty.compatible]
        · rw [both (.head _) (.head _), compatibleAll_eq ih (fun q hq => oi q (.tail _ hq))
            (fun q hq => oj q (.tail _ hq)), Shape.assemble, Shape.assemble, Ty.compatible]
        · next hnp hno hnp' hnn hnoo hnl hnm hnr hnf =>
          have hne : e ≠ t := fun he => hij (h.once hi (he ▸ hj))
          refine (Shape.compatible_of_ne _ hne (Bool.eq_false_iff.2 hwe) (Bool.eq_false_iff.2 hwt)
            (Shape.kind_ne_pii hnp) (Shape.kind_ne_pii hnp') (Shape.kind_ne_optional hno)
            fun hk => ?_).symm
          -- parts on both sides have been taken up by the rows before
          cases e with
          | pii => exact (hnp _ _ _ rfl).elim
          | optional => exact (hno _ rfl).elim
          | list => cases t <;> first | exact (hnl _ _ rfl rfl).elim | cases hk
          | map => cases t <;> first | exact (hnm _ _ _ _ rfl rfl).elim | cases hk
          | result => cases t <;> first | exact (hnr _ _ _ _ rfl rfl).elim | cases hk
          | func => cases t <;> first | exact (hnf _ _ _ _ rfl rfl).elim | cases hk
          | _ => rfl

end Arena

end CoreCheck.Types

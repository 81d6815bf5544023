import CoreCheck.Taint
import Mathlib.Data.List.Forall2

/-!
# Proofs/Taint/Order — when one taint is covered by another

A taint is below another when its level is no higher and its categories are all there.  Joining is
the least upper bound of this order: `merge_below_iff` says both that a join is above its parts and
that nothing smaller is.
-/

namespace CoreCheck

/-! ## Categories of a join -/

theorem mem_insertCategory {x c : String} {cs : List String} :
    x ∈ insertCategory c cs ↔ x = c ∨ x ∈ cs := by
  induction cs with
  | nil => simp [insertCategory]
  | cons d rest ih =>
    rw [insertCategory]
    split
    · simp
    · split
      · next h => subst h; simp
      · rw [List.mem_cons, ih, List.mem_cons, or_left_comm]

@[simp] theorem mem_sortCategories {x : String} {cs : List String} :
    x ∈ sortCategories cs ↔ x ∈ cs := by
  induction cs with
  | nil => rfl
  | cons c cs ih =>
    rw [show sortCategories (c :: cs) = insertCategory c (sortCategories cs) from rfl,
      mem_insertCategory, ih, List.mem_cons]

namespace Taint

@[simp] theorem levelOf_none : levelOf none = Level.none := rfl

@[simp] theorem levelOf_some (t : Taint) : levelOf (some t) = t.level := rfl

@[simp] theorem categoriesOf_none : categoriesOf none = [] := rfl

@[simp] theorem categoriesOf_some (t : Taint) : categoriesOf (some t) = t.categories := rfl

theorem rank_levelOf_merge (a b : Option Taint) :
    (levelOf (merge a b)).rank = Nat.max (levelOf a).rank (levelOf b).rank := by
  cases a with
  | none => simp [Level.none]
  | some a =>
    cases b with
    | none => simp [Level.none]
    | some b =>
      rw [merge]
      split
      · next h => subst h; simp
      · exact Level.rank_max _ _

theorem mem_categoriesOf_merge {x : String} {a b : Option Taint} :
    x ∈ categoriesOf (merge a b) ↔ x ∈ categoriesOf a ∨ x ∈ categoriesOf b := by
  cases a with
  | none => simp
  | some a =>
    cases b with
    | none => simp
    | some b =>
      rw [merge]
      split
      · next h => subst h; simp
      · simp [join]

/-! ## The order -/

/-- **One taint is below another**: its level is no higher, and the other has all its categories. -/
def Below (a b : Option Taint) : Prop :=
  levelOf a ≤ levelOf b ∧ ∀ c ∈ categoriesOf a, c ∈ categoriesOf b

instance (a b : Option Taint) : Decidable (Below a b) :=
  inferInstanceAs (Decidable (_ ∧ ∀ c ∈ categoriesOf a, c ∈ categoriesOf b))

namespace Below

theorem refl (a : Option Taint) : Below a a := ⟨Nat.le_refl _, fun _ h => h⟩

theorem trans {a b c : Option Taint} (h : Below a b) (h' : Below b c) : Below a c :=
  ⟨Nat.le_trans h.1 h'.1, fun x hx => h'.2 x (h.2 x hx)⟩

theorem none (a : Option Taint) : Below none a := ⟨Nat.zero_le _, fun _ h => nomatch h⟩

end Below

/-- **A join is the least upper bound.** -/
theorem merge_below_iff {a b c : Option Taint} :
    Below (merge a b) c ↔ Below a c ∧ Below b c := by
  have hrank := rank_levelOf_merge a b
  constructor
  · intro ⟨hl, hc⟩
    have hl : (levelOf (merge a b)).rank ≤ (levelOf c).rank := hl
    rw [hrank] at hl
    exact ⟨⟨Nat.le_trans (Nat.le_max_left _ _) hl, fun x hx => hc x (mem_categoriesOf_merge.2 (.inl hx))⟩,
      Nat.le_trans (Nat.le_max_right _ _) hl, fun x hx => hc x (mem_categoriesOf_merge.2 (.inr hx))⟩
  · intro ⟨ha, hb⟩
    refine ⟨?_, fun x hx => (mem_categoriesOf_merge.1 hx).elim (ha.2 x) (hb.2 x)⟩
    change (levelOf (merge a b)).rank ≤ (levelOf c).rank
    rw [hrank]
    exact Nat.max_le.2 ⟨ha.1, hb.1⟩

theorem below_merge_left (a b : Option Taint) : Below a (merge a b) :=
  (merge_below_iff.1 (Below.refl _)).1

theorem below_merge_right (a b : Option Taint) : Below b (merge a b) :=
  (merge_below_iff.1 (Below.refl _)).2

/-- Joining is monotone in both parts. -/
theorem Below.merge {a b c d : Option Taint} (h : Below a c) (h' : Below b d) :
    Below (Taint.merge a b) (Taint.merge c d) :=
  merge_below_iff.2 ⟨h.trans (below_merge_left c d), h'.trans (below_merge_right c d)⟩

/-- The join of a list is below whatever bounds each of its members and the start. -/
theorem foldl_merge_below_iff {ts : List (Option Taint)} {a c : Option Taint} :
    Below (ts.foldl Taint.merge a) c ↔ Below a c ∧ ∀ t ∈ ts, Below t c := by
  induction ts generalizing a with
  | nil => simp
  | cons t ts ih => rw [List.foldl_cons, ih, merge_below_iff, List.forall_mem_cons, and_assoc]

theorem mergeAll_below_iff {ts : List (Option Taint)} {c : Option Taint} :
    Below (mergeAll ts) c ↔ ∀ t ∈ ts, Below t c := by
  rw [mergeAll, foldl_merge_below_iff]
  exact and_iff_right (Below.none c)

/-- The join of a list is monotone in its members. -/
theorem foldl_merge_mono {ts us : List (Option Taint)} (h : List.Forall₂ Below ts us)
    {a b : Option Taint} (hab : Below a b) :
    Below (ts.foldl Taint.merge a) (us.foldl Taint.merge b) := by
  induction h generalizing a b with
  | nil => exact hab
  | cons htu _ ih => exact ih (hab.merge htu)

theorem mergeAll_mono {ts us : List (Option Taint)} (h : List.Forall₂ Below ts us) :
    Below (mergeAll ts) (mergeAll us) := foldl_merge_mono h (.none _)

/-- A level that a lower taint reaches is reached by every taint above it. -/
theorem reaches_of_below {a b : Option Taint} (h : Below a b) {threshold : Level}
    (ha : (levelOf a).reaches threshold = true) : (levelOf b).reaches threshold = true := by
  simp only [Level.reaches, Bool.and_eq_true, decide_eq_true_eq] at ha ⊢
  have hle : (levelOf a).rank ≤ (levelOf b).rank := h.1
  refine ⟨fun hb => ha.1 ?_, Nat.le_trans ha.2 hle⟩
  have hzero : (levelOf b).rank = 0 := congrArg Level.rank hb
  exact congrArg Level.mk (Nat.le_zero.1 (hzero ▸ hle))

end Taint

end CoreCheck

import Mathlib.Data.List.DropRight
import Mathlib.Data.List.Sort
import Mathlib.Data.String.Basic
import CoreCheck.Proofs.Taint.Order

/-!
# Proofs/Taint/Lattice — taints form a semilattice

The taints that arise are none at all, those made from a level and any texts, and the joins of such
taints.  Their categories are strictly sorted and trimmed, so a taint is settled by its level and by
what categories it has (`eq_of_below_iff`), and a search by halves finds each of them
(`has_iff_mem`).  The laws of a join all follow from its being the least upper bound
(`merge_below_iff`).

That a value carries no taint is more than its level and its categories tell: a taint of no level
and no category is a taint all the same.
-/

namespace CoreCheck

theorem Level.max_comm (a b : Level) : a.max b = b.max a := by
  have hrank : (a.max b).rank = (b.max a).rank := by
    rw [Level.rank_max, Level.rank_max]
    exact Nat.max_comm _ _
  exact congrArg Level.mk hrank

/-! ## Sorted categories -/

theorem pairwise_insertCategory (c : String) {cs : List String} (h : cs.Pairwise (· < ·)) :
    (insertCategory c cs).Pairwise (· < ·) := by
  induction cs with
  | nil => exact List.pairwise_singleton _ c
  | cons d rest ih =>
    obtain ⟨hd, hrest⟩ := List.pairwise_cons.1 h
    rw [insertCategory]
    split
    · next hlt =>
      refine List.pairwise_cons.2 ⟨fun x hx => ?_, h⟩
      obtain rfl | hx := List.mem_cons.1 hx
      · exact hlt
      · exact lt_trans hlt (hd x hx)
    · next hlt =>
      split
      · exact h
      · next hne =>
        refine List.pairwise_cons.2 ⟨fun x hx => ?_, ih hrest⟩
        obtain rfl | hx := mem_insertCategory.1 hx
        · exact lt_of_le_of_ne (not_lt.1 hlt) (Ne.symm hne)
        · exact hd x hx

/-- **Sorting leaves no category twice.** -/
theorem pairwise_sortCategories (cs : List String) : (sortCategories cs).Pairwise (· < ·) := by
  induction cs with
  | nil => exact .nil
  | cons c cs ih => exact pairwise_insertCategory c ih

/-- Sorted lists of the same categories are the same. -/
theorem sortCategories_congr {cs ds : List String} (h : ∀ c, c ∈ cs ↔ c ∈ ds) :
    sortCategories cs = sortCategories ds :=
  (pairwise_sortCategories cs).eq_of_mem_iff (pairwise_sortCategories ds) fun c => by simp [h]

/-! ## The search by halves -/

/-- **What a search by halves finds**: all before the place comes before the category looked for, and
nothing from the place on does. -/
structure Parts (cs : List String) (c : String) (lo hi : Nat) : Prop where
  ordered : lo ≤ hi
  inside : hi ≤ cs.length
  before : ∀ i < lo, ∀ d, cs[i]? = some d → d < c
  after : ∀ i, hi ≤ i → ∀ d, cs[i]? = some d → c ≤ d

section Search

variable {cs : List String} {c : String}

theorem lt_of_getElem? (h : cs.Pairwise (· < ·)) {i j : Nat} {d e : String} (hij : i < j)
    (hd : cs[i]? = some d) (he : cs[j]? = some e) : d < e := by
  obtain ⟨hi, rfl⟩ := List.getElem?_eq_some_iff.1 hd
  obtain ⟨hj, rfl⟩ := List.getElem?_eq_some_iff.1 he
  exact List.pairwise_iff_getElem.1 h i j hi hj hij

/-- One step keeps the half that holds the place. -/
theorem Parts.step (h : cs.Pairwise (· < ·)) {lo hi : Nat} (hp : Parts cs c lo hi) (hlt : lo < hi) :
    if cs.getD ((lo + hi) / 2) "" < c then Parts cs c ((lo + hi) / 2 + 1) hi
      else Parts cs c lo ((lo + hi) / 2) := by
  have hmid : (lo + hi) / 2 < cs.length := by
    have := hp.inside
    omega
  have hget : cs[(lo + hi) / 2]? = some (cs.getD ((lo + hi) / 2) "") := by
    rw [List.getD_eq_getElem?_getD, List.getElem?_eq_getElem hmid, Option.getD_some]
  split
  · next hless =>
    refine ⟨by omega, hp.inside, fun i hi' d hd => ?_, hp.after⟩
    obtain hi' | rfl := Nat.lt_or_eq_of_le (Nat.le_of_lt_succ hi')
    · exact lt_trans (lt_of_getElem? h hi' hd hget) hless
    · rwa [Option.some.inj (hd.symm.trans hget)]
  · next hless =>
    refine ⟨by omega, by omega, hp.before, fun i hi' d hd => ?_⟩
    obtain hi' | rfl := Nat.lt_or_eq_of_le hi'
    · exact le_trans (not_lt.1 hless) (le_of_lt (lt_of_getElem? h hi' hget hd))
    · rw [Option.some.inj (hd.symm.trans hget)]
      exact not_lt.1 hless

/-- **The search ends at the place that parts the list.** -/
theorem parts_searchFrom (h : cs.Pairwise (· < ·)) {lo hi : Nat} (hp : Parts cs c lo hi) :
    Parts cs c (searchFrom cs c lo hi) (searchFrom cs c lo hi) := by
  fun_induction searchFrom cs c lo hi with
  | case1 lo hi hlt mid hless ih =>
    have hstep := hp.step h hlt
    rw [if_pos hless] at hstep
    exact ih hstep
  | case2 lo hi hlt mid hless ih =>
    have hstep := hp.step h hlt
    rw [if_neg hless] at hstep
    exact ih hstep
  | case3 lo hi hlt =>
    obtain rfl : lo = hi := Nat.le_antisymm hp.ordered (Nat.not_lt.1 hlt)
    exact hp

theorem parts_whole (cs : List String) (c : String) : Parts cs c 0 cs.length where
  ordered := Nat.zero_le _
  inside := Nat.le_refl _
  before i hi := absurd hi (Nat.not_lt_zero i)
  after i hi d hd := by
    rw [List.getElem?_eq_none hi] at hd
    exact nomatch hd

end Search

/-- **In a sorted list a category is found exactly when it is there.** -/
theorem Taint.has_iff_mem {t : Taint} (h : t.categories.Pairwise (· < ·)) (c : String) :
    t.has c = true ↔ c ∈ t.categories := by
  have hparts := parts_searchFrom h (parts_whole t.categories c)
  rw [Taint.has, beq_iff_eq]
  refine ⟨List.mem_of_getElem?, fun hc => ?_⟩
  obtain ⟨i, hi⟩ := List.mem_iff_getElem?.1 hc
  -- the category stands neither before the place nor behind it
  obtain hlt | heq | hgt := Nat.lt_trichotomy i (searchFrom t.categories c 0 t.categories.length)
  · exact absurd (hparts.before i hlt c hi) (lt_irrefl c)
  · rwa [← heq]
  · have hplace : searchFrom t.categories c 0 t.categories.length < t.categories.length :=
      Nat.lt_trans hgt (List.getElem?_eq_some_iff.1 hi).1
    have hd := List.getElem?_eq_getElem hplace
    exact absurd (lt_of_getElem? h hgt hd hi) (not_lt.2 (hparts.after _ (Nat.le_refl _) _ hd))

namespace Taint

/-! ## The taints that arise -/

/-- **The taints that arise.** -/
inductive Built : Option Taint → Prop where
  | none : Built none
  | make (level : Level) (categories : List String) : Built (some (Taint.make level categories))
  | merge {a b : Option Taint} : Built a → Built b → Built (Taint.merge a b)

/-- **The canonical form of a taint**: its categories are strictly sorted, and each is trimmed and
not blank. -/
structure Canonical (t : Option Taint) : Prop where
  sorted : (categoriesOf t).Pairwise (· < ·)
  trimmed : ∀ c ∈ categoriesOf t, Text.trim c = c
  notBlank : ∀ c ∈ categoriesOf t, Text.isBlankText c = false

end Taint

namespace Text

/-- Trimming what is trimmed changes nothing. -/
theorem trimChars_trimChars (cs : List Char) : trimChars (trimChars cs) = trimChars cs := by
  have hhead : (trimChars cs).dropWhile isBlank = trimChars cs := by
    cases hr : trimChars cs with
    | nil => rfl
    | cons c rest =>
      -- what is left starts as the list does behind its first blanks
      obtain ⟨tail, htail⟩ : trimChars cs <+: cs.dropWhile isBlank := List.rdropWhile_prefix _ _
      rw [hr] at htail
      have hc := dropWhile_isBlank_head cs c (rest ++ tail) htail.symm
      rw [List.dropWhile_cons_of_neg (by simp [hc])]
  change ((trimChars cs).dropWhile isBlank).rdropWhile isBlank = _
  rw [hhead]
  exact List.rdropWhile_idempotent _ _

theorem trim_trim (s : String) : trim (trim s) = trim s := by
  rw [trim, trim, String.toList_ofList, trimChars_trimChars]

/-- What is trimmed to something is not blank. -/
theorem isBlankText_eq_false {s : String} (htrim : trim s = s) (hs : s ≠ "") :
    isBlankText s = false := by
  rw [isBlankText, ← Bool.not_eq_true, ← trimChars_eq_nil_iff]
  intro hnil
  rw [trim, hnil] at htrim
  exact hs htrim.symm

end Text

namespace Taint

theorem canonical_none : Canonical none := ⟨.nil, List.forall_mem_nil _, List.forall_mem_nil _⟩

theorem canonical_make (level : Level) (categories : List String) :
    Canonical (some (make level categories)) := by
  have htrim : ∀ c ∈ (make level categories).categories, Text.trim c = c ∧ c ≠ "" := by
    intro c hc
    obtain ⟨hmap, hne⟩ := List.mem_filter.1 (mem_sortCategories.1 hc)
    obtain ⟨d, -, rfl⟩ := List.mem_map.1 hmap
    exact ⟨Text.trim_trim d, by simpa using hne⟩
  exact ⟨pairwise_sortCategories _, fun c hc => (htrim c hc).1,
    fun c hc => Text.isBlankText_eq_false (htrim c hc).1 (htrim c hc).2⟩

theorem Canonical.merge {a b : Option Taint} (ha : Canonical a) (hb : Canonical b) :
    Canonical (merge a b) where
  sorted := by
    cases a with
    | none => rw [merge_none_left]; exact hb.sorted
    | some a =>
      cases b with
      | none => exact ha.sorted
      | some b =>
        rw [Taint.merge]
        split
        · exact ha.sorted
        · exact pairwise_sortCategories _
  trimmed c hc := (mem_categoriesOf_merge.1 hc).elim (ha.trimmed c) (hb.trimmed c)
  notBlank c hc := (mem_categoriesOf_merge.1 hc).elim (ha.notBlank c) (hb.notBlank c)

/-- **Every taint that arises is canonical.** -/
theorem Built.canonical {t : Option Taint} (h : Built t) : Canonical t := by
  induction h with
  | none => exact canonical_none
  | make level categories => exact canonical_make level categories
  | merge _ _ ha hb => exact ha.merge hb

/-! ## What settles a taint -/

section

variable {a b c : Option Taint}

theorem Canonical.hasCategory_iff (h : Canonical a) (x : String) :
    hasCategory a x = true ↔ x ∈ categoriesOf a := by
  cases a with
  | none => exact iff_of_false Bool.false_ne_true List.not_mem_nil
  | some t => exact has_iff_mem h.sorted x

/-- A canonical taint is settled by whether there is one, its level and its categories. -/
theorem Canonical.ext (ha : Canonical a) (hb : Canonical b) (hsome : a.isSome = b.isSome)
    (hlevel : levelOf a = levelOf b) (hmem : ∀ x, x ∈ categoriesOf a ↔ x ∈ categoriesOf b) :
    a = b := by
  have hcategories := ha.sorted.eq_of_mem_iff hb.sorted hmem
  cases a with
  | none =>
    cases b with
    | none => rfl
    | some b => exact nomatch hsome
  | some a =>
    cases b with
    | none => exact nomatch hsome
    | some b =>
      obtain ⟨l, cs⟩ := a
      obtain ⟨m, ds⟩ := b
      obtain rfl : l = m := hlevel
      obtain rfl : cs = ds := hcategories
      rfl

/-- **A canonical taint is settled by what it is below.** -/
theorem Canonical.eq_of_below_iff (ha : Canonical a) (hb : Canonical b)
    (hsome : a.isSome = b.isSome) (h : ∀ t, Below a t ↔ Below b t) : a = b := by
  have hab : Below a b := (h b).2 (.refl b)
  have hba : Below b a := (h a).1 (.refl a)
  refine ha.ext hb hsome ?_ fun x => ⟨hab.2 x, hba.2 x⟩
  exact congrArg Level.mk (Nat.le_antisymm hab.1 hba.1)

/-! ## The laws -/

theorem isSome_merge (a b : Option Taint) : (merge a b).isSome = (a.isSome || b.isSome) := by
  cases a with
  | none => rw [merge_none_left]; rfl
  | some a =>
    cases b with
    | none => rfl
    | some b =>
      rw [merge]
      split <;> rfl

theorem merge_self (a : Option Taint) : merge a a = a := by
  cases a with
  | none => rfl
  | some a => rw [merge, if_pos rfl]

/-- Joining does not tell its parts apart, canonical or not: what is joined is sorted anew. -/
theorem merge_comm (a b : Option Taint) : merge a b = merge b a := by
  cases a with
  | none => rw [merge_none_left, merge_none_right]
  | some a =>
    cases b with
    | none => rw [merge_none_left, merge_none_right]
    | some b =>
      by_cases hab : a = b
      · rw [hab]
      · have hcategories : sortCategories (a.categories ++ b.categories)
            = sortCategories (b.categories ++ a.categories) :=
          sortCategories_congr fun c => by rw [List.mem_append, List.mem_append, or_comm]
        rw [merge, merge, if_neg hab, if_neg (Ne.symm hab), join, join, Level.max_comm, hcategories]

theorem Canonical.merge_assoc (ha : Canonical a) (hb : Canonical b) (hc : Canonical c) :
    Taint.merge (Taint.merge a b) c = Taint.merge a (Taint.merge b c) := by
  refine ((ha.merge hb).merge hc).eq_of_below_iff (ha.merge (hb.merge hc)) ?_ fun t => ?_
  · simp only [isSome_merge, Bool.or_assoc]
  · simp only [merge_below_iff, and_assoc]

/-- The join of a list is one of the taints that arise, if its members are. -/
theorem built_mergeAll {ts : List (Option Taint)} (h : ∀ t ∈ ts, Built t) :
    Built (mergeAll ts) := by
  have hfold : ∀ start, Built start → Built (ts.foldl Taint.merge start) := by
    induction ts with
    | nil => exact fun _ hs => hs
    | cons t ts ih =>
      intro start hs
      obtain ⟨ht, hts⟩ := List.forall_mem_cons.1 h
      exact ih hts _ (hs.merge ht)
  exact hfold none .none

theorem isSome_mergeAll (ts : List (Option Taint)) :
    (mergeAll ts).isSome = ts.any Option.isSome := by
  have hfold : ∀ start : Option Taint,
      (ts.foldl Taint.merge start).isSome = (start.isSome || ts.any Option.isSome) := by
    induction ts with
    | nil => exact fun _ => (Bool.or_false _).symm
    | cons t ts ih =>
      intro start
      rw [List.foldl_cons, ih, isSome_merge, List.any_cons, Bool.or_assoc]
  rw [mergeAll, hfold]
  rfl

/-- **The join of a list depends on its members only**, not on their order nor on how often they
occur. -/
theorem mergeAll_congr {ts us : List (Option Taint)} (hts : ∀ t ∈ ts, Built t)
    (h : ∀ t, t ∈ us ↔ t ∈ ts) : mergeAll us = mergeAll ts := by
  have hus : ∀ t ∈ us, Built t := fun t ht => hts t ((h t).1 ht)
  refine (built_mergeAll hus).canonical.eq_of_below_iff (built_mergeAll hts).canonical ?_ fun t => ?_
  · rw [isSome_mergeAll, isSome_mergeAll, Bool.eq_iff_iff, List.any_eq_true, List.any_eq_true]
    simp only [h]
  · simp only [mergeAll_below_iff, h]

end

/-- **The laws of a join**, as they hold of three taints. -/
structure Laws (a b c : Option Taint) : Prop where
  canonical : Canonical a
  comm : merge a b = merge b a
  assoc : merge (merge a b) c = merge a (merge b c)
  idem : merge a a = a
  identity : merge none a = a ∧ merge a none = a
  /-- The level is the higher one. -/
  level : (levelOf (merge a b)).rank = max (levelOf a).rank (levelOf b).rank
  /-- The categories are those of both. -/
  has : ∀ x, hasCategory (merge a b) x = (hasCategory a x || hasCategory b x)
  /-- Taints are equal when both are there or neither is, and levels and categories agree. -/
  equal : a = b ↔ a.isSome = b.isSome ∧ levelOf a = levelOf b ∧
    ∀ x, hasCategory a x = hasCategory b x

/-- **Taints form a semilattice with one form for each taint**: joining is commutative, associative
and idempotent, the absence of taint is neutral, a join has the higher level and the categories of
both, two taints are equal when both are there or neither is and they agree in level and categories,
and the join of a list depends on its members alone. -/
theorem taints_form_semilattice :
    (∀ a b c, Built a → Built b → Built c → Laws a b c) ∧
      ∀ ts us : List (Option Taint), (∀ t ∈ ts, Built t) → (∀ t, t ∈ us ↔ t ∈ ts) →
        mergeAll us = mergeAll ts := by
  refine ⟨fun a b c ha hb hc => ?_, fun ts us hts h => mergeAll_congr hts h⟩
  have hcanon := ha.canonical.merge hb.canonical
  refine ⟨ha.canonical, merge_comm a b, ha.canonical.merge_assoc hb.canonical hc.canonical,
    merge_self a, ⟨merge_none_left a, merge_none_right a⟩, rank_levelOf_merge a b, fun x => ?_, ?_⟩
  · rw [Bool.eq_iff_iff, Bool.or_eq_true, hcanon.hasCategory_iff, ha.canonical.hasCategory_iff,
      hb.canonical.hasCategory_iff, mem_categoriesOf_merge]
  · refine ⟨fun he => he ▸ ⟨rfl, rfl, fun _ => rfl⟩, fun ⟨hsome, hlevel, hhas⟩ => ?_⟩
    refine ha.canonical.ext hb.canonical hsome hlevel fun x => ?_
    rw [← ha.canonical.hasCategory_iff, ← hb.canonical.hasCategory_iff, hhas]

/-- A mail address, a name with blanks around it, and a taint of no level and no category. -/
def mailAndName : List (Option Taint) :=
  [some (make .l2 ["mail", "mail"]), some (make .l1 [" name ", " "]), some (make .none [])]

/-- The laws at three taints, one of which has nothing in it. -/
theorem taints_form_semilattice_mailAndName :
    mailAndName.map categoriesOf = [["mail"], ["name"], []] ∧
    Laws (some (make .l2 ["mail", "mail"])) (some (make .l1 [" name ", " "]))
      (some (make .none [])) ∧
    mergeAll (mailAndName.reverse ++ mailAndName) = mergeAll mailAndName := by
  obtain ⟨hlaws, hlists⟩ := taints_form_semilattice
  refine ⟨by decide +kernel, hlaws _ _ _ (.make _ _) (.make _ _) (.make _ _), hlists _ _ ?_ ?_⟩
  · intro t ht
    obtain rfl | rfl | rfl : t = _ ∨ t = _ ∨ t = _ := by simpa [mailAndName] using ht
    all_goals exact .make _ _
  · simp

/-- **A taint of no level and no category is not the absence of taint**, though both have the same
level and the same categories. -/
theorem absence_differs_from_nothing :
    Built none ∧ Built (some (make .none [])) ∧
      levelOf none = levelOf (some (make .none [])) ∧
      (∀ x, hasCategory none x = hasCategory (some (make .none [])) x) ∧
      none ≠ some (make .none []) := by
  refine ⟨.none, .make _ _, rfl, fun x => ?_, nofun⟩
  rw [Bool.eq_iff_iff, canonical_none.hasCategory_iff, (canonical_make _ _).hasCategory_iff]
  rfl

end Taint

end CoreCheck

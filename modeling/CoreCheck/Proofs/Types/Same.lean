import CoreCheck.Proofs.Types.Fit
import CoreCheck.Types.Label
import Mathlib.Data.List.Forall2

/-!
# Proofs/Types/Same — types of one structure in two arenas

Two walks over different parts of a body make types in different orders and number them differently.
`Same` relates a type of one arena with a type of the other by their structure.  Everything that is
asked of types agrees on related ones, and making a type on both sides makes related types.
-/

namespace CoreCheck.Types.Arena

variable {a b : Arena}

/-- **Types of two arenas with one structure.** -/
structure Same (a : Arena) (i : TypeId) (b : Arena) (j : TypeId) : Prop where
  left : i ≤ a.size
  right : j ≤ b.size
  tree_eq : a.tree i = b.tree j

theorem Same.refl {i : TypeId} (hi : i ≤ a.size) : Same a i a i := ⟨hi, hi, rfl⟩

/-- Types of one structure stay so when both arenas grow. -/
theorem Same.extends {a' b' : Arena} {i j : TypeId} (h : Same a i b j) (ha : a.Sound)
    (ha' : a'.Sound) (haa : a.Extends a') (hb : b.Sound) (hb' : b'.Sound) (hbb : b.Extends b') :
    Same a' i b' j :=
  ⟨haa.le_size h.left, hbb.le_size h.right, (ha.tree_extends ha' haa i h.left).trans
    (h.tree_eq.trans (hb.tree_extends hb' hbb j h.right).symm)⟩

theorem Same.le_of_forall₂ {ps qs : List TypeId} (h : List.Forall₂ (Same a · b ·) ps qs) :
    (∀ p ∈ ps, p ≤ a.size) ∧ ∀ q ∈ qs, q ≤ b.size := by
  induction h with
  | nil => simp
  | cons hpq _ ih =>
    exact ⟨List.forall_mem_cons.2 ⟨hpq.left, ih.1⟩, List.forall_mem_cons.2 ⟨hpq.right, ih.2⟩⟩

/-- A shape over parts of one structure, stored on both sides. -/
theorem same_intern {s t : Shape} (hma : Made a (a.intern s)) (ha : a.Sound)
    (hps : ∀ q ∈ s.parts, q ≤ a.size) (hmb : Made b (b.intern t)) (hb : b.Sound)
    (hqs : ∀ q ∈ t.parts, q ≤ b.size) (h : s.assemble a.tree = t.assemble b.tree) :
    Same (a.intern s).1 (a.intern s).2 (b.intern t).1 (b.intern t).2 := by
  refine ⟨hma.le, hmb.le, ?_⟩
  calc (a.intern s).1.tree (a.intern s).2
      = s.assemble (a.intern s).1.tree := hma.sound.tree_eq (lookup_intern a s)
    _ = s.assemble a.tree := Shape.assemble_congr fun q hq =>
        ha.tree_extends hma.sound hma.ext q (hps q hq)
    _ = t.assemble b.tree := h
    _ = t.assemble (b.intern t).1.tree := Shape.assemble_congr fun q hq =>
        (hb.tree_extends hmb.sound hmb.ext q (hqs q hq)).symm
    _ = (b.intern t).1.tree (b.intern t).2 := (hmb.sound.tree_eq (lookup_intern b t)).symm

section

variable (ha : a.Sound) (hb : b.Sound)

include ha hb

theorem Same.kindOf_eq {i j : TypeId} (h : Same a i b j) : a.kindOf i = b.kindOf j := by
  rw [ha.kindOf_eq, hb.kindOf_eq, h.tree_eq]

theorem Same.isUnknown_eq {i j : TypeId} (h : Same a i b j) : a.isUnknown i = b.isUnknown j := by
  rw [isUnknown, isUnknown, h.kindOf_eq ha hb]

theorem Same.taintOf_eq {i j : TypeId} (h : Same a i b j) : a.taintOf i = b.taintOf j := by
  rw [ha.taintOf_eq, hb.taintOf_eq, h.tree_eq]

theorem Same.family_eq {i j : TypeId} (h : Same a i b j) : a.family i = b.family j := by
  rw [family, family, h.kindOf_eq ha hb]

theorem Same.unwrap {i j : TypeId} (h : Same a i b j) : Same a (a.unwrap i) b (b.unwrap j) :=
  ⟨ha.unwrap_le h.left, hb.unwrap_le h.right, by
    rw [ha.tree_unwrap, hb.tree_unwrap, h.tree_eq]⟩

theorem Same.compatible_eq {i j i' j' : TypeId} (h : Same a i b j) (h' : Same a i' b j') :
    a.compatible i i' = b.compatible j j' := by
  rw [ha.compatible_eq, hb.compatible_eq, h.tree_eq, h'.tree_eq]

/-- Types of one structure have the same numbers on one side if they have on the other. -/
theorem Same.eq_iff {i j i' j' : TypeId} (h : Same a i b j) (h' : Same a i' b j') :
    i = i' ↔ j = j' := by
  constructor
  · rintro rfl
    exact hb.tree_inj h.right h'.right (h.tree_eq.symm.trans h'.tree_eq)
  · rintro rfl
    exact ha.tree_inj h.left h'.left (h.tree_eq.trans h'.tree_eq.symm)

/-- Types of one structure have shapes that agree part by part. -/
theorem Same.shape {i j : TypeId} (h : Same a i b j) :
    Option.Rel (fun s t => s.assemble a.tree = t.assemble b.tree) (a.lookup i) (b.lookup j) := by
  have ht := h.tree_eq
  cases hi : a.lookup i with
  | none =>
    cases hj : b.lookup j with
    | none => exact .none
    | some t => exact absurd (ht.symm.trans (tree_of_none hi)) (hb.tree_ne_missing hj)
  | some s =>
    cases hj : b.lookup j with
    | none => exact absurd (ht.trans (tree_of_none hj)) (ha.tree_ne_missing hi)
    | some t => exact .some (by rw [← ha.tree_eq hi, ← hb.tree_eq hj, ht])

/-! ## Details of types -/

theorem Same.dataInfo_eq {i j : TypeId} (h : Same a i b j) (hd : a.datas = b.datas) :
    a.dataInfo? i = b.dataInfo? j := by
  unfold dataInfo?
  have hs := h.shape ha hb
  generalize a.lookup i = x at hs ⊢
  generalize b.lookup j = y at hs ⊢
  cases hs with
  | none => rfl
  | some hst =>
    rename_i s t
    cases s <;> cases t <;> first
      | rfl
      | (simp only [Shape.assemble, reduceCtorEq] at hst; done)
      | (obtain rfl := Ty.data.inj hst; rw [hd])

theorem Same.enumInfo_eq {i j : TypeId} (h : Same a i b j) (he : a.enums = b.enums) :
    a.enumInfo? i = b.enumInfo? j := by
  unfold enumInfo?
  have hs := h.shape ha hb
  generalize a.lookup i = x at hs ⊢
  generalize b.lookup j = y at hs ⊢
  cases hs with
  | none => rfl
  | some hst =>
    rename_i s t
    cases s <;> cases t <;> first
      | rfl
      | (simp only [Shape.assemble, reduceCtorEq] at hst; done)
      | (obtain rfl := Ty.enum.inj hst; rw [he])

/-- The parts of related shapes are related. -/
theorem Same.parts {i j : TypeId} {s t : Shape} (hi : a.lookup i = some s)
    (hj : b.lookup j = some t) {p q : TypeId} (hp : p ∈ s.parts) (hq : q ∈ t.parts)
    (h : a.tree p = b.tree q) : Same a p b q :=
  ⟨ha.part_le hi hp, hb.part_le hj hq, h⟩

theorem Same.funcInfo_rel {i j : TypeId} (h : Same a i b j) :
    Option.Rel (fun f g => List.Forall₂ (Same a · b ·) f.1 g.1 ∧ Same a f.2 b g.2)
      (a.funcInfo? i) (b.funcInfo? j) := by
  unfold funcInfo?
  have hs := h.shape ha hb
  cases hi : a.lookup i with
  | none =>
    rw [hi] at hs
    generalize b.lookup j = y at hs ⊢
    cases hs
    exact .none
  | some s =>
    cases hj : b.lookup j with
    | none => rw [hi, hj] at hs; cases hs
    | some t =>
      rw [hi, hj] at hs
      obtain hst | _ := hs
      cases s <;> cases t <;> first
        | exact .none
        | (simp only [Shape.assemble, reduceCtorEq] at hst; done)
        | skip
      rename_i ps r qs r'
      obtain ⟨hps, hr⟩ := Ty.func.inj hst
      refine .some ⟨?_, Same.parts ha hb hi hj (.head _) (.head _) hr⟩
      have hin : ∀ p ∈ ps, ∀ q ∈ qs, a.tree p = b.tree q → Same a p b q := fun p hp q hq =>
        Same.parts ha hb hi hj (.tail _ hp) (.tail _ hq)
      clear hi hj hst
      induction ps generalizing qs with
      | nil => rw [List.map_eq_nil_iff.1 hps.symm]; exact .nil
      | cons p ps ih =>
        cases qs with
        | nil => cases hps
        | cons q qs =>
          obtain ⟨hp, hps⟩ := List.cons.inj hps
          exact .cons (hin p (.head _) q (.head _) hp)
            (ih _ hps fun x hx y hy => hin x (.tail _ hx) y (.tail _ hy))

/-! ## Labels -/

theorem Same.eq_zero_iff {i j : TypeId} (h : Same a i b j) : i = 0 ↔ j = 0 :=
  h.eq_iff ha hb ⟨Nat.zero_le _, Nat.zero_le _, by rw [tree_zero, tree_zero]⟩

/-- Shapes that agree part by part are written alike if their parts are. -/
theorem labelAt_eq_of_shape (hd : a.datas = b.datas) (he : a.enums = b.enums) (n : Nat)
    (ih : ∀ {i j}, Same a i b j → a.labelAt n i = b.labelAt n j) {i j : TypeId}
    (h : Same a i b j) : a.labelAt (n + 1) i = b.labelAt (n + 1) j := by
  have hs := h.shape ha hb
  rw [labelAt, labelAt]
  cases hi : a.lookup i with
  | none =>
    rw [hi] at hs
    generalize b.lookup j = y at hs ⊢
    cases hs
    rfl
  | some s =>
    cases hj : b.lookup j with
    | none => rw [hi, hj] at hs; cases hs
    | some t =>
      rw [hi, hj] at hs
      obtain hst | _ := hs
      have hpart : ∀ {x y}, x ∈ s.parts → y ∈ t.parts → a.tree x = b.tree y →
          a.labelAt n x = b.labelAt n y := fun hx hy hxy => ih (Same.parts ha hb hi hj hx hy hxy)
      cases s <;> cases t <;> first
        | rfl
        | (simp only [Shape.assemble, reduceCtorEq] at hst; done)
        | skip
      case data.data => obtain rfl := Ty.data.inj hst; rw [hd]
      case enum.enum => obtain rfl := Ty.enum.inj hst; rw [he]
      case var.var => obtain rfl := Ty.var.inj hst; rfl
      case func.func ps r qs r' =>
        obtain ⟨hps, hr⟩ := Ty.func.inj hst
        have hlabels : ps.map (a.labelAt n) = qs.map (b.labelAt n) := by
          have hin : ∀ p ∈ ps, ∀ q ∈ qs, a.tree p = b.tree q → a.labelAt n p = b.labelAt n q :=
            fun p hp q hq => hpart (.tail _ hp) (.tail _ hq)
          clear hi hj hst hpart
          induction ps generalizing qs with
          | nil => rw [List.map_eq_nil_iff.1 hps.symm]; rfl
          | cons p ps ih' =>
            cases qs with
            | nil => cases hps
            | cons q qs =>
              obtain ⟨hp, hps⟩ := List.cons.inj hps
              rw [List.map_cons, List.map_cons, hin p (.head _) q (.head _) hp,
                ih' _ hps fun x hx y hy => hin x (.tail _ hx) y (.tail _ hy)]
        dsimp only
        rw [hlabels, hpart (.head _) (.head _) hr]
      case optional.optional =>
        dsimp only
        rw [hpart (.head _) (.head _) (Ty.optional.inj hst)]
      case list.list =>
        dsimp only
        rw [hpart (.head _) (.head _) (Ty.list.inj hst)]
      case map.map =>
        obtain ⟨hk, hv⟩ := Ty.map.inj hst
        dsimp only
        rw [hpart (.head _) (.head _) hk, hpart (.tail _ (.head _)) (.tail _ (.head _)) hv]
      case result.result =>
        obtain ⟨hok, herr⟩ := Ty.result.inj hst
        dsimp only
        rw [hpart (.head _) (.head _) hok, hpart (.tail _ (.head _)) (.tail _ (.head _)) herr]
      case pii.pii =>
        obtain ⟨hbase, rfl, rfl⟩ := Ty.pii.inj hst
        dsimp only
        rw [hpart (.head _) (.head _) hbase]

/-- **Types of one structure are written alike.** -/
theorem Same.label_eq {i j : TypeId} (h : Same a i b j) (hd : a.datas = b.datas)
    (he : a.enums = b.enums) : a.label i = b.label j := by
  have hat : ∀ (n : Nat) {i j : TypeId}, Same a i b j → a.labelAt n i = b.labelAt n j := by
    intro n
    induction n with
    | zero =>
      intro i j h
      rw [labelAt, labelAt]
      simp only [h.eq_zero_iff ha hb]
    | succ n ih => exact fun h => labelAt_eq_of_shape ha hb hd he n ih h
  exact hat labelDepth h

end

/-! ## Making types on both sides -/

/-- **A type is made on both sides**: both arenas grow and stay sound, and the types that they make
have one structure. -/
structure MadeAlike (a : Arena) (r : Arena × TypeId) (b : Arena) (r' : Arena × TypeId) : Prop where
  left : Made a r
  right : Made b r'
  same : Same r.1 r.2 r'.1 r'.2

section

variable (ha : a.Sound) (hb : b.Sound)

include ha hb

/-- Shapes that are no marks, over parts of one structure. -/
theorem alike_intern {s t : Shape} (hps : ∀ q ∈ s.parts, q ≤ a.size) (hs : s.isMark = false)
    (hqs : ∀ q ∈ t.parts, q ≤ b.size) (ht : t.isMark = false)
    (h : s.assemble a.tree = t.assemble b.tree) : MadeAlike a (a.intern s) b (b.intern t) :=
  have hma := made_intern ha hps hs
  have hmb := made_intern hb hqs ht
  ⟨hma, hmb, same_intern hma ha hps hmb hb hqs h⟩

theorem alike_var (name : String) : MadeAlike a (a.var name) b (b.var name) :=
  alike_intern ha hb (fun _ hq => nomatch hq) rfl (fun _ hq => nomatch hq) rfl rfl

theorem Same.optional {i j : TypeId} (h : Same a i b j) :
    MadeAlike a (a.optional i) b (b.optional j) :=
  alike_intern ha hb (by simpa [Shape.parts] using h.left) rfl
    (by simpa [Shape.parts] using h.right) rfl (congrArg Ty.optional h.tree_eq)

theorem Same.list {i j : TypeId} (h : Same a i b j) : MadeAlike a (a.list i) b (b.list j) :=
  alike_intern ha hb (by simpa [Shape.parts] using h.left) rfl
    (by simpa [Shape.parts] using h.right) rfl (congrArg Ty.list h.tree_eq)

theorem Same.map {i j i' j' : TypeId} (h : Same a i b j) (h' : Same a i' b j') :
    MadeAlike a (a.map i i') b (b.map j j') :=
  alike_intern ha hb (by simpa [Shape.parts] using ⟨h.left, h'.left⟩) rfl
    (by simpa [Shape.parts] using ⟨h.right, h'.right⟩) rfl (congrArg₂ Ty.map h.tree_eq h'.tree_eq)

theorem Same.result {i j i' j' : TypeId} (h : Same a i b j) (h' : Same a i' b j') :
    MadeAlike a (a.result i i') b (b.result j j') :=
  alike_intern ha hb (by simpa [Shape.parts] using ⟨h.left, h'.left⟩) rfl
    (by simpa [Shape.parts] using ⟨h.right, h'.right⟩) rfl
    (congrArg₂ Ty.result h.tree_eq h'.tree_eq)

theorem alike_func {ps qs : List TypeId} {r r' : TypeId} (hps : List.Forall₂ (Same a · b ·) ps qs)
    (hr : Same a r b r') : MadeAlike a (a.func ps r) b (b.func qs r') := by
  obtain ⟨hl, hright⟩ := Same.le_of_forall₂ hps
  have hmap : ps.map a.tree = qs.map b.tree := by
    induction hps with
    | nil => rfl
    | cons hpq hrest ih =>
      obtain ⟨hl, hright⟩ := Same.le_of_forall₂ hrest
      exact List.cons_eq_cons.2 ⟨hpq.tree_eq, ih hl hright⟩
  rw [func_eq_intern, func_eq_intern]
  exact alike_intern ha hb (by simpa [Shape.parts] using ⟨hr.left, hl⟩) rfl
    (by simpa [Shape.parts] using ⟨hr.right, hright⟩) rfl (congrArg₂ Ty.func hmap hr.tree_eq)

/-- A mark is put on what an older mark stood on, on both sides. -/
theorem Same.pii {i j : TypeId} (h : Same a i b j) (level : Level) (category : String) :
    MadeAlike a (a.pii i level category) b (b.pii j level category) := by
  have hma := made_pii ha h.left level category
  have hmb := made_pii hb h.right level category
  refine ⟨hma, hmb, ?_⟩
  have hmark : ∀ {c : Arena} (hc : c.Sound) {k : TypeId}, k ≤ c.size →
      ∀ q ∈ (Shape.pii (c.unwrap k) (c.markedLevel k level) category).parts,
        q ≤ (c.note category).size := fun hc k hk q hq => by
    rw [List.mem_singleton.1 hq]
    exact hc.unwrap_le hk
  rw [pii_eq_intern] at hma hmb ⊢
  rw [pii_eq_intern]
  have hla : a.markedLevel i level = b.markedLevel j level := by
    rw [ha.markedLevel_eq, hb.markedLevel_eq, h.tree_eq]
  have hnote : ∀ {c : Arena}, c.Sound → ∀ k ≤ c.size, (c.note category).tree k = c.tree k :=
    fun hc k hk => hc.tree_extends (hc.note category) (extends_note _ category) k hk
  refine same_intern ⟨extends_intern _ _, hma.sound, hma.le⟩ (ha.note category) (hmark ha h.left)
    ⟨extends_intern _ _, hmb.sound, hmb.le⟩ (hb.note category) (hmark hb h.right) ?_
  rw [Shape.assemble, Shape.assemble, hla, hnote ha _ (ha.unwrap_le h.left),
    hnote hb _ (hb.unwrap_le h.right), ha.tree_unwrap, hb.tree_unwrap, h.tree_eq]

/-- **Two arenas join types of one structure alike.** -/
theorem same_join {s t s' t' : TypeId} (h : Same a s b s') (h' : Same a t b t') :
    Option.Rel (fun i j => Same (a.join s t).1 i (b.join s' t').1 j)
      (a.join s t).2 (b.join s' t').2 := by
  have hu := h.isUnknown_eq ha hb
  have hu' := h'.isUnknown_eq ha hb
  have hk := h.kindOf_eq ha hb
  have hk' := h'.kindOf_eq ha hb
  unfold join
  rw [hu, hu', hk, hk', h.compatible_eq ha hb h', h'.compatible_eq ha hb h]
  simp only [h.eq_iff ha hb h']
  split
  · exact .some h
  split
  · exact .some h'
  split
  · exact .some h
  split
  · exact .some (h'.optional ha hb).same
  split
  · exact .some (h.optional ha hb).same
  split
  · exact .some h
  split
  · exact .some h'
  · exact .none

end

end CoreCheck.Types.Arena

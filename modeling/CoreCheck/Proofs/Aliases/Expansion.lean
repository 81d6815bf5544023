import Mathlib.Data.List.Perm.Subperm
import Mathlib.Logic.Relation
import CoreCheck.Ir.Syntax
import CoreCheck.Proofs.Types.Structure

/-!
# Proofs/Aliases/Expansion — written types with their aliases replaced

Aliases are a function from names to written types.  `expand` replaces the names of a written type
by their targets, again and again.  If no alias refers to itself, however indirectly, as many rounds
as there are aliases leave no alias (`closed_expand`): a name that is left stands at the end of a
chain of that many aliases, which are all different.

`meaning` is the structure that a written type stands for, once each name stands for one.  Expanding
a written type does not change it, and what aliases stand for is settled by the other names.
-/

namespace CoreCheck.Types.Ty

/-- The optional of a type; an optional is one already. -/
def asOptional (t : Ty) : Ty := if t.unwrap.kind = .optional then t else .optional t

/-- A type with a mark, which takes the place of a mark that is there. -/
def marked (t : Ty) (level : Level) (category : String) : Ty :=
  .pii t.unwrap (t.markedLevel level) category

end CoreCheck.Types.Ty

namespace CoreCheck.Ir

open CoreCheck.Types

namespace TypeExpr

/-! ## Names, replacement, meaning -/

mutual

/-- **The names in a written type.** -/
def names : TypeExpr → List String
  | .name _ n => [n]
  | .var _ _ => []
  | .optional _ e | .list _ e | .pii _ e _ _ => e.names
  | .map _ k v => k.names ++ v.names
  | .result _ x y => x.names ++ y.names
  | .func _ ps r => namesOfAll ps ++ namesOfResult r

/-- The names in some written types. -/
def namesOfAll : List TypeExpr → List String
  | [] => []
  | t :: ts => t.names ++ namesOfAll ts

/-- The names in a result, if one is written. -/
def namesOfResult : Option TypeExpr → List String
  | none => []
  | some t => t.names

end

mutual

/-- **A written type with names replaced.** -/
def replace (f : String → Option TypeExpr) : TypeExpr → TypeExpr
  | .name at_ n => (f n).getD (.name at_ n)
  | .var at_ n => .var at_ n
  | .optional at_ e => .optional at_ (e.replace f)
  | .list at_ e => .list at_ (e.replace f)
  | .map at_ k v => .map at_ (k.replace f) (v.replace f)
  | .result at_ x y => .result at_ (x.replace f) (y.replace f)
  | .func at_ ps r => .func at_ (replaceAll f ps) (replaceResult f r)
  | .pii at_ e level category => .pii at_ (e.replace f) level category

/-- Some written types with names replaced. -/
def replaceAll (f : String → Option TypeExpr) : List TypeExpr → List TypeExpr
  | [] => []
  | t :: ts => t.replace f :: replaceAll f ts

/-- A result with names replaced, if one is written. -/
def replaceResult (f : String → Option TypeExpr) : Option TypeExpr → Option TypeExpr
  | none => none
  | some t => some (t.replace f)

end

mutual

/-- **The structure that a written type stands for**, where names stand for structures. -/
def meaning (μ : String → Ty) : TypeExpr → Ty
  | .name _ n => μ n
  | .var _ n => .var n
  | .optional _ e => (e.meaning μ).asOptional
  | .list _ e => .list (e.meaning μ)
  | .map _ k v => .map (k.meaning μ) (v.meaning μ)
  | .result _ x y => .result (x.meaning μ) (y.meaning μ)
  | .func _ ps r => .func (meanings μ ps) (meaningOfResult μ r)
  | .pii _ e level category => (e.meaning μ).marked level category

/-- The structures that some written types stand for. -/
def meanings (μ : String → Ty) : List TypeExpr → List Ty
  | [] => []
  | t :: ts => t.meaning μ :: meanings μ ts

/-- The structure that a result stands for; where none is written it is the unit type. -/
def meaningOfResult (μ : String → Ty) : Option TypeExpr → Ty
  | none => .unit
  | some t => t.meaning μ

end

/-- **Induction over written types**: the parameters and the result of a function are parts like any
other. -/
theorem induct {P : TypeExpr → Prop} (name : ∀ at_ n, P (.name at_ n))
    (var : ∀ at_ n, P (.var at_ n)) (optional : ∀ at_ e, P e → P (.optional at_ e))
    (list : ∀ at_ e, P e → P (.list at_ e)) (map : ∀ at_ k v, P k → P v → P (.map at_ k v))
    (result : ∀ at_ x y, P x → P y → P (.result at_ x y))
    (func : ∀ at_ ps r, (∀ t ∈ ps, P t) → (∀ t ∈ r, P t) → P (.func at_ ps r))
    (pii : ∀ at_ e level category, P e → P (.pii at_ e level category)) (t : TypeExpr) : P t :=
  @TypeExpr.rec P (fun ts => ∀ t ∈ ts, P t) (fun r => ∀ t ∈ r, P t) name var optional list map
    result func pii (List.forall_mem_nil P) (fun _ _ ht hts => List.forall_mem_cons.2 ⟨ht, hts⟩)
    (fun _ hu => by cases hu) (fun _ ht _ hu => Option.mem_some.1 hu ▸ ht) t

theorem namesOfAll_eq (ts : List TypeExpr) : namesOfAll ts = ts.flatMap names := by
  induction ts with
  | nil => rfl
  | cons t ts ih => rw [namesOfAll, ih, List.flatMap_cons]

theorem mem_namesOfAll {n : String} {t : TypeExpr} {ts : List TypeExpr} (ht : t ∈ ts)
    (hn : n ∈ t.names) : n ∈ namesOfAll ts := by
  rw [namesOfAll_eq]
  exact List.mem_flatMap.2 ⟨t, ht, hn⟩

theorem mem_namesOfResult {n : String} {t : TypeExpr} {r : Option TypeExpr} (ht : t ∈ r)
    (hn : n ∈ t.names) : n ∈ namesOfResult r := by
  rw [Option.mem_def.1 ht]
  exact hn

theorem replaceAll_eq (f : String → Option TypeExpr) (ts : List TypeExpr) :
    replaceAll f ts = ts.map (replace f) := by
  induction ts with
  | nil => rfl
  | cons t ts ih => rw [replaceAll, ih, List.map_cons]

theorem replaceResult_eq (f : String → Option TypeExpr) (r : Option TypeExpr) :
    replaceResult f r = r.map (replace f) := by
  cases r <;> rfl

theorem meanings_eq (μ : String → Ty) (ts : List TypeExpr) :
    meanings μ ts = ts.map (meaning μ) := by
  induction ts with
  | nil => rfl
  | cons t ts ih => rw [meanings, ih, List.map_cons]

theorem meaningOfResult_eq (μ : String → Ty) (r : Option TypeExpr) :
    meaningOfResult μ r = (r.map (meaning μ)).getD .unit := by
  cases r <;> rfl

/-- What is replaced depends on the names that are there. -/
theorem replace_congr {f g : String → Option TypeExpr} (t : TypeExpr)
    (h : ∀ n ∈ t.names, f n = g n) : t.replace f = t.replace g := by
  induction t using induct with
  | name at_ n => rw [replace, replace, h n (.head _)]
  | var at_ n => rfl
  | optional at_ e ih => rw [replace, replace, ih h]
  | list at_ e ih => rw [replace, replace, ih h]
  | map at_ k v ihk ihv =>
    obtain ⟨hk, hv⟩ := List.forall_mem_append.1 h
    rw [replace, replace, ihk hk, ihv hv]
  | result at_ x y ihx ihy =>
    obtain ⟨hx, hy⟩ := List.forall_mem_append.1 h
    rw [replace, replace, ihx hx, ihy hy]
  | func at_ ps r ihps ihr =>
    obtain ⟨hps, hr⟩ := List.forall_mem_append.1 h
    rw [replace, replace, replaceAll_eq, replaceAll_eq, replaceResult_eq, replaceResult_eq,
      List.map_congr_left fun t ht => ihps t ht fun n hn => hps n (mem_namesOfAll ht hn),
      Option.map_congr fun t ht => ihr t ht fun n hn => hr n (mem_namesOfResult ht hn)]
  | pii at_ e level category ih => rw [replace, replace, ih h]

/-- Where nothing is replaced, nothing changes. -/
theorem replace_none (t : TypeExpr) : t.replace (fun _ => none) = t := by
  induction t using induct with
  | name at_ n => rfl
  | var at_ n => rfl
  | optional at_ e ih => rw [replace, ih]
  | list at_ e ih => rw [replace, ih]
  | map at_ k v ihk ihv => rw [replace, ihk, ihv]
  | result at_ x y ihx ihy => rw [replace, ihx, ihy]
  | func at_ ps r ihps ihr =>
    rw [replace, replaceAll_eq, replaceResult_eq, List.map_congr_left ihps, Option.map_congr ihr,
      List.map_id', Option.map_id']
  | pii at_ e level category ih => rw [replace, ih]

/-- **The names that are left** take the place of those that are replaced. -/
theorem names_replace (f : String → Option TypeExpr) (t : TypeExpr) :
    (t.replace f).names = t.names.flatMap fun n => ((f n).map names).getD [n] := by
  induction t using induct with
  | name at_ n =>
    rw [replace, names, List.flatMap_singleton]
    cases f n <;> rfl
  | var at_ n => rfl
  | optional at_ e ih => rw [replace, names, names, ih]
  | list at_ e ih => rw [replace, names, names, ih]
  | map at_ k v ihk ihv => rw [replace, names, names, ihk, ihv, List.flatMap_append]
  | result at_ x y ihx ihy => rw [replace, names, names, ihx, ihy, List.flatMap_append]
  | func at_ ps r ihps ihr =>
    have hr : namesOfResult (r.map (replace f))
        = (namesOfResult r).flatMap fun n => ((f n).map names).getD [n] := by
      cases r with
      | none => rfl
      | some t => exact ihr t rfl
    rw [replace, names, names, replaceAll_eq, replaceResult_eq, namesOfAll_eq, namesOfAll_eq, hr,
      List.flatMap_append, List.flatMap_map, List.flatMap_assoc, List.flatMap_congr ihps]
  | pii at_ e level category ih => rw [replace, names, names, ih]

/-- What a written type means depends on the names that are there. -/
theorem meaning_congr {μ ν : String → Ty} (t : TypeExpr) (h : ∀ n ∈ t.names, μ n = ν n) :
    t.meaning μ = t.meaning ν := by
  induction t using induct with
  | name at_ n => exact h n (.head _)
  | var at_ n => rfl
  | optional at_ e ih => rw [meaning, meaning, ih h]
  | list at_ e ih => rw [meaning, meaning, ih h]
  | map at_ k v ihk ihv =>
    obtain ⟨hk, hv⟩ := List.forall_mem_append.1 h
    rw [meaning, meaning, ihk hk, ihv hv]
  | result at_ x y ihx ihy =>
    obtain ⟨hx, hy⟩ := List.forall_mem_append.1 h
    rw [meaning, meaning, ihx hx, ihy hy]
  | func at_ ps r ihps ihr =>
    obtain ⟨hps, hr⟩ := List.forall_mem_append.1 h
    rw [meaning, meaning, meanings_eq, meanings_eq, meaningOfResult_eq, meaningOfResult_eq,
      List.map_congr_left fun t ht => ihps t ht fun n hn => hps n (mem_namesOfAll ht hn),
      Option.map_congr fun t ht => ihr t ht fun n hn => hr n (mem_namesOfResult ht hn)]
  | pii at_ e level category ih => rw [meaning, meaning, ih h]

/-- **A replaced name stands for what the written type in its place does.** -/
theorem meaning_replace (f : String → Option TypeExpr) (μ : String → Ty) (t : TypeExpr) :
    (t.replace f).meaning μ = t.meaning fun n => ((f n).map (meaning μ)).getD (μ n) := by
  induction t using induct with
  | name at_ n =>
    rw [replace, meaning]
    cases f n <;> rfl
  | var at_ n => rfl
  | optional at_ e ih => rw [replace, meaning, meaning, ih]
  | list at_ e ih => rw [replace, meaning, meaning, ih]
  | map at_ k v ihk ihv => rw [replace, meaning, meaning, ihk, ihv]
  | result at_ x y ihx ihy => rw [replace, meaning, meaning, ihx, ihy]
  | func at_ ps r ihps ihr =>
    rw [replace, meaning, meaning, replaceAll_eq, replaceResult_eq, meanings_eq, meanings_eq,
      meaningOfResult_eq, meaningOfResult_eq, List.map_map, Option.map_map]
    exact congrArg₂ _ (List.map_congr_left ihps) (congrArg (Option.getD · _) (Option.map_congr ihr))
  | pii at_ e level category ih => rw [replace, meaning, meaning, ih]

/-! ## Expansion -/

section Expand

variable (f : String → Option TypeExpr)

/-- **A written type with its aliases replaced**, so many times. -/
def expand : Nat → TypeExpr → TypeExpr
  | 0, t => t
  | k + 1, t => t.replace fun n => (f n).map (expand k)

/-- An alias refers to another: its target names it. -/
def Refers (a b : String) : Prop := ∃ u, f a = some u ∧ b ∈ u.names ∧ (f b).isSome = true

/-- **No alias refers to itself**, not even by way of others. -/
def Acyclic : Prop := ∀ a, ¬ Relation.TransGen (Refers f) a a

/-- No name is an alias. -/
def Closed (t : TypeExpr) : Prop := ∀ n ∈ t.names, f n = none

variable {f}

/-- Aliases that only refer to aliases of a lower rank never refer to themselves. -/
theorem acyclic_of_rank (rank : String → Nat) (h : ∀ a b, Refers f a b → rank b < rank a) :
    Acyclic f := by
  have hrank : ∀ {a b}, Relation.TransGen (Refers f) a b → rank b < rank a := by
    intro a b hab
    induction hab with
    | single hab => exact h _ _ hab
    | tail _ hbc ih => exact Nat.lt_trans (h _ _ hbc) ih
  exact fun a haa => Nat.lt_irrefl _ (hrank haa)

theorem expand_name (k : Nat) (at_ : Span) (n : String) :
    expand f (k + 1) (.name at_ n) = ((f n).map (expand f k)).getD (.name at_ n) := rfl

/-- A name that is no alias stays. -/
theorem expand_of_none {n : String} (h : f n = none) (k : Nat) (at_ : Span) :
    expand f k (.name at_ n) = .name at_ n := by
  cases k with
  | zero => rfl
  | succ k => rw [expand_name, h]; rfl

theorem mem_names_expand_succ {k : Nat} {n : String} {t : TypeExpr} :
    n ∈ (expand f (k + 1) t).names ↔ (n ∈ t.names ∧ f n = none) ∨
      ∃ a ∈ t.names, ∃ u, f a = some u ∧ n ∈ (expand f k u).names := by
  rw [expand, names_replace, List.mem_flatMap]
  constructor
  · rintro ⟨a, ha, hn⟩
    cases hf : f a with
    | none =>
      rw [hf] at hn
      obtain rfl := List.mem_singleton.1 hn
      exact .inl ⟨ha, hf⟩
    | some u =>
      rw [hf] at hn
      exact .inr ⟨a, ha, u, hf, hn⟩
  · rintro (⟨hn, hf⟩ | ⟨a, ha, u, hf, hn⟩)
    · exact ⟨n, hn, by rw [hf]; exact .head _⟩
    · exact ⟨a, ha, by rw [hf]; exact hn⟩

/-- **An alias that is left after `k` rounds ends a chain** of `k` aliases before it. -/
theorem exists_chain {k : Nat} {n : String} {t : TypeExpr} (hn : n ∈ (expand f k t).names)
    (ha : (f n).isSome = true) : ∃ a l, (a :: l).length = k + 1 ∧ a ∈ t.names ∧
      List.IsChain (Refers f) (a :: l) ∧ ∀ b ∈ a :: l, (f b).isSome = true := by
  induction k generalizing t with
  | zero => exact ⟨n, [], rfl, hn, .singleton n, List.forall_mem_singleton.2 ha⟩
  | succ k ih =>
    obtain ⟨-, hnone⟩ | ⟨a, hat, u, hu, hn⟩ := mem_names_expand_succ.1 hn
    · rw [hnone] at ha
      cases ha
    · obtain ⟨b, l, hlen, hb, hchain, hall⟩ := ih hn
      refine ⟨a, b :: l, by rw [List.length_cons, hlen], hat, ?_, ?_⟩
      · exact List.isChain_cons_cons.2 ⟨⟨u, hu, hb, hall b (.head _)⟩, hchain⟩
      · exact List.forall_mem_cons.2 ⟨by rw [hu]; rfl, hall⟩

/-- **The aliases of a chain are all different.** -/
theorem Acyclic.nodup (h : Acyclic f) {l : List String} (hl : List.IsChain (Refers f) l) :
    l.Nodup := by
  have hpairs : l.Pairwise (Relation.TransGen (Refers f)) :=
    (hl.imp fun _ _ => Relation.TransGen.single).pairwise
  refine hpairs.imp ?_
  rintro a _ hab rfl
  exact h a hab

/-- **As many rounds as there are aliases leave none.** -/
theorem closed_expand (h : Acyclic f) {all : List String}
    (hall : ∀ n, (f n).isSome = true → n ∈ all) (t : TypeExpr) :
    Closed f (expand f all.length t) := by
  intro n hn
  refine Option.not_isSome_iff_eq_none.1 fun hsome => ?_
  obtain ⟨a, l, hlen, -, hchain, halias⟩ := exists_chain hn hsome
  have hle := (List.Nodup.subperm (h.nodup hchain) fun b hb => hall b (halias b hb)).length_le
  omega

/-- A round more changes nothing once no alias is left. -/
theorem expand_succ {k : Nat} {t : TypeExpr} (h : Closed f (expand f k t)) :
    expand f (k + 1) t = expand f k t := by
  induction k generalizing t with
  | zero =>
    rw [expand, expand]
    refine (replace_congr t fun n hn => ?_).trans t.replace_none
    rw [h n hn]
    rfl
  | succ k ih =>
    refine replace_congr t fun n hn => ?_
    cases hf : f n with
    | none => rfl
    | some u =>
      have hu : Closed f (expand f k u) :=
        fun m hm => h m (mem_names_expand_succ.2 (.inr ⟨n, hn, u, hf, hm⟩))
      exact congrArg some (ih hu)

/-- Names that come with an expansion come from a target. -/
theorem mem_names_expand {k : Nat} {n : String} {t : TypeExpr} (hn : n ∈ (expand f k t).names) :
    n ∈ t.names ∨ ∃ a u, f a = some u ∧ n ∈ u.names := by
  induction k generalizing t with
  | zero => exact .inl hn
  | succ k ih =>
    obtain ⟨hn, -⟩ | ⟨a, -, u, hu, hn⟩ := mem_names_expand_succ.1 hn
    · exact .inl hn
    · exact (ih hn).elim (fun hn => .inr ⟨a, u, hu, hn⟩) .inr

/-! ## What aliases stand for -/

/-- **An expansion means what the written type does**, where each name stands for its expansion. -/
theorem meaning_expand (μ : String → Ty) (k : Nat) (t : TypeExpr) :
    (expand f k t).meaning μ = t.meaning fun n => (expand f k (.name {} n)).meaning μ := by
  cases k with
  | zero => rfl
  | succ k =>
    rw [expand, meaning_replace]
    refine meaning_congr t fun n _ => ?_
    rw [expand_name]
    cases f n <;> rfl

variable (f)

/-- **What a name stands for**: the meaning of its expansion, where the names that are no aliases
stand for what they do at first. -/
def sense (all : List String) (base : String → Ty) (n : String) : Ty :=
  (expand f all.length (.name {} n)).meaning base

variable {f}

theorem sense_of_none {all : List String} {base : String → Ty} {n : String} (h : f n = none) :
    sense f all base n = base n := by
  rw [sense, expand_of_none h, meaning]

/-- **An alias stands for what its target means.** -/
theorem sense_of_some (h : Acyclic f) {all : List String}
    (hall : ∀ n, (f n).isSome = true → n ∈ all) (base : String → Ty) {n : String} {u : TypeExpr}
    (hu : f n = some u) : sense f all base n = u.meaning (sense f all base) := by
  obtain ⟨k, hk⟩ : ∃ k, all.length = k + 1 :=
    Nat.exists_eq_succ_of_ne_zero (List.length_pos_of_mem (hall n (by rw [hu]; rfl))).ne'
  have hname : expand f all.length (.name {} n) = expand f k u := by
    rw [hk, expand_name, hu]
    rfl
  have hclosed : Closed f (expand f k u) := hname ▸ closed_expand h hall _
  calc sense f all base n = (expand f k u).meaning base := by rw [sense, hname]
    _ = (expand f all.length u).meaning base := by rw [hk, expand_succ hclosed]
    _ = u.meaning (sense f all base) := meaning_expand base _ u

end Expand

end TypeExpr

end CoreCheck.Ir

import CoreCheck.Proofs.Types.Sound
import CoreCheck.Types.Operator

/-!
# Proofs/Types/Structure — the structure behind a number

`Arena.tree` writes a type out in full: numbers of parts are replaced by what they stand for, only
record and enumeration types stay by their slot.  In a sound arena the structure settles everything
that is ever asked of a type, and structures never change when the arena grows.  So two walks that
number their types differently still agree wherever their structures do.
-/

namespace CoreCheck.Types

/-- **A type written out in full.** -/
inductive Ty where
  /-- What is no type. -/
  | missing
  | unknown
  | int | long | double | text | bool | unit | null
  | data (slot : Nat)
  | enum (slot : Nat)
  | var (name : String)
  | func (params : List Ty) (result : Ty)
  | optional (elem : Ty)
  | list (elem : Ty)
  | map (key value : Ty)
  | result (ok err : Ty)
  | pii (base : Ty) (level : Level) (category : String)

/-- A shape with its parts written out. -/
def Shape.assemble (f : TypeId → Ty) : Shape → Ty
  | .unknown => .unknown
  | .int => .int
  | .long => .long
  | .double => .double
  | .text => .text
  | .bool => .bool
  | .unit => .unit
  | .null => .null
  | .data slot => .data slot
  | .enum slot => .enum slot
  | .var name => .var name
  | .func ps r => .func (ps.map f) (f r)
  | .optional e => .optional (f e)
  | .list e => .list (f e)
  | .map k v => .map (f k) (f v)
  | .result x y => .result (f x) (f y)
  | .pii b l c => .pii (f b) l c

theorem Shape.assemble_congr {f g : TypeId → Ty} {s : Shape} (h : ∀ q ∈ s.parts, f q = g q) :
    s.assemble f = s.assemble g := by
  cases s <;> simp_all [assemble, parts]

/-- Lists are told apart by their images as far as their members are. -/
theorem map_inj_of_mem {f : TypeId → Ty} {ps qs : List TypeId}
    (h : ∀ q ∈ ps, ∀ q' ∈ qs, f q = f q' → q = q') (he : ps.map f = qs.map f) : ps = qs := by
  induction ps generalizing qs with
  | nil => exact (List.map_eq_nil_iff.1 he.symm).symm
  | cons p ps ih =>
    cases qs with
    | nil => exact nomatch he
    | cons q qs =>
      rw [List.map_cons, List.map_cons, List.cons.injEq] at he
      rw [h p (.head _) q (.head _) he.1,
        ih (fun x hx y hy => h x (.tail _ hx) y (.tail _ hy)) he.2]

/-- Shapes are told apart by their written-out form as far as their parts are. -/
theorem Shape.assemble_inj {f : TypeId → Ty} {s t : Shape}
    (h : ∀ q ∈ s.parts, ∀ q' ∈ t.parts, f q = f q' → q = q') (he : s.assemble f = t.assemble f) :
    s = t := by
  cases s <;> cases t <;> first
    | rfl
    | (simp only [assemble, reduceCtorEq] at he; done)
    | injection he
  case func.func hps hr =>
    rw [map_inj_of_mem (fun q hq q' hq' => h q (.tail _ hq) q' (.tail _ hq')) hps,
      h _ (.head _) _ (.head _) hr]
  all_goals simp_all [parts]

namespace Ty

/-- The type under a mark. -/
def unwrap : Ty → Ty
  | .pii b _ _ => b
  | t => t

/-- The kind of a type; what is no type counts as unknown. -/
def kind : Ty → Kind
  | .missing | .unknown => .unknown
  | .int => .int
  | .long => .long
  | .double => .double
  | .text => .text
  | .bool => .bool
  | .unit => .unit
  | .null => .null
  | .data _ => .data
  | .enum _ => .enum
  | .var _ => .var
  | .func _ _ => .func
  | .optional _ => .optional
  | .list _ => .list
  | .map _ _ => .map
  | .result _ _ => .result
  | .pii _ _ _ => .pii

/-- The taint that a type carries. -/
def taint : Ty → Option Taint
  | .pii _ level category => some (Taint.make level [category])
  | .optional e | .list e => e.taint
  | .map k v => Taint.merge k.taint v.taint
  | _ => none

/-- The level of a mark that is put on a type. -/
def markedLevel (level : Level) : Ty → Level
  | .pii _ l _ => level.max l
  | _ => level

/-- Whether a type fits anywhere: the placeholder, type parameters, and what is no type. -/
def isWild : Ty → Bool
  | .missing | .unknown | .var _ => true
  | _ => false

end Ty

namespace Arena

/-- **The structure of a type**, its parts written out. -/
def tree (a : Arena) (id : TypeId) : Ty :=
  match a.lookup id with
  | none => .missing
  | some s => s.assemble fun q => if _h : q < id then a.tree q else .missing
termination_by id

theorem tree_of_none {a : Arena} {id : TypeId} (h : a.lookup id = none) : a.tree id = .missing := by
  rw [tree, h]

theorem tree_zero (a : Arena) : a.tree 0 = .missing := tree_of_none a.lookup_zero

section Sound

variable {a : Arena} (h : a.Sound)

include h

theorem Sound.tree_eq {id : TypeId} {s : Shape} (hs : a.lookup id = some s) :
    a.tree id = s.assemble a.tree := by
  rw [tree, hs]
  exact Shape.assemble_congr fun q hq => dif_pos (h.older hs q hq)

theorem Sound.tree_ne_missing {id : TypeId} {s : Shape} (hs : a.lookup id = some s) :
    a.tree id ≠ .missing := by
  rw [h.tree_eq hs]
  cases s <;> simp [Shape.assemble]

/-- Structures are settled by the shapes. -/
theorem Sound.tree_of_lookup_eq {b : Arena} (hb : b.Sound)
    (hab : ∀ id ≤ a.size, b.lookup id = a.lookup id) (id : TypeId) (hid : id ≤ a.size) :
    b.tree id = a.tree id := by
  induction id using Nat.strongRecOn with
  | _ id ih =>
    cases hs : a.lookup id with
    | none => rw [tree_of_none hs, tree_of_none ((hab id hid).trans hs)]
    | some s =>
      rw [h.tree_eq hs, hb.tree_eq ((hab id hid).trans hs)]
      exact Shape.assemble_congr fun q hq => ih q (h.older hs q hq) (h.part_le hs hq)

/-- **Structures do not change when an arena grows.** -/
theorem Sound.tree_extends {b : Arena} (hb : b.Sound) (hab : a.Extends b) (id : TypeId)
    (hid : id ≤ a.size) : b.tree id = a.tree id :=
  h.tree_of_lookup_eq hb hab.lookup_eq id hid

/-- **A structure has one number.** -/
theorem Sound.tree_inj {i j : TypeId} (hi : i ≤ a.size) (hj : j ≤ a.size)
    (he : a.tree i = a.tree j) : i = j := by
  induction i using Nat.strongRecOn generalizing j with
  | _ i ih =>
    have hpos : ∀ {k : TypeId}, k ≤ a.size → a.lookup k = none → k = 0 := by
      intro k hk hn
      refine Nat.eq_zero_of_not_pos fun hp => ?_
      obtain ⟨s, hs⟩ := exists_lookup hp hk
      exact nomatch hn.symm.trans hs
    cases hs : a.lookup i with
    | none =>
      cases ht : a.lookup j with
      | none => rw [hpos hi hs, hpos hj ht]
      | some t => exact absurd (he.symm.trans (tree_of_none hs)) (h.tree_ne_missing ht)
    | some s =>
      cases ht : a.lookup j with
      | none => exact absurd (he.trans (tree_of_none ht)) (h.tree_ne_missing hs)
      | some t =>
        rw [h.tree_eq hs, h.tree_eq ht] at he
        have hst : s = t := Shape.assemble_inj (fun q hq q' hq' hqq =>
          ih q (h.older hs q hq) (h.part_le hs hq) (h.part_le ht hq') hqq) he
        exact h.once hs (hst ▸ ht)

/-! ## What is asked of a type -/

theorem Sound.tree_unwrap (id : TypeId) : a.tree (a.unwrap id) = (a.tree id).unwrap := by
  rw [unwrap]
  split
  · next hs => rw [h.tree_eq hs]; rfl
  · next hno =>
    cases hs : a.lookup id with
    | none => rw [tree_of_none hs]; rfl
    | some s =>
      rw [h.tree_eq hs]
      cases s with
      | pii b l c => exact absurd hs (hno b l c)
      | _ => rfl

theorem Sound.markedLevel_eq (id : TypeId) (level : Level) :
    a.markedLevel id level = (a.tree id).markedLevel level := by
  rw [markedLevel]
  cases hs : a.lookup id with
  | none => rw [tree_of_none hs]; rfl
  | some s => rw [h.tree_eq hs]; cases s <;> rfl

theorem Sound.kindOf_eq (id : TypeId) : a.kindOf id = (a.tree id).unwrap.kind := by
  rw [kindOf, ← h.tree_unwrap id]
  cases hs : a.lookup (a.unwrap id) with
  | none => rw [tree_of_none hs]; rfl
  | some s => rw [h.tree_eq hs]; cases s <;> rfl

theorem Sound.taintOf_eq (id : TypeId) : a.taintOf id = (a.tree id).taint := by
  induction id using Nat.strongRecOn with
  | _ id ih =>
    rw [taintOf]
    cases hs : a.lookup id with
    | none => rw [tree_of_none hs]; rfl
    | some s =>
      have hold := h.older hs
      rw [h.tree_eq hs]
      cases s with
      | optional e =>
        have he : e < id := hold e (.head _)
        simp only [he, dite_true, Shape.assemble, Ty.taint, ih e he]
      | list e =>
        have he : e < id := hold e (.head _)
        simp only [he, dite_true, Shape.assemble, Ty.taint, ih e he]
      | map k v =>
        have hk : k < id := hold k (.head _)
        have hv : v < id := hold v (.tail _ (.head _))
        simp only [hk, hv, dite_true, Shape.assemble, Ty.taint, ih k hk, ih v hv]
      | _ => rfl

end Sound

end Arena

end CoreCheck.Types

import CoreCheck.Proofs.Taint.Order
import CoreCheck.Proofs.Types.Structure
import CoreCheck.Types.Compatible
import CoreCheck.Types.Operator

/-!
# Proofs/Types/Covered — taints that cover a type

A taint covers a type when the taint of the type is below it.  Types of most kinds carry no taint at
all, so anything covers them; optionals and lists are covered by what covers their elements.
-/

namespace CoreCheck.Types

/-- The kinds of types whose taint is looked for: marks, and what they are looked for through. -/
def Kind.carries : Kind → Bool
  | .optional | .list | .map | .pii => true
  | _ => false

namespace Arena

/-- **A taint covers a type of an arena**: it has the level and the categories of the type. -/
structure Covers (a : Arena) (taint : Option Taint) (id : TypeId) : Prop where
  known : id ≤ a.size
  below : Taint.Below (a.taintOf id) taint

/-! ## Types without taint -/

theorem taintOf_of_lookup {a : Arena} {id : TypeId} {s : Shape} (hs : a.lookup id = some s)
    (hk : s.kind.carries = false) : a.taintOf id = none := by
  rw [taintOf, hs]
  cases s with
  | optional | list | map | pii => cases hk
  | _ => rfl

theorem taintOf_of_none {a : Arena} {id : TypeId} (hs : a.lookup id = none) :
    a.taintOf id = none := by
  rw [taintOf, hs]

/-- Under a mark, a type of a kind that carries none has no taint. -/
theorem taintOf_unwrap {a : Arena} {id : TypeId} (hk : (a.kindOf id).carries = false) :
    a.taintOf (a.unwrap id) = none := by
  rw [kindOf] at hk
  cases hs : a.lookup (a.unwrap id) with
  | none => exact taintOf_of_none hs
  | some s =>
    rw [hs] at hk
    exact taintOf_of_lookup hs hk

theorem carries_of_mem_initial : ∀ s ∈ Arena.initial.shapes, s.kind.carries = false := by decide

theorem Sound.taintOf_builtin {a : Arena} (h : a.Sound) {id : TypeId} (hid : id ≤ 8) :
    a.taintOf id = none := by
  have hlook := h.builtin.2 id hid
  cases hs : a.lookup id with
  | none => exact taintOf_of_none hs
  | some s =>
    exact taintOf_of_lookup hs
      (carries_of_mem_initial s (mem_shapes_of_lookup (hlook.symm.trans hs)))

theorem covers_of_taintOf {a : Arena} {id : TypeId} (hid : id ≤ a.size) (h : a.taintOf id = none)
    (taint : Option Taint) : a.Covers taint id :=
  ⟨hid, h ▸ Taint.Below.none taint⟩

theorem Sound.covers_builtin {a : Arena} (h : a.Sound) {id : TypeId} (hid : id ≤ 8)
    (taint : Option Taint) : a.Covers taint id :=
  covers_of_taintOf (h.builtin_le hid) (h.taintOf_builtin hid) taint

/-! ## Operands -/

/-- Operators that answer the type of an operand do not take operands of any family. -/
theorem any_not_left {op : String} {r : BinaryRule} (hr : r ∈ binaryRules op)
    (ho : r.outcome ≠ .bool) : Family.any.fits r.left = false := by
  unfold binaryRules at hr
  split at hr
  · obtain rfl | hr := List.mem_cons.1 hr
    · decide
    · obtain rfl := List.mem_singleton.1 hr
      decide
  all_goals first
    | contradiction
    | (obtain rfl := List.mem_singleton.1 hr
       first | decide | exact absurd rfl ho)

/-- Operators in front of an operand do not take one of any family. -/
theorem any_not_operand {op : String} {r : UnaryRule} (hr : unaryRule? op = some r) :
    Family.any.fits r.operand = false := by
  unfold unaryRule? at hr
  split at hr
  case h_5 => contradiction
  all_goals
    obtain rfl := Option.some.inj hr
    decide

theorem carries_of_fits {a : Arena} {id : TypeId} {mask : Nat}
    (hfits : (a.family id).fits mask = true) (hany : Family.any.fits mask = false) :
    (a.kindOf id).carries = false := by
  rw [family] at hfits
  cases hk : a.kindOf id <;> rw [hk] at hfits <;>
    first | rfl | exact absurd (hfits.symm.trans hany) Bool.noConfusion

/-! ## Covered types -/

section

variable {a : Arena} {taint : Option Taint} {id : TypeId}

theorem Covers.mono {taint' : Option Taint} (h : a.Covers taint id)
    (ht : Taint.Below taint taint') : a.Covers taint' id := ⟨h.known, h.below.trans ht⟩

/-- What is covered stays so when the arena grows. -/
theorem Covers.extends {b : Arena} (h : a.Covers taint id) (ha : a.Sound) (hb : b.Sound)
    (hab : a.Extends b) : b.Covers taint id := by
  refine ⟨hab.le_size h.known, ?_⟩
  rw [hb.taintOf_eq, ha.tree_extends hb hab id h.known, ← ha.taintOf_eq]
  exact h.below

/-- The taint that a type itself adds covers the type. -/
theorem covers_merge (hid : id ≤ a.size) (taint : Option Taint) :
    a.Covers (Taint.merge taint (a.taintOf id)) id := ⟨hid, Taint.below_merge_right _ _⟩

variable (ha : a.Sound)

include ha

/-- A type that is made of another, and has its taint. -/
theorem covers_intern {s : Shape} (h : a.Covers taint id) (hm : Made a (a.intern s))
    (hs : ∀ f : TypeId → Ty, (s.assemble f).taint = (f id).taint) :
    (a.intern s).1.Covers taint (a.intern s).2 := by
  have hold := h.extends ha hm.sound hm.ext
  refine ⟨hm.le, ?_⟩
  rw [hm.sound.taintOf_eq, hm.sound.tree_eq (lookup_intern a s), hs, ← hm.sound.taintOf_eq]
  exact hold.below

theorem covers_optional (h : a.Covers taint id) :
    (a.optional id).1.Covers taint (a.optional id).2 :=
  covers_intern ha h (made_optional ha h.known) fun _ => rfl

theorem covers_list (h : a.Covers taint id) : (a.list id).1.Covers taint (a.list id).2 :=
  covers_intern ha h (made_list ha h.known) fun _ => rfl

/-- A result carries no taint, whatever it is made of. -/
theorem covers_result {x y : TypeId} (hx : x ≤ a.size) (hy : y ≤ a.size) (taint : Option Taint) :
    (a.result x y).1.Covers taint (a.result x y).2 :=
  covers_of_taintOf (made_result ha hx hy).le (taintOf_of_lookup (lookup_intern a _) rfl) taint

/-- **What covers two types covers the type they are joined in.** -/
theorem covers_join {s t j : TypeId} (hs : a.Covers taint s) (ht : a.Covers taint t)
    (hj : (a.join s t).2 = some j) : (a.join s t).1.Covers taint j := by
  have hi : ∀ i, i = s ∨ i = t → a.Covers taint i := by
    rintro i (rfl | rfl) <;> assumption
  obtain ⟨i, his, he | he⟩ | he := a.join_cases s t
  · rw [he] at hj ⊢
    obtain rfl := Option.some.inj hj
    exact hi _ his
  · rw [he] at hj ⊢
    obtain rfl := Option.some.inj hj
    exact covers_optional ha (hi i his)
  · rw [he] at hj
    exact nomatch hj

end

end Arena

end CoreCheck.Types

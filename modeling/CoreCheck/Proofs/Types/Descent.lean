import CoreCheck.Proofs.Types.Exposed

/-!
# Proofs/Types/Descent — questions about types end

Where a type fits and which taint it carries is asked by recursion on the numbers of its parts, with
nothing that bounds the depth.  Here both recursions are written so, without a look at the age of a
part, and may fail to answer: `compatibleWithin` and `taintWithin` give up when more calls stand
within each other than they are told.  In an arena in use the answer is always there.  A comparison
turns its two types round at every parameter of a function, and may go down in one of them only, so
it is the sum of both numbers that gets smaller.
-/

namespace CoreCheck.Types

/-! ## Questions without an end -/

/-- Two questions, of which the second is asked only after a positive answer to the first. -/
def bothOf (x y : Option Bool) : Option Bool := x.bind fun b => if b then y else some false

@[simp] theorem bothOf_some (b c : Bool) : bothOf (some b) (some c) = some (b && c) := by
  cases b <;> rfl

/-- Questions that are all answered are answered together, although they end at the first no. -/
theorem allM_eq_some {α : Type} {f : α → Option Bool} {g : α → Bool} {l : List α}
    (h : ∀ x ∈ l, f x = some (g x)) : l.allM f = some (l.all g) := by
  induction l with
  | nil => rfl
  | cons x l ih =>
    rw [List.allM, h x (.head _), List.all_cons, ih fun y hy => h y (.tail _ hy)]
    cases g x <;> rfl

namespace Arena

/-- **One call of the comparison**, which asks about the parts by `ask`. -/
def compatibleBy (a : Arena) (ask : TypeId → TypeId → Option Bool) (expected actual : TypeId) :
    Option Bool :=
  if expected = actual then some true
  else
    match a.lookup expected, a.lookup actual with
    | some e, some t =>
      if e.isWild || t.isWild then some true
      else
        match e, t with
        | .pii base _ _, _ => ask base actual
        | _, .pii base _ _ => ask expected base
        | .optional _, .null => some true
        | .optional x, .optional y => ask x y
        | .optional x, _ => ask x actual
        | .list x, .list y => ask x y
        | .map k v, .map k' v' => bothOf (ask k k') (ask v v')
        | .result x y, .result x' y' => bothOf (ask x x') (ask y y')
        | .func ps r, .func ps' r' =>
          if ps.length = ps'.length then
            bothOf ((ps.zip ps').allM fun (p, p') => ask p' p) (ask r r')
          else some false
        | _, _ => some false
    | _, _ => some true

/-- **The comparison as it is called**, with at most so many calls within each other. -/
def compatibleWithin (a : Arena) : Nat → TypeId → TypeId → Option Bool
  | 0, _, _ => none
  | depth + 1, expected, actual => a.compatibleBy (a.compatibleWithin depth) expected actual

/-- One call of the search for a taint, which asks about the parts by `ask`. -/
def taintBy (a : Arena) (ask : TypeId → Option (Option Taint)) (id : TypeId) :
    Option (Option Taint) :=
  match a.lookup id with
  | some (.pii _ level category) => some (some (Taint.make level [category]))
  | some (.optional e) | some (.list e) => ask e
  | some (.map k v) => do return Taint.merge (← ask k) (← ask v)
  | _ => some none

/-- **The search for a taint as it is called**, with at most so many calls within each other. -/
def taintWithin (a : Arena) : Nat → TypeId → Option (Option Taint)
  | 0, _ => none
  | depth + 1, id => a.taintBy (a.taintWithin depth) id

/-- Where a type is its own element the search goes on forever. -/
theorem taintWithin_of_cycle {a : Arena} {id : TypeId} (h : a.lookup id = some (.list id))
    (depth : Nat) : a.taintWithin depth id = none := by
  induction depth with
  | zero => rfl
  | succ depth ih => rw [taintWithin, taintBy, h]; exact ih

/-- Two such types are compared forever. -/
theorem compatibleWithin_of_cycles {a : Arena} {i j : TypeId} (hi : a.lookup i = some (.list i))
    (hj : a.lookup j = some (.list j)) (hij : i ≠ j) (depth : Nat) :
    a.compatibleWithin depth i j = none := by
  induction depth with
  | zero => rfl
  | succ depth ih => rw [compatibleWithin, compatibleBy, if_neg hij, hi, hj]; exact ih

/-! ## One call -/

section Sound

variable {a : Arena} (h : a.Sound)

include h

/-- **A comparison asks about less**: it answers as soon as the questions do whose numbers add up to
less than those that it is asked about. -/
theorem Sound.compatibleBy_eq {ask : TypeId → TypeId → Option Bool} {i j : TypeId}
    (hask : ∀ x y, x + y < i + j → ask x y = some (a.compatible x y)) :
    a.compatibleBy ask i j = some (a.compatible i j) := by
  rw [compatibleBy, compatible]
  by_cases hij : i = j
  · rw [if_pos hij, if_pos hij]
  rw [if_neg hij, if_neg hij]
  cases hi : a.lookup i with
  | none => rfl
  | some e =>
    cases hj : a.lookup j with
    | none => rfl
    | some t =>
      by_cases hw : (e.isWild || t.isWild) = true
      · simp only [if_pos hw]
      simp only [if_neg hw]
      have oi := h.older hi
      have oj := h.older hj
      -- the three ways to go down: on the one side, on the other, and on both
      have left : ∀ {x}, x ∈ e.parts →
          ask x j = some (if _h : x < i then a.compatible x j else true) :=
        fun hx => by rw [dif_pos (oi _ hx), hask _ j (Nat.add_lt_add_right (oi _ hx) j)]
      have right : ∀ {y}, y ∈ t.parts →
          ask i y = some (if _h : y < j then a.compatible i y else true) :=
        fun hy => by rw [dif_pos (oj _ hy), hask i _ (Nat.add_lt_add_left (oj _ hy) i)]
      have pair : ∀ {x y}, x ∈ e.parts → y ∈ t.parts →
          ask x y = some (if _h : x < i ∧ y < j then a.compatible x y else true) :=
        fun hx hy => by
          rw [dif_pos ⟨oi _ hx, oj _ hy⟩, hask _ _ (Nat.add_lt_add (oi _ hx) (oj _ hy))]
      split
      · exact left (.head _)
      · next hno =>
        cases e with
        | pii b l c => exact (hno b l c rfl).elim
        | _ => exact right (.head _)
      · rfl
      · exact pair (.head _) (.head _)
      · next hnp hnn hno =>
        cases t with
        | pii b l c => exact (hnp b l c rfl).elim
        | null => exact (hnn rfl).elim
        | optional y => exact (hno y rfl).elim
        | _ => exact left (.head _)
      · exact pair (.head _) (.head _)
      · rw [pair (.head _) (.head _), pair (.tail _ (.head _)) (.tail _ (.head _)), bothOf_some]
      · rw [pair (.head _) (.head _), pair (.tail _ (.head _)) (.tail _ (.head _)), bothOf_some]
      · next ps r ps' r' =>
        -- the parameters change sides, which leaves the sum as it is
        have swapped : ∀ pp ∈ ps.zip ps', ask pp.2 pp.1
            = some (if _h : pp.1 < i ∧ pp.2 < j then a.compatible pp.2 pp.1 else true) := by
          intro pp hpp
          obtain ⟨hp, hp'⟩ := List.of_mem_zip hpp
          have oi := oi _ (.tail _ hp)
          have oj := oj _ (.tail _ hp')
          rw [dif_pos ⟨oi, oj⟩, hask _ _ (Nat.add_comm i j ▸ Nat.add_lt_add oj oi)]
        by_cases hlen : ps.length = ps'.length
        · rw [if_pos hlen, allM_eq_some swapped, pair (.head _) (.head _), bothOf_some]
          simp only [hlen, beq_self_eq_true, Bool.true_and]
        · rw [if_neg hlen]
          simp only [beq_false_of_ne hlen, Bool.false_and]
      · -- no row of the table applies, in the one comparison as in the other
        grind

/-- The search for a taint asks about less. -/
theorem Sound.taintBy_eq {ask : TypeId → Option (Option Taint)} {id : TypeId}
    (hask : ∀ q < id, ask q = some (a.taintOf q)) : a.taintBy ask id = some (a.taintOf id) := by
  rw [taintBy, taintOf]
  cases hs : a.lookup id with
  | none => rfl
  | some s =>
    have part : ∀ {q}, q ∈ s.parts → ask q = some (if _h : q < id then a.taintOf q else none) := by
      intro q hq
      have hlt := h.older hs q hq
      rw [dif_pos hlt, hask q hlt]
    cases s with
    | optional e => exact part (.head _)
    | list e => exact part (.head _)
    | map k v => simp only [part (.head _), part (.tail _ (.head _))]; rfl
    | _ => rfl

/-! ## All calls -/

theorem Sound.compatibleWithin_eq {depth : Nat} {expected actual : TypeId}
    (hlt : expected + actual < depth) :
    a.compatibleWithin depth expected actual = some (a.compatible expected actual) := by
  induction depth generalizing expected actual with
  | zero => exact absurd hlt (Nat.not_lt_zero _)
  | succ depth ih =>
    exact h.compatibleBy_eq fun x y hxy => ih (Nat.lt_of_lt_of_le hxy (Nat.le_of_lt_succ hlt))

theorem Sound.taintWithin_eq {depth : Nat} {id : TypeId} (hlt : id < depth) :
    a.taintWithin depth id = some (a.taintOf id) := by
  induction depth generalizing id with
  | zero => exact absurd hlt (Nat.not_lt_zero _)
  | succ depth ih =>
    exact h.taintBy_eq fun q hq => ih (Nat.lt_of_lt_of_le hq (Nat.le_of_lt_succ hlt))

end Sound

/-- **The questions about the types of an arena end**, whichever numbers they are asked about, and
at a depth that the numbers tell. -/
structure Ends (a : Arena) : Prop where
  compatible : ∀ expected actual depth, expected + actual < depth →
    a.compatibleWithin depth expected actual = some (a.compatible expected actual)
  taint : ∀ id depth, id < depth → a.taintWithin depth id = some (a.taintOf id)

end Arena

namespace Issued

/-- **Questions end in every arena in use**, also where records refer to each other. -/
theorem questions_end {pool : Strings} {d : Issued} (hd : (start pool).Used d) : d.arena.Ends := by
  obtain ⟨h, -, -⟩ := (ordered_start pool).run Ordered.use hd
  exact ⟨fun _ _ _ => h.sound.compatibleWithin_eq, fun _ _ => h.sound.taintWithin_eq⟩

/-- A record of which the fields are not set yet, and the list of such records. -/
def usersListed : Issued :=
  [Request.data "User" {}, .list 9].foldl serve (start {})

/-- The record has the list of its friends, which is itself a list of such records. -/
def usersBefriended : Issued :=
  { usersListed with arena := usersListed.arena.setFields 9 [⟨"friends", 10, {}⟩] }

/-- The friends as a secret that may be missing, maps to it, and calls that take it or the list. -/
def friendsAsked : List Request :=
  [.pii 10 .l2 "friends", .optional 11, .map text 12, .func [12] 9, .func [10] 9]

/-- The calls are compared by their parameters the other way round, and the mark is found under the
map. The number 40 was not given out. -/
theorem questions_end_friendsAsked :
    let d := friendsAsked.foldl serve usersBefriended
    (start {}).Used d ∧ (d.arena.dataInfo? 9).map DataInfo.fields = some [⟨"friends", 10, {}⟩] ∧
      d.arena.compatibleWithin 30 15 14 = some true ∧
      d.arena.compatibleWithin 30 14 15 = some false ∧
      d.arena.compatibleWithin 56 40 15 = some true ∧
      d.arena.taintWithin 14 13 = some (some (.make .l2 ["friends"])) := by
  have hlisted : (start {}).Later usersListed := later_foldl (by decide +kernel)
  have hasked : usersBefriended.Later (friendsAsked.foldl serve usersBefriended) :=
    later_foldl (by decide +kernel)
  have hfields : usersListed.Use usersBefriended :=
    .fields 9 [⟨"friends", 10, {}⟩] (by decide +kernel)
  have hused := (hlisted.used.tail hfields).trans hasked.used
  obtain ⟨hcompatible, htaint⟩ := questions_end hused
  refine ⟨hused, ?_, ?_, ?_, ?_, ?_⟩
  · decide +kernel
  · rw [hcompatible 15 14 30 (by decide)]
    decide +kernel
  · rw [hcompatible 14 15 30 (by decide)]
    decide +kernel
  · rw [hcompatible 40 15 56 (by decide)]
    decide +kernel
  · rw [htaint 13 14 (by decide)]
    decide +kernel

end Issued

end CoreCheck.Types

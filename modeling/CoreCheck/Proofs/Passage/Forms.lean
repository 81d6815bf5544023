import CoreCheck.Proofs.Passage.Discipline
import CoreCheck.Proofs.Walk.Guarded

/-!
# Proofs/Passage/Forms — the form of types during a check

From the builtin types on, a check comes to its types by calls that look first: while it collects the
declarations, and in the body of every function, which takes the types as the bodies before it left
them.  The types at the end are sound, so they are in normal form, and so are those at any point
before, which are the first ones of them.
-/

namespace CoreCheck.Check

open CoreCheck.Types CoreCheck.Scope CoreCheck.Ir Passage

theorem asks_next (s : State) (e : (Decl × Nat) × Option Signature) : Asks s (next s e) := by
  obtain ⟨⟨d, i⟩, sig⟩ := e
  cases d with
  | func f =>
    cases sig with
    | none => exact .refl
    | some sig => exact asks_walkBody f sig { s with log := #[] }
  | _ => exact .refl

/-- The types that a task starts with are there when it is done. -/
theorem Task.earlier (t : Task) (s : State) : s.types.Earlier (t.after s).types :=
  (t.onward s).types.earlier

section

variable {σ : Type} (r : Reporter σ) (told : σ) (o : Options) (m : Module)

/-- **The types of a check are in normal form**, at every point of it. -/
structure NormalThroughout : Prop where
  /-- Before any visit and between two of them the types were come to by calls that look first, and
  more such calls lead to the types at the end. -/
  calls : ∀ k ≤ m.decls.length, Arena.Calls .initial (upTo r o m told k).state.types ∧
    Arena.Calls (upTo r o m told k).state.types (complete r o m told).state.types
  /-- Types that are the first ones of those at the end are in normal form. -/
  earlier : ∀ a : Arena, a.Earlier (complete r o m told).state.types → a.InNormalForm
  /-- So are the types before and after every piece of a body that is walked on the way. -/
  tasks : ∀ k f i sig, (turns m)[k]? = some ((.func f, i), some sig) →
    ∀ x, Reaches (.body f sig, { (upTo r o m told k).state with log := #[] }) x →
      x.2.types.InNormalForm ∧ (x.1.after x.2).types.InNormalForm

variable {r told o m}

theorem asks_upTo {k l : Nat} (hkl : k ≤ l) (hl : l ≤ m.decls.length) :
    Asks (upTo r o m told k).state (upTo r o m told l).state := by
  induction hkl with
  | refl => exact .refl
  | @step l hkl ih =>
    have hlt : l < (turns m).length := length_turns m ▸ hl
    rw [state_upTo_succ (List.getElem?_eq_getElem hlt)]
    exact Walk.Course.trans (ih (Nat.le_of_succ_le hl)) (asks_next _ _)

theorem calls_collected : Arena.Calls .initial (upTo r o m told 0).state.types := by
  rw [state_upTo 0 (Nat.zero_le _)]
  exact asks_declare m.decls {}

variable (r told o m)

/-- **Types stay in normal form during a check**: no mark stands on a mark, no optional on an
optional, and one unwrapping leads to the type under the mark. -/
theorem types_in_normal_form : NormalThroughout r told o m := by
  have hend : ∀ k ≤ m.decls.length,
      Arena.Calls (upTo r o m told k).state.types (complete r o m told).state.types :=
    fun k hk => asks_upTo hk (Nat.le_refl _)
  have hcalls : ∀ k ≤ m.decls.length, Arena.Calls .initial (upTo r o m told k).state.types :=
    fun k hk => calls_collected.trans (asks_upTo (Nat.zero_le k) hk)
  have hearlier : ∀ a : Arena, a.Earlier (complete r o m told).state.types → a.InNormalForm :=
    fun a => Arena.inNormalForm_of_calls (hcalls _ (Nat.le_refl _))
      (visited_complete m r o told).alike.left.types
  refine ⟨fun k hk => ⟨hcalls k hk, hend k hk⟩, hearlier, fun k f i sig he x hx => ?_⟩
  have hlt : k + 1 ≤ m.decls.length := by
    obtain ⟨hlt, -⟩ := List.getElem?_eq_some_iff.1 he
    exact length_turns m ▸ hlt
  have hlater := hend (k + 1) hlt
  rw [state_upTo_succ he] at hlater
  have hafter : (x.1.after x.2).types.Earlier (complete r o m told).state.types :=
    hx.later.types.earlier.trans hlater.earlier
  exact ⟨hearlier _ ((x.1.earlier x.2).trans hafter), hearlier _ hafter⟩

/-- A parameter for what may be missing twice, with a mark in between, a name that is bound to null, a
number in two wrappings, and a list of nulls and of the parameter. -/
def missesTwice : Module := moduleOf
  [.alias {} "Maybe" (.optional {} (.name {} "String")),
    .func (funcOf "f" [("x", .optional {} (.pii {} (.name {} "Maybe") .l2 "name"))] none .pure
      [.bind {} "n" none (.literal {} .null),
        .bind {} "s" none (.wrap {} .some (.wrap {} .some (.literal {} (.int 1)))),
        .bind {} "l" none (.list {} [.literal {} .null, .name {} "x", .literal {} .null])])]

/-- The parameter is a mark on an optional and no optional of that, and so are the items. -/
theorem types_in_normal_form_missesTwice :
    let a := (complete (fun _ _ => ()) {} missesTwice ()).state.types
    a.shapes.toList.drop 8 = [.optional text, .pii 9 .l2 "name", .func [10] unit,
      .optional unknown, .optional int, .list 10] ∧
      a.kindOf 10 = .optional ∧ a.InNormalForm := by
  have h := types_in_normal_form (fun _ _ => ()) () {} missesTwice
  exact ⟨by decide +kernel, by decide +kernel, h.earlier _ (.refl _)⟩

end

end CoreCheck.Check

import CoreCheck.Proofs.Passage.Order
import CoreCheck.Proofs.Path.Reached

/-!
# Proofs/Passage/Discipline — scopes during a check

A check opens scopes for bodies, blocks and cases, and leaves each of them where it was opened.  What
one piece of a body does to the open scopes, to symbols and to faults is known from `Onward`; here it
is put together along a whole check.  A fault would not be forgotten (`Later`), so a check that ends
without one has made none on the way.
-/

namespace CoreCheck.Check

open CoreCheck.Types CoreCheck.Scope CoreCheck.Ir

/-- **The name of a type parameter has a number**, and the number stands for the name. -/
theorem numbered_of_lookup_var (a : Arena) {id : TypeId} {name : String}
    (h : a.lookup id = some (.var name)) :
    ∃ n, a.strings.find? name = some n ∧ a.strings.lookup? n = some name := by
  have hmem := a.named (Arena.mem_shapes_of_lookup h)
  cases hn : a.strings.find? name with
  | none => exact absurd hmem (Array.idxOf?_eq_none_iff.1 hn)
  | some n => exact ⟨n, rfl, Strings.getElem?_of_find? hn⟩

/-! ## Tasks -/

/-- Whether a task is made of expressions. -/
def Task.isExpr : Task → Bool
  | .expr _ | .exprs _ _ | .items _ _ _ _ | .inits _ _ _ _ _ => true
  | _ => false

/-- **Expressions leave the table as it is.** -/
theorem Task.table_eq {t : Task} (h : t.isExpr = true) (s : State) :
    (t.after s).table = s.table := by
  have hquiet : Quiet s (t.after s) := by
    cases t with
    | expr e => exact quiet_expr e s
    | exprs outer es => exact quiet_exprs outer es s
    | items outer elem taint es => exact quiet_items outer elem taint es s
    | inits outer info seen taint is => exact quiet_inits outer info seen taint is s
    | _ => exact nomatch h
  rw [hquiet.eq]

/-- **What every task does to names.** -/
theorem Task.onward (t : Task) (s : State) : Onward s (t.after s) := by
  cases t with
  | expr e => exact (quiet_expr e).enclosed.onward s
  | exprs outer es => exact (quiet_exprs outer es).enclosed.onward s
  | items outer elem taint es => exact (quiet_items outer elem taint es).enclosed.onward s
  | inits outer info seen taint is => exact (quiet_inits outer info seen taint is).enclosed.onward s
  | pattern outer type taint p => exact onward_pattern outer type taint p s
  | args outer taint fields ps => exact onward_args outer taint fields ps s
  | stmt fn st => exact onward_stmt fn st s
  | block fn ss => exact onward_block fn ss s
  | cases fn outer v cs => exact (enclosed_cases fn outer v cs).onward s
  | body f sig => exact (enclosed_walkBody f sig).onward s

/-- **A task in order**: no fault before or after it, the same scopes open, and symbols that were
there have only grown. -/
structure Orderly (x : Start) : Prop where
  before : x.2.fault = none
  after : (x.1.after x.2).fault = none
  stack_eq : (x.1.after x.2).table.stack = x.2.table.stack
  opened_eq : (x.1.after x.2).opened = x.2.opened
  table_eq : x.1.isExpr = true → (x.1.after x.2).table = x.2.table
  symbols : ∀ id sym, x.2.table.symbol? id = some sym →
    ∃ sym', (x.1.after x.2).table.symbol? id = some sym' ∧ sym.Grown sym'

/-- **A task that is reached is in order**, when the task it is reached from ends without a fault. -/
theorem Reaches.orderly {d : State} {x z : Start} (h : Grounded d x)
    (hfault : (x.1.after x.2).fault = none) (hz : Reaches x z) : Orderly z := by
  have hsound : z.2.table.Sound := (h.reaches hz).paired.left.table
  have honward := z.1.onward z.2
  have hafter : (z.1.after z.2).fault = none := by
    by_contra hne
    exact hz.later.fault hne hfault
  exact
    { before := (honward.faultless hsound).symm.trans hafter
      after := hafter
      stack_eq := (honward.table hsound).2.1
      opened_eq := honward.opened
      table_eq := fun he => Task.table_eq he z.2
      symbols := honward.symbols }

/-! ## A whole check -/

/-- What the left side holds is paired with itself. -/
theorem Paired.diag_left {d p c : State} (h : Paired d p c) : Paired d p p := by
  refine ⟨h.ground, h.left, h.left, List.forall₂_same.2 fun ns hns m => ?_⟩
  obtain ⟨ms, -, hnm⟩ := exists_left_of_mem h.view.flip hns
  have hm := hnm m
  generalize ns m = x at hm ⊢
  generalize ms m = y at hm
  cases hm with
  | none => exact .none
  | some hs =>
    exact .some ⟨rfl, rfl, rfl, hs.known, fun hk => ⟨rfl, (hs.variant hk).2⟩, .refl hs.type.left,
      .refl _⟩

section

open Passage

variable {σ : Type} (r : Reporter σ) (told : σ) (o : Options) (m : Module)

/-- The body that a visit walks is over the declarations, and its walk ends without a fault. -/
theorem grounded_visit {k : Nat} {f : Func} {i : Nat} {sig : Signature}
    (he : (turns m)[k]? = some ((.func f, i), some sig)) :
    Grounded (survey m).declared (.body f sig, { (upTo r o m told k).state with log := #[] }) ∧
      ((walkBody f sig).after { (upTo r o m told k).state with log := #[] }).fault = none := by
  have hvisited : Visited m r o told k (upTo r o m told k) := visited_upTo k (le_of_turns he)
  have hpaired := hvisited.alike.paired.diag_left
  have hbody := enclosed_walkBody f sig { (upTo r o m told k).state with log := #[] }
  exact ⟨⟨hpaired.logs #[] #[], known_of_turns (List.mem_of_getElem? he) rfl⟩,
    (hbody.resting hvisited.rest).faultless⟩

/-- **Scopes are in order during a check.**  After any number of visits no fault was made, only the
module's own scope is open and no law of the table is broken; every piece of a body that is walked
on the way leaves the scopes open that were open, and the symbols as they were, apart from taint
that grows and tasks that are waited for; and no label asks the pool for a text it does not have. -/
theorem scopes_in_order :
    (∀ k ≤ m.decls.length,
      (upTo r o m told k).state.fault = none ∧ (upTo r o m told k).state.opened = [] ∧
      (upTo r o m told k).state.table.stack = [Table.root] ∧
      (upTo r o m told k).state.table.validate = []) ∧
    (∀ k f i sig, (turns m)[k]? = some ((.func f, i), some sig) →
      ∀ x, Reaches (.body f sig, { (upTo r o m told k).state with log := #[] }) x → Orderly x) ∧
    ∀ (a : Arena) id name, a.lookup id = some (.var name) →
      ∃ n, a.strings.find? name = some n ∧ a.strings.lookup? n = some name := by
  refine ⟨fun k hk => ?_, fun k f i sig he x hx => ?_, fun a _ _ => numbered_of_lookup_var a⟩
  · have hvisited : Visited m r o told k (upTo r o m told k) := visited_upTo k hk
    have hrest := hvisited.rest
    exact ⟨hrest.faultless, hrest.opened_eq, hrest.stack_eq, hrest.lawful.validate_eq_nil⟩
  · obtain ⟨hground, hfault⟩ := grounded_visit r told o m he
    exact hx.orderly hground hfault

end

end CoreCheck.Check

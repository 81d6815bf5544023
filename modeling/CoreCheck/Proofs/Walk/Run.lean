import CoreCheck.Check.Passage

/-!
# Proofs/Walk/Run — how steps of a walk run

A step answers a value and leaves a state; `value` and `after` name the two, and one equation for
each primitive step says what they are.  `Keeps` is what a relation between the state before and the
state after is proved with: it holds of a sequence when it holds of its parts.
-/

namespace CoreCheck.Check

open CoreCheck.Types CoreCheck.Scope

namespace Walk

variable {α β : Type}

/-- **What a step answers.** -/
def value (x : Walk α) (s : State) : α := (x.run s).1

/-- **The state a step leaves.** -/
def after (x : Walk α) (s : State) : State := (x.run s).2

@[simp] theorem value_pure (a : α) (s : State) : (pure a : Walk α).value s = a := rfl

@[simp] theorem after_pure (a : α) (s : State) : (pure a : Walk α).after s = s := rfl

@[simp] theorem value_bind (x : Walk α) (f : α → Walk β) (s : State) :
    (x >>= f).value s = (f (x.value s)).value (x.after s) := rfl

@[simp] theorem after_bind (x : Walk α) (f : α → Walk β) (s : State) :
    (x >>= f).after s = (f (x.value s)).after (x.after s) := rfl

@[simp] theorem value_get (s : State) : (get : Walk State).value s = s := rfl

@[simp] theorem after_get (s : State) : (get : Walk State).after s = s := rfl

@[simp] theorem after_modify (f : State → State) (s : State) :
    (modify f : Walk PUnit).after s = f s := rfl

theorem value_ite (c : Prop) [Decidable c] (x y : Walk α) (s : State) :
    (if c then x else y).value s = if c then x.value s else y.value s := by split <;> rfl

theorem after_ite (c : Prop) [Decidable c] (x y : Walk α) (s : State) :
    (if c then x else y).after s = if c then x.after s else y.after s := by split <;> rfl

/-! ## Primitive steps -/

@[simp] theorem value_types (s : State) : types.value s = s.types := rfl

@[simp] theorem after_types (s : State) : types.after s = s := rfl

@[simp] theorem after_observe (o : Observation) (s : State) :
    (observe o).after s = { s with log := s.log.push (s.owner, o) } := rfl

@[simp] theorem value_make (f : Arena → Arena × TypeId) (s : State) :
    (make f).value s = (f s.types).2 := rfl

@[simp] theorem after_make (f : Arena → Arena × TypeId) (s : State) :
    (make f).after s = { s with types := (f s.types).1 } := rfl

@[simp] theorem after_labelOf (id : TypeId) (s : State) : (labelOf id).after s = s := rfl

@[simp] theorem value_lookup (name : String) (s : State) :
    (lookup name).value s
      = (s.table.lookupId? name).bind fun id => (s.table.symbol? id).map (id, ·) := rfl

@[simp] theorem after_lookup (name : String) (s : State) : (lookup name).after s = s := rfl

@[simp] theorem after_update (id : Nat) (f : Symbol → Symbol) (s : State) :
    (update id f).after s = { s with table := s.table.updateSymbol id f } := rfl

@[simp] theorem after_enter (kind : ScopeKind) (span : Span) (s : State) :
    (enter kind span).after s = { s with
      table := (s.table.enter kind span).1
      opened := (s.table.enter kind span).2 :: s.opened } := rfl

theorem after_define_ok {name : String} {sym : Symbol} {s : State} {table : Table} {id : Nat}
    (h : s.table.define name sym = .ok (table, id)) (what : String) :
    (define name sym what).after s = { s with table } := by
  rw [define, after_bind, value_get, after_get, h]
  rfl

theorem after_define_error {name : String} {sym : Symbol} {s : State} {d : Duplicate}
    (h : s.table.define name sym = .error d) (what : String) :
    (define name sym what).after s = (reportDuplicate what name sym.span d.span).after s := by
  rw [define, after_bind, value_get, after_get, h]

theorem after_leave_ok {s : State} {id : Nat} {opened : List Nat} {table : Table}
    (ho : s.opened = id :: opened) (h : s.table.exit id = .ok table) :
    leave.after s = { s with table, opened } := by
  rw [leave, after_modify, ho]
  dsimp only
  rw [h]

/-- **Leaving a scope** forgets it, and changes the scopes that are open or writes down why it could
not. -/
theorem leave_cases (s : State) :
    (∃ id opened table, s.opened = id :: opened ∧ s.table.exit id = .ok table ∧
      leave.after s = { s with table, opened }) ∨
      ∃ e, leave.after s = { s with opened := s.opened.tail, fault := some e } := by
  rw [leave, after_modify]
  cases ho : s.opened with
  | nil => exact .inr ⟨.nothingOpened, rfl⟩
  | cons id opened =>
    dsimp only
    cases h : s.table.exit id with
    | ok table => exact .inl ⟨id, opened, table, rfl, h, rfl⟩
    | error m => exact .inr ⟨.mismatch m, rfl⟩

theorem value_within (kind : ScopeKind) (span : Span) (step : Walk α) (s : State) :
    (within kind span step).value s = step.value ((enter kind span).after s) := rfl

theorem after_within (kind : ScopeKind) (span : Span) (step : Walk α) (s : State) :
    (within kind span step).after s =
      leave.after (step.after ((enter kind span).after s)) := rfl

/-! ## Walks that do the same -/

/-- Steps that do the same, and go on alike from where they come to, do the same together. -/
theorem run_bind_congr {x y : Walk α} {f g : α → Walk β} {s : State} (h : x.run s = y.run s)
    (hf : (f (x.value s)).run (x.after s) = (g (x.value s)).run (x.after s)) :
    (x >>= f).run s = (y >>= g).run s := by
  have hy : (y >>= g).run s = (g (y.run s).1).run (y.run s).2 := rfl
  rw [hy, ← h]
  exact hf

theorem run_within_congr (kind : ScopeKind) (span : Span) {x y : Walk α} {s : State}
    (h : x.run ((enter kind span).after s) = y.run ((enter kind span).after s)) :
    (within kind span x).run s = (within kind span y).run s :=
  run_bind_congr rfl (run_bind_congr h rfl)

/-! ## Relations kept by a walk -/

/-- **A relation between the states before and after**, which composes. -/
class Course (R : State → State → Prop) : Prop where
  refl : ∀ s, R s s
  trans : ∀ {s t u}, R s t → R t u → R s u

/-- **A step keeps a relation**: wherever it starts, it ends in a related state. -/
def Keeps (R : State → State → Prop) (x : Walk α) : Prop := ∀ s, R s (x.after s)

namespace Keeps

variable {R : State → State → Prop}

theorem mono {R' : State → State → Prop} {x : Walk α} (hx : Keeps R' x)
    (h : ∀ s t, R' s t → R s t) : Keeps R x := fun s => h _ _ (hx s)

theorem ite {c : Prop} [Decidable c] {x y : Walk α} (hx : Keeps R x) (hy : Keeps R y) :
    Keeps R (if c then x else y) := by split <;> assumption

variable [Course R]

theorem of_after_eq {x : Walk α} (h : ∀ s, x.after s = s) : Keeps R x :=
  fun s => by rw [h s]; exact Course.refl s

theorem pure (a : α) : Keeps R (Pure.pure a : Walk α) := of_after_eq fun _ => rfl

theorem bind {x : Walk α} {f : α → Walk β} (hx : Keeps R x) (hf : ∀ a, Keeps R (f a)) :
    Keeps R (x >>= f) :=
  fun s => Course.trans (hx s) (hf _ _)

/-- A step that only looks at the state changes nothing for what follows it. -/
theorem look {x : Walk α} {f : α → Walk β} (hx : ∀ s, x.after s = s) (hf : ∀ a, Keeps R (f a)) :
    Keeps R (x >>= f) := bind (of_after_eq hx) hf

/-- A report that is made or not, and what follows it either way. -/
theorem guard {c : Prop} [Decidable c] {x : Walk α} {y : Walk β} {f : α → Walk β}
    (hy : Keeps R y) (hx : Keeps R x) (hf : ∀ a, Keeps R (f a)) :
    Keeps R (if c then y else x >>= f) := ite hy (bind hx hf)

end Keeps

end Walk

end CoreCheck.Check

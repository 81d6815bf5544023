import CoreCheck.Proofs.Records.Named
import CoreCheck.Proofs.Taint.Lattice
import CoreCheck.Proofs.Types.Exposed

/-!
# Proofs/Walk/Operands — the operands of an operator may be swapped

Every rule asks the same of both operands, so the same rule is found either way.  The result has the
type of the left operand; a rule with such a result takes operands of one builtin kind only, and a
builtin kind has one number (`unwrap_eq_of_takes`).
-/

namespace CoreCheck.Types

/-- What all rules have in common: they ask the same of both operands, and where the result is an
operand, both are of one kind and come from a family of their own. -/
def BinaryRule.IsEven (r : BinaryRule) : Prop :=
  r.left = r.right ∧
    (r.outcome = .operand → r.agreement = .sameKind ∧ Family.any.fits r.left = false)

instance (r : BinaryRule) : Decidable r.IsEven := inferInstanceAs (Decidable (_ ∧ (_ → _ ∧ _)))

theorem isEven_of_mem {op : String} : ∀ r ∈ binaryRules op, r.IsEven := by
  unfold binaryRules
  split <;> decide

/-- A builtin shape is settled by its kind. -/
theorem Shape.eq_of_kind_eq {s t : Shape} (hs : s.kind.isPrimitive = true) (h : s.kind = t.kind) :
    s = t := by
  cases s with
  | int | long | double | text | bool | unit | null => cases t <;> first | rfl | exact nomatch h
  | _ => exact nomatch hs

theorem Arena.isPrimitive_of_family {a : Arena} {id : TypeId} (h : a.family id ≠ .any) :
    (a.kindOf id).isPrimitive = true := by
  rw [Arena.family] at h
  cases hk : a.kindOf id with
  | int | long | double | text | bool | unit | null => rfl
  | _ => exact absurd (by rw [hk]) h

/-- **A builtin kind has one number.** -/
theorem Arena.Sound.unwrap_eq_of_kindOf {a : Arena} (ha : a.Sound) {i j : TypeId}
    (hi : (a.kindOf i).isPrimitive = true) (h : a.kindOf i = a.kindOf j) :
    a.unwrap i = a.unwrap j := by
  have hfound : ∀ {k}, (a.kindOf k).isPrimitive = true →
      ∃ s, a.lookup (a.unwrap k) = some s ∧ s.kind = a.kindOf k := by
    intro k hk
    rw [Arena.kindOf] at hk ⊢
    cases hs : a.lookup (a.unwrap k) with
    | none => simp [hs, Kind.isPrimitive] at hk
    | some s => exact ⟨s, rfl, rfl⟩
  obtain ⟨s, hs, hsk⟩ := hfound hi
  obtain ⟨t, ht, htk⟩ := hfound (h ▸ hi)
  obtain rfl : s = t := Shape.eq_of_kind_eq (hsk ▸ hi) (hsk.trans (h.trans htk.symm))
  exact ha.once hs ht

end CoreCheck.Types

namespace CoreCheck.Check

open CoreCheck.Types CoreCheck.Ir

/-! ## The rule that is found -/

section Rules

variable {a : Arena} {i j : TypeId} {op : String}

theorem takes_comm {r : BinaryRule} (hr : r.IsEven) : takes a r i j = takes a r j i := by
  rw [takes, takes, hr.1, Bool.and_comm ((a.family i).fits r.right)]
  cases r.agreement with
  | sameKind => rw [Bool.beq_comm]
  | compatible => rw [Bool.or_comm]
  | shortCircuit => rfl

/-- **The same rule is found for the operands in either order.** -/
theorem find?_takes_comm (a : Arena) (op : String) (i j : TypeId) :
    (binaryRules op).find? (takes a · i j) = (binaryRules op).find? (takes a · j i) := by
  rw [← List.head?_filter, ← List.head?_filter,
    List.filter_congr fun r hr => takes_comm (isEven_of_mem r hr)]

/-- **Where the result is an operand, both operands have one type** under their marks. -/
theorem unwrap_eq_of_takes (ha : a.Sound) {r : BinaryRule} (hr : r ∈ binaryRules op)
    (hresult : r.outcome = .operand) (htakes : takes a r i j = true) : a.unwrap i = a.unwrap j := by
  obtain ⟨-, hsame⟩ := isEven_of_mem r hr
  obtain ⟨hagreement, hany⟩ := hsame hresult
  rw [takes, hagreement, Bool.and_eq_true, Bool.and_eq_true, beq_iff_eq] at htakes
  obtain ⟨⟨hfits, -⟩, hkind⟩ := htakes
  refine ha.unwrap_eq_of_kindOf (Arena.isPrimitive_of_family fun hfamily => ?_) hkind
  rw [hfamily, hany] at hfits
  exact absurd hfits Bool.false_ne_true

end Rules

/-! ## What is reported -/

/-- Whether an operator is applied to operands of two types without a report. -/
def applies (a : Arena) (op : String) (i j : TypeId) : Bool :=
  !(binaryRules op).isEmpty &&
    (isOpaque a i || isOpaque a j || ((binaryRules op).find? (takes a · i j)).isSome)

theorem applies_comm (a : Arena) (op : String) (i j : TypeId) :
    applies a op i j = applies a op j i := by
  rw [applies, applies, find?_takes_comm, Bool.or_comm (isOpaque a i)]

/-- **The operands are refused**: a report says that the operator does not take them. -/
def Refused (x : Walk Value) (s : State) : Prop :=
  ∃ d, .problem d ∈ x.notes s ∧ d.code = .invalidOperands

/-- A step that is one report writes just that down. -/
theorem exists_notes {α : Type} {x : Walk α} {s : State} {P : Diagnostic → Prop}
    (h : ∃ d, x.after s = (Walk.report d).after s ∧ P d) : ∃ d, x.notes s = [.problem d] ∧ P d := by
  obtain ⟨d, hafter, hd⟩ := h
  exact ⟨d, notes_of_logGrows (by rw [hafter]; simp [LogGrows, Walk.report]), hd⟩

/-- Nothing is written down but one report, and only where the operator does not apply. -/
theorem notes_binary (span : Span) (op : String) (l r : Value) (s : State) :
    (applies s.types op l.type r.type = true ∧ (checkBinary span op l r).notes s = []) ∨
      (applies s.types op l.type r.type = false ∧
        ∃ d, (checkBinary span op l r).notes s = [.problem d] ∧ d.code = .invalidOperands) := by
  unfold applies checkBinary
  generalize binaryRules op = rules
  cases rules with
  | nil => exact .inr ⟨rfl, exists_notes ⟨_, rfl, rfl⟩⟩
  | cons first more =>
    have hafter : ∀ f : Arena → Walk Value, (Walk.types >>= f).after s = (f s.types).after s :=
      fun _ => rfl
    cases hfree : isOpaque s.types l.type || isOpaque s.types r.type with
    | true =>
      refine .inl ⟨by simp, notes_of_after_eq ?_⟩
      rw [hafter, if_pos hfree]
      rfl
    | false =>
      cases hfind : (first :: more).find? (takes s.types · l.type r.type) with
      | some rule =>
        refine .inl ⟨by simp, notes_of_after_eq ?_⟩
        rw [hafter, if_neg (by simp [hfree]), hfind]
        rfl
      | none =>
        refine .inr ⟨by simp, exists_notes ?_⟩
        rw [hafter, if_neg (by simp [hfree]), hfind]
        exact ⟨_, rfl, rfl⟩

/-- **Operands are refused exactly where the operator does not apply to their types.** -/
theorem invalidOperands_iff (span : Span) (op : String) (l r : Value) (s : State) :
    Refused (checkBinary span op l r) s ↔ applies s.types op l.type r.type = false := by
  rw [Refused]
  obtain ⟨happlies, hnotes⟩ | ⟨happlies, d, hnotes, hcode⟩ := notes_binary span op l r s
  · simp [hnotes, happlies]
  · simp [hnotes, happlies, hcode]

/-! ## Swapping -/

/-- **The operands of an operator may be swapped**: they are refused either way or neither way, and
the result has the same type and the same taint. -/
structure Swappable (s : State) (span : Span) (op : String) (l r : Value) : Prop where
  refused : Refused (checkBinary span op l r) s ↔ Refused (checkBinary span op r l) s
  type : ((checkBinary span op l r).value s).type = ((checkBinary span op r l).value s).type
  taint : ((checkBinary span op l r).value s).taint = ((checkBinary span op r l).value s).taint

theorem type_binary_comm {s : State} (hs : s.types.Sound) (span : Span) (op : String)
    (l r : Value) :
    ((checkBinary span op l r).value s).type = ((checkBinary span op r l).value s).type := by
  have hfound := find?_takes_comm s.types op l.type r.type
  have hmem : ∀ rule ∈ binaryRules op, rule.outcome = .operand →
      takes s.types rule l.type r.type = true → s.types.unwrap l.type = s.types.unwrap r.type :=
    fun rule hrule => unwrap_eq_of_takes hs hrule
  rw [value_binary, value_binary]
  dsimp only
  generalize binaryRules op = rules at hfound hmem
  cases rules with
  | nil => rfl
  | cons first more =>
    dsimp only
    rw [Bool.or_comm (isOpaque s.types r.type), ← hfound]
    split
    · rfl
    · cases hfind : (first :: more).find? (takes s.types · l.type r.type) with
      | none => rfl
      | some rule =>
        dsimp only
        split
        · rfl
        · next hbool =>
          have hresult : rule.outcome = .operand := by
            cases ho : rule.outcome with
            | operand => rfl
            | bool => exact absurd ho hbool
          exact hmem rule (List.mem_of_find?_eq_some hfind) hresult
            (List.find?_some (p := (takes s.types · l.type r.type)) hfind)

theorem swappable {s : State} (hs : s.types.Sound) (span : Span) (op : String) (l r : Value) :
    Swappable s span op l r where
  refused := by rw [invalidOperands_iff, invalidOperands_iff, applies_comm]
  type := type_binary_comm hs span op l r
  taint := by rw [value_binary, value_binary, Taint.merge_comm]

/-- The state in which an operator finds its operands, and the operands. -/
def operandsOf (e f : Expr) (s : State) : State × Value × Value :=
  let (l, s) := (checkExpr e).run s
  let (r, s) := (checkExpr f).run s
  (s, l, r)

/-- **The operands of every operator may be swapped**, whatever their types and their taints: over
any arena in use, and where the body of a function is walked. -/
theorem operands_swappable :
    (∀ (pool : Strings) (d : Issued), (Issued.start pool).Used d → ∀ s : State, s.types = d.arena →
      ∀ span op l r, Swappable s span op l r) ∧
    ∀ (m : Module), ∀ b ∈ (survey m).bodies, ∀ span op e f s,
      b.Meets m (.expr (.binary span op e f), s) →
        let (t, l, r) := operandsOf e f s
        (checkExpr (.binary span op e f)).run s = (checkBinary span op l r).run t ∧
          ∀ l r, Swappable t span op l r := by
  constructor
  · intro pool d hd s hs span op l r
    obtain ⟨h, -, -⟩ := (Issued.ordered_start pool).run Issued.Ordered.use hd
    exact swappable (hs ▸ h.sound) span op l r
  · intro m b hb span op e f s hmeets
    refine ⟨by rw [checkExpr]; rfl, fun l r => swappable ?_ span op l r⟩
    exact (paired_expr (paired_expr (hmeets.grounded hb).paired e) f).left.types

/-- A number with a mark, and numbers of two kinds. -/
def marksNumber : Issued := (Issued.start {}).serve (.pii int .l3 "pin")

/-- The sum of a number and a longer one. -/
def sumsMixed : Expr := .binary {} "+" (.literal {} (.int 1)) (.literal {} (.long 2))

/-- **A sum with a marked number is a number without a mark, and as sensitive, either way; numbers of
two kinds are refused either way.** -/
theorem operands_swappable_marksNumber :
    let s : State := { types := marksNumber.arena }
    let l : Value := ⟨9, some (.make .l3 ["pin"])⟩
    let r : Value := ⟨int, none⟩
    (((checkBinary {} "+" l r).value s).type = int ∧ Swappable s {} "+" l r) ∧
    ∃ b ∈ (survey (moduleOf [.func (evaluates sumsMixed)])).bodies,
      Refused (checkBinary {} "+" ⟨int, none⟩ ⟨long, none⟩)
        (evaluatesIn (moduleOf [.func (evaluates sumsMixed)]) b) ∧
      Swappable (evaluatesIn (moduleOf [.func (evaluates sumsMixed)]) b) {} "+" ⟨int, none⟩
        ⟨long, none⟩ := by
  obtain ⟨hused, hwalked⟩ := operands_swappable
  refine ⟨⟨by decide +kernel, hused {} marksNumber (.single (.step (.serve _ ?_))) _ rfl _ _ _ _⟩,
    ?_⟩
  · decide +kernel
  · obtain ⟨b, hb, happlies⟩ : ∃ b ∈ (survey (moduleOf [.func (evaluates sumsMixed)])).bodies,
        applies (evaluatesIn (moduleOf [.func (evaluates sumsMixed)]) b).types "+" int long = false := by
      decide +kernel
    have hmeets := meets_evaluates hb fun f hf => by simpa [moduleOf] using hf
    exact ⟨b, hb, (invalidOperands_iff _ _ _ _ _).2 happlies,
      (hwalked _ b hb _ _ _ _ _ hmeets).2 ⟨int, none⟩ ⟨long, none⟩⟩

end CoreCheck.Check

import CoreCheck.Proofs.Mirror.Expressions
import CoreCheck.Proofs.Walk.Bindings
import CoreCheck.Proofs.Walk.Declared

/-!
# Proofs/Mirror/Statements — bodies are walked alike

Written types, patterns and statements from alike states: the same observations, and alike states
afterwards.  So the walk over a body writes down the same whatever numbers the state it starts from
has given to types and names.
-/

namespace CoreCheck.Check

open CoreCheck.Types CoreCheck.Scope CoreCheck.Ir

variable {d p c p' c' : State}

/-! ## Written types -/

/-- Walks from alike states stay alike over written types. -/
theorem coupling_mirrored : Coupling d (Alike d) (Mirrored d) where
  paired h := h.paired
  stop h := h.stop
  same h := h.same
  refl := .refl
  trans := .trans
  made h hm := (Mirror.make (f := fun _ => _) (g := fun _ => _) h hm).1
  unnamed h _ _ := (Mirror.report h _).1

/-- **Written types are resolved alike.** -/
theorem mirror_resolveType (vars : List String) (t : TypeExpr) (fallback : Span) (h : Alike d p c) :
    Mirror d p c (resolveType tableResolver vars fallback t)
      (resolveType tableResolver vars fallback t) Types :=
  coupling_mirrored.resolveType vars t fallback h

/-! ## Patterns -/

/-- The variant that a name stands for is looked up. -/
theorem Mirror.variantType {γ δ : Type} (h : Alike d p c) (name : String)
    {f : Option TypeId → Walk γ} {g : Option TypeId → Walk δ} {R : Arena → Arena → γ → δ → Prop}
    (hnone : Mirror d p c (f none) (g none) R)
    (hsome : ∀ {i j}, Arena.Same p.types i c.types j → Mirror d p c (f (some i)) (g (some j)) R) :
    Mirror d p c (variantType? name >>= f) (variantType? name >>= g) R := by
  rw [Mirror, Walk.after_bind, Walk.value_bind, Walk.after_bind, Walk.value_bind,
    after_variantType, after_variantType, value_variantType, value_variantType]
  obtain ⟨hp, hc⟩ | ⟨i, s, j, t, hp, -, hc, -, hs⟩ := h.lookup name
  · rw [hp, hc]
    exact hnone
  · rw [hp, hc]
    dsimp only
    rw [hs.kind_eq]
    split
    · exact hsome hs.type
    · exact hnone

section

variable {i j : TypeId}

theorem mirror_catchAll (h : Alike d p c) (hs : Arena.Same p.types i c.types j) (pat : Pattern) :
    Mirror d p c (isCatchAll i pat) (isCatchAll j pat) Equally := by
  have ha := h.left.types
  have hb := h.right.types
  cases pat with
  | name at_ name =>
    unfold isCatchAll
    refine .types (.ite (by rw [hasVariant_eq h.paired hs]) (fun _ => .pure h rfl) fun _ => ?_)
    refine .variantType h name (.pure h rfl) fun {t t'} ht => .pure h ?_
    have hiff := ht.eq_iff ha hb (hs.unwrap ha hb)
    simp only [Equally, bne, beq_eq_decide, hiff]
  | _ => exact .pure h rfl

theorem mirror_wrappedType (h : Alike d p c) (hs : Arena.Same p.types i c.types j) (kind : Wrap)
    (span : Span) : Mirror d p c (wrappedType kind span i) (wrappedType kind span j) Types := by
  have ha := h.left.types
  have hb := h.right.types
  have hmisfit : ∀ label : String, Mirror d p c (do
      Walk.error .typeMismatch span (kind.label ++ " pattern cannot match a value of type " ++ label)
      return unknown : Walk TypeId) (do
      Walk.error .typeMismatch span (kind.label ++ " pattern cannot match a value of type " ++ label)
      return unknown : Walk TypeId) Types := fun label =>
    .andThen (.error h _ _ _) fun _ hm => .pure hm.stop (hm.stop.paired.same_builtin (by decide))
  rw [wrappedType_eq, wrappedType_eq]
  refine .types (.ite (by rw [isOpaque_eq ha hb hs])
    (fun _ => .pure h (h.paired.same_builtin (by decide))) fun _ => ?_)
  have hpart := wrapPart_rel ha hb (hs.unwrap ha hb) kind
  generalize wrapPart? kind (p.types.lookup (p.types.unwrap i)) = x at hpart ⊢
  generalize wrapPart? kind (c.types.lookup (c.types.unwrap j)) = y at hpart ⊢
  cases hpart with
  | none => exact Mirror.label h hs hmisfit
  | some hsame => exact .pure h hsame

theorem mirror_bindName (h : Alike d p c) (hs : Arena.Same p.types i c.types j) (span : Span)
    (taint : Option Taint) (name : String) :
    Mirror d p c (bindName span i taint name) (bindName span j taint name) Equally := by
  have ha := h.left.types
  have hb := h.right.types
  unfold bindName
  refine .types (.ite (by rw [hasVariant_eq h.paired hs]) (fun _ => .pure h rfl) fun _ => ?_)
  refine .variantType h name ?_ fun {t t'} ht => ?_
  · exact .andThen (.define h name (.plain (v := ⟨i, taint⟩) (w := ⟨j, taint⟩) .binding (by decide)
      span {} ⟨hs, rfl⟩) "binding") fun _ hm => .pure hm.stop rfl
  · refine .ite ?_ (fun _ => .pure h rfl) fun _ => ?_
    · rw [isOpaque_eq ha hb hs, (hs.unwrap ha hb).compatible_eq ha hb ht]
    · exact .labels h ht hs fun _ _ => .andThen (.error h _ _ _) fun _ hm => .pure hm.stop rfl

/-- What a record pattern takes apart is the same on both sides, and made of declared types. -/
def TakenAlike (d : State) : Arena → Arena → Taken → Taken → Prop := fun _ _ x y =>
  x = y ∧ ∀ id info, x = .data id info →
    id ≤ d.types.size ∧ ∀ f ∈ info.fields, f.type ≤ d.types.size

theorem mirror_takenBy (h : Alike d p c) (hs : Arena.Same p.types i c.types j) (span : Span)
    (name : String) (count : Nat) :
    Mirror d p c (takenBy span i name count) (takenBy span j name count) (TakenAlike d) := by
  have ha := h.left.types
  have hb := h.right.types
  have hunclear : TakenAlike d p.types c.types .unclear .unclear :=
    ⟨rfl, fun _ _ he => nomatch he⟩
  unfold takenBy
  refine .types (.get ?_)
  rw [h.left.aliases, h.right.aliases]
  cases hr : d.aliases.resolve? name with
  | none =>
    refine .ite (by rw [hasVariant_eq h.paired hs])
      (fun _ => .pure h ⟨rfl, fun _ _ he => nomatch he⟩) fun _ => ?_
    exact .andThen (.report h _) fun _ hm => .pure hm.stop hunclear
  | some id =>
    have hid := h.ground.aliases hr
    have hsame := h.paired.same_declared hid
    dsimp only
    rw [← hsame.dataInfo_eq ha hb h.paired.datas_eq]
    cases hi : p.types.dataInfo? id with
    | none =>
      exact .label h hsame fun _ => .andThen (.error h _ _ _) fun _ hm => .pure hm.stop hunclear
    | some info =>
      have htaken : TakenAlike d p.types c.types (.data id info) (.data id info) := by
        refine ⟨rfl, ?_⟩
        rintro _ _ ⟨⟩
        exact ⟨hid, fun f hf => h.paired.field_le hi hf⟩
      have hrest : ∀ {p' c' : State}, Mirrored d p c p' c' → Mirror d p' c' (do
          if info.fields.length < count then
            Walk.report <| ((Diagnostic.error .arityMismatch span
              ("pattern for " ++ info.name ++ s!" has {info.fields.length} fields, got {count}"))
              |>.withData "expected" (.int info.fields.length)).withData "actual" (.int count)
          return .data id info : Walk Taken) (do
          if info.fields.length < count then
            Walk.report <| ((Diagnostic.error .arityMismatch span
              ("pattern for " ++ info.name ++ s!" has {info.fields.length} fields, got {count}"))
              |>.withData "expected" (.int info.fields.length)).withData "actual" (.int count)
          return .data id info : Walk Taken) (TakenAlike d) := fun hm =>
        .ite Iff.rfl (fun _ => .andThen (.report hm.stop _) fun _ hm' => .pure hm'.stop htaken)
          fun _ => .pure hm.stop htaken
      dsimp only
      refine .ite ?_ (fun _ => hrest (.refl h)) fun _ => ?_
      · rw [isOpaque_eq ha hb hs, (hs.unwrap ha hb).compatible_eq ha hb hsame]
      · exact .label h hs fun _ => .andThen (.error h _ _ _) fun _ hm => hrest hm

end

mutual

/-- **Patterns bind alike.** -/
theorem mirror_pattern (outer : Span) : ∀ (pat : Pattern) {p c : State}, Alike d p c →
    ∀ {i j : TypeId}, Arena.Same p.types i c.types j → ∀ taint : Option Taint,
    Mirror d p c (bindPattern outer i taint pat) (bindPattern outer j taint pat) Equally
  | .wildcard _, p, c, h, i, j, hs, taint => by
    rw [bindPattern, bindPattern]
    exact .pure h rfl
  | .name at_ name, p, c, h, i, j, hs, taint => by
    rw [bindPattern, bindPattern]
    exact mirror_bindName h hs _ taint name
  | .literal at_ value, p, c, h, i, j, hs, taint => by
    rw [bindPattern, bindPattern]
    refine .bind (mirror_expr value h) fun hm hv => .types ?_
    have ha := hm.stop.left.types
    have hb := hm.stop.right.types
    have hs := hm.same hs
    refine .ite ?_ (fun _ => .pure hm.stop rfl) fun _ => ?_
    · rw [isOpaque_eq ha hb hs, hs.compatible_eq ha hb hv.type]
    · exact .labels hm.stop hv.type hs fun _ _ => .andThen (.error hm.stop _ _ _) fun _ hm' =>
        .pure hm'.stop rfl
  | .none at_, p, c, h, i, j, hs, taint => by
    rw [bindPattern, bindPattern]
    refine .types (.ite ?_ (fun _ => .pure h rfl) fun _ => ?_)
    · rw [isOpaque_eq h.left.types h.right.types hs, hs.kindOf_eq h.left.types h.right.types]
    · exact .label h hs fun _ => .andThen (.error h _ _ _) fun _ hm => .pure hm.stop rfl
  | .wrap at_ kind inner, p, c, h, i, j, hs, taint => by
    rw [bindPattern, bindPattern]
    refine .bind (mirror_wrappedType h hs kind _) fun hm hpart => ?_
    refine .andThen (mirror_pattern _ inner hm.stop hpart taint) fun _ hm' => ?_
    exact .andThen (mirror_catchAll hm'.stop (hm'.same hpart) inner) fun _ hm'' =>
      .pure hm''.stop rfl
  | .ctor at_ name args, p, c, h, i, j, hs, taint => by
    rw [bindPattern, bindPattern]
    refine .bind (mirror_takenBy h hs _ name args.length) fun {p₁ c₁ x y} hm htaken => ?_
    obtain ⟨rfl, hle⟩ := htaken
    cases x with
    | variant => exact .pure hm.stop rfl
    | unclear =>
      exact .andThen (mirror_args _ taint [] args (fun _ hf => nomatch hf) hm.stop) fun _ hm' =>
        .pure hm'.stop rfl
    | data id info =>
      obtain ⟨hid, hfields⟩ := hle id info rfl
      refine .andThen (mirror_args _ taint info.fields args hfields hm.stop) fun all hm' =>
        .types (.pure hm'.stop ?_)
      have ha := hm'.stop.left.types
      have hb := hm'.stop.right.types
      have hs := (hm.trans hm').same hs
      rw [Equally, isOpaque_eq ha hb hs,
        (hs.unwrap ha hb).compatible_eq ha hb (hm'.stop.paired.same_declared hid)]

theorem mirror_args (outer : Span) (taint : Option Taint) (fields : List Field) :
    ∀ (ps : List Pattern), (∀ f ∈ fields, f.type ≤ d.types.size) → ∀ {p c : State}, Alike d p c →
    Mirror d p c (bindArgs outer taint fields ps) (bindArgs outer taint fields ps) Equally
  | [], _, p, c, h => by
    rw [bindArgs]
    exact .pure h rfl
  | pat :: ps, hfields, p, c, h => by
    rw [bindArgs]
    have hs : Arena.Same p.types ((fields.head?.map Field.type).getD unknown) c.types
        ((fields.head?.map Field.type).getD unknown) := by
      cases fields with
      | nil => exact h.paired.same_builtin (show unknown ≤ 8 by decide)
      | cons f fs => exact h.paired.same_declared (hfields f (.head _))
    refine .types ?_
    rw [h.taintOf_eq hs]
    refine .andThen (mirror_pattern outer pat h hs _) fun _ hm => ?_
    refine .andThen (mirror_catchAll hm.stop (hm.same hs) pat) fun _ hm' => ?_
    exact .andThen (mirror_args outer taint fields.tail ps
      (fun f hf => hfields f (List.mem_of_mem_tail hf)) hm'.stop) fun _ hm'' => .pure hm''.stop rfl

end

/-! ## Small steps of statements -/

section

variable {v w : Value}

theorem mirror_bindingOf (h : Alike d p c) (hv : v.Alike p.types c.types w) (fn : Enclosing)
    (span : Span) (name : String) (written : Option TypeExpr) :
    Mirror d p c (bindingOf fn span name written v) (bindingOf fn span name written w)
      Value.Alike := by
  cases written with
  | some t =>
    unfold bindingOf
    refine .bind (mirror_resolveType fn.typeParams t fn.span h) fun hm hs => .types ?_
    have hv := hm.value hv
    rw [hv.taint, hm.stop.taintOf_eq hs]
    refine .ite ?_ (fun _ => .pure hm.stop ⟨hs, rfl⟩) fun _ => ?_
    · rw [Arena.Same.compatible_eq hm.stop.left.types hm.stop.right.types hs hv.type]
    · exact .labels hm.stop hv.type hs fun _ _ => .andThen (.report hm.stop _) fun _ hm' =>
        .pure hm'.stop ⟨hm'.same hs, rfl⟩
  | none =>
    unfold bindingOf
    have hu : Arena.Same p.types unknown c.types unknown := h.paired.same_builtin (by decide)
    refine .types (.ite (by rw [hv.type.kindOf_eq h.left.types h.right.types]) (fun _ => ?_)
      fun _ => .pure h hv)
    exact .bind (.make h (hu.optional h.left.types h.right.types)) fun hm hs =>
      .pure hm.stop ⟨hs, hv.taint⟩

/-- What is found under a name is assigned to. -/
theorem mirror_store (h : Alike d p c) (hv : v.Alike p.types c.types w) {name : String} {i j : Nat}
    (hi : p.table.lookupId? name = some i) (hj : c.table.lookupId? name = some j) :
    Mirror d p c (Walk.update i fun sym => { sym with taint := Taint.merge sym.taint v.taint })
      (Walk.update j fun sym => { sym with taint := Taint.merge sym.taint w.taint }) Equally := by
  refine .update h hi hj (fun _ => ⟨rfl, rfl⟩) (fun _ => ⟨rfl, rfl⟩) fun {s t} hs => ?_
  refine ⟨⟨hs.kind_eq, hs.mutable_eq, hs.signature_eq, hs.known, hs.variant, hs.type, ?_⟩,
    hs.span_eq, by rw [hs.taint_eq, hv.taint]⟩
  rw [hs.taint_eq, hv.taint]
  exact .refl _

theorem mirror_assign (h : Alike d p c) (hv : v.Alike p.types c.types w) (span at_ : Span)
    (name : String) : Mirror d p c (assign span at_ name v) (assign span at_ name w) Equally := by
  unfold assign
  refine .lookup h name (.report h _) fun {i s j t} hi hj hs => ?_
  dsimp only
  refine .ite (by rw [hs.mutable_eq, hs.kind_eq]) (fun _ => ?_) fun _ => .types (.ite ?_
    (fun _ => mirror_store h hv hi hj) fun _ => ?_)
  · rw [hs.kind_eq]
    exact .error h _ _ _
  · rw [hs.type.compatible_eq h.left.types h.right.types hv.type]
  · refine .labels h hv.type hs.type fun l r => ?_
    obtain ⟨hm, he⟩ : Mirror d p c (reportMisfit .typeMismatch at_
        ("cannot assign a value of type " ++ l ++ " to " ++ Text.quote name ++ " of type " ++ r) r l)
      (reportMisfit .typeMismatch at_
        ("cannot assign a value of type " ++ l ++ " to " ++ Text.quote name ++ " of type " ++ r) r l)
      Equally := .report h _
    have hstore := mirror_store hm.stop (hm.value hv) (i := i) (j := j) hi hj
    exact ⟨hm.trans hstore.1, rfl⟩

end

theorem mirror_bareReturn (h : Alike d p c) {fn : Enclosing} (hfn : fn.result ≤ d.types.size)
    (span : Span) : Mirror d p c (checkBareReturn fn span) (checkBareReturn fn span) Equally := by
  have hs := h.paired.same_declared hfn
  unfold checkBareReturn
  refine .types (.ite ?_ (fun _ => .pure h rfl) fun _ => .label h hs fun _ => .report h _)
  rw [hs.kindOf_eq h.left.types h.right.types, hs.isUnknown_eq h.left.types h.right.types]

theorem mirror_return (h : Alike d p c) {fn : Enclosing} (hfn : fn.result ≤ d.types.size)
    (span : Span) {v w : Value} (hv : v.Alike p.types c.types w) :
    Mirror d p c (checkReturn fn span v) (checkReturn fn span w) Equally := by
  have ha := h.left.types
  have hb := h.right.types
  have hs := h.paired.same_declared hfn
  unfold checkReturn
  refine .types (.ite ?_ (fun _ => .label h hv.type fun _ => .report h _) fun _ => .ite ?_
    (fun _ => .pure h rfl) fun _ => .labels h hs hv.type fun _ _ => .report h _)
  · rw [hs.kindOf_eq ha hb, hv.type.kindOf_eq ha hb, hv.type.isUnknown_eq ha hb]
  · rw [hs.compatible_eq ha hb hv.type]

theorem mirror_condition (h : Alike d p c) (span : Span) {v w : Value}
    (hv : v.Alike p.types c.types w) :
    Mirror d p c (checkCondition span v) (checkCondition span w) Equally := by
  unfold checkCondition
  refine .types ?_
  rw [hv.type.kindOf_eq h.left.types h.right.types]
  have hno : Mirror d p c (do
      let label ← Walk.labelOf v.type
      Walk.error .nonBoolCondition span ("condition must be Bool, got " ++ label)) (do
      let label ← Walk.labelOf w.type
      Walk.error .nonBoolCondition span ("condition must be Bool, got " ++ label)) Equally :=
    .label h hv.type fun _ => .error h _ _ _
  cases c.types.kindOf w.type <;> first | exact .pure h rfl | exact hno

theorem mirror_awaitTasks (span : Span) : ∀ (names : List String) {p c : State}, Alike d p c →
    Mirror d p c (awaitTasks span names) (awaitTasks span names) Equally
  | [], p, c, h => .pure h rfl
  | name :: names, p, c, h => by
    rw [awaitTasks]
    refine .lookup h name (.andThen (.report h _) fun _ hm => mirror_awaitTasks span names hm.stop)
      fun {i s j t} hi hj hs => ?_
    dsimp only
    rw [hs.kind_eq]
    refine .ite Iff.rfl (fun _ => ?_) fun _ => .andThen (.error h _ _ _) fun _ hm =>
      mirror_awaitTasks span names hm.stop
    refine .andThen (.update h hi hj (fun _ => ⟨rfl, rfl⟩) (fun _ => ⟨rfl, rfl⟩) fun {s t} hs => ?_)
      fun _ hm => mirror_awaitTasks span names hm.stop
    exact ⟨⟨hs.kind_eq, hs.mutable_eq, hs.signature_eq, hs.known, hs.variant, hs.type, hs.taint⟩,
      hs.span_eq, hs.taint_eq⟩

/-! ## Statements -/

mutual

/-- **Statements are walked alike.** -/
theorem mirror_stmt {fn : Enclosing} (hfn : fn.result ≤ d.types.size) : ∀ (st : Stmt) {p c : State},
    Alike d p c → Mirror d p c (checkStmt fn st) (checkStmt fn st) Equally
  | .bind span name type value, p, c, h => by
    rw [checkStmt]
    refine .andThen (.observe h _) fun _ hm => .bind (mirror_expr value hm.stop) fun hm' hv => ?_
    refine .bind (mirror_bindingOf hm'.stop hv fn _ name type) fun hm'' hw => ?_
    exact .andThen (.define hm''.stop name (.plain .binding (by decide) span _ hw) "binding")
      fun _ hlast => .pure hlast.stop rfl
  | .set span name value, p, c, h => by
    rw [checkStmt]
    refine .andThen (.observe h _) fun _ hm => .bind (mirror_expr value hm.stop) fun hm' hv => ?_
    exact .andThen (mirror_assign hm'.stop hv span _ name) fun _ hlast => .pure hlast.stop rfl
  | .ret span none, p, c, h => by
    rw [checkStmt]
    exact .andThen (.observe h _) fun _ hm => .andThen (mirror_bareReturn hm.stop hfn span)
      fun _ hlast => .pure hlast.stop rfl
  | .ret span (some value), p, c, h => by
    rw [checkStmt]
    refine .andThen (.observe h _) fun _ hm => .bind (mirror_expr value hm.stop) fun hm' hv => ?_
    exact .andThen (mirror_return hm'.stop hfn _ hv) fun _ hlast => .pure hlast.stop rfl
  | .eval _ value, p, c, h => by
    rw [checkStmt]
    exact .bind (mirror_expr value h) fun hm _ => .pure hm.stop rfl
  | .branch span cond yes no, p, c, h => by
    rw [checkStmt]
    refine .andThen (.observe h _) fun _ hm => .bind (mirror_expr cond hm.stop) fun hm' hv => ?_
    refine .andThen (mirror_condition hm'.stop _ hv) fun _ hahead => ?_
    refine .andThen (.within hahead.stop _ _ (mirror_block hfn yes (hahead.stop.enter _ _)))
      fun _ hyes => ?_
    exact .andThen (mirror_else hfn span no hyes.stop) fun _ hlast => .pure hlast.stop rfl
  | .select span scrutinee cases, p, c, h => by
    rw [checkStmt]
    refine .andThen (.observe h _) fun _ hm => .bind (mirror_expr scrutinee hm.stop) fun hm' hv => ?_
    refine .andThen (mirror_cases hfn span cases hm'.stop hv) fun covered hlast =>
      .types (.pure hlast.stop ?_)
    have hs := (hlast.value hv).type
    have ha := hlast.stop.left.types
    have hb := hlast.stop.right.types
    rw [Equally, Coverage.exhaustive, Coverage.exhaustive, hs.kindOf_eq ha hb,
      (hs.unwrap ha hb).enumInfo_eq ha hb hlast.stop.paired.enums_eq]
  | .scope span body, p, c, h => by
    rw [checkStmt]
    exact .within h _ _ (mirror_block hfn body (h.enter _ _))
  | .start span name task, p, c, h => by
    rw [checkStmt]
    refine .andThen (.observe h _) fun _ hm => .bind (mirror_expr task hm.stop) fun hm' hv => ?_
    refine .andThen (.observe hm'.stop _) fun _ hm'' => ?_
    exact .andThen (.define hm''.stop name (.plain .task (by decide) span {} (hm''.value hv)) "task")
      fun _ hlast => .pure hlast.stop rfl
  | .wait span names, p, c, h => by
    rw [checkStmt]
    exact .andThen (.observe h _) fun _ hm => .andThen (.observe hm.stop _) fun _ hm' =>
      .andThen (mirror_awaitTasks span names hm'.stop) fun _ hlast => .pure hlast.stop rfl

theorem mirror_block {fn : Enclosing} (hfn : fn.result ≤ d.types.size) :
    ∀ (ss : List Stmt) {p c : State}, Alike d p c →
    Mirror d p c (checkBlock fn ss) (checkBlock fn ss) Equally
  | [], p, c, h => by
    rw [checkBlock]
    exact .pure h rfl
  | st :: ss, p, c, h => by
    rw [checkBlock]
    exact .andThen (mirror_stmt hfn st h) fun _ hm => .andThen (mirror_block hfn ss hm.stop)
      fun _ hlast => .pure hlast.stop rfl

theorem mirror_else {fn : Enclosing} (hfn : fn.result ≤ d.types.size) (span : Span) :
    ∀ (no : Option (List Stmt)) {p c : State}, Alike d p c →
    Mirror d p c (checkElse fn span no) (checkElse fn span no) Equally
  | none, p, c, h => by
    rw [checkElse]
    exact .pure h rfl
  | some body, p, c, h => by
    rw [checkElse]
    exact .within h _ _ (mirror_block hfn body (h.enter _ _))

theorem mirror_cases {fn : Enclosing} (hfn : fn.result ≤ d.types.size) (outer : Span) :
    ∀ (cs : List Case) {p c : State}, Alike d p c → ∀ {v w : Value}, v.Alike p.types c.types w →
    Mirror d p c (checkCases fn outer v cs) (checkCases fn outer w cs) Equally
  | [], p, c, h, v, w, hv => by
    rw [checkCases, checkCases]
    exact .pure h rfl
  | .mk span pattern body :: rest, p, c, h, v, w, hv => by
    rw [checkCases, checkCases, hv.taint]
    have hin := h.enter .matchArm (span.orElse outer)
    refine .andThen (.within h _ _ (.andThen (mirror_pattern _ pattern hin hv.type _) fun _ hm =>
      .andThen (mirror_block hfn body hm.stop) fun _ hm' => .pure hm'.stop rfl)) fun x hm => ?_
    exact .andThen (mirror_cases hfn outer rest hm.stop (hm.value hv)) fun y hlast =>
      .pure hlast.stop rfl

end

/-! ## Bodies -/

theorem mirror_defineParams : ∀ (ps : List Param), (∀ q ∈ ps, q.type ≤ d.types.size) →
    ∀ {p c : State}, Alike d p c → Mirror d p c (defineParams ps) (defineParams ps) Equally
  | [], _, p, c, h => .pure h rfl
  | q :: ps, hps, p, c, h => by
    rw [defineParams]
    have hs := h.paired.same_declared (hps q (.head _))
    refine .types (.andThen (.define h q.name ?_ "parameter") fun _ hm =>
      mirror_defineParams ps (fun x hx => hps x (.tail _ hx)) hm.stop)
    exact .plain (v := ⟨q.type, p.types.taintOf q.type⟩) (w := ⟨q.type, c.types.taintOf q.type⟩)
      .param (by decide) q.span {} ⟨hs, h.taintOf_eq hs⟩

/-- **A body is walked alike from alike states.** -/
theorem mirror_walkBody (h : Alike d p c) (f : Func) {sig : Signature}
    (hsig : Signature.Known d.types sig) :
    Mirror d p c (walkBody f sig) (walkBody f sig) Equally := by
  unfold walkBody
  refine .within h _ _ (.andThen (mirror_defineParams sig.params hsig.params (h.enter _ _))
    fun _ hm => .andThen (mirror_block hsig.result f.body hm.stop) fun closed hm' => .types ?_)
  have hs := hm'.stop.paired.same_declared hsig.result
  refine .ite ?_ (fun _ => .label hm'.stop hs fun _ => .report hm'.stop _)
    fun _ => .pure hm'.stop rfl
  rw [needsReturn, needsReturn, hs.kindOf_eq hm'.stop.left.types hm'.stop.right.types]

end CoreCheck.Check

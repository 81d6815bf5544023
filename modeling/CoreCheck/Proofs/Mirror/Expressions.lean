import CoreCheck.Proofs.Mirror.Alike
import CoreCheck.Proofs.Walk.Expressions

/-!
# Proofs/Mirror/Expressions — expressions are walked alike

From alike states an expression is walked with the same observations and answers alike values.  Every
decision on the way is made by the structure of types, by taints and by what names stand for, and
every message is made of labels and texts that are the same on both sides.
-/

namespace CoreCheck.Check

open CoreCheck.Types CoreCheck.Scope CoreCheck.Ir

variable {d p c p' c' : State}

/-! ## Operators, fields and wraps -/

/-- A value of a builtin type. -/
theorem Alike.builtin (h : Alike d p c) {id : TypeId} (hid : id ≤ 8) (taint : Option Taint) :
    Value.Alike p.types c.types ⟨id, taint⟩ ⟨id, taint⟩ := ⟨h.paired.same_builtin hid, rfl⟩

theorem Alike.unknown (h : Alike d p c) (taint : Option Taint) :
    Value.Alike p.types c.types ⟨Types.unknown, taint⟩ ⟨Types.unknown, taint⟩ :=
  h.builtin (by decide) taint

theorem Alike.taintOf_eq (h : Alike d p c) {i j : TypeId} (hs : Arena.Same p.types i c.types j) :
    p.types.taintOf i = c.types.taintOf j := hs.taintOf_eq h.left.types h.right.types

section

variable (h : Alike d p c) {v w v' w' : Value} (hv : v.Alike p.types c.types w)

include h hv

theorem mirror_binary (hv' : v'.Alike p.types c.types w') (span : Span) (op : String) :
    Mirror d p c (checkBinary span op v v') (checkBinary span op w w') Value.Alike := by
  have ha := h.left.types
  have hb := h.right.types
  unfold checkBinary
  dsimp only
  rw [hv.taint, hv'.taint]
  cases binaryRules op with
  | nil => exact .andThen (.error h _ _ _) fun _ hm => .pure hm.stop (hm.stop.unknown _)
  | cons first more =>
    refine .types (.ite (by rw [isOpaque_eq ha hb hv.type, isOpaque_eq ha hb hv'.type])
      (fun _ => .pure h (h.builtin (unsettled_le _) _)) fun _ => ?_)
    have hfind : (first :: more).find? (takes p.types · v.type v'.type)
        = (first :: more).find? (takes c.types · w.type w'.type) := by
      congr 1
      funext rule
      exact takes_eq ha hb hv.type hv'.type rule
    rw [hfind]
    cases (first :: more).find? (takes c.types · w.type w'.type) with
    | some rule =>
      refine .pure h ⟨?_, rfl⟩
      dsimp only
      split
      · exact h.paired.same_builtin (by decide)
      · exact hv.type.unwrap ha hb
    | none =>
      exact .labels h hv.type hv'.type fun l r => .andThen (.report h _) fun _ hm =>
        .pure hm.stop (hm.stop.builtin (unsettled_le _) _)

theorem mirror_unary (span : Span) (op : String) :
    Mirror d p c (checkUnary span op v) (checkUnary span op w) Value.Alike := by
  have ha := h.left.types
  have hb := h.right.types
  unfold checkUnary
  rw [hv.taint]
  cases unaryRule? op with
  | none => exact .andThen (.error h _ _ _) fun _ hm => .pure hm.stop (hm.stop.unknown _)
  | some rule =>
    refine .types (.ite (by rw [isOpaque_eq ha hb hv.type, hv.type.family_eq ha hb]) (fun _ => ?_)
      fun _ => ?_)
    · refine .pure h ⟨?_, rfl⟩
      dsimp only
      split
      · exact h.paired.same_builtin (by decide)
      · exact hv.type.unwrap ha hb
    · exact .label h hv.type fun _ => .andThen (.error h _ _ _) fun _ hm =>
        .pure hm.stop (hm.stop.builtin (unsettled_le _) _)

theorem mirror_member (span : Span) (field : String) :
    Mirror d p c (checkMember span v field) (checkMember span w field) Value.Alike := by
  have ha := h.left.types
  have hb := h.right.types
  unfold checkMember
  rw [hv.taint]
  refine .types (.ite (by rw [hv.type.isUnknown_eq ha hb])
    (fun _ => .pure h (h.unknown _)) fun _ => ?_)
  rw [← (hv.type.unwrap ha hb).dataInfo_eq ha hb h.paired.datas_eq]
  cases hi : p.types.dataInfo? (p.types.unwrap v.type) with
  | none =>
    exact .label h hv.type fun _ => .andThen (.error h _ _ _) fun _ hm =>
      .pure hm.stop (hm.stop.unknown _)
  | some info =>
    dsimp only
    cases hf : info.field? field with
    | none => exact .andThen (.report h _) fun _ hm => .pure hm.stop (hm.stop.unknown _)
    | some f =>
      have hsame := h.paired.same_declared (h.paired.field_le hi (List.mem_of_find?_eq_some hf))
      exact .pure h ⟨hsame, by rw [h.taintOf_eq hsame]⟩

theorem mirror_wrap (kind : Wrap) :
    Mirror d p c (checkWrap kind v) (checkWrap kind w) Value.Alike := by
  have ha := h.left.types
  have hb := h.right.types
  have hu : Arena.Same p.types Types.unknown c.types Types.unknown :=
    h.paired.same_builtin (by decide)
  unfold checkWrap
  cases kind with
  | some =>
    refine .types (.ite (by rw [hv.type.kindOf_eq ha hb]) (fun _ => .pure h hv) fun _ => ?_)
    exact .bind (.make h (hv.type.optional ha hb)) fun hm hs => .pure hm.stop ⟨hs, hv.taint⟩
  | ok =>
    exact .bind (.make h (hv.type.result ha hb hu)) fun hm hs => .pure hm.stop ⟨hs, hv.taint⟩
  | err =>
    exact .bind (.make h (hu.result ha hb hv.type)) fun hm hs => .pure hm.stop ⟨hs, hv.taint⟩

end

/-! ## Lists -/

/-- The element type of a list so far. -/
def ElemAlike (a b : Arena) : Option TypeId → Option TypeId → Prop :=
  Option.Rel fun i j => Arena.Same a i b j

theorem Mirrored.elem (h : Mirrored d p c p' c') {e e' : Option TypeId}
    (he : ElemAlike p.types c.types e e') : ElemAlike p'.types c'.types e e' := by
  cases he with
  | none => exact .none
  | some hs => exact .some (h.same hs)

theorem mirror_joinItem (h : Alike d p c) {e e' : Option TypeId}
    (he : ElemAlike p.types c.types e e') {v w : Value} (hv : v.Alike p.types c.types w)
    (span : Span) : Mirror d p c (joinItem e span v) (joinItem e' span w) Types := by
  cases he with
  | none => exact .pure h hv.type
  | @some i j hij =>
    have ha := h.left.types
    have hb := h.right.types
    obtain ⟨hsa, -⟩ := ha.join hij.left hv.type.left
    obtain ⟨hsb, -⟩ := hb.join hij.right hv.type.right
    have hrel := Arena.same_join ha hb hij hv.type
    have hfirst : Mirrored d p c { p with types := (p.types.join i v.type).1 }
        { c with types := (c.types.join j w.type).1 } :=
      ⟨h, h.made hsa (p.types.extends_join i v.type) hsb (c.types.extends_join j w.type),
        p.types.extends_join i v.type, c.types.extends_join j w.type, rfl, rfl, rfl, rfl, [],
        .nil rfl, .nil rfl⟩
    have hunjoined : Mirror d { p with types := (p.types.join i v.type).1 }
        { c with types := (c.types.join j w.type).1 } (do
          let l ← Walk.labelOf i
          let r ← Walk.labelOf v.type
          Walk.error .typeMismatch span ("list items have incompatible types " ++ l ++ " and " ++ r)
          return i : Walk TypeId) (do
          let l ← Walk.labelOf j
          let r ← Walk.labelOf w.type
          Walk.error .typeMismatch span ("list items have incompatible types " ++ l ++ " and " ++ r)
          return j : Walk TypeId) Types :=
      .labels hfirst.stop (hfirst.same hij) (hfirst.same hv.type) fun _ _ =>
        .andThen (.error hfirst.stop _ _ _) fun _ hm => .pure hm.stop ((hfirst.trans hm).same hij)
    rw [Mirror]
    simp only [joinItem, Walk.after_bind, Walk.value_bind, Walk.value_types, Walk.after_types,
      Walk.after_modify]
    generalize hx : (p.types.join i v.type).2 = x at hrel
    generalize hy : (c.types.join j w.type).2 = y at hrel
    cases hrel with
    | none => exact ⟨hfirst.trans hunjoined.1, hunjoined.2⟩
    | some hid => exact ⟨hfirst, hid⟩

/-! ## Calls -/

/-- Alike arguments, at the same places. -/
def ArgsAlike (a b : Arena) : List (Value × Span) → List (Value × Span) → Prop :=
  List.Forall₂ fun x y => x.1.Alike a b y.1 ∧ x.2 = y.2

theorem ArgsAlike.taint_eq {a b : Arena} {args args' : List (Value × Span)}
    (h : ArgsAlike a b args args') :
    Value.taintOfAll (args.map (·.1)) = Value.taintOfAll (args'.map (·.1)) := by
  have htaints : args.map (·.1.taint) = args'.map (·.1.taint) := by
    induction h with
    | nil => rfl
    | cons hx _ ih => rw [List.map_cons, List.map_cons, hx.1.taint, ih]
  rw [Value.taintOfAll, Value.taintOfAll, List.map_map, List.map_map]
  exact congrArg Taint.mergeAll htaints

theorem Mirrored.args (h : Mirrored d p c p' c') {args args' : List (Value × Span)}
    (hargs : ArgsAlike p.types c.types args args') : ArgsAlike p'.types c'.types args args' :=
  hargs.imp fun _ _ hx => ⟨h.value hx.1, hx.2⟩

theorem mirror_arguments (target : String) {ps qs : List TypeId} {args args' : List (Value × Span)} :
    ∀ {p c : State} (i : Nat), Alike d p c → List.Forall₂ (Arena.Same p.types · c.types ·) ps qs →
    ArgsAlike p.types c.types args args' →
    Mirror d p c (checkArguments target i ps args) (checkArguments target i qs args') Equally := by
  induction ps generalizing qs args args' with
  | nil =>
    intro p c i h hps hargs
    cases hps
    cases hargs <;> exact .pure h rfl
  | cons t ps ih =>
    intro p c i h hps hargs
    cases hps with
    | @cons _ t' _ qs ht hps =>
      cases hargs with
      | nil => exact .pure h rfl
      | @cons x y args args' hx hargs =>
        obtain ⟨v, span⟩ := x
        obtain ⟨w, span'⟩ := y
        obtain ⟨hv, rfl⟩ := hx
        rw [checkArguments, checkArguments]
        refine .types (.ite (by rw [ht.compatible_eq h.left.types h.right.types hv.type])
          (fun _ => ih _ h hps hargs) fun _ => ?_)
        exact .labels h ht hv.type fun _ _ => .andThen (.report h _) fun _ hm =>
          ih _ hm.stop (hps.imp fun _ _ hs => hm.same hs) (hm.args hargs)

theorem mirror_params (h : Alike d p c) (head : CallHead) {ps qs : List TypeId}
    (hps : List.Forall₂ (Arena.Same p.types · c.types ·) ps qs) {args args' : List (Value × Span)}
    (hargs : ArgsAlike p.types c.types args args') :
    Mirror d p c (checkParams head ps args) (checkParams head qs args') Equally := by
  unfold checkParams
  rw [hps.length_eq, hargs.length_eq]
  refine .ite Iff.rfl (fun _ => mirror_arguments _ _ h hps hargs) fun _ => ?_
  exact .andThen (.report h _) fun _ hm => mirror_arguments _ _ hm.stop
    (hps.imp fun _ _ hs => hm.same hs) (hm.args hargs)

theorem mirror_callee (h : Alike d p c) (head : CallHead) :
    Mirror d p c (callee head) (callee head) (Callee.Paired d.types) := by
  rw [Mirror, after_callee, after_callee]
  exact ⟨.refl h, h.paired.callee head⟩

theorem Mirrored.callee (h : Mirrored d p c p' c') {x y : Callee}
    (hxy : Callee.Paired d.types p.types c.types x y) :
    Callee.Paired d.types p'.types c'.types x y := hxy.mono h.same

/-- The types of the parameters of a known function. -/
theorem Alike.paramTypes (h : Alike d p c) {sig : Signature} (hsig : Signature.Known d.types sig) :
    List.Forall₂ (Arena.Same p.types · c.types ·) sig.paramTypes sig.paramTypes := by
  refine List.forall₂_same.2 fun i hi => ?_
  obtain ⟨q, hq, rfl⟩ := List.mem_map.1 hi
  exact h.paired.same_declared (hsig.params q hq)

/-- **A call is finished alike.** -/
theorem mirror_finishCall (h : Alike d p c) (head : CallHead) {x y : Callee}
    (hxy : Callee.Paired d.types p.types c.types x y) {args args' : List (Value × Span)}
    (hargs : ArgsAlike p.types c.types args args') :
    Mirror d p c (finishCall head x args) (finishCall head y args') Value.Alike := by
  have htaint := hargs.taint_eq
  unfold finishCall
  cases hxy with
  | declassifier =>
    dsimp only
    rw [htaint]
    refine .andThen (.observe h _) fun _ hm => .types (.pure hm.stop ⟨?_, rfl⟩)
    refine Arena.Same.unwrap hm.stop.left.types hm.stop.right.types ?_
    cases hargs with
    | nil => exact hm.stop.paired.same_builtin (by decide)
    | cons hx _ => exact hm.same hx.1.type
  | @function sig known =>
    dsimp only
    rw [htaint]
    refine .andThen (mirror_params h head (h.paramTypes known) hargs) fun _ hm => ?_
    refine .andThen (.observe hm.stop _) fun _ hm' => .types (.pure hm'.stop ?_)
    have hsame := hm'.stop.paired.same_declared known.result
    exact ⟨hsame, by rw [hm'.stop.taintOf_eq hsame]⟩
  | value params result =>
    dsimp only
    rw [htaint]
    refine .andThen (mirror_params h head params hargs) fun _ hm => ?_
    refine .andThen (.observe hm.stop _) fun _ hm' => .types (.pure hm'.stop ?_)
    have hsame := (hm.trans hm').same result
    exact ⟨hsame, by rw [hm'.stop.taintOf_eq hsame]⟩
  | external =>
    dsimp only
    rw [htaint]
    exact .andThen (.observe h _) fun _ hm => .pure hm.stop (hm.stop.unknown _)
  | notCallable kind type =>
    dsimp only
    rw [htaint, kind]
    exact .label h type fun _ => .andThen (.report h _) fun _ hm =>
      .pure hm.stop (hm.stop.unknown _)
  | undefined => exact .andThen (.report h _) fun _ hm => .pure hm.stop (hm.stop.unknown _)

/-! ## Records -/

/-- A record type found on both sides: a type of the declarations, with the same details. -/
def DataAlike (d : State) : Arena → Arena → TypeId × Option DataInfo → TypeId × Option DataInfo →
    Prop := fun a b x y => Arena.Same a x.1 b y.1 ∧ x.2 = y.2 ∧
      ∀ info, x.2 = some info → ∀ f ∈ info.fields, f.type ≤ d.types.size

theorem mirror_dataType (h : Alike d p c) (name : String) (span : Span) :
    Mirror d p c (dataType name span) (dataType name span) (DataAlike d) := by
  have hunknown : ∀ {p c : State}, Alike d p c →
      DataAlike d p.types c.types (Types.unknown, none) (Types.unknown, none) := fun h =>
    ⟨h.paired.same_builtin (by decide), rfl, fun _ hi => nomatch hi⟩
  unfold dataType
  refine .get ?_
  rw [h.left.aliases, h.right.aliases]
  cases hr : d.aliases.resolve? name with
  | none => exact .andThen (.report h _) fun _ hm => .pure hm.stop (hunknown hm.stop)
  | some id =>
    have hid := h.paired.same_declared (h.ground.aliases hr)
    have hsame := hid.unwrap h.left.types h.right.types
    refine .types ?_
    rw [← hsame.dataInfo_eq h.left.types h.right.types h.paired.datas_eq]
    cases hi : p.types.dataInfo? (p.types.unwrap id) with
    | some info =>
      refine .pure h ⟨hsame, rfl, ?_⟩
      rintro _ ⟨⟩ f hf
      exact h.paired.field_le hi hf
    | none =>
      refine .ite (by rw [hid.isUnknown_eq h.left.types h.right.types])
        (fun _ => .pure h (hunknown h)) fun _ => ?_
      exact .label h hid fun _ => .andThen (.error h _ _ _) fun _ hm =>
        .pure hm.stop (hunknown hm.stop)

theorem mirror_init (h : Alike d p c) {info : DataInfo}
    (hinfo : ∀ f ∈ info.fields, f.type ≤ d.types.size) (seen : List String) (name : String)
    (span at_ : Span) {v w : Value} (hv : v.Alike p.types c.types w) :
    Mirror d p c (checkInit info seen name span at_ v) (checkInit info seen name span at_ w)
      Equally := by
  unfold checkInit
  refine .ite Iff.rfl (fun _ => .andThen (.error h _ _ _) fun _ hm => .pure hm.stop rfl) fun _ => ?_
  cases hf : info.field? name with
  | none => exact .andThen (.report h _) fun _ hm => .pure hm.stop rfl
  | some field =>
    have hsame := h.paired.same_declared (hinfo field (List.mem_of_find?_eq_some hf))
    refine .types (.ite (by rw [hsame.compatible_eq h.left.types h.right.types hv.type])
      (fun _ => .pure h rfl) fun _ => ?_)
    exact .labels h hsame hv.type fun _ _ => .andThen (.report h _) fun _ hm => .pure hm.stop rfl

theorem mirror_complete (h : Alike d p c) (span : Span) (info : Option DataInfo)
    (seen : List String) :
    Mirror d p c (info.forM fun info => checkComplete span info seen)
      (info.forM fun info => checkComplete span info seen) Equally := by
  cases info with
  | none => exact .pure h rfl
  | some info =>
    change Mirror d p c (checkComplete span info seen) (checkComplete span info seen) Equally
    unfold checkComplete
    exact .ite Iff.rfl (fun _ => .pure h rfl) fun _ => .report h _

/-! ## Expressions -/

mutual

/-- **Expressions are walked alike.** -/
theorem mirror_expr : ∀ (e : Expr) {p c : State}, Alike d p c →
    Mirror d p c (checkExpr e) (checkExpr e) Value.Alike
  | .name span name, p, c, h => by
    rw [checkExpr]
    refine .lookup h name (.andThen (.report h _) fun _ hm => .pure hm.stop (hm.stop.unknown _)) ?_
    exact fun _ _ hs => .pure h ⟨hs.type, hs.taint_eq⟩
  | .literal _ value, p, c, h => by
    rw [checkExpr]
    exact .pure h (h.builtin (literalType_le value) none)
  | .binary span op left right, p, c, h => by
    rw [checkExpr]
    exact .bind (mirror_expr left h) fun hm hl => .bind (mirror_expr right hm.stop) fun hm' hr =>
      mirror_binary hm'.stop (hm'.value hl) hr span op
  | .unary span op operand, p, c, h => by
    rw [checkExpr]
    exact .bind (mirror_expr operand h) fun hm hv => mirror_unary hm.stop hv span op
  | .call span target args effect capability, p, c, h => by
    rw [checkExpr]
    exact .bind (mirror_callee h _) fun hm hcallee => .bind (mirror_exprs span args hm.stop)
      fun hm' hargs => mirror_finishCall hm'.stop _ (hm'.callee hcallee) hargs
  | .construct span type fields, p, c, h => by
    rw [checkExpr]
    refine .bind (mirror_dataType h type span) fun {p₁ c₁ x y} hm hdata => ?_
    obtain ⟨id, info⟩ := x
    obtain ⟨id', info'⟩ := y
    obtain ⟨hid, rfl, hinfo⟩ := hdata
    refine .andThen (mirror_inits span info hinfo [] none fields hm.stop) fun seen hm' => ?_
    exact .andThen (mirror_complete hm'.stop span info _) fun _ hm'' =>
      .pure hm''.stop ⟨(hm'.trans hm'').same hid, rfl⟩
  | .member span base field, p, c, h => by
    rw [checkExpr]
    exact .bind (mirror_expr base h) fun hm hv => mirror_member hm.stop hv span field
  | .wrap _ kind inner, p, c, h => by
    rw [checkExpr]
    exact .bind (mirror_expr inner h) fun hm hv => mirror_wrap hm.stop hv kind
  | .none _, p, c, h => by
    rw [checkExpr]
    exact .pure h (h.builtin (show null ≤ 8 by decide) none)
  | .list span items, p, c, h => by
    rw [checkExpr]
    refine .bind (mirror_items span items h .none none) fun {p₁ c₁ x y} hm hitems => ?_
    obtain ⟨elem, taint⟩ := x
    obtain ⟨elem', taint'⟩ := y
    obtain ⟨helem, rfl⟩ := hitems
    have hsame : Arena.Same p₁.types (elem.getD Types.unknown) c₁.types
        (elem'.getD Types.unknown) := by
      cases helem with
      | none => exact hm.stop.paired.same_builtin (by decide)
      | some hs => exact hs
    exact .bind (.make hm.stop (hsame.list hm.stop.left.types hm.stop.right.types))
      fun hm' hs => .pure hm'.stop ⟨hs, rfl⟩
  | .await span task, p, c, h => by
    rw [checkExpr]
    exact .bind (mirror_expr task h) fun hm hv => .andThen (.observe hm.stop _) fun _ hm' =>
      .pure hm'.stop (hm'.value hv)

theorem mirror_exprs (outer : Span) : ∀ (es : List Expr) {p c : State}, Alike d p c →
    Mirror d p c (checkExprs outer es) (checkExprs outer es) ArgsAlike
  | [], p, c, h => by
    rw [checkExprs]
    exact .pure h .nil
  | e :: es, p, c, h => by
    rw [checkExprs]
    exact .bind (mirror_expr e h) fun hm hv => .bind (mirror_exprs outer es hm.stop) fun hm' hvs =>
      .pure hm'.stop (.cons ⟨hm'.value hv, rfl⟩ hvs)

theorem mirror_items (outer : Span) : ∀ (es : List Expr) {p c : State}, Alike d p c →
    ∀ {elem elem' : Option TypeId}, ElemAlike p.types c.types elem elem' → ∀ taint : Option Taint,
    Mirror d p c (checkItems outer elem taint es) (checkItems outer elem' taint es)
      fun a b x y => ElemAlike a b x.1 y.1 ∧ x.2 = y.2
  | [], p, c, h, elem, elem', helem, taint => by
    rw [checkItems, checkItems]
    exact .pure h ⟨helem, rfl⟩
  | e :: es, p, c, h, elem, elem', helem, taint => by
    rw [checkItems, checkItems]
    refine .bind (mirror_expr e h) fun hm hv => ?_
    rw [hv.taint]
    exact .bind (mirror_joinItem hm.stop (hm.elem helem) hv _) fun hm' hid =>
      mirror_items outer es hm'.stop (.some hid) _

theorem mirror_inits (outer : Span) (info : Option DataInfo)
    (hinfo : ∀ i, info = some i → ∀ f ∈ i.fields, f.type ≤ d.types.size) (seen : List String)
    (taint : Option Taint) : ∀ (is : List Init) {p c : State}, Alike d p c →
    Mirror d p c (checkInits outer info seen taint is) (checkInits outer info seen taint is) Equally
  | [], p, c, h => by
    rw [checkInits]
    exact .pure h rfl
  | .mk span name value :: rest, p, c, h => by
    rw [checkInits]
    refine .bind (mirror_expr value h) fun hm hv => ?_
    rw [hv.taint]
    cases info with
    | none => exact .andThen (.pure hm.stop rfl) fun _ hm' => mirror_inits outer none hinfo _ _ rest hm'.stop
    | some info =>
      exact .andThen (mirror_init hm.stop (hinfo info rfl) _ _ _ _ hv) fun _ hm' =>
        mirror_inits outer (some info) hinfo _ _ rest hm'.stop

end

end CoreCheck.Check

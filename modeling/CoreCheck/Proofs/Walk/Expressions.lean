import CoreCheck.Proofs.Walk.Lockstep
import CoreCheck.Proofs.Walk.Values

/-!
# Proofs/Walk/Expressions — expressions in lockstep

Paired walks over one expression stay paired and answer paired values.  Expressions are walked from
the leaves up, so the proof follows them down: one lemma for what is done with the values of the
parts, and one induction over the parts.
-/

namespace CoreCheck.Check

open CoreCheck.Types CoreCheck.Scope CoreCheck.Ir

variable {d p c p' c' : State}

/-! ## What is done with the values of the parts -/

theorem isOpaque_eq {a b : Arena} (ha : a.Sound) (hb : b.Sound) {i j : TypeId}
    (h : Arena.Same a i b j) : isOpaque a i = isOpaque b j := by
  rw [isOpaque, isOpaque, h.kindOf_eq ha hb]

theorem hasVariant_eq (h : Paired d p c) {i j : TypeId} (hs : Arena.Same p.types i c.types j)
    (name : String) : hasVariant p.types i name = hasVariant c.types j name := by
  rw [hasVariant, hasVariant, (hs.unwrap h.left.types h.right.types).enumInfo_eq h.left.types
    h.right.types h.enums_eq]

/-- The taint of a type is the same on both sides. -/
theorem Paired.taintOf_below (h : Paired d p c) {i j : TypeId}
    (hs : Arena.Same p.types i c.types j) :
    Taint.Below (p.types.taintOf i) (c.types.taintOf j) := by
  rw [hs.taintOf_eq h.left.types h.right.types]
  exact .refl _

theorem takes_eq {a b : Arena} (ha : a.Sound) (hb : b.Sound) {i j i' j' : TypeId}
    (h : Arena.Same a i b j) (h' : Arena.Same a i' b j') (rule : BinaryRule) :
    takes a rule i i' = takes b rule j j' := by
  rw [takes, takes, h.family_eq ha hb, h'.family_eq ha hb, h.kindOf_eq ha hb, h'.kindOf_eq ha hb,
    h.compatible_eq ha hb h', h'.compatible_eq ha hb h]

/-- A value of a builtin type. -/
theorem Paired.builtin (h : Paired d p c) {id : TypeId} (hid : id ≤ 8) {t t' : Option Taint}
    (ht : Taint.Below t t') : Value.Paired p.types c.types ⟨id, t⟩ ⟨id, t'⟩ :=
  ⟨h.same_builtin hid, ht⟩

theorem literalType_le (l : Literal) : literalType l ≤ 8 := by
  cases l <;> exact Nat.le_of_ble_eq_true rfl

theorem unsettled_le (o : Outcome) : unsettled o ≤ 8 := by cases o <;> decide

section

variable (h : Paired d p c) {v w v' w' : Value} (hv : Value.Paired p.types c.types v w)

include h hv

theorem Paired.binary (hv' : Value.Paired p.types c.types v' w') (span : Span) (op : String) :
    Value.Paired p.types c.types ((checkBinary span op v v').value p)
      ((checkBinary span op w w').value c) := by
  have ha := h.left.types
  have hb := h.right.types
  rw [value_binary, value_binary]
  refine ⟨?_, hv.taint.merge hv'.taint⟩
  dsimp only
  cases binaryRules op with
  | nil => exact h.same_builtin (show unknown ≤ 8 by decide)
  | cons first more =>
    have hfind : (first :: more).find? (takes p.types · v.type v'.type)
        = (first :: more).find? (takes c.types · w.type w'.type) := by
      congr 1
      funext rule
      exact takes_eq ha hb hv.type hv'.type rule
    dsimp only
    rw [isOpaque_eq ha hb hv.type, isOpaque_eq ha hb hv'.type, hfind]
    split
    · exact h.same_builtin (unsettled_le _)
    · cases (first :: more).find? (takes c.types · w.type w'.type) with
      | none => exact h.same_builtin (unsettled_le _)
      | some rule =>
        dsimp only
        split
        · exact h.same_builtin (by decide)
        · exact hv.type.unwrap ha hb

theorem Paired.unary (span : Span) (op : String) :
    Value.Paired p.types c.types ((checkUnary span op v).value p)
      ((checkUnary span op w).value c) := by
  have ha := h.left.types
  have hb := h.right.types
  rw [value_unary, value_unary]
  refine ⟨?_, hv.taint⟩
  dsimp only
  cases unaryRule? op with
  | none => exact h.same_builtin (show unknown ≤ 8 by decide)
  | some rule =>
    dsimp only
    rw [isOpaque_eq ha hb hv.type, hv.type.family_eq ha hb]
    split
    · split
      · exact h.same_builtin (by decide)
      · exact hv.type.unwrap ha hb
    · exact h.same_builtin (unsettled_le _)

theorem Paired.member (span : Span) (field : String) :
    Value.Paired p.types c.types ((checkMember span v field).value p)
      ((checkMember span w field).value c) := by
  have ha := h.left.types
  have hb := h.right.types
  rw [value_member, value_member, hv.type.isUnknown_eq ha hb]
  split
  · exact h.builtin (by decide) hv.taint
  · have hinfo := (hv.type.unwrap ha hb).dataInfo_eq ha hb h.datas_eq
    rw [← hinfo]
    cases hi : p.types.dataInfo? (p.types.unwrap v.type) with
    | none => exact h.builtin (by decide) hv.taint
    | some info =>
      rw [Option.bind_some]
      cases hf : info.field? field with
      | none => exact h.builtin (by decide) hv.taint
      | some f =>
        have hsame := h.same_declared (h.field_le hi (List.mem_of_find?_eq_some hf))
        exact ⟨hsame, hv.taint.merge (h.taintOf_below hsame)⟩

theorem lockstep_binary (hv' : Value.Paired p.types c.types v' w') (span : Span) (op : String) :
    Lockstep d p c ((checkBinary span op v v').after p) ((checkBinary span op w w').after c) ∧
      Value.Paired ((checkBinary span op v v').after p).types
        ((checkBinary span op w w').after c).types ((checkBinary span op v v').value p)
        ((checkBinary span op w w').value c) := by
  have hstep := Lockstep.reports h (reports_binary span op v v' p) (reports_binary span op w w' c)
  exact ⟨hstep, hstep.value (h.binary hv hv' span op)⟩

theorem lockstep_unary (span : Span) (op : String) :
    Lockstep d p c ((checkUnary span op v).after p) ((checkUnary span op w).after c) ∧
      Value.Paired ((checkUnary span op v).after p).types ((checkUnary span op w).after c).types
        ((checkUnary span op v).value p) ((checkUnary span op w).value c) := by
  have hstep := Lockstep.reports h (reports_unary span op v p) (reports_unary span op w c)
  exact ⟨hstep, hstep.value (h.unary hv span op)⟩

theorem lockstep_member (span : Span) (field : String) :
    Lockstep d p c ((checkMember span v field).after p) ((checkMember span w field).after c) ∧
      Value.Paired ((checkMember span v field).after p).types
        ((checkMember span w field).after c).types ((checkMember span v field).value p)
        ((checkMember span w field).value c) := by
  have hstep := Lockstep.reports h (reports_member span v field p) (reports_member span w field c)
  exact ⟨hstep, hstep.value (h.member hv span field)⟩

theorem lockstep_wrap (kind : Wrap) :
    Lockstep d p c ((checkWrap kind v).after p) ((checkWrap kind w).after c) ∧
      Value.Paired ((checkWrap kind v).after p).types ((checkWrap kind w).after c).types
        ((checkWrap kind v).value p) ((checkWrap kind w).value c) := by
  have ha := h.left.types
  have hb := h.right.types
  have hu : Arena.Same p.types unknown c.types unknown := h.same_builtin (by decide)
  cases kind with
  | some =>
    by_cases hk : p.types.kindOf v.type = .optional
    · have hk' : c.types.kindOf w.type = .optional := (hv.type.kindOf_eq ha hb).symm.trans hk
      simp only [checkWrap, Walk.after_bind, Walk.value_bind, Walk.value_types, Walk.after_types, hk,
        hk', beq_self_eq_true, if_true]
      exact ⟨.refl h, hv⟩
    · have hk' : c.types.kindOf w.type ≠ .optional := fun e =>
        hk ((hv.type.kindOf_eq ha hb).trans e)
      simp only [checkWrap, Walk.after_bind, Walk.value_bind, Walk.value_types, Walk.after_types,
        beq_false_of_ne hk, beq_false_of_ne hk', Bool.false_eq_true, if_false]
      have hmade := hv.type.optional ha hb
      exact ⟨.made h hmade, hmade.same, hv.taint⟩
  | ok =>
    have hmade := hv.type.result ha hb hu
    exact ⟨.made h hmade, hmade.same, hv.taint⟩
  | err =>
    have hmade := hu.result ha hb hv.type
    exact ⟨.made h hmade, hmade.same, hv.taint⟩

end

/-- The element type of a list on both sides. -/
def ElemPaired (p c : State) : Option TypeId → Option TypeId → Prop :=
  Option.Rel fun i j => Arena.Same p.types i c.types j

theorem ElemPaired.getD {e e' : Option TypeId} (h : ElemPaired p c e e') {i j : TypeId}
    (hij : Arena.Same p.types i c.types j) : Arena.Same p.types (e.getD i) c.types (e'.getD j) := by
  cases h with
  | none => exact hij
  | some hs => exact hs

theorem Lockstep.elem (h : Lockstep d p c p' c') {e e' : Option TypeId} (he : ElemPaired p c e e') :
    ElemPaired p' c' e e' := by
  cases he with
  | none => exact .none
  | some hs => exact .some (h.same hs)

theorem lockstep_joinItem (h : Paired d p c) {e e' : Option TypeId} (he : ElemPaired p c e e')
    {v w : Value} (hv : Value.Paired p.types c.types v w) (span : Span) :
    Lockstep d p c ((joinItem e span v).after p) ((joinItem e' span w).after c) ∧
      Arena.Same ((joinItem e span v).after p).types ((joinItem e span v).value p)
        ((joinItem e' span w).after c).types ((joinItem e' span w).value c) := by
  cases he with
  | none => exact ⟨.refl h, hv.type⟩
  | @some i j hij =>
    have ha := h.left.types
    have hb := h.right.types
    obtain ⟨hsa, -⟩ := ha.join hij.left hv.type.left
    obtain ⟨hsb, -⟩ := hb.join hij.right hv.type.right
    have hrel := Arena.same_join ha hb hij hv.type
    have hextp := p.types.extends_join i v.type
    have hextc := c.types.extends_join j w.type
    have hpair : Paired d { p with types := (p.types.join i v.type).1 }
        { c with types := (c.types.join j w.type).1 } :=
      h.quiet ⟨rfl, hextp, .nil rfl⟩ ⟨rfl, hextc, .nil rfl⟩ hsa hsb
    have hfirst : Lockstep d p c { p with types := (p.types.join i v.type).1 }
        { c with types := (c.types.join j w.type).1 } :=
      ⟨h, hpair, hextp, hextc, rfl, rfl, [], [], (List.append_nil _).symm,
        (List.append_nil _).symm, .nil⟩
    simp only [joinItem, Walk.after_bind, Walk.value_bind, Walk.value_types, Walk.after_types,
      Walk.after_modify]
    generalize hx : (p.types.join i v.type).2 = x at hrel
    generalize hy : (c.types.join j w.type).2 = y at hrel
    cases hrel with
    | none =>
      have hrest := Lockstep.reports hpair (reports_unjoined i span v _)
        (reports_unjoined j span w _)
      exact ⟨hfirst.trans hrest, (hfirst.trans hrest).same hij⟩
    | some hid => exact ⟨hfirst, hid⟩

/-! ## Calls -/

/-- **Paired callees.** -/
inductive Callee.Paired (d a b : Arena) : Callee → Callee → Prop
  | declassifier : Paired d a b .declassifier .declassifier
  | function {sig : Signature} (known : Signature.Known d sig) :
    Paired d a b (.function sig) (.function sig)
  | value {ps qs : List TypeId} {r r' : TypeId} (params : List.Forall₂ (Arena.Same a · b ·) ps qs)
    (result : Arena.Same a r b r') : Paired d a b (.value ps r) (.value qs r')
  | external : Paired d a b .external .external
  | notCallable {s t : Symbol} (kind : s.kind = t.kind) (type : Arena.Same a s.type b t.type) :
    Paired d a b (.notCallable s) (.notCallable t)
  | undefined : Paired d a b .undefined .undefined

/-- Paired callees stay so where types of one structure do. -/
theorem Callee.Paired.mono {d a b a' b' : Arena} {x y : Callee} (hxy : Callee.Paired d a b x y)
    (h : ∀ {i j}, Arena.Same a i b j → Arena.Same a' i b' j) : Callee.Paired d a' b' x y := by
  cases hxy with
  | declassifier => exact .declassifier
  | function known => exact .function known
  | value params result => exact .value (params.imp fun _ _ hs => h hs) (h result)
  | external => exact .external
  | notCallable kind type => exact .notCallable kind (h type)
  | undefined => exact .undefined

theorem Lockstep.callee (h : Lockstep d p c p' c') {x y : Callee}
    (hxy : Callee.Paired d.types p.types c.types x y) :
    Callee.Paired d.types p'.types c'.types x y := hxy.mono h.same

theorem Paired.calledValue (h : Paired d p c) {s t : Symbol}
    (hs : Symbol.Paired d.types p.types c.types s t) :
    Callee.Paired d.types p.types c.types (calledValue p.types s) (calledValue c.types t) := by
  have ha := h.left.types
  have hb := h.right.types
  rw [Check.calledValue, Check.calledValue, hs.type.isUnknown_eq ha hb]
  split
  · exact .external
  · have hrel := (hs.type.unwrap ha hb).funcInfo_rel ha hb
    generalize p.types.funcInfo? (p.types.unwrap s.type) = x at hrel ⊢
    generalize c.types.funcInfo? (c.types.unwrap t.type) = y at hrel ⊢
    cases hrel with
    | none => exact .notCallable hs.kind_eq hs.type
    | some hf => exact .value hf.1 hf.2

theorem Paired.calledSymbol (h : Paired d p c) {s t : Symbol}
    (hs : Symbol.Paired d.types p.types c.types s t) :
    Callee.Paired d.types p.types c.types (calledSymbol p.types s) (calledSymbol c.types t) := by
  have hvalue := h.calledValue hs
  have hknown := hs.known
  rw [Check.calledSymbol, Check.calledSymbol, ← hs.kind_eq, ← hs.signature_eq]
  generalize s.kind = kind
  generalize s.signature = signature at hknown ⊢
  cases kind with
  | function =>
    cases signature with
    | some sig => exact .function (hknown sig rfl)
    | none => exact hvalue
  | _ => exact hvalue

theorem Paired.callee (h : Paired d p c) (head : CallHead) :
    Callee.Paired d.types p.types c.types ((Check.callee head).value p)
      ((Check.callee head).value c) := by
  rw [value_callee, value_callee]
  split
  · exact .declassifier
  rw [called, called]
  split
  · exact .external
  obtain ⟨hp, hc⟩ | ⟨i, s, j, t, hp, -, hc, -, hs⟩ := h.lookup head.target
  · rw [hp, hc]
    dsimp only
    split
    · exact .undefined
    · exact .external
  · rw [hp, hc]
    exact h.calledSymbol hs

/-- Paired arguments. -/
def ArgsPaired (p c : State) : List (Value × Span) → List (Value × Span) → Prop :=
  List.Forall₂ fun x y => Value.Paired p.types c.types x.1 y.1

theorem ArgsPaired.taint {args args' : List (Value × Span)} (h : ArgsPaired p c args args') :
    Taint.Below (Value.taintOfAll (args.map (·.1))) (Value.taintOfAll (args'.map (·.1))) := by
  refine Taint.mergeAll_mono ?_
  rw [List.forall₂_map_left_iff, List.forall₂_map_left_iff, List.forall₂_map_right_iff,
    List.forall₂_map_right_iff]
  exact h.imp fun _ _ hv => hv.taint

/-- **Paired calls flow alike and answer alike.** -/
theorem lockstep_finishCall (h : Paired d p c) {x y : Callee}
    (hxy : Callee.Paired d.types p.types c.types x y) {args args' : List (Value × Span)}
    (hargs : ArgsPaired p c args args') (head : CallHead) :
    Lockstep d p c ((finishCall head x args).after p) ((finishCall head y args').after c) ∧
      Value.Paired ((finishCall head x args).after p).types ((finishCall head y args').after c).types
        ((finishCall head x args).value p) ((finishCall head y args').value c) := by
  have hu : Arena.Same p.types unknown c.types unknown := h.same_builtin (by decide)
  have htaint := hargs.taint
  cases hxy with
  | declassifier =>
    have hflow := Lockstep.flow h (.clears head.span head.target htaint)
    refine ⟨hflow, ?_, .none _⟩
    refine Arena.Same.unwrap h.left.types h.right.types ?_
    cases hargs with
    | nil => exact hu
    | cons hv _ => exact hv.type
  | @function sig known =>
    have hreport := Lockstep.reports h (reports_params head sig.paramTypes args p)
      (reports_params head sig.paramTypes args' c)
    have hflow := hreport.trans
      (Lockstep.flow hreport.stop (.call ⟨head.target, head.span, sig.effect, none, none⟩ htaint))
    have hsame := hflow.stop.same_declared known.result
    exact ⟨hflow, hsame, htaint.merge (hflow.stop.taintOf_below hsame)⟩
  | @value ps qs r r' params result =>
    have hreport := Lockstep.reports h (reports_params head ps args p)
      (reports_params head qs args' c)
    have hflow := hreport.trans (Lockstep.flow hreport.stop
      (.call ⟨head.target, head.span, head.tagged, head.capability, none⟩ htaint))
    have hsame := hflow.same result
    exact ⟨hflow, hsame, htaint.merge (hflow.stop.taintOf_below hsame)⟩
  | external =>
    exact ⟨.flow h (.call ⟨head.target, head.span, head.external.1, head.external.2, none⟩ htaint),
      hu, htaint⟩
  | @notCallable s t =>
    have hreport : Lockstep d p c _ _ := Lockstep.reports h
      ((reports_label fun _ => .bind (reports_report .notCallable rfl rfl) fun _ => .pure _ :
        Walk.Keeps Reports (finishCall head (.notCallable s) args)) p)
      ((reports_label fun _ => .bind (reports_report .notCallable rfl rfl) fun _ => .pure _ :
        Walk.Keeps Reports (finishCall head (.notCallable t) args')) c)
    exact ⟨hreport, hreport.same hu, htaint⟩
  | undefined =>
    have hreport := Lockstep.reports h (reports_undefined head.target head.span p)
      (reports_undefined head.target head.span c)
    exact ⟨hreport, hreport.same hu, .none _⟩

/-! ## Record types -/

theorem Over.unwrap_eq {s : State} (h : Over d s) {id : TypeId} (hid : id ≤ d.types.size) :
    s.types.unwrap id = d.types.unwrap id := by
  rw [Arena.unwrap, Arena.unwrap, h.ext.lookup_eq id hid]

theorem Over.dataInfo_eq {s : State} (h : Over d s) {id : TypeId} (hid : id ≤ d.types.size) :
    s.types.dataInfo? id = d.types.dataInfo? id := by
  rw [Arena.dataInfo?, Arena.dataInfo?, h.ext.lookup_eq id hid, h.ext.datas_eq]

/-- The record type of a name is settled by the declarations. -/
theorem Over.value_dataType {s : State} (h : Over d s) (hd : Ground d) (name : String)
    (span : Span) : (dataType name span).value s = (dataType name span).value d := by
  rw [Check.value_dataType, Check.value_dataType, h.aliases]
  cases hr : d.aliases.resolve? name with
  | none => rfl
  | some id =>
    have hid := hd.aliases hr
    dsimp only
    rw [h.unwrap_eq hid, h.dataInfo_eq (hd.types.unwrap_le hid)]

theorem Ground.dataType_le (hd : Ground d) (name : String) (span : Span) :
    ((dataType name span).value d).1 ≤ d.types.size := by
  rw [Check.value_dataType]
  cases hr : d.aliases.resolve? name with
  | none => exact hd.types.builtin_le (show unknown ≤ 8 by decide)
  | some id =>
    dsimp only
    cases d.types.dataInfo? (d.types.unwrap id) with
    | none => exact hd.types.builtin_le (show unknown ≤ 8 by decide)
    | some info => exact hd.types.unwrap_le (hd.aliases hr)

/-! ## Expressions -/

mutual

/-- **Expressions are walked in lockstep.** -/
theorem lockstep_expr : ∀ (e : Expr) {p c : State}, Paired d p c →
    Lockstep d p c ((checkExpr e).after p) ((checkExpr e).after c) ∧
      Value.Paired ((checkExpr e).after p).types ((checkExpr e).after c).types
        ((checkExpr e).value p) ((checkExpr e).value c)
  | .name span name, p, c, h => by
    rw [checkExpr]
    simp only [Walk.after_bind, Walk.value_bind, Walk.after_lookup]
    obtain ⟨hp, hc⟩ | ⟨i, s, j, t, hp, -, hc, -, hs⟩ := h.lookup name
    · rw [hp, hc]
      have hreport := Lockstep.reports h (reports_undefined name span p)
        (reports_undefined name span c)
      exact ⟨hreport, hreport.stop.builtin (show unknown ≤ 8 by decide) (.none _)⟩
    · rw [hp, hc]
      exact ⟨.refl h, hs.type, hs.taint⟩
  | .literal _ value, p, c, h => by
    rw [checkExpr]
    exact ⟨.refl h, h.builtin (literalType_le value) (.none _)⟩
  | .binary span op left right, p, c, h => by
    rw [checkExpr]
    obtain ⟨hl, hv⟩ := lockstep_expr left h
    obtain ⟨hr, hw⟩ := lockstep_expr right hl.stop
    obtain ⟨hlast, hvw⟩ := lockstep_binary hr.stop (hr.value hv) hw span op
    exact ⟨(hl.trans hr).trans hlast, hvw⟩
  | .unary span op operand, p, c, h => by
    rw [checkExpr]
    obtain ⟨hl, hv⟩ := lockstep_expr operand h
    obtain ⟨hlast, hw⟩ := lockstep_unary hl.stop hv span op
    exact ⟨hl.trans hlast, hw⟩
  | .call span target args effect capability, p, c, h => by
    rw [checkExpr]
    have hcallee := h.callee ⟨span, target, effect, capability⟩
    have hfirst := Lockstep.reports h (reports_callee ⟨span, target, effect, capability⟩ p)
      (reports_callee ⟨span, target, effect, capability⟩ c)
    obtain ⟨hargs, hvs⟩ := lockstep_exprs span args hfirst.stop
    obtain ⟨hlast, hv⟩ := lockstep_finishCall hargs.stop ((hfirst.trans hargs).callee hcallee) hvs
      ⟨span, target, effect, capability⟩
    exact ⟨(hfirst.trans hargs).trans hlast, hv⟩
  | .construct span type fields, p, c, h => by
    rw [checkExpr]
    have hinfo : (dataType type span).value p = (dataType type span).value c :=
      (h.left.value_dataType h.ground type span).trans
        (h.right.value_dataType h.ground type span).symm
    have hle : ((dataType type span).value c).1 ≤ d.types.size := by
      rw [h.right.value_dataType h.ground]
      exact h.ground.dataType_le type span
    have hfirst := Lockstep.reports h (reports_dataType type span p) (reports_dataType type span c)
    simp only [Walk.after_bind, Walk.value_bind, hinfo]
    generalize (dataType type span).value c = found at hle
    obtain ⟨id, info⟩ := found
    obtain ⟨hinits, htaint⟩ := lockstep_inits span info [] (.none none) fields hfirst.stop
    have hcomplete : ∀ seen, Walk.Keeps Reports
        (info.forM fun info => checkComplete span info seen) := by
      intro seen
      cases info with
      | none => exact .pure _
      | some info => exact reports_complete _ _ _
    have hlast := fun seen seen' =>
      Lockstep.reports hinits.stop (hcomplete seen _) (hcomplete seen' _)
    exact ⟨(hfirst.trans hinits).trans (hlast _ _), (hlast _ _).stop.same_declared hle, htaint⟩
  | .member span base field, p, c, h => by
    rw [checkExpr]
    obtain ⟨hl, hv⟩ := lockstep_expr base h
    obtain ⟨hlast, hw⟩ := lockstep_member hl.stop hv span field
    exact ⟨hl.trans hlast, hw⟩
  | .wrap _ kind inner, p, c, h => by
    rw [checkExpr]
    obtain ⟨hl, hv⟩ := lockstep_expr inner h
    obtain ⟨hlast, hw⟩ := lockstep_wrap hl.stop hv kind
    exact ⟨hl.trans hlast, hw⟩
  | .none _, p, c, h => by
    rw [checkExpr]
    exact ⟨.refl h, h.builtin (show null ≤ 8 by decide) (.none _)⟩
  | .list span items, p, c, h => by
    rw [checkExpr]
    obtain ⟨hl, helem, htaint⟩ := lockstep_items span items h (.none : ElemPaired p c none none)
      (.none none)
    have ha := hl.stop.left.types
    have hb := hl.stop.right.types
    have hsame := helem.getD (hl.stop.same_builtin (show unknown ≤ 8 by decide))
    have hmade := hsame.list ha hb
    exact ⟨hl.trans (.made hl.stop hmade), hmade.same, htaint⟩
  | .await span task, p, c, h => by
    rw [checkExpr]
    obtain ⟨hl, hv⟩ := lockstep_expr task h
    have hlast := Lockstep.observe hl.stop (o := .suspends span "await") rfl
    exact ⟨hl.trans hlast, hlast.value hv⟩

theorem lockstep_exprs (outer : Span) : ∀ (es : List Expr) {p c : State}, Paired d p c →
    Lockstep d p c ((checkExprs outer es).after p) ((checkExprs outer es).after c) ∧
      ArgsPaired ((checkExprs outer es).after p) ((checkExprs outer es).after c)
        ((checkExprs outer es).value p) ((checkExprs outer es).value c)
  | [], p, c, h => by
    rw [checkExprs]
    exact ⟨.refl h, .nil⟩
  | e :: es, p, c, h => by
    rw [checkExprs]
    obtain ⟨hl, hv⟩ := lockstep_expr e h
    obtain ⟨hr, hvs⟩ := lockstep_exprs outer es hl.stop
    exact ⟨hl.trans hr, .cons (hr.value hv) hvs⟩

theorem lockstep_items (outer : Span) : ∀ (es : List Expr) {p c : State}, Paired d p c →
    ∀ {elem elem' : Option TypeId} {taint taint' : Option Taint}, ElemPaired p c elem elem' →
    Taint.Below taint taint' →
    Lockstep d p c ((checkItems outer elem taint es).after p)
        ((checkItems outer elem' taint' es).after c) ∧
      ElemPaired ((checkItems outer elem taint es).after p)
        ((checkItems outer elem' taint' es).after c) ((checkItems outer elem taint es).value p).1
        ((checkItems outer elem' taint' es).value c).1 ∧
      Taint.Below ((checkItems outer elem taint es).value p).2
        ((checkItems outer elem' taint' es).value c).2
  | [], p, c, h, elem, elem', taint, taint', he, ht => by
    rw [checkItems, checkItems]
    exact ⟨.refl h, he, ht⟩
  | e :: es, p, c, h, elem, elem', taint, taint', he, ht => by
    rw [checkItems, checkItems]
    obtain ⟨hl, hv⟩ := lockstep_expr e h
    obtain ⟨hj, hid⟩ := lockstep_joinItem hl.stop (hl.elem he) hv
      (e.span.orElse outer)
    obtain ⟨hr, hrest⟩ := lockstep_items outer es hj.stop (.some hid) (ht.merge hv.taint)
    exact ⟨(hl.trans hj).trans hr, hrest⟩

theorem lockstep_inits (outer : Span) (info : Option DataInfo) (seen : List String)
    {taint taint' : Option Taint} (ht : Taint.Below taint taint') :
    ∀ (is : List Init) {p c : State}, Paired d p c →
    Lockstep d p c ((checkInits outer info seen taint is).after p)
        ((checkInits outer info seen taint' is).after c) ∧
      Taint.Below ((checkInits outer info seen taint is).value p).2
        ((checkInits outer info seen taint' is).value c).2
  | [], p, c, h => by
    rw [checkInits, checkInits]
    exact ⟨.refl h, ht⟩
  | .mk span name value :: rest, p, c, h => by
    rw [checkInits, checkInits]
    obtain ⟨hl, hv⟩ := lockstep_expr value h
    cases info with
    | none =>
      obtain ⟨hr, hrest⟩ := lockstep_inits outer none seen (ht.merge hv.taint) rest hl.stop
      exact ⟨hl.trans hr, hrest⟩
    | some info =>
      have hinit := Lockstep.reports hl.stop
        (reports_init info seen name (span.orElse outer) value.span ((checkExpr value).value p) _)
        (reports_init info seen name (span.orElse outer) value.span ((checkExpr value).value c) _)
      simp only [Walk.after_bind, Walk.value_bind, value_init]
      obtain ⟨hr, hrest⟩ := lockstep_inits outer (some info) _ (ht.merge hv.taint) rest hinit.stop
      exact ⟨(hl.trans hinit).trans hr, hrest⟩

end

end CoreCheck.Check

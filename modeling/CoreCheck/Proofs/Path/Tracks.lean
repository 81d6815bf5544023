import CoreCheck.Proofs.Path.Along

/-!
# Proofs/Path/Tracks — a path and the walk stay abreast

A path and the walk over the whole body are kept paired from one statement to the next.  On the path
both sides do the same, except that the walk keeps the taint of everything ever stored.  Off the path
only the walk goes on; it leaves the scopes it opens and only adds taint, so the pairing holds.  After
a return the path is over, and only the walk is looked at further.  A name that its scope has already
is refused on both sides.
-/

namespace CoreCheck.Check.Path

open CoreCheck.Types CoreCheck.Scope CoreCheck.Ir

variable {d p c : State}

/-! ## Variables -/

theorem lockstep_initial (h : Paired d p c) {v w : Value} (hv : Value.Paired p.types c.types v w)
    (fn : Enclosing) (span : Span) (name : String) (written : Option TypeExpr) :
    Lockstep d p c ((initial fn written v).after p) ((bindingOf fn span name written w).after c) ∧
      Value.Paired ((initial fn written v).after p).types
        ((bindingOf fn span name written w).after c).types ((initial fn written v).value p)
        ((bindingOf fn span name written w).value c) := by
  cases written with
  | some t =>
    obtain ⟨hl, hs⟩ := lockstep_resolveType fn.typeParams t fn.span h
    have hreport := Lockstep.reports hl.stop (Walk.Course.refl _)
      (reports_bindingOf fn span name t w c)
    rw [value_bindingOf_some]
    exact ⟨hl.trans hreport, hreport.same hs, hv.taint.merge (hl.stop.taintOf_below hs)⟩
  | none =>
    have ha := h.left.types
    have hb := h.right.types
    have hu : Arena.Same p.types unknown c.types unknown := h.same_builtin (by decide)
    rw [value_bindingOf_none, after_bindingOf_none]
    simp only [initial, Walk.after_bind, Walk.value_bind, Walk.value_types, Walk.after_types,
      hv.type.kindOf_eq ha hb]
    by_cases hk : c.types.kindOf w.type = .null
    · simp only [hk, beq_self_eq_true, if_true]
      have hmade := hu.optional ha hb
      exact ⟨.made h hmade, hmade.same, hv.taint⟩
    · simp only [beq_false_of_ne hk, Bool.false_eq_true, if_false]
      exact ⟨.refl h, hv⟩

/-- **The walk keeps what a path replaces.** -/
theorem lockstep_store (h : Paired d p c) {v w : Value} (hv : Value.Paired p.types c.types v w)
    (span at_ : Span) (name : String) :
    Lockstep d p c ((store assignable name v).after p) ((assign span at_ name w).after c) := by
  have hlook := h.lookup name
  obtain ⟨hc, hr⟩ | ⟨j, t, hc, hcase⟩ := assign_cases span at_ name w c
  · obtain ⟨hp, -⟩ | ⟨_, _, _, _, -, -, hc', -⟩ := hlook
    · rw [store, Walk.after_bind, hp]
      exact .reports h (Walk.Course.refl _) hr
    · exact nomatch hc.symm.trans hc'
  · obtain ⟨-, hc'⟩ | ⟨i, s, j', t', hp, hi, hc', hj, hs⟩ := hlook
    · exact nomatch hc'.symm.trans hc
    obtain ⟨rfl, rfl⟩ := Prod.mk.inj (Option.some.inj (hc.symm.trans hc'))
    have hassign : assignable s = !(!t.flags.mutable && t.kind != .param) := by
      rw [assignable, hs.kind_eq, hs.mutable_eq, bne]
      cases t.flags.mutable <;> simp
    rw [store, Walk.after_bind, hp, Walk.after_lookup]
    dsimp only
    obtain ⟨hno, hr⟩ | ⟨hyes, u, hr, he⟩ := hcase
    · rw [hassign, hno]
      exact .reports h (Walk.Course.refl _) hr
    · have hreport := Lockstep.reports h (Walk.Course.refl p) hr
      have hju : u.table.lookupId? name = some j := by
        rw [hr.eq]
        exact hj
      rw [hassign, hyes, he]
      refine hreport.trans (.update hreport.stop hi hju (fun _ => ⟨rfl, rfl⟩)
        (fun _ => ⟨rfl, rfl⟩) fun hs' => ?_)
      exact ⟨hs'.kind_eq, hs'.mutable_eq, hs'.signature_eq, hs'.known, hs'.variant, hs'.type,
        hv.taint.trans (Taint.below_merge_right _ _)⟩

/-- Waiting for tasks changes nothing that is paired. -/
theorem lockstep_awaitTasks (span : Span) : ∀ (names : List String) {p c : State}, Paired d p c →
    Lockstep d p c p ((awaitTasks span names).after c)
  | [], p, c, h => .refl h
  | name :: names, p, c, h => by
    rw [awaitTasks, Walk.after_bind, Walk.after_lookup]
    obtain ⟨-, hc⟩ | ⟨i, s, j, t, -, hi, hc, hj, -⟩ := h.lookup name
    · rw [hc]
      have hreport := Lockstep.reports_right h (reports_undefined name span)
      exact hreport.trans (lockstep_awaitTasks span names hreport.stop)
    · rw [hc]
      dsimp only
      rw [Walk.after_ite]
      split
      · have hmark := Lockstep.update_right h hj (g := fun sym =>
          { sym with flags := { sym.flags with awaited := true } }) (fun _ => ⟨rfl, rfl⟩)
          fun hs => ⟨hs.kind_eq, hs.mutable_eq, hs.signature_eq, hs.known, hs.variant, hs.type,
            hs.taint⟩
        exact hmark.trans (lockstep_awaitTasks span names hmark.stop)
      · have hreport := fun m => Lockstep.reports_right h (reports_error .typeMismatch span m rfl)
        exact (hreport _).trans (lockstep_awaitTasks span names (hreport _).stop)

/-! ## Patterns -/

theorem lockstep_receiveName (h : Paired d p c) {i j : TypeId}
    (hs : Arena.Same p.types i c.types j) {t t' : Option Taint} (ht : Taint.Below t t')
    (span span' : Span) (name : String) :
    Lockstep d p c ((receiveName Walk.define span i t name).after p)
      ((bindName span' j t' name).after c) := by
  have hvariant := hasVariant_eq h hs name
  have hother := h.variantType name
  have hfirst := Lockstep.reports h (reports_variantType name p) (reports_variantType name c)
  unfold receiveName bindName
  rw [Walk.after_bind, Walk.after_bind, Walk.value_types, Walk.value_types, Walk.after_types,
    Walk.after_types, Walk.after_ite, Walk.after_ite, hvariant]
  split
  · exact .refl h
  · rw [Walk.after_bind, Walk.after_bind, hother]
    refine hfirst.trans ?_
    cases hfound : (variantType? name).value c with
    | some t =>
      exact .reports_right hfirst.stop (reports_otherVariant c.types span' j t name)
    | none =>
      exact .define hfirst.stop name (.plain _ (by decide) _ _ _ (hfirst.same hs) ht) _ _

mutual

/-- **A pattern binds alike on the path and in the walk.** -/
theorem lockstep_receive : ∀ (pat : Pattern) {p c : State}, Paired d p c → ∀ {i j : TypeId},
    Arena.Same p.types i c.types j → ∀ {t t' : Option Taint}, Taint.Below t t' → ∀ outer : Span,
    Lockstep d p c ((receive Walk.define i t pat).after p) ((bindPattern outer j t' pat).after c)
  | .wildcard _, p, c, h, i, j, hs, t, t', ht, outer => by
    rw [receive, bindPattern]
    exact .refl h
  | .name at_ name, p, c, h, i, j, hs, t, t', ht, outer => by
    rw [receive, bindPattern]
    exact lockstep_receiveName h hs ht _ _ name
  | .literal at_ value, p, c, h, i, j, hs, t, t', ht, outer => by
    rw [receive, bindPattern]
    obtain ⟨hl, -⟩ := lockstep_expr value h
    have hreport := Lockstep.reports_right hl.stop
      (reports_literalPattern (at_.orElse outer) j value ((checkExpr value).value c))
    exact hl.trans hreport
  | .none at_, p, c, h, i, j, hs, t, t', ht, outer => by
    rw [receive, bindPattern]
    exact .reports_right h (reports_nonePattern (at_.orElse outer) j)
  | .wrap at_ kind inner, p, c, h, i, j, hs, t, t', ht, outer => by
    rw [receive, bindPattern]
    have hpart := h.wrappedType hs kind at_ (at_.orElse outer)
    have hfirst := Lockstep.reports h (reports_wrappedType kind at_ i p)
      (reports_wrappedType kind (at_.orElse outer) j c)
    have hinner := lockstep_receive inner hfirst.stop (hfirst.same hpart) ht (at_.orElse outer)
    exact (hfirst.trans hinner).trans (.reports_right hinner.stop (reports_catchAll _ inner))
  | .ctor at_ name args, p, c, h, i, j, hs, t, t', ht, outer => by
    rw [receive, bindPattern]
    have htaken := h.takenBy hs at_ (at_.orElse outer) name args.length
    have hle := @Paired.taken_le d p c h at_ i name args.length
    have hfirst := Lockstep.reports h (reports_takenBy at_ i name args.length p)
      (reports_takenBy (at_.orElse outer) j name args.length c)
    rw [Walk.after_bind, Walk.after_bind, ← htaken]
    refine hfirst.trans ?_
    cases hfound : (takenBy at_ i name args.length).value p with
    | variant => exact .refl hfirst.stop
    | unclear =>
      exact lockstep_receiveParts args hfirst.stop [] (fun _ hf => nomatch hf) ht
        (at_.orElse outer)
    | data id info =>
      exact lockstep_receiveParts args hfirst.stop info.fields (hle hfound) ht (at_.orElse outer)

theorem lockstep_receiveParts : ∀ (ps : List Pattern) {p c : State}, Paired d p c →
    ∀ fields : List Field, (∀ f ∈ fields, f.type ≤ d.types.size) →
    ∀ {t t' : Option Taint}, Taint.Below t t' → ∀ outer : Span,
    Lockstep d p c ((receiveParts Walk.define t fields ps).after p)
      ((bindArgs outer t' fields ps).after c)
  | [], p, c, h, fields, hf, t, t', ht, outer => by
    rw [receiveParts, bindArgs]
    exact .refl h
  | pat :: ps, p, c, h, fields, hf, t, t', ht, outer => by
    rw [receiveParts, bindArgs]
    have hs := h.same_declared (h.ground.fieldType_le hf)
    have hfirst := lockstep_receive pat h hs (ht.merge (h.taintOf_below hs)) outer
    have hall := Lockstep.reports_right hfirst.stop
      (reports_catchAll ((fields.head?.map Field.type).getD unknown) pat)
    have hrest := lockstep_receiveParts ps hall.stop fields.tail
      (fun f hmem => hf f (List.mem_of_mem_tail hmem)) ht outer
    exact (hfirst.trans hall).trans hrest

end

/-! ## Parameters -/

theorem startParams_define (ps : List Param) : startParams Walk.define ps = defineParams ps := by
  induction ps with
  | nil => rw [startParams, defineParams]
  | cons q ps ih => rw [startParams, defineParams, ih]

/-- Parameters are bound alike. -/
theorem lockstep_defineParams : ∀ (ps : List Param), (∀ q ∈ ps, q.type ≤ d.types.size) →
    ∀ {p c : State}, Paired d p c →
    Lockstep d p c ((defineParams ps).after p) ((defineParams ps).after c)
  | [], _, p, c, h => .refl h
  | q :: ps, hle, p, c, h => by
    have hs := h.same_declared (hle q (.head _))
    have hdefine := Lockstep.define h q.name
      (.plain .param (by decide) q.span q.span {} hs (h.taintOf_below hs)) "parameter" "parameter"
    exact hdefine.trans (lockstep_defineParams ps (fun q hq => hle q (.tail _ hq)) hdefine.stop)

/-! ## Statements -/

/-- **The walk tracks a path** that starts in `p`: they go on alike, no more taint flows on the path,
and as long as the path goes on the two are paired. -/
structure Tracks (d p p' c' : State) (on : Onwards) (trail : Trail) : Prop where
  onwards : on = trail.1
  flows : ∃ l, p'.flows = p.flows ++ l ∧ List.Forall₂ Observation.Below l trail.2
  checked : Paired d c' c'
  paired : on.isSome = true → Paired d p' c'
  scopes : on.isSome = true → p'.scopes = p.scopes

namespace Tracks

variable {p' c' : State} {on : Onwards} {trail : Trail}

/-- A piece that lies on the path as a whole. -/
theorem whole (h : Lockstep d p c p' c') (on : Onwards) :
    Tracks d p p' c' on (on, c'.flows.drop c.flows.length) := by
  obtain ⟨l, r, hl, hr, hlr⟩ := h.flows
  exact ⟨rfl, ⟨l, hl, by rwa [hr, List.drop_left]⟩, h.stop.diag, fun _ => h.stop,
    fun _ => h.left_scopes⟩

/-- One piece after another. -/
theorem trans {p'' c'' : State} {turns : Turns} {flows : List Observation}
    (h : Tracks d p p' c' (some turns) (some turns, flows)) (h' : Tracks d p' p'' c'' on trail) :
    Tracks d p p'' c'' on (trail.1, flows ++ trail.2) := by
  obtain ⟨l, hl, hflows⟩ := h.flows
  obtain ⟨l', hl', hflows'⟩ := h'.flows
  exact ⟨h'.onwards, ⟨l ++ l', by rw [hl', hl, List.append_assoc],
    List.rel_append hflows hflows'⟩, h'.checked, h'.paired,
    fun hon => (h'.scopes hon).trans (h.scopes rfl)⟩

/-- A piece in lockstep before the rest of a path. -/
theorem ahead {p'' c'' : State} (h : Lockstep d p c p' c') (h' : Tracks d p' p'' c'' on trail) :
    Tracks d p p'' c'' on (trail.1, c'.flows.drop c.flows.length ++ trail.2) :=
  (whole h (some [])).trans h'

/-- The walk goes on alone. -/
theorem aside {c'' : State} (h : Tracks d p p' c' on trail) (hc : Enclosed c' c'')
    (hd : Paired d c'' c'') : Tracks d p p' c'' on trail :=
  ⟨h.onwards, h.flows, hd, fun hon => (h.paired hon).aside hc hd, h.scopes⟩

/-- A path inside a scope. -/
theorem within (kind : ScopeKind) (span : Span) {x : Walk Onwards} {y : Walk Trail}
    (h : Paired d p c) (hy : Walk.Keeps Onward y)
    (hxy : Tracks d ((Walk.enter kind span).after p) (x.after ((Walk.enter kind span).after p))
      (y.after ((Walk.enter kind span).after c)) (x.value ((Walk.enter kind span).after p))
      (y.value ((Walk.enter kind span).after c))) :
    Tracks d p ((Walk.within kind span x).after p) ((Walk.within kind span y).after c)
      ((Walk.within kind span x).value p) ((Walk.within kind span y).value c) := by
  have hscopes := (hy ((Walk.enter kind span).after c)).scopes_eq (h.right.table.enter kind span)
  obtain ⟨l, hl, hflows⟩ := hxy.flows
  refine ⟨hxy.onwards, ⟨l, (flows_within kind span x p).trans hl, hflows⟩, ?_, ?_, ?_⟩
  · exact .leave h.right.table h.right.table hxy.checked hscopes hscopes
  · exact fun hon => .leave h.left.table h.right.table (hxy.paired hon) (hxy.scopes hon) hscopes
  · intro hon
    rw [Walk.after_within, after_leave kind span h.left.table (hxy.scopes hon)]
    rfl

end Tracks

theorem onward_alongBlock (fn : Enclosing) (turns : Turns) (ss : List Stmt) :
    Walk.Keeps Onward (alongBlock fn turns ss) := fun s => by
  rw [after_alongBlock]
  exact onward_block fn ss s

section

variable {fn : Enclosing}

/-- A case that is taken. -/
theorem tracks_arm (span : Span) (pattern : Pattern) (body : List Stmt) (outer : Span)
    {v w : Value} (hv : Value.Paired p.types c.types v w) (h : Paired d p c) (turns : Turns)
    (hbody : ∀ {p c : State}, Paired d p c →
      Tracks d p ((steps assignable Walk.define fn turns body).after p)
        ((alongBlock fn turns body).after c) ((steps assignable Walk.define fn turns body).value p)
        ((alongBlock fn turns body).value c)) :
    Tracks d p
      ((Walk.within .matchArm (span.orElse outer) do
        receive Walk.define v.type v.taint pattern
        steps assignable Walk.define fn turns body).after p)
      ((Walk.within .matchArm (span.orElse outer)
        (alongArm (span.orElse outer) w pattern (alongBlock fn turns body))).after c)
      ((Walk.within .matchArm (span.orElse outer) do
        receive Walk.define v.type v.taint pattern
        steps assignable Walk.define fn turns body).value p)
      ((Walk.within .matchArm (span.orElse outer)
        (alongArm (span.orElse outer) w pattern (alongBlock fn turns body))).value c) := by
  have henter := h.enter .matchArm .matchArm (span.orElse outer) (span.orElse outer)
  have hpattern := lockstep_receive pattern henter hv.type hv.taint (span.orElse outer)
  refine .within .matchArm (span.orElse outer) h ?_ (.ahead hpattern (hbody hpattern.stop))
  intro s
  exact Walk.Course.trans (onward_pattern (span.orElse outer) w.type w.taint pattern s)
    (onward_alongBlock fn turns body _)

mutual

/-- **The walk tracks every path through a statement.** -/
theorem tracks_stmt : ∀ (s : Stmt) (turns : Turns) {p c : State}, Paired d p c →
    Tracks d p ((step assignable Walk.define fn turns s).after p) ((alongStmt fn turns s).after c)
      ((step assignable Walk.define fn turns s).value p) ((alongStmt fn turns s).value c)
  | .bind span name written value, turns, p, c, h => by
    rw [step, alongStmt]
    have hvisit := Lockstep.observe_right h (o := .visits "let" name) rfl
    obtain ⟨hvalue, hv⟩ := lockstep_expr value hvisit.stop
    obtain ⟨hinit, hw⟩ := lockstep_initial hvalue.stop hv fn (value.span.orElse span) name written
    have hdefine := Lockstep.define hinit.stop name
      (.plain .binding (by decide) span span { «mutable» := true } hw.type hw.taint) "binding"
      "binding"
    exact .whole (((hvisit.trans hvalue).trans hinit).trans hdefine) (some turns)
  | .set span name value, turns, p, c, h => by
    rw [step, alongStmt]
    have hvisit := Lockstep.observe_right h (o := .visits "set" name) rfl
    obtain ⟨hvalue, hv⟩ := lockstep_expr value hvisit.stop
    have hstore := lockstep_store hvalue.stop hv span (value.span.orElse span) name
    exact .whole ((hvisit.trans hvalue).trans hstore) (some turns)
  | .ret span none, turns, p, c, h => by
    rw [step, alongStmt]
    have hvisit := Lockstep.observe_right h (o := .visits "return" "") rfl
    have hreport := Lockstep.reports_right hvisit.stop (reports_bareReturn fn span)
    exact .whole (hvisit.trans hreport) none
  | .ret span (some value), turns, p, c, h => by
    rw [step, alongStmt]
    have hvisit := Lockstep.observe_right h (o := .visits "return" "") rfl
    obtain ⟨hvalue, hv⟩ := lockstep_expr value hvisit.stop
    have hreport := fun v =>
      Lockstep.reports_right hvalue.stop (reports_return fn (value.span.orElse span) v)
    exact .whole ((hvisit.trans hvalue).trans (hreport _)) none
  | .eval span value, turns, p, c, h => by
    rw [step, alongStmt]
    obtain ⟨hvalue, -⟩ := lockstep_expr value h
    exact .whole hvalue (some turns)
  | .branch span cond yes no, turns, p, c, h => by
    rw [step, alongStmt]
    have hvisit := Lockstep.observe_right h (o := .visits "if" "") rfl
    obtain ⟨hcond, -⟩ := lockstep_expr cond hvisit.stop
    have hreport := Lockstep.reports_right hcond.stop
      (reports_condition (cond.span.orElse span) ((checkExpr cond).value
        ((Walk.observe (.visits "if" "")).after c)))
    have hahead := (hvisit.trans hcond).trans hreport
    simp only [Walk.after_bind, Walk.value_bind, after_seen, value_seen]
    by_cases hturn : turns.headD 0 = 0
    · simp only [hturn, if_true]
      have hyes := Tracks.within .block span hreport.stop
        (onward_alongBlock fn turns.tail yes)
        (tracks_block yes turns.tail (hreport.stop.enter .block .block span span))
      have hno := tracks_else no span [] hyes.checked
      rw [after_alongElse] at hno
      exact .ahead hahead (hyes.aside (enclosed_else fn span no _) hno.checked)
    · simp only [hturn, if_false]
      have hyes := Tracks.within .block span hreport.stop.diag
        (onward_alongBlock fn [] yes)
        (tracks_block yes [] (hreport.stop.diag.enter .block .block span span))
      have hchecked := hyes.checked
      rw [after_within_congr _ _ (after_alongBlock yes [])] at hchecked
      have haside := hreport.stop.aside
        ((enclosed_within .block span (onward_block fn yes)) _) hchecked
      exact .ahead hahead (tracks_else no span turns.tail haside)
  | .select span scrutinee cases, turns, p, c, h => by
    rw [step, alongStmt]
    have hvisit := Lockstep.observe_right h (o := .visits "match" "") rfl
    obtain ⟨hvalue, hv⟩ := lockstep_expr scrutinee hvisit.stop
    exact .ahead (hvisit.trans hvalue)
      (tracks_case cases span hv (turns.headD 0) turns.tail hvalue.stop)
  | .scope span body, turns, p, c, h => by
    rw [step, alongStmt]
    exact .within .block span h (onward_alongBlock fn turns body)
      (tracks_block body turns (h.enter .block .block span span))
  | .start span name task, turns, p, c, h => by
    rw [step, alongStmt]
    have hvisit := Lockstep.observe_right h (o := .visits "start" name) rfl
    obtain ⟨hvalue, hv⟩ := lockstep_expr task hvisit.stop
    have hstart := Lockstep.observe_right hvalue.stop
      (o := .suspends span ("start of task " ++ Text.quote name)) rfl
    have hv := hstart.value hv
    have hdefine := Lockstep.define hstart.stop name
      (.plain .task (by decide) span span {} hv.type hv.taint) "task" "task"
    exact .whole (((hvisit.trans hvalue).trans hstart).trans hdefine) (some turns)
  | .wait span names, turns, p, c, h => by
    rw [step, alongStmt]
    have hvisit := Lockstep.observe_right h (o := .visits "wait" "") rfl
    have hwait := Lockstep.observe_right hvisit.stop (o := .suspends span "wait") rfl
    exact .whole ((hvisit.trans hwait).trans (lockstep_awaitTasks span names hwait.stop))
      (some turns)

theorem tracks_block : ∀ (ss : List Stmt) (turns : Turns) {p c : State}, Paired d p c →
    Tracks d p ((steps assignable Walk.define fn turns ss).after p)
      ((alongBlock fn turns ss).after c) ((steps assignable Walk.define fn turns ss).value p)
      ((alongBlock fn turns ss).value c)
  | [], turns, p, c, h => by
    rw [steps, alongBlock]
    exact ⟨rfl, ⟨[], (List.append_nil _).symm, .nil⟩, h.diag, fun _ => h, fun _ => rfl⟩
  | s :: ss, turns, p, c, h => by
    rw [steps, alongBlock]
    have hs := tracks_stmt s turns h
    simp only [Walk.after_bind, Walk.value_bind]
    generalize (alongStmt fn turns s).value c = trail at hs ⊢
    obtain ⟨on, flows⟩ := trail
    obtain rfl := hs.onwards.symm
    dsimp only at hs ⊢
    cases hon : (step assignable Walk.define fn turns s).value p with
    | none =>
      rw [hon] at hs
      have hrest := (tracks_block ss [] hs.checked).checked
      rw [after_alongBlock] at hrest
      exact ⟨rfl, hs.flows, hrest, (fun hn => nomatch hn), fun hn => nomatch hn⟩
    | some turns' =>
      rw [hon] at hs
      exact hs.trans (tracks_block ss turns' (hs.paired rfl))

theorem tracks_else : ∀ (no : Option (List Stmt)) (span : Span) (turns : Turns) {p c : State},
    Paired d p c →
    Tracks d p ((stepElse assignable Walk.define fn span turns no).after p)
      ((alongElse fn span turns no).after c)
      ((stepElse assignable Walk.define fn span turns no).value p)
      ((alongElse fn span turns no).value c)
  | none, span, turns, p, c, h => by
    rw [stepElse, alongElse]
    exact ⟨rfl, ⟨[], (List.append_nil _).symm, .nil⟩, h.diag, fun _ => h, fun _ => rfl⟩
  | some body, span, turns, p, c, h => by
    rw [stepElse, alongElse]
    exact .within .block span h (onward_alongBlock fn turns body)
      (tracks_block body turns (h.enter .block .block span span))

theorem tracks_case : ∀ (cases : List Case) (outer : Span) {v w : Value} {p c : State},
    Value.Paired p.types c.types v w → ∀ (n : Nat) (turns : Turns), Paired d p c →
    Tracks d p ((stepCase assignable Walk.define fn outer v n turns cases).after p)
      ((alongCase fn outer w n turns cases).after c)
      ((stepCase assignable Walk.define fn outer v n turns cases).value p)
      ((alongCase fn outer w n turns cases).value c)
  | [], outer, v, w, p, c, hv, n, turns, h => by
    rw [stepCase, alongCase]
    exact ⟨rfl, ⟨[], (List.append_nil _).symm, .nil⟩, h.diag, fun _ => h, fun _ => rfl⟩
  | .mk span pattern body :: rest, outer, v, w, p, c, hv, 0, turns, h => by
    rw [stepCase, alongCase]
    have harm := tracks_arm span pattern body outer hv h turns fun h => tracks_block body turns h
    have hafter := after_arm span pattern body outer w (@after_alongBlock fn body turns) c
    have hext := (enclosed_cases fn outer w [.mk span pattern body] c).types
    rw [← hafter] at hext
    have hrest := tracks_case rest outer (hv.diag hext) 0 [] harm.checked
    rw [after_alongCase] at hrest
    exact harm.aside (enclosed_cases fn outer w rest _) hrest.checked
  | .mk span pattern body :: rest, outer, v, w, p, c, hv, n + 1, turns, h => by
    rw [stepCase, alongCase]
    have harm := tracks_arm span pattern body outer (hv.diag (.refl _)) h.diag [] fun h =>
      tracks_block body [] h
    have hchecked := harm.checked
    rw [after_arm span pattern body outer w (@after_alongBlock fn body [])] at hchecked
    have henclosed := enclosed_cases fn outer w [.mk span pattern body] c
    have haside := h.aside henclosed hchecked
    have hv' : Value.Paired p.types _ v w := hv.extends h.left.types h.left.types (.refl _)
      h.right.types hchecked.right.types henclosed.types
    exact tracks_case rest outer hv' n turns haside

end

end

end CoreCheck.Check.Path

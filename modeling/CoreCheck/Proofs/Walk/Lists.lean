import CoreCheck.Proofs.Match.Exhaustive
import CoreCheck.Proofs.Types.Order

/-!
# Proofs/Walk/Lists — the items of a list fit into its elements

The element type of a list is joined from the types of its items, one after the other, and may
change at every item.  A bound of the element type so far is a bound of all items before, because
fitting is transitive on ground types; with a placeholder among the items it need not be.
-/

namespace CoreCheck.Check

open CoreCheck.Types CoreCheck.Ir

/-! ## The bound so far -/

/-- **An element type takes the types seen so far**, all of them known and ground. -/
structure Takes (a : Arena) (seen : List TypeId) (elem : TypeId) : Prop where
  known : elem ≤ a.size
  ground : a.isGround elem = true
  seen_known : ∀ t ∈ seen, t ≤ a.size
  seen_ground : ∀ t ∈ seen, a.isGround t = true
  fits : ∀ t ∈ seen, a.compatible elem t = true

namespace Takes

variable {a b : Arena} {seen : List TypeId} {elem item : TypeId}

theorem single (h : item ≤ a.size) (hg : a.isGround item = true) (ha : a.Sound) :
    Takes a [item] item where
  known := h
  ground := hg
  seen_known := List.forall_mem_singleton.2 h
  seen_ground := List.forall_mem_singleton.2 hg
  fits := List.forall_mem_singleton.2 (by rw [ha.compatible_eq, Ty.compatible_refl])

/-- What was taken stays taken when the arena grows. -/
theorem grow (h : Takes a seen elem) (ha : a.Sound) (hb : b.Sound) (hab : a.Extends b) :
    Takes b seen elem := by
  have htree := fun id hid => ha.tree_extends hb hab id hid
  refine ⟨hab.le_size h.known, ?_, fun t ht => hab.le_size (h.seen_known t ht), fun t ht => ?_,
    fun t ht => ?_⟩
  · rw [Arena.isGround, htree elem h.known]
    exact h.ground
  · rw [Arena.isGround, htree t (h.seen_known t ht)]
    exact h.seen_ground t ht
  · rw [hb.compatible_eq, htree elem h.known, htree t (h.seen_known t ht), ← ha.compatible_eq]
    exact h.fits t ht

/-- **A join takes one item more.** -/
theorem join (h : Takes a seen elem) (ha : a.Sound) (hitem : item ≤ a.size)
    (hground : a.isGround item = true) {j : TypeId} (hj : (a.join elem item).2 = some j) :
    Takes (a.join elem item).1 (seen ++ [item]) j := by
  obtain ⟨hsound, hle⟩ := ha.join h.known hitem
  have hbounds := ha.bounds_join h.known hitem hj
  have hold := h.grow ha hsound (a.extends_join elem item)
  have htree := fun id hid => ha.tree_extends hsound (a.extends_join elem item) id hid
  have hjground : (a.join elem item).1.isGround j = true := hbounds.ground h.ground hground
  refine ⟨hle j hj, hjground, ?_, ?_, ?_⟩
  · exact List.forall_mem_append.2 ⟨hold.seen_known, List.forall_mem_singleton.2
      ((a.extends_join elem item).le_size hitem)⟩
  · refine List.forall_mem_append.2 ⟨hold.seen_ground, List.forall_mem_singleton.2 ?_⟩
    rw [Arena.isGround, htree item hitem]
    exact hground
  · refine List.forall_mem_append.2 ⟨fun t ht => ?_, List.forall_mem_singleton.2 ?_⟩
    · have hfits := hold.fits t ht
      rw [hsound.compatible_eq] at hfits ⊢
      refine Ty.compatible_trans hjground hold.ground (hold.seen_ground t ht) ?_ hfits
      rw [htree elem h.known]
      exact hbounds.left
    · rw [hsound.compatible_eq, htree item hitem]
      exact hbounds.right

end Takes

/-! ## The items in turn -/

/-- **The turn of an item**: the element type so far, the place and the value of the item, and the
state in which they are joined. -/
structure Turn where
  elem : Option TypeId
  span : Span
  value : Value
  state : State

namespace Turn

/-- What is done when it is the turn of an item. -/
def join (t : Turn) : Walk TypeId := joinItem t.elem t.span t.value

/-- Whether nothing is reported about an item, and its type is ground. -/
def isFine (t : Turn) : Bool :=
  t.join.isSilent t.state && t.state.types.isGround t.value.type

end Turn

/-- The turns of the items of a list, in their order. -/
def itemTurns (outer : Span) (elem : Option TypeId) (s : State) : List Expr → List Turn
  | [] => []
  | e :: es =>
    let turn : Turn := ⟨elem, e.span.orElse outer, (checkExpr e).value s, (checkExpr e).after s⟩
    turn :: itemTurns outer (some (turn.join.value turn.state)) (turn.join.after turn.state) es

/-- Of what is joined in silence there is a join. -/
theorem join_of_silent {s : State} {elem : TypeId} {span : Span} {v : Value}
    (h : (joinItem (some elem) span v).isSilent s = true) :
    ∃ j, (s.types.join elem v.type).2 = some j ∧ (joinItem (some elem) span v).value s = j ∧
      ((joinItem (some elem) span v).after s).types = (s.types.join elem v.type).1 := by
  cases hj : (s.types.join elem v.type).2 with
  | some j =>
    refine ⟨j, rfl, ?_, ?_⟩
    · simp only [joinItem, Walk.value_bind, Walk.value_types, Walk.after_types, hj]
      rfl
    · simp only [joinItem, Walk.after_bind, Walk.value_types, Walk.after_types, hj]
      rfl
  | none =>
    obtain ⟨diag, hreport⟩ : ∃ diag, (joinItem (some elem) span v).after s
        = (Walk.report diag).after { s with types := (s.types.join elem v.type).1 } := by
      simp only [joinItem, Walk.after_bind, Walk.value_types, Walk.after_types, hj]
      exact ⟨_, rfl⟩
    refine absurd ?_ (not_isSilent (x := Walk.report diag)
      (s := { s with types := (s.types.join elem v.type).1 }) rfl)
    rw [Walk.isSilent, hreport] at h
    exact h

/-- **The turns of the items behind the first** add their types to those seen so far. -/
theorem takes_checkItems {d s : State} (h : Paired d s s) (outer : Span) {seen : List TypeId}
    {elem : TypeId} (htakes : Takes s.types seen elem) (taint : Option Taint) (es : List Expr)
    (hfine : ∀ t ∈ itemTurns outer (some elem) s es, t.isFine = true) :
    ∃ last, ((checkItems outer (some elem) taint es).value s).1 = some last ∧
      ((checkItems outer (some elem) taint es).after s).types.Sound ∧
      Takes ((checkItems outer (some elem) taint es).after s).types
        (seen ++ (itemTurns outer (some elem) s es).map (·.value.type)) last := by
  induction es generalizing s seen elem taint with
  | nil =>
    rw [itemTurns, List.map_nil, List.append_nil, checkItems]
    exact ⟨elem, rfl, h.left.types, htakes⟩
  | cons e es ih =>
    rw [itemTurns] at hfine ⊢
    obtain ⟨hfirst, hrest⟩ := List.forall_mem_cons.1 hfine
    obtain ⟨hsilent, hground⟩ := Bool.and_eq_true_iff.1 hfirst
    obtain ⟨hl, hv⟩ := lockstep_expr e h
    have hsound := hl.stop.left.types
    have hlater := htakes.grow h.left.types hsound hl.left
    obtain ⟨j, hj, hvalue, htypes⟩ := join_of_silent hsilent
    have hjoin := (lockstep_joinItem hl.stop (.some (.refl hlater.known)) hv
      (e.span.orElse outer)).1.stop
    have hnext := hlater.join hsound hv.type.right hground hj
    rw [← htypes, ← hvalue] at hnext
    obtain ⟨last, hlast, hafter, htaken⟩ := ih hjoin hnext _ hrest
    refine ⟨last, ?_, ?_, ?_⟩
    · rw [checkItems]
      exact hlast
    · rw [checkItems]
      exact hafter
    · rw [checkItems, List.map_cons, List.append_cons]
      exact htaken

/-- A list is a list of the element type that is left in the end. -/
theorem checkExpr_list (span : Span) (items : List Expr) (s : State) :
    let elem := ((checkItems span none none items).value s).1.getD unknown
    let a := ((checkItems span none none items).after s).types
    ((checkExpr (.list span items)).after s).types = (a.list elem).1 ∧
      ((checkExpr (.list span items)).value s).type = (a.list elem).2 := by
  rw [checkExpr]
  exact ⟨rfl, rfl⟩

/-- **The items of a list fit into its elements**, if they are ground and nothing is reported about
them. -/
theorem fits_list {d s : State} (h : Paired d s s) (span : Span) (items : List Expr)
    (hfine : ∀ t ∈ itemTurns span none s items, t.isFine = true) :
    ∃ elem, ((checkExpr (.list span items)).after s).types.lookup
        ((checkExpr (.list span items)).value s).type = some (.list elem) ∧
      ∀ t ∈ itemTurns span none s items,
        ((checkExpr (.list span items)).after s).types.compatible elem t.value.type = true := by
  obtain ⟨htypes, hvalue⟩ := checkExpr_list span items s
  rw [htypes, hvalue]
  refine ⟨_, Arena.lookup_intern _ _, ?_⟩
  cases items with
  | nil => exact fun _ ht => by cases ht
  | cons e es =>
    rw [itemTurns] at hfine ⊢
    obtain ⟨hfirst, hrest⟩ := List.forall_mem_cons.1 hfine
    obtain ⟨-, hground⟩ := Bool.and_eq_true_iff.1 hfirst
    have hpaired := paired_expr h e
    have hsingle := Takes.single (expr_le h e) hground hpaired.left.types
    obtain ⟨last, hlast, hsound, htakes⟩ := takes_checkItems hpaired span hsingle
      (Taint.merge none ((checkExpr e).value s).taint) es hrest
    have hmade := Arena.made_list hsound htakes.known
    intro t ht
    have hfits := (htakes.grow hsound hmade.sound hmade.ext).fits t.value.type
      (List.mem_map_of_mem (f := fun t : Turn => t.value.type) ht)
    have helem : ((checkItems span none none (e :: es)).value s).1 = some last := by
      rw [checkItems]
      exact hlast
    rw [helem, checkItems]
    exact hfits

/-- **Joining gives a bound**: of two types of an arena in use, and over all items of a list that is
walked in the body of a function. -/
theorem join_bounds :
    (∀ (pool : Strings) (d : Issued), (Issued.start pool).Used d → ∀ i ∈ d.ids, ∀ j ∈ d.ids,
      ∀ k, (d.arena.join i j).2 = some k →
        (d.arena.join i j).1.compatible k i = true ∧ (d.arena.join i j).1.compatible k j = true) ∧
    ∀ (m : Module), ∀ b ∈ (survey m).bodies, ∀ span items s,
      b.Meets m (.expr (.list span items), s) →
      (∀ t ∈ itemTurns span none s items, t.isFine = true) →
      ∃ elem, ((checkExpr (.list span items)).after s).types.lookup
          ((checkExpr (.list span items)).value s).type = some (.list elem) ∧
        ∀ t ∈ itemTurns span none s items,
          ((checkExpr (.list span items)).after s).types.compatible elem t.value.type = true := by
  constructor
  · intro pool d hd i hi j hj k hk
    obtain ⟨h, -, -⟩ := (Issued.ordered_start pool).run Issued.Ordered.use hd
    have hle : ∀ q ∈ d.ids, q ≤ d.arena.size := fun q hq => (h.issued.1 hq).2
    have hbounds := h.sound.bounds_join (hle i hi) (hle j hj) hk
    obtain ⟨hsound, -⟩ := h.sound.join (hle i hi) (hle j hj)
    have htree := fun q hq => h.sound.tree_extends hsound (d.arena.extends_join i j) q (hle q hq)
    rw [hsound.compatible_eq, hsound.compatible_eq, htree i hi, htree j hj]
    exact ⟨hbounds.left, hbounds.right⟩
  · intro m b hb span items s hmeets hfine
    exact fits_list (hmeets.grounded hb).paired span items hfine

/-- A list of a number, of nothing and of a number that may be missing. -/
def mixedItems : List Expr :=
  [.literal {} (.int 1), .none {}, .wrap {} .some (.literal {} (.int 2))]

/-- A function that walks the list and nothing else. -/
def listsMixed : Func := funcOf "f" [] none .pure [.eval {} (.list {} mixedItems)]

/-- The state in which the list is walked. -/
def mixedState (b : Body) : State :=
  (defineParams b.signature.params).after ((Walk.enter .function {}).after
    ((survey (moduleOf [.func listsMixed])).start b))

/-- The element type is an optional number, which takes all three items. -/
theorem join_bounds_mixedItems :
    ((Issued.start {}).arena.join int null).1.compatible 9 null = true ∧
    ∃ b ∈ (survey (moduleOf [.func listsMixed])).bodies,
      (itemTurns {} none (mixedState b) mixedItems).length = 3 ∧
      ∃ elem, ((checkExpr (.list {} mixedItems)).after (mixedState b)).types.lookup
          ((checkExpr (.list {} mixedItems)).value (mixedState b)).type = some (.list elem) ∧
        ∀ t ∈ itemTurns {} none (mixedState b) mixedItems,
          ((checkExpr (.list {} mixedItems)).after (mixedState b)).types.compatible elem
            t.value.type = true := by
  obtain ⟨hpair, hlist⟩ := join_bounds
  refine ⟨(hpair {} _ .refl int (by decide +kernel) null (by decide +kernel) 9
    (by decide +kernel)).2, ?_⟩
  obtain ⟨b, hb, hlength, hfine⟩ : ∃ b ∈ (survey (moduleOf [.func listsMixed])).bodies,
      (itemTurns {} none (mixedState b) mixedItems).length = 3 ∧
      ∀ t ∈ itemTurns {} none (mixedState b) mixedItems, t.isFine = true := by decide +kernel
  have hfunc : b.func = listsMixed := by
    obtain ⟨hdecl, -, -⟩ := mem_bodies hb
    exact Decl.func.inj (Prod.mk.inj (List.mem_singleton.1 hdecl)).1
  refine ⟨b, hb, hlength, hlist _ b hb _ _ _ ?_ hfine⟩
  rw [Body.Meets, hfunc]
  exact .step (.head _) (.step (.head _) (.step (.head _) (.here _)))

end CoreCheck.Check

import CoreCheck.Proofs.Passage.Turns
import CoreCheck.Proofs.Walk.Verdict

/-!
# Proofs/Passage/Order — the diagnostics follow the declarations

All bodies are walked in one state, but a body never changes what the declarations left, apart from
how things are numbered: between two visits the state stays `Alike` the declared one.  So every body
is walked as if it were the only one, and what a check finds is what a survey of the bodies finds.
By induction over the visits the bag holds what belongs to the declarations visited so far, one
after the other, and nothing that was reported is lost or told twice.
-/

namespace CoreCheck.Check

open CoreCheck.Types CoreCheck.Scope CoreCheck.Ir

/-! ## Bodies leave the declarations alone -/

/-- **A founded state is alike itself.** -/
theorem Founded.alike {d : State} (h : Founded d) : Alike d d d := by
  have hover : Over d d := ⟨h.types, .refl _, rfl, h.table⟩
  refine ⟨h.ground, hover, hover, List.forall₂_same.2 fun ns hns m => ?_⟩
  cases hm : ns m with
  | none => exact .none
  | some sym =>
    have hsym := h.symbols sym (Table.mem_symbols_of_view hns hm)
    obtain ⟨sh, hsh, -⟩ := hsym.shape
    exact .some ⟨⟨rfl, rfl, rfl, hsym.known, fun hk => ⟨rfl, hsym.variant hk⟩,
      .refl (Arena.le_size_of_lookup hsh), .refl _⟩, rfl, rfl⟩

/-- A symbol that is kept is alike what it was alike, when nothing can be assigned to it. -/
theorem Symbol.Alike.kept {d a a' b : Arena} {s s' t : Symbol} (h : Symbol.Alike d a b s t)
    (hk : s.Kept s') (hfix : t.flags.mutable = false ∧ t.kind ≠ .param) (ha : a.Sound)
    (ha' : a'.Sound) (hext : a.Extends a') (hb : b.Sound) : Symbol.Alike d a' b s' t := by
  have htaint : s'.taint = s.taint :=
    hk.fixed (h.mutable_eq.trans hfix.1) fun hp => hfix.2 (h.kind_eq.symm.trans hp)
  refine ⟨⟨hk.kind_eq.trans h.kind_eq, hk.mutable_eq.trans h.mutable_eq,
    hk.signature_eq.trans h.signature_eq, fun sig hsig => h.known sig (hk.signature_eq ▸ hsig),
    fun hv => hk.type_eq ▸ h.variant (hk.kind_eq ▸ hv), ?_, htaint ▸ h.taint⟩,
    hk.span_eq.trans h.span_eq, htaint.trans h.taint_eq⟩
  rw [hk.type_eq]
  exact h.type.extends ha ha' hext hb hb (.refl _)

/-- What names stand for, after they were kept. -/
theorem alike_of_grown {d a a' b : Arena} (ha : a.Sound) (ha' : a'.Sound) (hext : a.Extends a')
    (hb : b.Sound) {v v' w : View}
    (hfix : ∀ ns ∈ w, ∀ m sym, ns m = some sym → sym.flags.mutable = false ∧ sym.kind ≠ .param)
    (h : List.Forall₂ (Names.Rel (Symbol.Alike d a b)) v w) (hg : v.Grown v') :
    List.Forall₂ (Names.Rel (Symbol.Alike d a' b)) v' w := by
  induction h generalizing v' with
  | nil => cases hg; exact .nil
  | @cons ns ms v w hns _ ih =>
    cases hg with
    | @cons _ ns' _ v' hgrown hrest =>
      refine .cons (fun m => ?_) (ih (fun ks hks => hfix ks (.tail _ hks)) hrest)
      have hrel := hns m
      have hkept := hgrown m
      have hms := hfix ms (.head _) m
      generalize ns m = x at hrel hkept
      generalize ms m = y at hrel hms ⊢
      generalize ns' m = z at hkept ⊢
      cases hrel with
      | none => cases hkept; exact .none
      | some hs =>
        cases hkept with
        | some hk => exact .some (hs.kept hk (hms _ rfl) ha ha' hext hb)

section Survey

variable {m : Module} {s : State} {f : Func} {sig : Signature}

/-- **A body leaves what the declarations left**, apart from how things are numbered. -/
theorem alike_walkBody (h : Alike (survey m).declared s (survey m).declared) (f : Func)
    (hsig : Signature.Known (survey m).declared.types sig) :
    Alike (survey m).declared ((walkBody f sig).after s) (survey m).declared := by
  have hf := founded_survey m
  have hwalk := enclosed_walkBody f sig s
  obtain ⟨hsound, -, hview⟩ := hwalk.table h.left.table
  have hleft := (mirror_walkBody h f hsig).1.stop.left
  refine ⟨h.ground, hleft, h.right, ?_⟩
  refine alike_of_grown h.left.types hleft.types hwalk.types h.right.types ?_ h.view hview
  exact fun ns hns n sym hsym => (hf.symbols sym (Table.mem_symbols_of_view hns hsym)).fixed

/-- **A body is seen as if it were the only one.** -/
theorem seen_eq (h : Alike (survey m).declared s (survey m).declared) (f : Func)
    (hsig : Signature.Known (survey m).declared.types sig) (i : Nat) :
    Passage.seen s f sig = (Body.ofFunc (survey m).declared i f sig).log := by
  obtain ⟨obs, hl, hr⟩ := (mirror_walkBody (h.logs s.owner (some i) #[] #[]) f hsig).1.log
  have hseen : Passage.seen s f sig = obs := by
    rw [LogGrows, List.nil_append] at hl
    rw [Passage.seen, hl, List.map_map]
    exact List.map_id _
  rw [hseen, Body.ofFunc]
  exact (logOf_of_logGrows rfl rfl hr).symm

end Survey

/-! ## Run by run -/

namespace Passage

/-- **The visits of a check**: every declaration with its number, and the signature if it has one. -/
def turns (m : Module) : List ((Decl × Nat) × Option Signature) :=
  m.decls.zipIdx.zip ((declare m.decls).value {})

/-- The body of a survey that belongs to a visit. -/
def surveyed (m : Module) (e : (Decl × Nat) × Option Signature) : Option Body :=
  match e with
  | ((.func f, i), some sig) => some (Body.ofFunc (survey m).declared i f sig)
  | _ => none

/-- What is found when a declaration is visited in a state: what its body gives, if it has one. -/
def found (o : Options) (s : State) (e : (Decl × Nat) × Option Signature) : List Diagnostic :=
  (walked s e).toList.flatMap (Body.diagnostics o)

variable {m : Module} {e : (Decl × Nat) × Option Signature} {s : State}

/-- **What is found holds the problems of the body** in the order in which they were written down, and
nothing else with the names and types of the body. -/
theorem problems_found (o : Options) (s : State) (e : (Decl × Nat) × Option Signature) :
    (found o s e).filter (·.code.isSemantic)
      = (walked s e).toList.flatMap fun b => b.log.filterMap Observation.problem? := by
  rw [found, List.filter_flatMap]
  refine List.flatMap_congr fun b hb => problems_body ?_ o
  obtain ⟨⟨d, i⟩, sig⟩ := e
  cases d with
  | func f =>
    cases sig with
    | none => exact nomatch hb
    | some sig =>
      obtain rfl := List.mem_singleton.1 hb
      exact (log_walkBody s f sig).2.2
  | _ => exact nomatch hb

theorem length_declareValues (known : TypeNames) : ∀ (ds : List (Decl × Nat)) (s : State),
    ((declareValues known ds).value s).length = ds.length
  | [], _ => rfl
  | _ :: ds, _ => congrArg (· + 1) (length_declareValues known ds _)

/-- **Every declaration is visited**, in order. -/
theorem map_fst_turns (m : Module) : (turns m).map (·.1) = m.decls.zipIdx := by
  refine List.map_fst_zip (Nat.le_of_eq ?_)
  exact (length_declareValues _ m.decls.zipIdx _).symm

theorem length_turns (m : Module) : (turns m).length = m.decls.length := by
  rw [← List.length_map (·.1), map_fst_turns, List.length_zipIdx]

theorem take_turns (m : Module) : (turns m).take m.decls.length = turns m :=
  List.take_of_length_le (Nat.le_of_eq (length_turns m))

/-- Something about each visit, number by number. -/
theorem flatMap_turns {α : Type} (m : Module) (g : (Decl × Nat) × Option Signature → List α) :
    (turns m).flatMap g
      = (List.range m.decls.length).flatMap fun i => (turns m)[i]?.toList.flatMap g := by
  have htake : ∀ k, ((turns m).take k).flatMap g
      = (List.range k).flatMap fun i => (turns m)[i]?.toList.flatMap g := by
    intro k
    induction k with
    | zero => rfl
    | succ k ih =>
      rw [List.take_add_one, List.range_succ, List.flatMap_append, List.flatMap_append, ih,
        List.flatMap_singleton]
  rw [← htake, take_turns]

theorem bodies_survey (m : Module) : (survey m).bodies = (turns m).filterMap (surveyed m) := by
  change bodiesOf _ _ _ = _
  rw [bodiesOf]
  refine List.filterMap_congr fun e _ => ?_
  obtain ⟨⟨d, i⟩, sig⟩ := e
  cases d <;> cases sig <;> rfl

/-- The visit of a declaration has its number. -/
theorem index_of_turns {k : Nat} (he : (turns m)[k]? = some e) : e.1.2 = k := by
  have hk : m.decls.zipIdx[k]? = some e.1 := by
    rw [← map_fst_turns, List.getElem?_map, he]
    rfl
  rw [List.getElem?_zipIdx] at hk
  obtain ⟨d, -, hd⟩ := Option.map_eq_some_iff.1 hk
  rw [← hd]
  exact Nat.zero_add k

theorem known_of_turns (he : e ∈ turns m) {sig : Signature} (hsig : e.2 = some sig) :
    Signature.Known (survey m).declared.types sig :=
  (founded_declare m.decls).2 sig (hsig ▸ (List.of_mem_zip he).2)

/-- **A visit walks the body that a survey walks**, and leaves what the declarations left. -/
theorem walked_eq (h : Alike (survey m).declared s (survey m).declared) (he : e ∈ turns m) :
    walked s e = surveyed m e ∧ Alike (survey m).declared (next s e) (survey m).declared := by
  have hknown : ∀ sig, e.2 = some sig → _ := fun sig => known_of_turns he
  obtain ⟨⟨d, i⟩, sig⟩ := e
  cases d with
  | func f =>
    cases sig with
    | none => exact ⟨rfl, h⟩
    | some sig =>
      refine ⟨?_, alike_walkBody (h.logs s.owner (survey m).declared.owner #[] (survey m).declared.log) f (hknown sig rfl)⟩
      rw [walked, seen_eq h f (hknown sig rfl) i]
      rfl
  | _ => exact ⟨rfl, h⟩

theorem owner_next (s : State) (e : (Decl × Nat) × Option Signature) :
    (next s e).owner = s.owner := by
  obtain ⟨⟨d, i⟩, sig⟩ := e
  cases d with
  | func f =>
    cases sig with
    | none => rfl
    | some sig => exact (log_walkBody s f sig).1
  | _ => rfl

/-- **Scopes are at rest again after a visit.** -/
theorem resting_next (h : Resting s.table s.opened s.fault) (e : (Decl × Nat) × Option Signature) :
    Resting (next s e).table (next s e).opened (next s e).fault := by
  obtain ⟨⟨d, i⟩, sig⟩ := e
  cases d with
  | func f =>
    cases sig with
    | none => exact h
    | some sig => exact (enclosed_walkBody f sig { s with log := #[] }).resting h
  | _ => exact h

variable {σ : Type} {r : Reporter σ} {o : Options} {told : σ}

variable (r o m told) in
/-- **A check after its first visits**: what belongs to the declarations that were visited is handed
out, and what belongs to the others still waits. -/
structure Visited (k : Nat) (p : Passage σ) : Prop where
  alike : Alike (survey m).declared p.state (survey m).declared
  rest : Resting p.state.table p.state.opened p.state.fault
  owner : p.state.owner = none
  size : p.pending.size = m.decls.length
  pending : ∀ i, p.pending.getD i [] = if i < k then [] else (survey m).problemsOf i
  bag : p.bag = ((turns m).take k).flatMap fun e =>
    (survey m).problemsOf e.1.2 ++ (surveyed m e).toList.flatMap (Body.diagnostics o)
  told_eq : p.told = p.bag.foldl r told
  bodies : p.bodies = ((turns m).take k).filterMap (surveyed m)

/-- **Before the first visit everything waits.** -/
theorem visited_collected :
    Visited m r o told 0 (collected r (survey m).declared m.decls.length told) := by
  obtain ⟨pending, heq, hsize, hget⟩ := foldl_emitProblem (r := r) (survey m).declared.log.toList
    { state := (survey m).declared, pending := .replicate m.decls.length [], told }
    fun e he => by simpa using (log_declared m e he).2
  rw [collected, heq]
  refine ⟨(founded_survey m).alike, (founded_survey m).rest, owner_declared m, by simpa using hsize,
    fun i => ?_, rfl, rfl, rfl⟩
  rw [hget, if_neg (Nat.not_lt_zero i)]
  have hempty : (Array.replicate m.decls.length ([] : List Diagnostic)).getD i [] = [] := by
    rw [Array.getD_eq_getD_getElem?, Array.getElem?_replicate]
    split <;> rfl
  rw [hempty]
  rfl

/-- **One more visit.** -/
theorem Visited.visit {k : Nat} {p : Passage σ} (h : Visited m r o told k p)
    (he : (turns m)[k]? = some e) : Visited m r o told (k + 1) (visit r o p e) := by
  have hmem := List.mem_of_getElem? he
  have hk := index_of_turns he
  obtain ⟨hwalked, halike⟩ := walked_eq h.alike hmem
  have hlt : k < m.decls.length := by
    obtain ⟨hlt, -⟩ := List.getElem?_eq_some_iff.1 he
    rwa [length_turns] at hlt
  rw [visit_eq _ _ _ h.owner, hwalked, hk, h.pending, if_neg (Nat.lt_irrefl k)]
  refine ⟨halike, resting_next h.rest e, (owner_next _ _).trans h.owner,
    Array.size_modify.trans h.size, fun i => ?_, ?_, ?_, ?_⟩
  · change (p.pending.modify k _).getD i [] = _
    rw [getD_modify _ (h.size ▸ hlt), h.pending]
    by_cases hi : k = i
    · simp [hi]
    · simp only [hi, if_false]
      have : i < k ↔ i < k + 1 := by omega
      simp only [this]
  · change p.bag ++ _ = _
    rw [List.take_add_one, he, List.flatMap_append, h.bag]
    simp [hk]
  · change List.foldl r p.told _ = _
    rw [h.told_eq, ← List.foldl_append]
    rfl
  · change p.bodies ++ _ = _
    rw [List.take_add_one, he, List.filterMap_append, h.bodies]
    cases hs : surveyed m e <;> simp [hs]

theorem upTo_succ {k : Nat} (he : (turns m)[k]? = some e) :
    upTo r o m told (k + 1) = visit r o (upTo r o m told k) e := by
  change ((turns m).take (k + 1)).foldl _ _ = _
  rw [List.take_add_one, he, List.foldl_append]
  rfl

/-- **A check after any number of visits.** -/
theorem visited_upTo : ∀ k ≤ m.decls.length, Visited m r o told k (upTo r o m told k)
  | 0, _ => visited_collected
  | k + 1, hk => by
    have hlt : k < (turns m).length := length_turns m ▸ hk
    rw [upTo_succ (List.getElem?_eq_getElem hlt)]
    exact (visited_upTo k (Nat.le_of_succ_le hk)).visit (List.getElem?_eq_getElem hlt)

theorem le_of_turns {k : Nat} (he : (turns m)[k]? = some e) : k ≤ m.decls.length := by
  obtain ⟨hlt, -⟩ := List.getElem?_eq_some_iff.1 he
  exact Nat.le_of_lt (length_turns m ▸ hlt)

/-- **Every visit goes on from what the last one left.** -/
theorem state_upTo_succ {k : Nat} (he : (turns m)[k]? = some e) :
    (upTo r o m told (k + 1)).state = next (upTo r o m told k).state e := by
  have hvisited : Visited m r o told k (upTo r o m told k) := visited_upTo k (le_of_turns he)
  rw [upTo_succ he, visit_eq _ _ _ hvisited.owner]

/-- **The state after any number of visits.** -/
theorem state_upTo : ∀ k ≤ m.decls.length,
    (upTo r o m told k).state = ((turns m).take k).foldl next (survey m).declared
  | 0, _ => by
    obtain ⟨pending, heq, -, -⟩ := foldl_emitProblem (r := r) (survey m).declared.log.toList
      { state := (survey m).declared, pending := .replicate m.decls.length [], told }
      fun e he => by simpa using (log_declared m e he).2
    change (collected r (survey m).declared m.decls.length told).state = _
    rw [collected, heq]
    rfl
  | k + 1, hk => by
    have he := List.getElem?_eq_getElem (show k < (turns m).length from length_turns m ▸ hk)
    rw [state_upTo_succ he, List.take_add_one, he, List.foldl_append]
    exact congrArg (next · _) (state_upTo k (Nat.le_of_succ_le hk))

/-- The bag after any number of visits. -/
theorem bag_upTo (k : Nat) : (upTo r o m told k).bag = ((turns m).take k).flatMap fun e =>
    (survey m).problemsOf e.1.2 ++ (surveyed m e).toList.flatMap (Body.diagnostics o) := by
  obtain hk | hk := Nat.le_total k m.decls.length
  · exact (visited_upTo k hk).bag
  · -- there is no visit left
    have hall : (turns m).take k = (turns m).take m.decls.length := by
      rw [List.take_of_length_le (length_turns m ▸ hk), take_turns]
    have hstop : upTo r o m told k = upTo r o m told m.decls.length :=
      congrArg (List.foldl (visit r o) _) hall
    rw [hstop, hall]
    exact (visited_upTo _ (Nat.le_refl _)).bag

variable (r o m told) in
theorem visited_complete : Visited m r o told m.decls.length (complete r o m told) :=
  visited_upTo _ (Nat.le_refl _)

theorem index_surveyed {b : Body} (hb : surveyed m e = some b) : b.index = e.1.2 := by
  obtain ⟨⟨d, i⟩, sig⟩ := e
  cases d with
  | func f =>
    cases sig with
    | none => exact nomatch hb
    | some sig =>
      obtain rfl := Option.some.inj hb
      rfl
  | _ => exact nomatch hb

end Passage

/-! ## The outcome -/

section Outcome

open Passage

variable {σ : Type} (r : Reporter σ) (told : σ) (o : Options) (m : Module)

/-- **What a check finds is what a survey of the bodies finds.** -/
theorem diagnostics_checkReporting :
    (checkReporting r told o m).1.diagnostics = (turns m).flatMap fun e =>
      (survey m).problemsOf e.1.2 ++ (surveyed m e).toList.flatMap (Body.diagnostics o) := by
  have hbag := (visited_complete m r o told).bag
  rwa [take_turns] at hbag

/-- **What is read off the diagnostics of a check**, body by body, if it is nothing for problems with
the names and types of one place. -/
theorem filterMap_diagnostics {α : Type} {f : Diagnostic → Option α}
    (hf : ∀ d : Diagnostic, d.code.isLocal = true → f d = none) :
    (checkReporting r told o m).1.diagnostics.filterMap f
      = (survey m).bodies.flatMap fun b => (b.diagnostics o).filterMap f := by
  rw [diagnostics_checkReporting, List.filterMap_flatMap, bodies_survey,
    List.filterMap_eq_flatMap_toList, List.flatMap_assoc]
  refine List.flatMap_congr fun e _ => ?_
  have hproblems : ((survey m).problemsOf e.1.2).filterMap f = [] :=
    List.filterMap_eq_nil_iff.2 fun d hd => hf d (isLocal_of_mem_problemsOf hd)
  rw [List.filterMap_append, hproblems, List.nil_append, List.filterMap_flatMap]

/-- **The functions of a check** are those of a survey. -/
theorem functions_checkReporting :
    (checkReporting r told o m).1.functions = (survey m).bodies.map Body.summary := by
  have hbodies := (visited_complete m r o told).bodies
  rw [take_turns, ← bodies_survey] at hbodies
  exact congrArg (List.map Body.summary) hbodies

/-- **The names of types** are those that the declarations introduce. -/
theorem aliases_checkReporting :
    (checkReporting r told o m).1.aliases = (survey m).declared.aliases :=
  (visited_complete m r o told).alike.left.aliases

/-- **A name of a type** stands for what it stood for when all declarations were collected. -/
theorem label_checkReporting {e : String × TypeId} (he : e ∈ (survey m).declared.aliases.entries) :
    (checkReporting r told o m).1.types.label e.2 = (survey m).declared.types.label e.2 := by
  have h := (visited_complete m r o told).alike
  have hs := h.paired.same_declared ((founded_survey m).aliases e he)
  exact hs.label_eq h.left.types h.right.types h.paired.datas_eq h.paired.enums_eq

/-- The bodies of a survey that belong to a declaration. -/
theorem filter_surveyed (i : Nat) : ∀ k ≤ m.decls.length,
    (((turns m).take k).filterMap (surveyed m)).filter (·.index = i)
      = if i < k then ((turns m)[i]?.bind (surveyed m)).toList else []
  | 0, _ => rfl
  | k + 1, hk => by
    have hlt : k < (turns m).length := length_turns m ▸ hk
    have he := List.getElem?_eq_getElem hlt
    have hlast : ((some (turns m)[k]).toList.filterMap (surveyed m)).filter (·.index = i)
        = if i = k then (surveyed m (turns m)[k]).toList else [] := by
      cases hs : surveyed m (turns m)[k] with
      | none => simp [hs]
      | some b =>
        have hb : b.index = k := (index_surveyed hs).trans (index_of_turns he)
        simp [hs, hb, eq_comm, List.filter_cons]
    rw [List.take_add_one, he, List.filterMap_append, List.filter_append, hlast,
      filter_surveyed i k (Nat.le_of_succ_le hk)]
    obtain hi | rfl | hi := Nat.lt_trichotomy i k
    · simp [hi, Nat.ne_of_lt hi, Nat.lt_succ_of_lt hi]
    · simp [he]
    · simp [Nat.not_lt_of_gt hi, Nat.ne_of_gt hi, show ¬i < k + 1 from Nat.not_lt.2 hi]

/-- **A survey of the bodies comes to the same diagnostics.** -/
theorem diagnostics_survey :
    (survey m).diagnostics o = (checkReporting r told o m).1.diagnostics := by
  rw [diagnostics_checkReporting, flatMap_turns]
  refine List.flatMap_congr fun i hi => ?_
  have hlt : i < m.decls.length := List.mem_range.1 hi
  have he := List.getElem?_eq_getElem (show i < (turns m).length from length_turns m ▸ hlt)
  have hbodies := filter_surveyed m i m.decls.length (Nat.le_refl _)
  rw [take_turns, ← bodies_survey, if_pos hlt, he] at hbodies
  rw [hbodies, he, Option.toList_some, List.flatMap_singleton, index_of_turns he]
  rfl

/-- **Diagnostics follow the declarations, and none is lost or told twice.**  When all declarations
have been collected nothing is being looked at, and every report about them belongs to one.  From then
on nothing is being looked at before any visit.  The outcome holds for each declaration in turn what
was reported about it and then what was found in its body, and just that is what the reporter was told
of, in this order.  What is found in a body holds the problems that the walk wrote down, in order. -/
theorem diagnostics_in_order :
    (survey m).declared.owner = none ∧
      (∀ e ∈ (survey m).declared.log.toList, ∃ i < m.decls.length, e.1 = some i) ∧
      (∀ k ≤ m.decls.length, (upTo r o m told k).state.owner = none) ∧
      (turns m).map (·.1) = m.decls.zipIdx ∧
      (checkReporting r told o m).1.diagnostics = ((turns m).flatMap fun e =>
        (survey m).problemsOf e.1.2 ++ found o (upTo r o m told e.1.2).state e) ∧
      (∀ e, (found o (upTo r o m told e.1.2).state e).filter (·.code.isSemantic)
        = (walked (upTo r o m told e.1.2).state e).toList.flatMap fun b =>
            b.log.filterMap Observation.problem?) ∧
      (checkReporting r told o m).2 = (checkReporting r told o m).1.diagnostics.foldl r told := by
  refine ⟨owner_declared m, fun e he => (log_declared m e he).2,
    fun k hk => (visited_upTo k hk).owner, map_fst_turns m, ?_,
    fun e => problems_found o _ e, (visited_complete m r o told).told_eq⟩
  rw [diagnostics_checkReporting]
  refine List.flatMap_congr fun e he => ?_
  have hle : e.1.2 ≤ m.decls.length := by
    have hmem : e.1 ∈ m.decls.zipIdx := map_fst_turns m ▸ List.mem_map_of_mem he
    obtain ⟨hlt, -⟩ := List.getElem?_eq_some_iff.1 (List.mem_zipIdx_iff_getElem?.1 hmem)
    exact Nat.le_of_lt hlt
  rw [found, (walked_eq (visited_upTo e.1.2 hle).alike he).1]

end Outcome

end CoreCheck.Check

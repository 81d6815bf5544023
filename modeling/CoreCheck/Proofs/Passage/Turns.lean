import CoreCheck.Proofs.Mirror.Statements
import CoreCheck.Proofs.Passage.Owners

/-!
# Proofs/Passage/Turns — what each visit of a check does

A check visits the declarations in turn.  One equation says what a visit does: what waits for the
declaration is handed out, then what is found in its body.  By induction over the visits the bag
holds what belongs to the declarations visited so far, one after the other, and the reporter has been
told of just that.
-/

namespace CoreCheck.Check

open CoreCheck.Types CoreCheck.Scope CoreCheck.Ir

namespace Passage

variable {σ : Type} {r : Reporter σ}

/-! ## Handing out -/

/-- Hands diagnostics out in order. -/
def tell (r : Reporter σ) (p : Passage σ) (ds : List Diagnostic) : Passage σ :=
  { p with bag := p.bag ++ ds, told := ds.foldl r p.told }

theorem foldl_deliver (ds : List Diagnostic) (p : Passage σ) :
    ds.foldl (deliver r) p = p.tell r ds := by
  induction ds generalizing p with
  | nil => simp [tell]
  | cons d ds ih =>
    rw [List.foldl_cons, ih]
    simp [tell, deliver]

theorem tell_tell (p : Passage σ) (ds es : List Diagnostic) :
    (p.tell r ds).tell r es = p.tell r (ds ++ es) := by
  simp [tell]

/-- What belongs to no declaration is handed out at once. -/
theorem foldl_emit_none (ds : List Diagnostic) (p : Passage σ) :
    ds.foldl (emit r none) p = p.tell r ds := foldl_deliver ds p

theorem flush_eq (p : Passage σ) (i : Nat) :
    p.flush r i = { p.tell r (p.pending.getD i []) with
                    pending := p.pending.modify i fun _ => [] } := by
  rw [flush, foldl_deliver]
  rfl

/-- Observations that belong to no declaration. -/
theorem foldl_emitSeen (o : Options) (fn : Judged) (obs : List Observation) (p : Passage σ) :
    (obs.map (none, ·)).foldl (emitSeen r o fn) p
      = p.tell r (obs.flatMap (Observation.diagnostics o fn)) := by
  induction obs generalizing p with
  | nil => simp [tell]
  | cons e obs ih =>
    rw [List.map_cons, List.foldl_cons, ih, emitSeen, foldl_emit_none, tell_tell, List.flatMap_cons]

/-! ## Waiting -/

/-- The problems among some entries of a log that belong to a declaration. -/
def problemsIn (es : List (Option Nat × Observation)) (i : Nat) : List Diagnostic :=
  ((es.filter (·.1 = some i)).map (·.2)).filterMap fun
    | .problem d => some d
    | _ => none

theorem getD_modify (pending : Array (List Diagnostic)) {j : Nat} (hj : j < pending.size)
    (f : List Diagnostic → List Diagnostic) (i : Nat) :
    (pending.modify j f).getD i []
      = if j = i then f (pending.getD i []) else pending.getD i [] := by
  rw [Array.getD_eq_getD_getElem?, Array.getD_eq_getD_getElem?, Array.getElem?_modify]
  split
  · next hi =>
    subst hi
    rw [Array.getElem?_eq_getElem hj]
    rfl
  · rfl

/-- **Reports that belong to declarations wait for them**, and nothing is handed out. -/
theorem foldl_emitProblem (es : List (Option Nat × Observation)) (p : Passage σ)
    (hes : ∀ e ∈ es, Within p.pending.size e.1) :
    ∃ pending : Array (List Diagnostic), es.foldl (emitProblem r) p = { p with pending } ∧
      pending.size = p.pending.size ∧
      ∀ i, pending.getD i [] = p.pending.getD i [] ++ problemsIn es i := by
  induction es generalizing p with
  | nil => exact ⟨p.pending, rfl, rfl, fun i => (List.append_nil _).symm⟩
  | cons e es ih =>
    obtain ⟨owner, obs⟩ := e
    obtain ⟨j, hj, rfl⟩ := hes _ (.head _)
    have hrest := fun e he => hes e (.tail _ he)
    -- an entry that is no problem has nothing to wait
    have hskip : (∀ d, obs ≠ .problem d) → ∀ i, problemsIn ((some j, obs) :: es) i
        = problemsIn es i := by
      intro hno i
      rw [problemsIn, List.filter_cons]
      split
      · rw [List.map_cons, List.filterMap_cons]
        cases obs with
        | problem d => exact absurd rfl (hno d)
        | _ => rfl
      · rfl
    rw [List.foldl_cons]
    cases obs with
    | problem d =>
      have hstep : emitProblem r p (some j, .problem d)
          = { p with pending := p.pending.modify j (· ++ [d]) } := if_pos hj
      rw [hstep]
      obtain ⟨pending, heq, hsize, hget⟩ := ih { p with pending := p.pending.modify j (· ++ [d]) }
        fun e he => by simpa using hrest e he
      refine ⟨pending, heq, hsize.trans Array.size_modify, fun i => ?_⟩
      rw [hget, getD_modify _ hj, problemsIn, problemsIn, List.filter_cons]
      by_cases hi : j = i
      · subst hi
        simp
      · simp [hi]
    | _ =>
      obtain ⟨pending, heq, hsize, hget⟩ := ih p hrest
      refine ⟨pending, heq, hsize, fun i => ?_⟩
      rw [hget, hskip (fun d hd => nomatch hd)]

/-! ## One visit -/

/-- What is seen in a body that is walked in a state. -/
def seen (s : State) (f : Func) (sig : Signature) : List Observation :=
  ((walkBody f sig).after { s with log := #[] }).log.toList.map (·.2)

/-- **The body that a visit walks**, with what is seen in it. -/
def walked (s : State) : (Decl × Nat) × Option Signature → Option Body
  | ((.func f, i), some sig) => some ⟨i, f, sig, seen s f sig⟩
  | _ => none

/-- **The state that a visit leaves.** -/
def next (s : State) : (Decl × Nat) × Option Signature → State
  | ((.func f, _), some sig) => (walkBody f sig).after { s with log := #[] }
  | _ => s

/-- All that the walk over a body writes down belongs to whom it belonged before, and is plain. -/
theorem log_walkBody (s : State) (f : Func) (sig : Signature) :
    ((walkBody f sig).after { s with log := #[] }).owner = s.owner ∧
      ((walkBody f sig).after { s with log := #[] }).log.toList
        = (seen s f sig).map (s.owner, ·) ∧
      ∀ obs ∈ seen s f sig, obs.isPlain = true := by
  have hlater := (enclosed_walkBody f sig { s with log := #[] }).toLater
  obtain ⟨obs, hobs, hplain⟩ := hlater.grows
  have hall : ((walkBody f sig).after { s with log := #[] }).log.toList
      = obs.map (s.owner, ·) := hobs
  have hseen : seen s f sig = obs := by
    rw [seen, hall, List.map_map]
    exact List.map_id _
  rw [hseen]
  exact ⟨hlater.owner, hall, hplain⟩

/-- **What the walk over a body does**, while nothing belongs to a declaration: all that is found in
the body is handed out. -/
theorem walk_eq (o : Options) (p : Passage σ) (i : Nat) (f : Func) (sig : Signature)
    (hp : p.state.owner = none) :
    p.walk r o i f sig = { p.tell r (Body.diagnostics o ⟨i, f, sig, seen p.state f sig⟩) with
      state := (walkBody f sig).after { p.state with log := #[] },
      bodies := p.bodies ++ [⟨i, f, sig, seen p.state f sig⟩] } := by
  obtain ⟨howner, hlog, -⟩ := log_walkBody p.state f sig
  set t := (walkBody f sig).after { p.state with log := #[] }
  set b : Body := ⟨i, f, sig, seen p.state f sig⟩
  set fn : Judged := ⟨f.name, f.span, sig⟩
  have hwalk : p.walk r o i f sig
      = (fun q : Passage σ => { q with bodies := q.bodies ++ [b] })
        ((effectVerdict o fn b.running).foldl (emit r t.owner)
          (t.log.toList.foldl (emitSeen r o fn) { p with state := t })) := rfl
  rw [hwalk, howner, hlog, hp, foldl_emitSeen, foldl_emit_none, tell_tell]
  rfl

/-- **What a visit does**, while nothing belongs to a declaration: what waits is handed out, then what
is found in the body. -/
theorem visit_eq (o : Options) (p : Passage σ) (e : (Decl × Nat) × Option Signature)
    (hp : p.state.owner = none) :
    visit r o p e = { p.tell r (p.pending.getD e.1.2 [] ++
        (walked p.state e).toList.flatMap (Body.diagnostics o)) with
      state := next p.state e, pending := p.pending.modify e.1.2 fun _ => [],
      bodies := p.bodies ++ (walked p.state e).toList } := by
  obtain ⟨⟨d, i⟩, sig⟩ := e
  have hflush : p.flush r i = { p.tell r (p.pending.getD i [] ++ []) with
      state := p.state, pending := p.pending.modify i fun _ => [], bodies := p.bodies ++ [] } := by
    rw [flush_eq, List.append_nil, List.append_nil]
    rfl
  cases d with
  | func f =>
    cases sig with
    | none => exact hflush
    | some sig =>
      change (p.flush r i).walk r o i f sig = _
      rw [flush_eq, walk_eq _ _ _ _ _ (by exact hp)]
      change ({ (p.tell r _).tell r _ with
        state := _, pending := _, bodies := _ } : Passage σ) = _
      rw [tell_tell]
      simp only [walked, Option.toList_some, List.flatMap_singleton]
      rfl
  | _ => exact hflush

end Passage

end CoreCheck.Check

import CoreCheck.Check.Traced
import CoreCheck.Proofs.Passage.Functions
import CoreCheck.Proofs.Trace.Brackets
import Mathlib.Data.Set.Monotone

/-!
# Proofs/Passage/Observed — a trace only observes

A check that is traced does what one that is not traced does, and its recorder has written down what a
survey of the module says (`checkTraced_eq`): by induction over what is seen in a body, and then over
the visits.  So what holds of the records of any activity holds of the trace of a check.
-/

namespace CoreCheck.Check

open CoreCheck.Types CoreCheck.Scope CoreCheck.Ir CoreCheck.Trace

namespace Traced

variable {σ : Type} {r : Reporter σ} {o : Options} {fn : Judged} {outer : Nat}

theorem recordAll_append (w : Recorder) (p : Nat) (as bs : List Activity) :
    w.recordAll p (as ++ bs) = (w.recordAll p as).recordAll p bs := by
  induction as generalizing w with
  | nil => rfl
  | cons a as ih => exact ih _

/-- **Of what is seen, the statements are written down.** -/
theorem foldl_note (span : Nat) (obs : List Observation) (w : Recorder) :
    obs.foldl (note span) w = w.recordAll span (Body.steps obs) := by
  induction obs generalizing w with
  | nil => rfl
  | cons e obs ih =>
    rw [List.foldl_cons, ih]
    cases e <;> rfl

/-- Writing down and emitting do not get in each other's way. -/
theorem foldl_see (span : Nat) (es : List (Option Nat × Observation)) (t : Traced σ) :
    es.foldl (see r o fn span) t = ⟨es.foldl (Passage.emitSeen r o fn) t.passage,
      (es.map (·.2)).foldl (note span) t.recorder⟩ := by
  induction es generalizing t with
  | nil => rfl
  | cons e es ih => exact ih _

/-- **The walk over a body is that of the check**, and its activity is written down. -/
theorem walk_eq (t : Traced σ) (i : Nat) (f : Func) (sig : Signature) :
    t.walk r o outer i f sig = ⟨t.passage.walk r o i f sig,
      t.recorder.record outer (Body.activity ⟨i, f, sig, Passage.seen t.passage.state f sig⟩)⟩ := by
  rw [walk]
  simp only [foldl_see, foldl_note]
  rfl

/-- **A visit is that of the check**, and the body that it walks is written down. -/
theorem visit_eq (t : Traced σ) (e : (Decl × Nat) × Option Signature) :
    t.visit r o outer e = ⟨t.passage.visit r o e, t.recorder.recordAll outer
      ((Passage.walked t.passage.state e).toList.map Body.activity)⟩ := by
  obtain ⟨⟨d, i⟩, sig⟩ := e
  cases d with
  | func f =>
    cases sig with
    | none => rfl
    | some sig =>
      have hstate : (t.passage.flush r i).state = t.passage.state := by
        rw [Passage.flush_eq]
        rfl
      change walk r o outer _ i f sig = _
      rw [walk_eq, hstate]
      rfl
  | _ => rfl

/-- **Visits in turn**, while nothing belongs to a declaration: the bodies that are walked are written
down one after the other. -/
theorem foldl_visit (outer : Nat) (es : List ((Decl × Nat) × Option Signature)) (t : Traced σ)
    (ht : t.passage.state.owner = none) :
    ∃ bodies, (es.foldl (Passage.visit r o) t.passage).bodies = t.passage.bodies ++ bodies ∧
      es.foldl (visit r o outer) t = ⟨es.foldl (Passage.visit r o) t.passage,
        t.recorder.recordAll outer (bodies.map Body.activity)⟩ := by
  induction es generalizing t with
  | nil => exact ⟨[], (List.append_nil _).symm, rfl⟩
  | cons e es ih =>
    have hvisit := Passage.visit_eq (r := r) o t.passage e ht
    have howner : (t.passage.visit r o e).state.owner = none := by
      rw [hvisit]
      exact (Passage.owner_next _ _).trans ht
    have hbodies : (t.passage.visit r o e).bodies
        = t.passage.bodies ++ (Passage.walked t.passage.state e).toList := by
      rw [hvisit]
    obtain ⟨bodies, hrest, hfold⟩ := ih ⟨t.passage.visit r o e, t.recorder.recordAll outer
      ((Passage.walked t.passage.state e).toList.map Body.activity)⟩ howner
    refine ⟨(Passage.walked t.passage.state e).toList ++ bodies, ?_, ?_⟩
    · rw [List.foldl_cons, hrest, hbodies, List.append_assoc]
    · rw [List.foldl_cons, List.foldl_cons, visit_eq, hfold, List.map_append, recordAll_append]

end Traced

section Outcome

open Passage

variable {σ : Type} (r : Reporter σ) (told : σ) (o : Options) (m : Module)

/-- **All visits**, under the span of the module. -/
theorem foldl_turns (w : Recorder) (span : Nat) : (turns m).foldl (Traced.visit r o span)
      ⟨collected r (survey m).declared m.decls.length told, w⟩
    = ⟨complete r o m told, w.recordAll span ((survey m).bodies.map Body.activity)⟩ := by
  have hstart : Visited m r o told 0 (collected r (survey m).declared m.decls.length told) :=
    visited_collected
  have hall : (turns m).foldl (Passage.visit r o)
      (collected r (survey m).declared m.decls.length told) = complete r o m told := by
    rw [complete, upTo, ← take_turns]
    rfl
  have hbodies := (visited_complete m r o told).bodies
  rw [take_turns, ← bodies_survey] at hbodies
  obtain ⟨bodies, hnew, hfold⟩ := Traced.foldl_visit (r := r) (o := o) span (turns m)
    ⟨collected r (survey m).declared m.decls.length told, w⟩ hstart.owner
  rw [hall, hbodies, hstart.bodies] at hnew
  obtain rfl : (survey m).bodies = bodies := hnew
  rw [hfold, hall]

/-- **A check that is traced is the same check**, and what is written down is what a survey of the
module says. -/
theorem checkTraced_eq (w : Recorder) (outer : Nat) : checkTraced r told w outer o m
    = (checkReporting r told o m, w.record outer ((survey m).activity o)) := by
  have hfold := foldl_turns r told o m (w.start outer .module ("module:" ++ m.name)).1
    ((w.start outer .module ("module:" ++ m.name)).2.inner outer)
  rw [Survey.activity, diagnostics_survey r told, Recorder.record]
  exact congrArg (fun t : Traced σ => ((t.passage.result m, t.passage.told),
    t.recorder.stop (w.start outer .module ("module:" ++ m.name)).2
      s!"{t.passage.bag.summary.total} diagnostics"
      [("decls", s!"{m.decls.length}"), ("errors", s!"{t.passage.bag.summary.error}")] ⟨0⟩)) hfold

/-! ## What a tracer receives -/

/-- **The events of a check** at a level, under a span, when some spans have been numbered. -/
def received (l : Trace.Level) (last outer : Nat) : List Event :=
  (checkTraced r told { level := l, lastSpan := last } outer o m).2.events.toList

theorem received_eq (l : Trace.Level) (last outer : Nat) : received r told o m l last outer
    = (Recorder.record { level := l, lastSpan := last } outer
        ((survey m).activity o)).events.toList := by
  rw [received, checkTraced_eq]

/-- Of a body the points are written down that its statements are. -/
theorem eq_point_of_mem_steps {log : List Observation} {a : Activity} (h : a ∈ Body.steps log) :
    ∃ keyword about, a = .point .node keyword about := by
  obtain ⟨e, -, he⟩ := List.mem_filterMap.1 h
  cases e with
  | visits keyword about => exact ⟨keyword, about, (Option.some.inj he).symm⟩
  | _ => exact nomatch he

/-- Only finer things stand inside a body, and inside a module. -/
theorem graded_activity : ((survey m).activity o).Graded := by
  refine .span (fun a ha => ?_) fun a ha => ?_
  · obtain ⟨b, -, rfl⟩ := List.mem_map.1 ha
    exact show Grain.module.rank ≤ Grain.decl.rank by decide
  · obtain ⟨b, -, rfl⟩ := List.mem_map.1 ha
    refine .span (fun a ha => ?_) fun a ha => ?_ <;>
      obtain ⟨keyword, about, rfl⟩ := eq_point_of_mem_steps ha
    · exact show Grain.decl.rank ≤ Grain.node.rank by decide
    · exact .point

/-- **The events of a function** under a parent: its span encloses points only, all of them under it. -/
def IsFunctionTrace (parent : Nat) (f : Func) : List Event → Prop :=
  Spanned .decl ("fn:" ++ f.name) parent fun id es =>
    ∀ e ∈ es, ∃ keyword about, e = .point .node id keyword about

/-- **The events of a module** under a parent: its span encloses those of the functions, all of them
under it, in order and one after the other. -/
def IsModuleTrace (parent : Nat) (m : Module) : List Event → Prop :=
  Spanned .module ("module:" ++ m.name) parent fun id es =>
    ∃ blocks : List (List Event), es = blocks.flatten ∧
      List.Forall₂ (IsFunctionTrace id) m.funcs blocks

theorem isFunctionTrace_of_written {parent : Nat} {b : Body} {es : List Event}
    (h : Written parent b.activity es) : IsFunctionTrace parent b.func es := by
  refine h.spanned.imp fun id es' hall e he => ?_
  obtain ⟨a, ha, block, hwritten, hmem⟩ := hall.exists_of_mem he
  obtain ⟨keyword, about, rfl⟩ := eq_point_of_mem_steps ha
  cases hwritten
  exact ⟨keyword, about, List.mem_singleton.1 hmem⟩

/-- **What is well bracketed is the trace of a module.** -/
theorem isModuleTrace_of_written {parent : Nat} {es : List Event}
    (h : Written parent ((survey m).activity o) es) : IsModuleTrace parent m es := by
  refine h.spanned.imp fun id es' hall => ?_
  obtain ⟨blocks, hblocks, hbodies⟩ := hall.exists_blocks
  refine ⟨blocks, hblocks, ?_⟩
  rw [funcs_eq, List.forall₂_map_left_iff]
  exact (List.forall₂_map_left_iff.1 hbodies).imp fun _ _ => isFunctionTrace_of_written

/-- **At the finest level a check receives a trace of the module.** -/
theorem isModuleTrace_received (last outer : Nat) :
    IsModuleTrace outer m (received r told o m .debug last outer) ∧
      (∀ n ∈ begun (received r told o m .debug last outer), last < n) ∧
      (begun (received r told o m .debug last outer)).Pairwise (· < ·) := by
  obtain ⟨es, hwritten, hadds⟩ := (graded_activity o m).written outer
    { level := .debug, lastSpan := last } rfl
  have hes : received r told o m .debug last outer = es := by
    rw [received_eq, hadds.events]
    rfl
  rw [hes]
  exact ⟨isModuleTrace_of_written o m hwritten, fun n hn => (hadds.new n hn).1, hadds.increasing⟩

/-- The numbers of spans that some events are about. -/
def numbersOf (es : List Event) : Set Nat := {n | ∃ e ∈ es, n = e.span ∨ n = e.parent}

/-- **At another level a check receives what that level keeps.** -/
theorem received_eq_filter (l : Trace.Level) {last last' outer : Nat} (hlast : outer ≤ last)
    (hlast' : outer ≤ last') : ∃ ρ : Nat → Nat, ρ 0 = 0 ∧ ρ outer = outer ∧
      StrictMonoOn ρ (numbersOf ((received r told o m .debug last outer).filter l.keeps)) ∧
      received r told o m l last' outer =
        ((received r told o m .debug last outer).filter l.keeps).map (·.renumber ρ) := by
  have hstart : Follows l {0, outer} id { level := .debug, lastSpan := last }
      { level := l, lastSpan := last' } := by
    refine ⟨rfl, rfl, rfl, ⟨.inl rfl, rfl⟩, nofun, strictMonoOn_id, ?_⟩
    rintro n (rfl | rfl)
    · exact ⟨Nat.zero_le _, Nat.zero_le _⟩
    · exact ⟨hlast, hlast'⟩
  obtain ⟨K, ρ, hsub, heq, h⟩ := (graded_activity o m).recordedAlike _ _ _ _ outer outer hstart
    fun _ _ _ => ⟨.inr rfl, rfl⟩
  rw [received_eq, received_eq]
  refine ⟨ρ, heq (.inl rfl), heq (.inr rfl), StrictMonoOn.mono h.strictMono ?_, h.events⟩
  rintro n ⟨e, he, rfl | rfl⟩
  · exact (h.met e he).1
  · exact (h.met e he).2

/-- **Tracing only observes, and a level is a part of the finest.**  However a check is traced, it has
the outcome that it has without.  At the finest level the events are well bracketed: the module
encloses its functions, in order and one after the other, and each of them the points inside.  The
spans are numbered as they begin, above all numbers given out before.  At another level just those of
these events are received whose grain the level records, in the same order and under the same parents,
with the spans numbered anew, in their order.  This is what a survey of the module writes down. -/
theorem traced_by_level :
    (∀ w outer, (checkTraced r told w outer o m).1 = checkReporting r told o m) ∧
    (∀ last outer, IsModuleTrace outer m (received r told o m .debug last outer) ∧
      (∀ n ∈ begun (received r told o m .debug last outer), last < n) ∧
      (begun (received r told o m .debug last outer)).Pairwise (· < ·)) ∧
    (∀ l last last' outer, outer ≤ last → outer ≤ last' →
      ∃ ρ : Nat → Nat, ρ 0 = 0 ∧ ρ outer = outer ∧
        StrictMonoOn ρ (numbersOf ((received r told o m .debug last outer).filter l.keeps)) ∧
        received r told o m l last' outer =
          ((received r told o m .debug last outer).filter l.keeps).map (·.renumber ρ)) ∧
    ∀ l, received r told o m l 0 0 = ((survey m).activity o).events l :=
  ⟨fun w outer => congrArg Prod.fst (checkTraced_eq r told o m w outer),
    isModuleTrace_received r told o m,
    fun l _ _ _ => received_eq_filter r told o m l,
    fun l => received_eq r told o m l 0 0⟩

end Outcome

/-- A function that returns. -/
def returnsOnce : Module := moduleOf [.func (funcOf "f" [] none .pure [.ret {} none])]

/-- **The statement of a body is left out**, and the spans keep their order when numbers were given out
before. -/
theorem traced_by_level_returnsOnce :
    (received (fun _ _ => ()) () {} returnsOnce .debug 3 3).map Event.span = [4, 5, 0, 5, 4] ∧
      (received (fun _ _ => ()) () {} returnsOnce .detail 7 3).map Event.span = [8, 9, 9, 8] ∧
      ∃ ρ : Nat → Nat, ρ 0 = 0 ∧ ρ 3 = 3 ∧
        received (fun _ _ => ()) () {} returnsOnce .detail 7 3 =
          ((received (fun _ _ => ()) () {} returnsOnce .debug 3 3).filter Level.detail.keeps).map
            (·.renumber ρ) := by
  obtain ⟨ρ, hzero, houter, -, heq⟩ := (traced_by_level (fun _ _ => ()) () {} returnsOnce).2.2.1
    .detail 3 7 3 (by decide) (by decide)
  exact ⟨by decide +kernel, by decide +kernel, ρ, hzero, houter, heq⟩

end CoreCheck.Check

import CoreCheck.Trace.Activity
import Mathlib.Data.Set.Function
import Mathlib.Logic.Function.Basic
import Mathlib.Order.Monotone.Basic

/-!
# Proofs/Trace/Levels — a level keeps a part of what the finest level records

The same activities are recorded twice, at the finest level and at another.  The second record has the
events of the first whose grain it keeps, up to the numbers of the spans.  What carries the induction
is a renumbering that grows with each span that both record (`Follows`).  Where nothing is coarser than
what it stands in, a span that is left out leaves out all that is inside, so no event is orphaned.
-/

namespace CoreCheck.Trace

/-! ## Grains -/

/-- **A level that records a grain records the coarser ones.** -/
theorem Level.records_of_le {l : Level} {g g' : Grain} (hle : g.rank ≤ g'.rank)
    (h : l.records g' = true) : l.records g = true := by
  unfold Level.records at h ⊢
  split at h
  · exact decide_eq_true (hle.trans (of_decide_eq_true h))
  · exact decide_eq_true (hle.trans (of_decide_eq_true h))
  · rfl
  · cases h

/-- The grain of an activity. -/
def Activity.grain : Activity → Grain
  | .point grain _ _ => grain
  | .span grain _ _ _ _ _ => grain

/-- **Nothing is coarser than what it stands in.** -/
inductive Activity.Graded : Activity → Prop
  | point {grain : Grain} {name detail : String} : Graded (.point grain name detail)
  | span {grain : Grain} {name : String} {inside : List Activity} {detail : String}
      {extra : List (String × String)} {elapsed : Duration}
      (finer : ∀ a ∈ inside, grain.rank ≤ a.grain.rank) (graded : ∀ a ∈ inside, Graded a) :
      Graded (.span grain name inside detail extra elapsed)

/-! ## What is written down -/

/-- Whether a level keeps an event. -/
def Level.keeps (l : Level) (e : Event) : Bool := l.records e.grain

namespace Event

/-- What is written down of a point. -/
def point (grain : Grain) (parent : Nat) (name detail : String) : Event :=
  { kind := .point, grain, parent, name, detail }

/-- What is written down where a span begins. -/
def beginning (grain : Grain) (span parent : Nat) (name : String) : Event :=
  { kind := .spanBegin, grain, span, parent, name }

/-- What is written down where a span ends. -/
def ending (grain : Grain) (span parent : Nat) (name detail : String)
    (extra : List (String × String)) (elapsed : Duration) : Event :=
  { kind := .spanEnd, grain, span, parent, name, detail, elapsed, extra }

/-- The event with other numbers for the spans. -/
def renumber (ρ : Nat → Nat) (e : Event) : Event :=
  { e with span := ρ e.span, parent := ρ e.parent }

variable {ρ : Nat → Nat} {grain : Grain} {span parent : Nat} {name detail : String}
  {extra : List (String × String)} {elapsed : Duration}

theorem renumber_point (h : ρ 0 = 0) :
    (point grain parent name detail).renumber ρ = point grain (ρ parent) name detail := by
  rw [point, renumber, h]
  rfl

theorem renumber_beginning :
    (beginning grain span parent name).renumber ρ = beginning grain (ρ span) (ρ parent) name := rfl

theorem renumber_ending : (ending grain span parent name detail extra elapsed).renumber ρ
    = ending grain (ρ span) (ρ parent) name detail extra elapsed := rfl

end Event

namespace Recorder

/-- One event more. -/
def write (w : Recorder) (e : Event) : Recorder := { w with events := w.events.push e }

/-- One number more is given out. -/
def count (w : Recorder) : Recorder := { w with lastSpan := w.lastSpan + 1 }

variable (w : Recorder) (parent : Nat) (grain : Grain) (name detail : String)
  (inside : List Activity) (extra : List (String × String)) (elapsed : Duration)

theorem record_point : w.record parent (.point grain name detail) =
    if w.level.records grain then w.write (.point grain parent name detail) else w := by
  rw [record, point]
  rfl

/-- **A span whose grain is recorded** has a number of its own, under which all inside stands. -/
theorem record_span_of_records (h : w.level.records grain = true) :
    w.record parent (.span grain name inside detail extra elapsed) =
      ((w.count.write (.beginning grain (w.lastSpan + 1) parent name)).recordAll
        (w.lastSpan + 1) inside).write
          (.ending grain (w.lastSpan + 1) parent name detail extra elapsed) := by
  rw [record, start, if_pos h]
  rfl

/-- **A span whose grain is not recorded** leaves all inside to what is around. -/
theorem record_span_of_not_records (h : w.level.records grain = false) :
    w.record parent (.span grain name inside detail extra elapsed) = w.recordAll parent inside := by
  rw [record, start, if_neg (by simp [h])]
  rfl

end Recorder

/-! ## Two records -/

section Follows

variable {l : Level} {K : Set Nat} {ρ : Nat → Nat} {d w : Recorder}

/-- **A record follows the finest one**: it has the same events as far as they are kept, under other
numbers.  All numbers of what is kept are among those that were met so far. -/
structure Follows (l : Level) (K : Set Nat) (ρ : Nat → Nat) (d w : Recorder) : Prop where
  finest : d.level = .debug
  level : w.level = l
  events : w.events.toList = (d.events.toList.filter l.keeps).map (·.renumber ρ)
  zero : 0 ∈ K ∧ ρ 0 = 0
  met : ∀ e ∈ d.events.toList.filter l.keeps, e.span ∈ K ∧ e.parent ∈ K
  strictMono : StrictMonoOn ρ K
  bound : ∀ n ∈ K, n ≤ d.lastSpan ∧ ρ n ≤ w.lastSpan

theorem Follows.records (h : Follows l K ρ d w) (g : Grain) : d.level.records g = true := by
  rw [h.finest]
  rfl

/-- **An event that is kept is written down in both.** -/
theorem Follows.write (h : Follows l K ρ d w) {e : Event} (hkeep : l.keeps e = true)
    (he : e.span ∈ K ∧ e.parent ∈ K) : Follows l K ρ (d.write e) (w.write (e.renumber ρ)) := by
  have hfilter : (d.write e).events.toList.filter l.keeps = d.events.toList.filter l.keeps ++ [e] := by
    rw [Recorder.write, Array.toList_push, List.filter_append, List.filter_cons, if_pos hkeep]
    rfl
  refine ⟨h.finest, h.level, ?_, h.zero, fun e' he' => ?_, h.strictMono, h.bound⟩
  · rw [hfilter, List.map_append, ← h.events, Recorder.write, Array.toList_push]
    rfl
  · rw [hfilter, List.mem_append, List.mem_singleton] at he'
    obtain he' | rfl := he'
    · exact h.met e' he'
    · exact he

/-- **An event that is not kept is written down in the finest only.** -/
theorem Follows.skip (h : Follows l K ρ d w) {e : Event} (hkeep : l.keeps e = false) :
    Follows l K ρ (d.write e) w := by
  have hfilter : (d.write e).events.toList.filter l.keeps = d.events.toList.filter l.keeps := by
    rw [Recorder.write, Array.toList_push, List.filter_append, List.filter_cons,
      if_neg (by simp [hkeep])]
    exact List.append_nil _
  exact ⟨h.finest, h.level, hfilter ▸ h.events, h.zero, hfilter ▸ h.met, h.strictMono, h.bound⟩

/-- A number that only the finest gives out. -/
theorem Follows.pass (h : Follows l K ρ d w) : Follows l K ρ d.count w :=
  ⟨h.finest, h.level, h.events, h.zero, h.met, h.strictMono,
    fun n hn => ⟨Nat.le_succ_of_le (h.bound n hn).1, (h.bound n hn).2⟩⟩

/-- **The next number of the one goes with the next of the other.** -/
theorem Follows.count (h : Follows l K ρ d w) :
    ∃ ρ' : Nat → Nat, Set.EqOn ρ' ρ K ∧ ρ' (d.lastSpan + 1) = w.lastSpan + 1 ∧
      Follows l (insert (d.lastSpan + 1) K) ρ' d.count w.count := by
  have heq : Set.EqOn (Function.update ρ (d.lastSpan + 1) (w.lastSpan + 1)) ρ K := fun n hn => by
    have hle := (h.bound n hn).1
    exact Function.update_of_ne (by omega) _ _
  have hself : Function.update ρ (d.lastSpan + 1) (w.lastSpan + 1) (d.lastSpan + 1) = w.lastSpan + 1 :=
    Function.update_self _ _ _
  generalize Function.update ρ (d.lastSpan + 1) (w.lastSpan + 1) = ρ' at heq hself
  refine ⟨ρ', heq, hself, h.finest, h.level, ?_, ⟨.inr h.zero.1, (heq h.zero.1).trans h.zero.2⟩,
    fun e he => ⟨.inr (h.met e he).1, .inr (h.met e he).2⟩, ?_, ?_⟩
  · refine h.events.trans (List.map_congr_left fun e he => ?_)
    rw [Event.renumber, Event.renumber, heq (h.met e he).1, heq (h.met e he).2]
  · -- the new numbers are above all that were met
    rintro a (rfl | ha) b (rfl | hb) hab
    · exact absurd hab (lt_irrefl _)
    · exact absurd (h.bound b hb).1 (by omega)
    · rw [hself, heq ha]
      exact Nat.lt_succ_of_le (h.bound a ha).2
    · rw [heq ha, heq hb]
      exact h.strictMono ha hb hab
  · rintro n (rfl | hn)
    · exact ⟨Nat.le_refl _, hself.le⟩
    · rw [heq hn]
      exact ⟨Nat.le_succ_of_le (h.bound n hn).1, Nat.le_succ_of_le (h.bound n hn).2⟩

/-! ## Recording -/

variable (l) in
/-- **Activities are recorded alike**: where one record follows the other, it still does afterwards, by
a renumbering that agrees with the one before on all numbers met before. -/
def RecordedAlike (parts : List Activity) : Prop :=
  ∀ (K : Set Nat) (ρ : Nat → Nat) (d w : Recorder) (p q : Nat), Follows l K ρ d w →
    (∀ a ∈ parts, l.records a.grain = true → p ∈ K ∧ ρ p = q) →
    ∃ K' ρ', K ⊆ K' ∧ Set.EqOn ρ' ρ K ∧ Follows l K' ρ' (d.recordAll p parts) (w.recordAll q parts)

theorem recordedAlike_nil : RecordedAlike l [] := fun _ _ _ _ _ _ h _ =>
  ⟨_, _, subset_rfl, Set.eqOn_refl _ _, h⟩

theorem RecordedAlike.cons {a : Activity} {as : List Activity} (ha : RecordedAlike l [a])
    (has : RecordedAlike l as) : RecordedAlike l (a :: as) := by
  intro K ρ d w p q h hp
  obtain ⟨K', ρ', hsub, heq, h'⟩ := ha K ρ d w p q h fun a' ha' =>
    hp a' (List.mem_singleton.1 ha' ▸ .head _)
  obtain ⟨K'', ρ'', hsub', heq', h''⟩ := has K' ρ' _ _ p q h' fun a' ha' hkeep => by
    obtain ⟨hmem, hq⟩ := hp a' (.tail _ ha') hkeep
    exact ⟨hsub hmem, (heq hmem).trans hq⟩
  exact ⟨K'', ρ'', hsub.trans hsub', (heq'.mono hsub).trans heq, h''⟩

theorem recordedAlike_of_forall {as : List Activity} (h : ∀ a ∈ as, RecordedAlike l [a]) :
    RecordedAlike l as := by
  induction as with
  | nil => exact recordedAlike_nil
  | cons a as ih => exact (h a (.head _)).cons (ih fun a' ha' => h a' (.tail _ ha'))

theorem recordedAlike_point (grain : Grain) (name detail : String) :
    RecordedAlike l [.point grain name detail] := by
  intro K ρ d w p q h hp
  refine ⟨K, ρ, subset_rfl, Set.eqOn_refl _ _, ?_⟩
  change Follows l K ρ (d.record p _) (w.record q _)
  rw [Recorder.record_point, Recorder.record_point, if_pos (h.records grain), h.level]
  by_cases hkeep : l.records grain = true
  · obtain ⟨hmem, hq⟩ := hp _ (.head _) hkeep
    have hwrite := h.write (e := .point grain p name detail) hkeep ⟨h.zero.1, hmem⟩
    rw [Event.renumber_point h.zero.2, hq] at hwrite
    rw [if_pos hkeep]
    exact hwrite
  · rw [if_neg hkeep]
    exact h.skip (Bool.eq_false_iff.2 hkeep)

/-- **A span is recorded alike if what is inside is**, and is kept wherever something inside is. -/
theorem RecordedAlike.span {inside : List Activity} {grain : Grain}
    (hinside : RecordedAlike l inside)
    (hfiner : ∀ a ∈ inside, l.records a.grain = true → l.records grain = true)
    (name detail : String) (extra : List (String × String)) (elapsed : Duration) :
    RecordedAlike l [.span grain name inside detail extra elapsed] := by
  intro K ρ d w p q h hp
  change ∃ K' ρ', K ⊆ K' ∧ Set.EqOn ρ' ρ K ∧ Follows l K' ρ' (d.record p _) (w.record q _)
  rw [Recorder.record_span_of_records _ _ _ _ _ _ _ _ (h.records grain)]
  by_cases hkeep : l.records grain = true
  · obtain ⟨hmem, hq⟩ := hp _ (.head _) hkeep
    obtain ⟨ρ₁, heq₁, hnew, hcount⟩ := h.count
    rw [Recorder.record_span_of_records _ _ _ _ _ _ _ _ (h.level.symm ▸ hkeep)]
    have hbegin := hcount.write (e := .beginning grain (d.lastSpan + 1) p name) hkeep
      ⟨.inl rfl, .inr hmem⟩
    rw [Event.renumber_beginning, hnew, heq₁ hmem, hq] at hbegin
    obtain ⟨K₂, ρ₂, hsub₂, heq₂, h₂⟩ := hinside _ _ _ _ _ _ hbegin fun _ _ _ => ⟨.inl rfl, hnew⟩
    have hend := h₂.write (e := .ending grain (d.lastSpan + 1) p name detail extra elapsed) hkeep
      ⟨hsub₂ (.inl rfl), hsub₂ (.inr hmem)⟩
    rw [Event.renumber_ending, heq₂ (.inl rfl), heq₂ (.inr hmem), hnew, heq₁ hmem, hq] at hend
    exact ⟨K₂, ρ₂, (Set.subset_insert _ _).trans hsub₂,
      (heq₂.mono (Set.subset_insert _ _)).trans heq₁, hend⟩
  · have hskip := Bool.eq_false_iff.2 hkeep
    rw [Recorder.record_span_of_not_records _ _ _ _ _ _ _ _ (h.level.symm ▸ hskip)]
    have hbegin := h.pass.skip (e := .beginning grain (d.lastSpan + 1) p name) hskip
    obtain ⟨K', ρ', hsub, heq, h'⟩ := hinside _ _ _ _ (d.lastSpan + 1) q hbegin fun a ha hrec =>
      absurd (hfiner a ha hrec) hkeep
    exact ⟨K', ρ', hsub, heq, h'.skip hskip⟩

/-- **What is graded is recorded alike at every level.** -/
theorem Activity.Graded.recordedAlike {a : Activity} (h : a.Graded) : RecordedAlike l [a] := by
  induction h with
  | point => exact recordedAlike_point _ _ _
  | span finer _ ih =>
    exact (recordedAlike_of_forall ih).span
      (fun a ha hrec => Level.records_of_le (finer a ha) hrec) _ _ _ _

end Follows

end CoreCheck.Trace

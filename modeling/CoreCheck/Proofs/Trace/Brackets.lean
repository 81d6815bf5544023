import CoreCheck.Proofs.Trace.Levels
import Mathlib.Data.List.Forall2

/-!
# Proofs/Trace/Brackets — what the finest level records is well bracketed

At the finest level a span is recorded as the event that begins it, then what is inside, and last the
event that ends it (`Written`).  What is inside carries the number of the span as its parent.  Numbers
are given out in order, so no two spans share one.
-/

namespace CoreCheck.Trace

/-! ## Well bracketed events -/

mutual

/-- **The events of an activity under a parent**, each span with some number. -/
inductive Written : Nat → Activity → List Event → Prop
  | point {parent : Nat} {grain : Grain} {name detail : String} :
      Written parent (.point grain name detail) [.point grain parent name detail]
  | span {parent : Nat} {grain : Grain} {name : String} {inside : List Activity} {detail : String}
      {extra : List (String × String)} {elapsed : Duration} (id : Nat) {es : List Event}
      (all : WrittenAll id inside es) :
      Written parent (.span grain name inside detail extra elapsed)
        (.beginning grain id parent name ::
          es ++ [.ending grain id parent name detail extra elapsed])

/-- The events of activities under a parent, one after the other. -/
inductive WrittenAll : Nat → List Activity → List Event → Prop
  | nil {parent : Nat} : WrittenAll parent [] []
  | cons {parent : Nat} {a : Activity} {as : List Activity} {es es' : List Event}
      (head : Written parent a es) (tail : WrittenAll parent as es') :
      WrittenAll parent (a :: as) (es ++ es')

end

/-- Activities one after the other do not overlap. -/
theorem WrittenAll.exists_blocks {parent : Nat} {as : List Activity} {es : List Event}
    (h : WrittenAll parent as es) :
    ∃ blocks : List (List Event), es = blocks.flatten ∧ List.Forall₂ (Written parent) as blocks := by
  induction as generalizing es with
  | nil =>
    cases h
    exact ⟨[], rfl, .nil⟩
  | cons a as ih =>
    obtain _ | ⟨head, tail⟩ := h
    obtain ⟨blocks, rfl, hall⟩ := ih tail
    exact ⟨_ :: blocks, rfl, .cons head hall⟩

/-- Each event is that of one of the activities. -/
theorem WrittenAll.exists_of_mem {parent : Nat} {as : List Activity} {es : List Event}
    (h : WrittenAll parent as es) {e : Event} (he : e ∈ es) :
    ∃ a ∈ as, ∃ es', Written parent a es' ∧ e ∈ es' := by
  induction as generalizing es with
  | nil =>
    cases h
    cases he
  | cons a as ih =>
    obtain _ | ⟨head, tail⟩ := h
    obtain he | he := List.mem_append.1 he
    · exact ⟨a, .head _, _, head, he⟩
    · obtain ⟨a', ha', hrest⟩ := ih tail he
      exact ⟨a', .tail _ ha', hrest⟩

/-- **Events that a span encloses**: first the one that begins it, then what is inside, and last the one
that ends it. -/
def Spanned (grain : Grain) (name : String) (parent : Nat) (inside : Nat → List Event → Prop)
    (es : List Event) : Prop :=
  ∃ id es' detail extra elapsed, inside id es' ∧ es = .beginning grain id parent name ::
    es' ++ [.ending grain id parent name detail extra elapsed]

theorem Written.spanned {parent : Nat} {grain : Grain} {name : String} {inside : List Activity}
    {detail : String} {extra : List (String × String)} {elapsed : Duration} {es : List Event}
    (h : Written parent (.span grain name inside detail extra elapsed) es) :
    Spanned grain name parent (WrittenAll · inside ·) es := by
  obtain _ | ⟨id, all⟩ := h
  exact ⟨id, _, _, _, _, all, rfl⟩

theorem Spanned.imp {grain : Grain} {name : String} {parent : Nat}
    {inside inside' : Nat → List Event → Prop} {es : List Event}
    (h : Spanned grain name parent inside es) (himp : ∀ id es', inside id es' → inside' id es') :
    Spanned grain name parent inside' es := by
  obtain ⟨id, es', detail, extra, elapsed, hinside, rfl⟩ := h
  exact ⟨id, es', detail, extra, elapsed, himp id es' hinside, rfl⟩

/-- The numbers of the spans that begin among some events. -/
def begun (es : List Event) : List Nat := (es.filter (·.kind = .spanBegin)).map Event.span

theorem begun_append (es es' : List Event) : begun (es ++ es') = begun es ++ begun es' := by
  rw [begun, List.filter_append, List.map_append]
  rfl

theorem begun_beginning (grain : Grain) (span parent : Nat) (name : String) (es : List Event) :
    begun (.beginning grain span parent name :: es) = span :: begun es := rfl

/-- **A record that goes on**: it has more events, and the spans that begin among them have new numbers,
each above the one before. -/
structure Adds (d d' : Recorder) (es : List Event) : Prop where
  level : d'.level = d.level
  events : d'.events.toList = d.events.toList ++ es
  grows : d.lastSpan ≤ d'.lastSpan
  new : ∀ n ∈ begun es, d.lastSpan < n ∧ n ≤ d'.lastSpan
  increasing : (begun es).Pairwise (· < ·)

section Adds

variable {d d' d'' : Recorder} {es es' : List Event}

theorem Adds.refl (d : Recorder) : Adds d d [] :=
  ⟨rfl, (List.append_nil _).symm, Nat.le_refl _, nofun, .nil⟩

theorem Adds.trans (h : Adds d d' es) (h' : Adds d' d'' es') : Adds d d'' (es ++ es') where
  level := h'.level.trans h.level
  events := by rw [h'.events, h.events, List.append_assoc]
  grows := h.grows.trans h'.grows
  new n hn := by
    obtain hn | hn := List.mem_append.1 (begun_append es es' ▸ hn)
    · exact ⟨(h.new n hn).1, (h.new n hn).2.trans h'.grows⟩
    · exact ⟨h.grows.trans_lt (h'.new n hn).1, (h'.new n hn).2⟩
  increasing := begun_append es es' ▸ List.pairwise_append.2 ⟨h.increasing, h'.increasing,
    fun a ha b hb => (h.new a ha).2.trans_lt (h'.new b hb).1⟩

/-- An event that begins no span. -/
theorem adds_write (d : Recorder) {e : Event} (he : e.kind ≠ .spanBegin) : Adds d (d.write e) [e] := by
  have hnone : begun [e] = [] := by simp [begun, he]
  exact ⟨rfl, Array.toList_push, Nat.le_refl _, hnone ▸ nofun, hnone ▸ .nil⟩

/-- **A span begins** with the next number. -/
theorem adds_beginning (d : Recorder) (grain : Grain) (parent : Nat) (name : String) :
    Adds d (d.count.write (.beginning grain (d.lastSpan + 1) parent name))
      [.beginning grain (d.lastSpan + 1) parent name] where
  level := rfl
  events := Array.toList_push
  grows := Nat.le_succ _
  new n hn := by
    rw [begun_beginning] at hn
    obtain rfl := List.mem_singleton.1 hn
    exact ⟨Nat.lt_succ_self _, Nat.le_refl _⟩
  increasing := List.pairwise_singleton _ _

/-! ## Recording at the finest level -/

/-- Activities in order, if each of them adds well bracketed events. -/
theorem adds_recordAll {as : List Activity} {p : Nat}
    (h : ∀ a ∈ as, ∀ d : Recorder, d.level = .debug →
      ∃ es, Written p a es ∧ Adds d (d.record p a) es) (hd : d.level = .debug) :
    ∃ es, WrittenAll p as es ∧ Adds d (d.recordAll p as) es := by
  induction as generalizing d with
  | nil => exact ⟨[], .nil, .refl d⟩
  | cons a as ih =>
    obtain ⟨es, hwritten, hadds⟩ := h a (.head _) d hd
    obtain ⟨es', hall, hrest⟩ := ih (fun a' ha' => h a' (.tail _ ha')) (hadds.level.trans hd)
    exact ⟨es ++ es', .cons hwritten hall, hadds.trans hrest⟩

/-- **At the finest level all is recorded, and well bracketed.** -/
theorem Activity.Graded.written {a : Activity} (h : a.Graded) (p : Nat) :
    ∀ d : Recorder, d.level = .debug → ∃ es, Written p a es ∧ Adds d (d.record p a) es := by
  induction h generalizing p with
  | @point grain name detail =>
    intro d hd
    refine ⟨[.point grain p name detail], .point, ?_⟩
    rw [Recorder.record_point, if_pos (hd ▸ rfl)]
    exact adds_write d (show Kind.point ≠ .spanBegin by decide)
  | @span grain name inside detail extra elapsed _ _ ih =>
    intro d hd
    have hbegin := adds_beginning d grain p name
    obtain ⟨es, hall, hinside⟩ := adds_recordAll (fun a ha => ih a ha (d.lastSpan + 1))
      (hbegin.level.trans hd)
    refine ⟨_, .span (d.lastSpan + 1) hall, ?_⟩
    rw [Recorder.record_span_of_records _ _ _ _ _ _ _ _ (hd ▸ rfl)]
    exact (hbegin.trans hinside).trans (adds_write _ (show Kind.spanEnd ≠ .spanBegin by decide))

end Adds

end CoreCheck.Trace

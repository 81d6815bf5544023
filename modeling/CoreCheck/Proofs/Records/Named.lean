import CoreCheck.Proofs.Match.Exhaustive
import CoreCheck.Proofs.Path.Reached

/-!
# Proofs/Records/Named — which names build records, and which take them apart

A construction and a pattern both name a record type, and each looks the name up for itself.  A
construction looks under the mark of what the name is bound to, a pattern does not; so they find the
same record under every name but those of marked records (`agree_iff_not_marksRecord`).
-/

namespace CoreCheck.Check

open CoreCheck.Types CoreCheck.Ir

/-! ## What a step writes down -/

/-- **What a step writes down.** -/
def Walk.notes {α : Type} (x : Walk α) (s : State) : List Observation :=
  ((x.after s).log.toList.drop s.log.toList.length).map Prod.snd

theorem notes_of_logGrows {α : Type} {x : Walk α} {s : State} {obs : List Observation}
    (h : LogGrows s (x.after s) obs) : x.notes s = obs := by
  rw [Walk.notes, h, List.drop_left, List.map_map]
  exact List.map_id obs

theorem notes_of_after_eq {α : Type} {x : Walk α} {s : State} (h : x.after s = s) :
    x.notes s = [] := notes_of_logGrows (.nil (by rw [h]))

/-- **Only problems of some kind are written down.** -/
structure Says (P : Diagnostic → Prop) (s t : State) : Prop where
  owner : t.owner = s.owner
  grows : ∃ ds : List Diagnostic, LogGrows s t (ds.map .problem) ∧ ∀ d ∈ ds, P d

instance (P : Diagnostic → Prop) : Walk.Course (Says P) where
  refl s := ⟨rfl, [], .nil rfl, List.forall_mem_nil _⟩
  trans := by
    rintro s t u ⟨ht, ds, hds, hP⟩ ⟨hu, es, hes, hP'⟩
    refine ⟨hu.trans ht, ds ++ es, ?_, List.forall_mem_append.2 ⟨hP, hP'⟩⟩
    rw [List.map_append]
    exact hds.append ht hes

theorem says_report {P : Diagnostic → Prop} {d : Diagnostic} (h : P d) :
    Walk.Keeps (Says P) (Walk.report d) := fun s =>
  ⟨rfl, [d], by simp [LogGrows, Walk.report], List.forall_mem_singleton.2 h⟩

theorem Says.of_mem_notes {α : Type} {P : Diagnostic → Prop} {x : Walk α} {s : State}
    (h : Says P s (x.after s)) {d : Diagnostic} (hd : .problem d ∈ x.notes s) : P d := by
  obtain ⟨-, ds, hds, hP⟩ := h
  rw [notes_of_logGrows hds] at hd
  obtain ⟨d', hd', ⟨⟩⟩ := List.mem_map.1 hd
  exact hP d hd'

/-! ## Building and taking apart -/

/-- **A name builds a record**: a construction finds the record under it and reports nothing. -/
def Builds (s : State) (n : String) (id : TypeId) (info : DataInfo) : Prop :=
  ∀ span, (dataType n span).value s = (id, some info) ∧ (dataType n span).notes s = []

/-- The report of a pattern that names something else than a record. -/
def notRecord (span : Span) (label : String) : Diagnostic :=
  .error .typeMismatch span (label ++ " is not a data type and cannot be destructured")

/-- A pattern is refused for its name: it stands for no type, or for one that is no record. -/
def RefusedFor (s : State) (n : String) (span : Span) (d : Diagnostic) : Prop :=
  d.code = .unknownType ∨
    ∃ id, s.aliases.resolve? n = some id ∧ d = notRecord span ((Walk.labelOf id).value s)

/-- **A name takes a record apart**: a pattern finds the record under it, whatever it is matched
with, and is not refused for its name. -/
def TakesApart (s : State) (n : String) (id : TypeId) (info : DataInfo) : Prop :=
  ∀ span type count, (takenBy span type n count).value s = .data id info ∧
    ∀ d, .problem d ∈ (takenBy span type n count).notes s → ¬ RefusedFor s n span d

/-- **A name is bound to a record with a mark.** -/
def MarksRecord (s : State) (n : String) : Prop :=
  ∃ id base level category info, s.aliases.resolve? n = some id ∧
    s.types.lookup id = some (.pii base level category) ∧ s.types.dataInfo? base = some info

section

variable {s : State} {n : String} {id : TypeId} {info : DataInfo}

/-- A construction finds what its name is bound to, under its mark. -/
theorem value_dataType_eq_some {span : Span} :
    (dataType n span).value s = (id, some info) ↔
      ∃ held, s.aliases.resolve? n = some held ∧ s.types.unwrap held = id ∧
        s.types.dataInfo? id = some info := by
  rw [value_dataType]
  cases s.aliases.resolve? n with
  | none => simp
  | some held =>
    cases hi : s.types.dataInfo? (s.types.unwrap held) with
    | none =>
      simp only [hi, Prod.mk.injEq, reduceCtorEq, and_false, Option.some.injEq, false_iff]
      rintro ⟨_, rfl, rfl, hi'⟩
      cases hi.symm.trans hi'
    | some info' =>
      simp only [hi, Prod.mk.injEq, Option.some.injEq]
      constructor
      · rintro ⟨rfl, rfl⟩
        exact ⟨held, rfl, rfl, hi⟩
      · rintro ⟨_, rfl, rfl, hi'⟩
        exact ⟨rfl, Option.some.inj (hi.symm.trans hi')⟩

/-- Nothing is reported of a record that is found. -/
theorem after_dataType {span : Span} (h : (dataType n span).value s = (id, some info)) :
    (dataType n span).after s = s := by
  obtain ⟨held, hr, rfl, hi⟩ := value_dataType_eq_some.1 h
  simp only [dataType, Walk.after_bind, Walk.value_get, Walk.after_get, hr, Walk.value_types,
    Walk.after_types, hi]
  rfl

theorem builds_iff :
    Builds s n id info ↔
      ∃ held, s.aliases.resolve? n = some held ∧ s.types.unwrap held = id ∧
        s.types.dataInfo? id = some info := by
  constructor
  · intro h
    exact value_dataType_eq_some.1 (h {}).1
  · intro h span
    have hvalue : (dataType n span).value s = (id, some info) := value_dataType_eq_some.2 h
    exact ⟨hvalue, notes_of_after_eq (after_dataType hvalue)⟩

theorem value_takenBy_eq_data {span : Span} {type : TypeId} {count : Nat} :
    (takenBy span type n count).value s = .data id info ↔
      s.aliases.resolve? n = some id ∧ s.types.dataInfo? id = some info := by
  rw [value_takenBy]
  cases s.aliases.resolve? n with
  | none =>
    dsimp only
    split <;> simp
  | some held =>
    dsimp only
    cases hi : s.types.dataInfo? held with
    | none =>
      simp only [reduceCtorEq, Option.some.injEq, false_iff, not_and]
      rintro rfl
      simp [hi]
    | some info' =>
      simp only [Taken.data.injEq, Option.some.injEq]
      constructor
      · rintro ⟨rfl, rfl⟩
        exact ⟨rfl, hi⟩
      · rintro ⟨rfl, hi'⟩
        exact ⟨rfl, Option.some.inj (hi.symm.trans hi')⟩

/-- The label of a record is its name. -/
theorem labelOf_record (hi : s.types.dataInfo? id = some info) :
    (Walk.labelOf id).value s = info.name := by
  have hlabel : (Walk.labelOf id).value s = if id = 0 then "Unknown" else s.types.label id := rfl
  rw [Arena.dataInfo?] at hi
  cases hl : s.types.lookup id with
  | none => simp [hl] at hi
  | some sh =>
    cases sh with
    | data slot =>
      rw [hl] at hi
      have hne : id ≠ 0 := by
        rintro rfl
        cases (s.types.lookup_zero).symm.trans hl
      rw [hlabel, if_neg hne, Arena.label, Arena.labelDepth, Arena.labelAt, hl]
      dsimp only at hi ⊢
      rw [hi]
      rfl
    | _ => simp [hl] at hi

/-- A report that a pattern does not fit, or that it has too many parts. -/
def Misfit (info : DataInfo) (d : Diagnostic) : Prop :=
  (d.code = .typeMismatch ∧ ∃ label, d.message
    = "pattern for " ++ info.name ++ " cannot match a value of type " ++ label) ∨
    d.code = .arityMismatch

/-- **What is reported of a pattern that names a record.** -/
theorem says_takenBy (hr : s.aliases.resolve? n = some id)
    (hi : s.types.dataInfo? id = some info) (span : Span) (type : TypeId) (count : Nat) :
    Says (Misfit info) s ((takenBy span type n count).after s) := by
  have hcount : Walk.Keeps (Says (Misfit info)) (do
      if info.fields.length < count then
        Walk.report <| ((Diagnostic.error .arityMismatch span
          ("pattern for " ++ info.name ++ s!" has {info.fields.length} fields, got {count}"))
          |>.withData "expected" (.int info.fields.length)).withData "actual" (.int count)
      return Taken.data id info) :=
    .ite (.bind (says_report (.inr rfl)) fun _ => .pure _) (.pure _)
  unfold takenBy
  simp only [Walk.after_bind, Walk.value_types, Walk.after_types, Walk.value_get, Walk.after_get,
    hr, hi]
  exact Walk.Keeps.guard hcount (.of_after_eq fun _ => rfl)
    (fun label => .bind (says_report (.inl ⟨rfl, label, rfl⟩)) fun _ => hcount) s

/-- The two texts differ twelve characters behind the length of the name. -/
theorem not_record_text_ne (name label : String) :
    name ++ " is not a data type and cannot be destructured"
      ≠ "pattern for " ++ name ++ " cannot match a value of type " ++ label := by
  intro h
  have hchar := congrArg (fun m => m.toList[name.toList.length + 12]?) h
  have hbefore : ("pattern for ".toList ++ name.toList).length = name.toList.length + 12 := by
    rw [List.length_append]
    exact Nat.add_comm _ _
  simp only [String.toList_append, List.append_assoc] at hchar
  rw [List.getElem?_append_right (Nat.le_add_right _ _), Nat.add_sub_cancel_left, ← hbefore,
    ← List.append_assoc, List.getElem?_append_right (Nat.le_refl _), Nat.sub_self] at hchar
  cases hchar

/-- A pattern that names a record is not refused for its name. -/
theorem not_refusedFor_of_misfit (hr : s.aliases.resolve? n = some id)
    (hi : s.types.dataInfo? id = some info) {span : Span} {d : Diagnostic} (h : Misfit info d) :
    ¬ RefusedFor s n span d := by
  rintro (hcode | ⟨held, hheld, rfl⟩)
  · obtain ⟨hd, -⟩ | hd := h <;> cases hd.symm.trans hcode
  · obtain rfl : id = held := Option.some.inj (hr.symm.trans hheld)
    rw [labelOf_record hi] at h
    obtain ⟨-, label, hmessage⟩ | hd := h
    · exact not_record_text_ne info.name label hmessage
    · cases hd

/-- A pattern finds what its name is bound to, if that is a record as it stands. -/
theorem takesApart_iff :
    TakesApart s n id info ↔ s.aliases.resolve? n = some id ∧ s.types.dataInfo? id = some info := by
  constructor
  · intro h
    exact value_takenBy_eq_data.1 (h {} 0 0).1
  · rintro ⟨hr, hi⟩ span type count
    exact ⟨value_takenBy_eq_data.2 ⟨hr, hi⟩, fun d hd =>
      not_refusedFor_of_misfit hr hi ((says_takenBy hr hi span type count).of_mem_notes hd)⟩

/-- **Building and taking apart agree on a name unless it is bound to a record with a mark.** -/
theorem agree_iff_not_marksRecord :
    (∀ id info, Builds s n id info ↔ TakesApart s n id info) ↔ ¬ MarksRecord s n := by
  simp only [builds_iff, takesApart_iff]
  constructor
  · rintro h ⟨id, base, level, category, info, hr, hl, hi⟩
    have hunwrap : s.types.unwrap id = base := by rw [Arena.unwrap, hl]
    obtain ⟨hr', -⟩ := (h base info).1 ⟨id, hr, hunwrap, hi⟩
    obtain rfl : id = base := Option.some.inj (hr.symm.trans hr')
    rw [Arena.dataInfo?, hl] at hi
    cases hi
  · intro h id info
    constructor
    · rintro ⟨held, hr, rfl, hi⟩
      have hbare : s.types.unwrap held = held := by
        rw [Arena.unwrap] at hi ⊢
        split
        · next base level category hl =>
          rw [hl] at hi
          exact absurd ⟨held, base, level, category, info, hr, hl, hi⟩ h
        · rfl
      rw [hbare] at hi ⊢
      exact ⟨hr, hi⟩
    · rintro ⟨hr, hi⟩
      refine ⟨id, hr, ?_, hi⟩
      rw [Arena.dataInfo?] at hi
      rw [Arena.unwrap]
      split
      · next hl =>
        rw [hl] at hi
        cases hi
      · rfl

end

/-! ## The names of a module -/

/-- What a name is bound to is settled by the declarations. -/
theorem Over.marksRecord_iff {d s : State} (h : Over d s) (hd : Ground d) (n : String) :
    MarksRecord s n ↔ MarksRecord d n := by
  rw [MarksRecord, MarksRecord, h.aliases]
  refine exists_congr fun id => exists_congr fun base => exists_congr fun level =>
    exists_congr fun category => exists_congr fun info => and_congr_right fun hr => ?_
  rw [h.ext.lookup_eq id (hd.aliases hr)]
  refine and_congr_right fun hl => ?_
  have hbase : base ≤ d.types.size := by
    have hle := hd.types.unwrap_le (hd.aliases hr)
    rwa [Arena.unwrap, hl] at hle
  rw [h.dataInfo_eq hbase]

/-- **Constructions and patterns agree on a name exactly unless it is bound to a record with a
mark**, in every state over the declarations of a module; all states in which its bodies are walked
are such. -/
theorem records_agree_iff_unmarked (m : Module) (n : String) :
    (∀ s, Over (survey m).declared s →
      ((∀ id info, Builds s n id info ↔ TakesApart s n id info) ↔
        ¬ MarksRecord (survey m).declared n)) ∧
    ∀ b ∈ (survey m).bodies, ∀ x, b.Meets m x → Over (survey m).declared x.2 := by
  refine ⟨fun s hs => ?_, fun b hb x hx => (hx.grounded hb).paired.left⟩
  rw [agree_iff_not_marksRecord, hs.marksRecord_iff (founded_survey m).ground]

/-- A function that walks an expression and nothing else. -/
def evaluates (e : Expr) : Func := funcOf "f" [] none .pure [.eval {} e]

/-- The state in which such a function walks its expression. -/
def evaluatesIn (m : Module) (b : Body) : State :=
  (defineParams b.signature.params).after ((Walk.enter .function {}).after ((survey m).start b))

theorem meets_evaluates {m : Module} {b : Body} {e : Expr} (hb : b ∈ (survey m).bodies)
    (honly : ∀ f, .func f ∈ m.decls → f = evaluates e) :
    b.Meets m (.expr e, evaluatesIn m b) := by
  obtain ⟨hdecl, -, -⟩ := mem_bodies hb
  rw [Body.Meets, honly b.func (List.mem_of_getElem? (List.mem_zipIdx_iff_getElem?.1 hdecl))]
  exact .step (.head _) (.step (.head _) (.step (.head _) (.here _)))

/-- A construction under an alias of a record. -/
def buildsPoint : Expr := .construct {} "P" [.mk {} "x" (.literal {} (.int 1))]

/-- A module with a record, an alias for a type, and a function that builds under it. -/
def namesPoint (target : TypeExpr) : Module := moduleOf
  [.data {} "Point" [⟨{}, "x", .name {} "Int"⟩], .alias {} "P" target,
    .func (evaluates buildsPoint)]

/-- The construction is walked in the body. -/
theorem meets_buildsPoint {target : TypeExpr} {b : Body}
    (hb : b ∈ (survey (namesPoint target)).bodies) :
    b.Meets (namesPoint target) (.expr buildsPoint, evaluatesIn (namesPoint target) b) :=
  meets_evaluates hb fun f hf => by simpa [namesPoint, moduleOf] using hf

/-- Under an alias of the record itself the record is built, and taken apart. -/
theorem records_agree_namesPoint :
    let m := namesPoint (.name {} "Point")
    ∃ b ∈ (survey m).bodies, b.Meets m (.expr buildsPoint, evaluatesIn m b) ∧
      (∃ id info, Builds (evaluatesIn m b) "P" id info) ∧
      ∀ id info, Builds (evaluatesIn m b) "P" id info ↔ TakesApart (evaluatesIn m b) "P" id info
      := by
  intro m
  obtain ⟨hagree, hover⟩ := records_agree_iff_unmarked m "P"
  obtain ⟨b, hb, hheld, hbare, hfound⟩ : ∃ b ∈ (survey m).bodies,
      (evaluatesIn m b).aliases.resolve? "P" = some 9 ∧
      (evaluatesIn m b).types.unwrap 9 = 9 ∧
      ((evaluatesIn m b).types.dataInfo? 9).isSome = true := by decide +kernel
  have hmeets := meets_buildsPoint hb
  obtain ⟨info, hinfo⟩ := Option.isSome_iff_exists.1 hfound
  refine ⟨b, hb, hmeets, ⟨9, info, builds_iff.2 ⟨9, hheld, hbare, hinfo⟩⟩, ?_⟩
  refine (hagree _ (hover b hb _ hmeets)).2 ?_
  rintro ⟨id, base, level, category, info', hr, hl, -⟩
  have hid : (survey m).declared.aliases.resolve? "P" = some 9 := by decide +kernel
  obtain rfl : id = 9 := Option.some.inj (hr.symm.trans hid)
  have hdata : (survey m).declared.types.lookup 9 = some (.data 0) := by decide +kernel
  cases hl.symm.trans hdata

/-- **Under an alias of the record with a mark the record is built, but not taken apart.** -/
theorem not_records_agree_marked :
    let m := namesPoint (.pii {} (.name {} "Point") .l2 "geo")
    ∃ b ∈ (survey m).bodies, b.Meets m (.expr buildsPoint, evaluatesIn m b) ∧
      ¬ ∀ id info, Builds (evaluatesIn m b) "P" id info ↔
        TakesApart (evaluatesIn m b) "P" id info := by
  intro m
  obtain ⟨b, hb, hheld, hmark, hfound⟩ : ∃ b ∈ (survey m).bodies,
      (evaluatesIn m b).aliases.resolve? "P" = some 10 ∧
      (evaluatesIn m b).types.lookup 10 = some (.pii 9 .l2 "geo") ∧
      ((evaluatesIn m b).types.dataInfo? 9).isSome = true := by decide +kernel
  obtain ⟨info, hinfo⟩ := Option.isSome_iff_exists.1 hfound
  refine ⟨b, hb, meets_buildsPoint hb, ?_⟩
  rw [agree_iff_not_marksRecord, not_not]
  exact ⟨10, 9, .l2, "geo", info, hheld, hmark, hinfo⟩

end CoreCheck.Check

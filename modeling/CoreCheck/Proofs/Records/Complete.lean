import CoreCheck.Proofs.Records.Fields
import CoreCheck.Proofs.Records.Named

/-!
# Proofs/Records/Complete — which constructions are accepted

A construction walks its initialisers in turn and remembers the names it has seen, those of unknown
fields as well.  What it reports itself stands between the reports of the values; it is nothing
exactly when the initialisers name every field once and every value fits into its field, and the one
report of missing fields lists those that no initialiser names (`construct_complete`).
-/

namespace CoreCheck.Check

open CoreCheck.Types CoreCheck.Ir

/-! ## What sequences write down -/

section Notes

variable {α β : Type} {x : Walk α} {s : State}

theorem Quiet.logGrows (h : Quiet s (x.after s)) : LogGrows s (x.after s) (x.notes s) := by
  obtain ⟨obs, hobs, -⟩ := h.grows
  rwa [notes_of_logGrows hobs]

/-- **A sequence writes down what its steps write down**, one after the other. -/
theorem notes_bind {f : α → Walk β} (hx : Walk.Keeps Quiet x)
    (hf : Walk.Keeps Quiet (f (x.value s))) :
    (x >>= f).notes s = x.notes s ++ (f (x.value s)).notes (x.after s) :=
  notes_of_logGrows ((hx s).logGrows.append (by rw [(hx s).eq]) (hf _).logGrows)

theorem notes_of_report {d : Diagnostic} (h : x.after s = (Walk.report d).after s) :
    x.notes s = [.problem d] :=
  notes_of_logGrows (by rw [h]; simp [LogGrows, Walk.report])

/-- An observation that fields are missing. -/
def Observation.isMissingField : Observation → Bool
  | .problem d => d.code = .missingField
  | _ => false

end Notes

/-! ## One initialiser -/

section Init

variable (info : DataInfo) (seen : List String) (name : String) (v : Value) (s : State)

/-- **An initialiser is right** if it names a field that was not named before, and its value fits
into the field. -/
def InitRight : Prop :=
  name ∉ seen ∧ ∃ field, info.field? name = some field ∧
    s.types.compatible field.type v.type = true

/-- **What checking an initialiser does**: nothing if it is right, and else one report. -/
theorem init_cases (span at_ : Span) :
    (InitRight info seen name v s ∧ (checkInit info seen name span at_ v).after s = s) ∨
    (¬ InitRight info seen name v s ∧ ∃ d : Diagnostic, d.code ≠ .missingField ∧
      (checkInit info seen name span at_ v).after s = (Walk.report d).after s) := by
  have hcode : ∀ {c : Code}, c ≠ .missingField → ∀ {d : Diagnostic}, d.code = c →
      d.code ≠ .missingField := fun hc _ hd => hd ▸ hc
  rw [checkInit]
  by_cases hseen : name ∈ seen
  · rw [if_pos (List.contains_iff_mem.2 hseen)]
    exact .inr ⟨fun h => h.1 hseen, _, hcode (c := .duplicateSymbol) (by decide) rfl, rfl⟩
  · rw [if_neg (mt List.contains_iff_mem.1 hseen)]
    cases hfield : info.field? name with
    | none =>
      refine .inr ⟨?_, _, hcode (c := .unknownField) (by decide) rfl, rfl⟩
      rintro ⟨-, field, hf, -⟩
      cases hfield.symm.trans hf
    | some field =>
      by_cases hfits : s.types.compatible field.type v.type = true
      · refine .inl ⟨⟨hseen, field, hfield, hfits⟩, ?_⟩
        simp only [Walk.after_bind, Walk.value_types, Walk.after_types, hfits]
        rfl
      · refine .inr ⟨?_, ?_⟩
        · rintro ⟨-, field', hf, hfits'⟩
          obtain rfl : field = field' := Option.some.inj (hfield.symm.trans hf)
          exact hfits hfits'
        · simp only [Walk.after_bind, Walk.value_types, Walk.after_types, hfits]
          exact ⟨_, hcode (c := .typeMismatch) (by decide) rfl, rfl⟩

variable (span at_ : Span)

theorem notes_init_eq_nil_iff :
    (checkInit info seen name span at_ v).notes s = [] ↔ InitRight info seen name v s := by
  obtain ⟨hright, hafter⟩ | ⟨hwrong, d, -, hafter⟩ := init_cases info seen name v s span at_
  · exact iff_of_true (notes_of_after_eq hafter) hright
  · rw [notes_of_report hafter]
    exact iff_of_false (List.cons_ne_nil _ _) hwrong

theorem filter_notes_init :
    ((checkInit info seen name span at_ v).notes s).filter Observation.isMissingField = [] := by
  obtain ⟨-, hafter⟩ | ⟨-, d, hd, hafter⟩ := init_cases info seen name v s span at_
  · rw [notes_of_after_eq hafter, List.filter_nil]
  · rw [notes_of_report hafter, List.filter_cons_of_neg (by simpa [Observation.isMissingField]),
      List.filter_nil]

end Init

/-! ## The initialisers in turn -/

/-- **The turn of an initialiser**: the field it names, where its problems are placed, its value,
the names seen so far and the state in which the value is walked. -/
structure InitTurn where
  name : String
  span : Span
  expr : Expr
  seen : List String
  start : State

namespace InitTurn

/-- The value of the initialiser. -/
def value (t : InitTurn) : Value := (checkExpr t.expr).value t.start

/-- The state in which the initialiser is checked, once its value was walked. -/
def state (t : InitTurn) : State := (checkExpr t.expr).after t.start

/-- The check of the initialiser. -/
def check (info : DataInfo) (t : InitTurn) : Walk (List String) :=
  checkInit info t.seen t.name t.span t.expr.span t.value

/-- The value fits into the field. -/
def Fits (info : DataInfo) (t : InitTurn) : Prop :=
  ∃ field, info.field? t.name = some field ∧ t.state.types.compatible field.type t.value.type = true

end InitTurn

/-- The turns of the initialisers of a construction, in their order. -/
def initTurns (outer : Span) (info : DataInfo) (seen : List String) (s : State) :
    List Init → List InitTurn
  | [] => []
  | .mk span name value :: rest =>
    let turn : InitTurn := ⟨name, span.orElse outer, value, seen, s⟩
    turn :: initTurns outer info ((turn.check info).value turn.state)
      ((turn.check info).after turn.state) rest

section Turns

variable (outer : Span) (info : DataInfo)

theorem names_initTurns (seen : List String) (s : State) (is : List Init) :
    (initTurns outer info seen s is).map (·.name) = is.map Init.name := by
  induction is generalizing seen s with
  | nil => rfl
  | cons i is ih =>
    obtain ⟨span, name, value⟩ := i
    exact congrArg (List.cons name) (ih _ _)

/-- **What the initialisers write down**: in turn the notes of a value and those of its check. -/
theorem notes_inits (seen : List String) (taint : Option Taint) (s : State) (is : List Init) :
    (checkInits outer (some info) seen taint is).notes s
      = (initTurns outer info seen s is).flatMap fun t =>
        (checkExpr t.expr).notes t.start ++ (t.check info).notes t.state := by
  induction is generalizing seen taint s with
  | nil =>
    rw [checkInits]
    exact notes_of_after_eq rfl
  | cons i is ih =>
    obtain ⟨span, name, value⟩ := i
    have hcheck := (reports_init info seen name (span.orElse outer) value.span
      ((checkExpr value).value s)).quiet
    rw [checkInits, initTurns, List.flatMap_cons, ← ih, List.append_assoc]
    rw [notes_bind (quiet_expr value) (.bind hcheck fun _ => quiet_inits _ _ _ _ _),
      notes_bind hcheck (quiet_inits _ _ _ _ _)]
    rfl

/-- The names that were seen in the end are those of the initialisers. -/
theorem mem_seen_inits (seen : List String) (taint : Option Taint) (s : State) (is : List Init)
    (n : String) :
    n ∈ ((checkInits outer (some info) seen taint is).value s).1 ↔
      n ∈ seen ∨ n ∈ is.map Init.name := by
  induction is generalizing seen taint s with
  | nil =>
    rw [checkInits]
    simp
  | cons i is ih =>
    obtain ⟨span, name, value⟩ := i
    rw [checkInits]
    simp only [Walk.value_bind, ih, value_init, List.map_cons, List.mem_cons, Init.name]
    by_cases hseen : name ∈ seen
    · rw [if_pos (List.contains_iff_mem.2 hseen)]
      grind
    · rw [if_neg (mt List.contains_iff_mem.1 hseen), List.mem_cons]
      grind

/-- **All initialisers are right** exactly when no name is repeated or was seen before, and the
values fit. -/
theorem initRight_iff (seen : List String) (s : State) (is : List Init) :
    (∀ t ∈ initTurns outer info seen s is, InitRight info t.seen t.name t.value t.state) ↔
      (is.map Init.name).Nodup ∧ (∀ n ∈ is.map Init.name, n ∉ seen) ∧
        ∀ t ∈ initTurns outer info seen s is, t.Fits info := by
  induction is generalizing seen s with
  | nil => simp [initTurns]
  | cons i is ih =>
    obtain ⟨span, name, value⟩ := i
    rw [initTurns, List.forall_mem_cons, List.forall_mem_cons, List.map_cons, List.nodup_cons,
      List.forall_mem_cons, ih]
    by_cases hseen : name ∈ seen
    · exact iff_of_false (fun h => h.1.1 hseen) fun h => h.2.1.1 hseen
    · have hnext : (InitTurn.check info ⟨name, span.orElse outer, value, seen, s⟩).value
          (InitTurn.state ⟨name, span.orElse outer, value, seen, s⟩) = name :: seen := by
        rw [InitTurn.check, value_init, if_neg (mt List.contains_iff_mem.1 hseen)]
      have hapart : (∀ n ∈ is.map Init.name, n ∉ name :: seen) ↔
          name ∉ is.map Init.name ∧ ∀ n ∈ is.map Init.name, n ∉ seen := by
        simp only [List.mem_cons, not_or, forall₂_and]
        exact and_congr_left' ⟨fun h hmem => h name hmem rfl, fun h n hn he => h (he ▸ hn)⟩
      rw [hnext, hapart]
      exact ⟨fun ⟨⟨_, hfits⟩, hnodup, ⟨hnew, hfresh⟩, hrest⟩ =>
          ⟨⟨hnew, hnodup⟩, ⟨hseen, hfresh⟩, hfits, hrest⟩,
        fun ⟨⟨hnew, hnodup⟩, ⟨_, hfresh⟩, hfits, hrest⟩ =>
          ⟨⟨hseen, hfits⟩, hnodup, ⟨hnew, hfresh⟩, hrest⟩⟩

end Turns

/-! ## The fields that are missing -/

/-- **The report of missing fields.** -/
def missingFields (span : Span) (name : String) (missing : List String) : Diagnostic :=
  ((Diagnostic.error .missingField span
    ("construction of " ++ name ++ " is missing " ++ plural missing.length "field" "fields" ++ " "
      ++ Text.join ", " missing)).withText "type" name).withData "fields" (.strings missing)

/-- What is written down of missing fields: one report, if there are any. -/
def missingNotes (span : Span) (name : String) (missing : List String) : List Observation :=
  if missing = [] then [] else [.problem (missingFields span name missing)]

theorem notes_complete (span : Span) (info : DataInfo) (seen : List String) (s : State) :
    (checkComplete span info seen).notes s
      = missingNotes span info.name ((info.fields.map Field.name).filter (· ∉ seen)) := by
  have hmissing : (info.fields.map Field.name).filter (!seen.contains ·)
      = (info.fields.map Field.name).filter (· ∉ seen) := by
    refine List.filter_congr fun n _ => ?_
    simp
  rw [checkComplete, hmissing, missingNotes]
  by_cases h : (info.fields.map Field.name).filter (· ∉ seen) = []
  · rw [if_pos h, if_pos (List.isEmpty_iff.2 h)]
    exact notes_of_after_eq rfl
  · rw [if_neg h, if_neg (mt List.isEmpty_iff.1 h)]
    exact notes_of_report rfl

theorem filter_missingNotes (span : Span) (name : String) (missing : List String) :
    (missingNotes span name missing).filter Observation.isMissingField
      = missingNotes span name missing := by
  rw [missingNotes]
  split <;> rfl

/-! ## Constructions -/

section Construct

variable (span : Span) (type : String) (info : DataInfo) (inits : List Init) (s : State)

/-- The check that no field is missing, when the initialisers have been walked. -/
def lastCheck : List Observation :=
  let walked := checkInits span (some info) [] none inits
  (checkComplete span info (walked.value s).1).notes (walked.after s)

/-- **What a construction reports itself**, apart from the values of its initialisers: what finding
the record gives, the checks of the initialisers, and the check that no field is missing. -/
def ownNotes : List Observation :=
  (dataType type span).notes s
    ++ (initTurns span info [] s inits).flatMap (fun t => (t.check info).notes t.state)
    ++ lastCheck span info inits s

theorem lastCheck_eq :
    lastCheck span info inits s = missingNotes span info.name
      ((info.fields.map Field.name).filter (· ∉ inits.map Init.name)) := by
  rw [lastCheck, notes_complete]
  congr 1
  refine List.filter_congr fun n _ => ?_
  simp only [mem_seen_inits, List.not_mem_nil, false_or]

variable {span type info s} {id : TypeId} (hdata : (dataType type span).value s = (id, some info))

include hdata

/-- **What a construction writes down**: what it reports itself, with the notes of each value in
front of the check of its initialiser. -/
theorem notes_construct :
    (checkExpr (.construct span type inits)).notes s
      = (dataType type span).notes s
        ++ (initTurns span info [] s inits).flatMap (fun t =>
          (checkExpr t.expr).notes t.start ++ (t.check info).notes t.state)
        ++ lastCheck span info inits s := by
  have hlast : ∀ seen, Walk.Keeps Quiet
      ((some info).forM fun info => checkComplete span info seen) :=
    fun seen => (reports_completeAll span (some info) seen).quiet
  have hinits := quiet_inits span (some info) [] none inits
  rw [checkExpr, List.append_assoc, notes_bind (reports_dataType type span).quiet, hdata,
    after_dataType hdata]
  · dsimp only
    rw [notes_bind hinits (.bind (hlast _) fun _ => .pure _), notes_inits]
    rfl
  · rw [hdata]
    exact .bind hinits fun _ => .bind (hlast _) fun _ => .pure _

theorem ownNotes_eq :
    ownNotes span type info inits s
      = (initTurns span info [] s inits).flatMap (fun t => (t.check info).notes t.state)
        ++ missingNotes span info.name
          ((info.fields.map Field.name).filter (· ∉ inits.map Init.name)) := by
  rw [ownNotes, notes_of_after_eq (after_dataType hdata), List.nil_append, lastCheck_eq]

/-- **A construction reports one list of missing fields, or none.** -/
theorem filter_ownNotes :
    (ownNotes span type info inits s).filter Observation.isMissingField
      = missingNotes span info.name
        ((info.fields.map Field.name).filter (· ∉ inits.map Init.name)) := by
  rw [ownNotes_eq inits hdata, List.filter_append, filter_missingNotes, List.filter_flatMap]
  have hchecks : ∀ t ∈ initTurns span info [] s inits,
      ((t.check info).notes t.state).filter Observation.isMissingField = [] :=
    fun t _ => filter_notes_init _ _ _ _ _ _ _
  rw [List.flatMap_eq_nil_iff.2 hchecks, List.nil_append]

/-- **A construction is accepted** exactly when its initialisers name every field once, and the
values fit. -/
theorem ownNotes_eq_nil_iff (hnodup : (info.fields.map Field.name).Nodup) :
    ownNotes span type info inits s = [] ↔
      (inits.map Init.name).Perm (info.fields.map Field.name) ∧
        ∀ t ∈ initTurns span info [] s inits, t.Fits info := by
  have hchecks : (initTurns span info [] s inits).flatMap (fun t => (t.check info).notes t.state)
      = [] ↔ (inits.map Init.name).Nodup ∧ ∀ t ∈ initTurns span info [] s inits, t.Fits info := by
    rw [List.flatMap_eq_nil_iff]
    refine (forall₂_congr fun t _ => notes_init_eq_nil_iff _ _ _ _ _ _ _).trans ?_
    rw [initRight_iff]
    simp
  have hmissing : missingNotes span info.name
      ((info.fields.map Field.name).filter (· ∉ inits.map Init.name)) = [] ↔
        ∀ n ∈ info.fields.map Field.name, n ∈ inits.map Init.name := by
    rw [missingNotes]
    split
    · next h => simpa using h
    · next h => simpa using h
  rw [ownNotes_eq inits hdata, List.append_eq_nil_iff, hchecks, hmissing]
  constructor
  · rintro ⟨⟨hdistinct, hfits⟩, hall⟩
    refine ⟨(List.perm_ext_iff_of_nodup hdistinct hnodup).2 fun n => ⟨fun hn => ?_, hall n⟩, hfits⟩
    rw [← names_initTurns span info [] s] at hn
    obtain ⟨t, ht, rfl⟩ := List.mem_map.1 hn
    obtain ⟨field, hfield, -⟩ := hfits t ht
    have hname : field.name = t.name := by simpa using List.find?_some hfield
    exact hname ▸ List.mem_map_of_mem (List.mem_of_find?_eq_some hfield)
  · rintro ⟨hperm, hfits⟩
    exact ⟨⟨hperm.nodup_iff.2 hnodup, hfits⟩, fun n hn => hperm.mem_iff.2 hn⟩

end Construct

/-! ## The constructions of a module -/

/-- A record that is found in a body is one of the declarations, under its number. -/
theorem Over.record_of_dataInfo {m : Module} {s : State} (h : Over (survey m).declared s)
    {id : TypeId} {info : DataInfo} (hi : s.types.dataInfo? id = some info) :
    ∃ slot fs, s.types.lookup id = some (.data slot) ∧
      (m.decls.filterMap Decl.record?)[slot]? = some (info.name, fs) ∧
      info.fields.map Field.name = distinctNames fs := by
  rw [Arena.dataInfo?] at hi
  split at hi
  · next slot hl =>
    rw [h.ext.datas_eq] at hi
    have hslot := congrArg (·[slot]?) (outlines_survey m)
    simp only [List.getElem?_map, Array.getElem?_toList, hi, Option.map_some] at hslot
    obtain ⟨⟨name, fs⟩, hr, hout⟩ := Option.map_eq_some_iff.1 hslot.symm
    obtain ⟨rfl, hnames⟩ := Prod.mk.inj hout
    exact ⟨slot, fs, hl, hr, hnames.symm⟩
  · cases hi

/-- **A construction is accepted exactly when it is complete.**  Wherever a body of a module
constructs a record, the record is that of a declaration, and what the construction writes down is
what it reports itself, with the notes of the values in between.  It reports nothing exactly when
the names of its initialisers are those of the declared fields, each once and in any order, and
each value fits into its field; it reports one list of missing fields, in the order of the
declaration, if there are any, and none if not. -/
theorem construct_complete {m : Module} {b : Body} (hb : b ∈ (survey m).bodies) {span : Span}
    {type : String} {inits : List Init} {s : State} {id : TypeId} {info : DataInfo}
    (hmeets : b.Meets m (.expr (.construct span type inits), s))
    (hdata : (dataType type span).value s = (id, some info)) :
    ∃ slot fs, s.types.lookup id = some (.data slot) ∧
      (m.decls.filterMap Decl.record?)[slot]? = some (info.name, fs) ∧
      info.fields.map Field.name = distinctNames fs ∧
      (checkExpr (.construct span type inits)).notes s
        = (dataType type span).notes s
          ++ (initTurns span info [] s inits).flatMap (fun t =>
            (checkExpr t.expr).notes t.start ++ (t.check info).notes t.state)
          ++ lastCheck span info inits s ∧
      (ownNotes span type info inits s = [] ↔
        (inits.map Init.name).Perm (distinctNames fs) ∧
          ∀ t ∈ initTurns span info [] s inits, t.Fits info) ∧
      (ownNotes span type info inits s).filter Observation.isMissingField
        = missingNotes span info.name ((distinctNames fs).filter (· ∉ inits.map Init.name)) := by
  obtain ⟨held, -, -, hi⟩ := value_dataType_eq_some.1 hdata
  obtain ⟨slot, fs, hl, hr, hnames⟩ := (hmeets.grounded hb).paired.left.record_of_dataInfo hi
  refine ⟨slot, fs, hl, hr, hnames, notes_construct inits hdata, ?_, ?_⟩
  · rw [← hnames]
    exact ownNotes_eq_nil_iff inits hdata (hnames ▸ nodup_eraseDups _)
  · rw [← hnames]
    exact filter_ownNotes inits hdata

/-- A construction that names one of two fields. -/
def halfPair : List Init := [.mk {} "left" (.literal {} (.int 1))]

/-- A module with a record one of whose fields is declared twice, and a function that builds it. -/
def buildsHalf : Module := moduleOf
  [.data {} "Pair" [⟨{}, "left", .name {} "Int"⟩, ⟨{}, "left", .name {} "Text"⟩,
    ⟨{}, "right", .name {} "Int"⟩], .func (evaluates (.construct {} "Pair" halfPair))]

/-- The other field is missing, and nothing else is. -/
theorem construct_complete_buildsHalf :
    ∃ b ∈ (survey buildsHalf).bodies, ∃ id info,
      (dataType "Pair" {}).value (evaluatesIn buildsHalf b) = (id, some info) ∧
      (ownNotes {} "Pair" info halfPair (evaluatesIn buildsHalf b)).filter
          Observation.isMissingField
        = [.problem (missingFields {} info.name ["right"])] := by
  obtain ⟨b, hb, hfound⟩ : ∃ b ∈ (survey buildsHalf).bodies,
      ((dataType "Pair" {}).value (evaluatesIn buildsHalf b)).2.isSome = true := by decide +kernel
  obtain ⟨info, hinfo⟩ := Option.isSome_iff_exists.1 hfound
  have hmeets := meets_evaluates (m := buildsHalf) (e := .construct {} "Pair" halfPair) hb
    fun f hf => by simpa [buildsHalf, moduleOf] using hf
  refine ⟨b, hb, _, info, Prod.ext rfl hinfo, ?_⟩
  obtain ⟨slot, fs, -, hslot, -, -, -, hmissing⟩ :=
    construct_complete hb hmeets (Prod.ext rfl hinfo)
  rw [hmissing]
  cases slot with
  | zero =>
    obtain ⟨-, rfl⟩ := Prod.mk.inj (Option.some.inj hslot)
    have hright : (distinctNames [⟨{}, "left", .name {} "Int"⟩, ⟨{}, "left", .name {} "Text"⟩,
        ⟨{}, "right", .name {} "Int"⟩]).filter (· ∉ halfPair.map Init.name) = ["right"] := by decide
    rw [hright]
    rfl
  | succ slot => cases hslot

end CoreCheck.Check

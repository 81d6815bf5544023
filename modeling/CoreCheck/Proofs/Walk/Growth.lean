import CoreCheck.Proofs.Types.Sound
import CoreCheck.Proofs.Walk.Run

/-!
# Proofs/Walk/Growth — what a walk leaves alone

Four relations between the state before a step and the state after it, each wider than the one
before.  A step that only `Reports` adds problems to the log, one that `Makes` types adds those too.
A `Quiet` step may also observe calls, but binds nothing: every expression is walked quietly.  What
every step of a body keeps is `Later`: numbers of types stay, the names of types stay, and the log
grows at its end.  Whatever problem a walk writes down is one with names or types; effects,
capabilities and sensitive data are left to the verdict.  That a path may end without a return is
no problem of any one place, and none of these steps reports it.
-/

namespace CoreCheck

/-- Whether a code is about names and types. -/
def Code.isSemantic (c : Code) : Bool := c.number / 1000 == 1

/-- Whether a code is about the names and types of one place, and not about the paths of a body. -/
def Code.isLocal (c : Code) : Bool := c.isSemantic && c != .missingReturn

theorem Code.isSemantic_of_isLocal {c : Code} (h : c.isLocal = true) : c.isSemantic = true :=
  (Bool.and_eq_true_iff.1 h).1

section

variable (d : Diagnostic)

@[simp] theorem Diagnostic.code_error (code : Code) (span : Span) (message : String) :
    (Diagnostic.error code span message).code = code := rfl

@[simp] theorem Diagnostic.code_withData (key : String) (value : Json) :
    (d.withData key value).code = d.code := rfl

@[simp] theorem Diagnostic.code_withText (key value : String) :
    (d.withText key value).code = d.code := rfl

@[simp] theorem Diagnostic.code_withHelp (help : String) : (d.withHelp help).code = d.code := rfl

@[simp] theorem Diagnostic.code_withNote (span : Span) (message : String) :
    (d.withNote span message).code = d.code := rfl

end

namespace Check

open CoreCheck.Types CoreCheck.Scope CoreCheck.Ir

/-- Whether an observation is no problem, or one with names and types. -/
def Observation.isPlain : Observation → Bool
  | .problem d => d.code.isSemantic
  | _ => true

/-- Whether an observation is neither a visit nor a problem of one place. -/
def Observation.isNotable : Observation → Bool
  | .problem d => !d.code.isLocal
  | .visits _ _ => false
  | _ => true

/-- The log grows at its end, by entries of one declaration. -/
def LogGrows (s t : State) (obs : List Observation) : Prop :=
  t.log.toList = s.log.toList ++ obs.map (s.owner, ·)

theorem LogGrows.nil {s t : State} (h : t.log = s.log) : LogGrows s t [] := by
  rw [LogGrows, h, List.map_nil, List.append_nil]

theorem LogGrows.append {s t u : State} {obs more : List Observation} (h : LogGrows s t obs)
    (ho : t.owner = s.owner) (h' : LogGrows t u more) : LogGrows s u (obs ++ more) := by
  rw [LogGrows] at h h' ⊢
  rw [h', h, ho, List.map_append, List.append_assoc]

/-- The log grows by plain observations. -/
def Grows (s t : State) : Prop := ∃ obs, LogGrows s t obs ∧ ∀ o ∈ obs, o.isPlain = true

theorem Grows.nil {s t : State} (h : t.log = s.log) : Grows s t :=
  ⟨[], .nil h, fun _ ho => nomatch ho⟩

theorem Grows.trans {s t u : State} (h : Grows s t) (ho : t.owner = s.owner) (h' : Grows t u) :
    Grows s u := by
  obtain ⟨obs, hobs, hplain⟩ := h
  obtain ⟨more, hmore, hplain'⟩ := h'
  exact ⟨obs ++ more, hobs.append ho hmore, List.forall_mem_append.2 ⟨hplain, hplain'⟩⟩

/-! ## Steps that only report -/

/-- **Only problems are added.** -/
structure Reports (s t : State) : Prop where
  eq : t = { s with log := t.log }
  grows : ∃ ds : List Diagnostic, LogGrows s t (ds.map .problem) ∧
    ∀ d ∈ ds, d.code.isLocal = true

theorem Reports.table {s t : State} (h : Reports s t) : t.table = s.table := by rw [h.eq]

theorem Reports.types {s t : State} (h : Reports s t) : t.types = s.types := by rw [h.eq]

instance : Walk.Course Reports where
  refl s := ⟨rfl, [], .nil rfl, fun _ h => nomatch h⟩
  trans := by
    rintro s t u ⟨ht, ds, hds, hd⟩ ⟨hu, es, hes, he⟩
    refine ⟨by rw [hu, ht], ds ++ es, ?_, List.forall_mem_append.2 ⟨hd, he⟩⟩
    rw [List.map_append]
    exact hds.append (by rw [ht]) hes

/-- A problem is reported, which is one of its place by its code. -/
theorem reports_report (code : Code) {d : Diagnostic} (hcode : code.isLocal = true)
    (hd : d.code = code) : Walk.Keeps Reports (Walk.report d) := fun s =>
  ⟨rfl, [d], by simp [LogGrows, Walk.report], by simpa [hd] using hcode⟩

theorem reports_error (code : Code) (span : Span) (message : String)
    (hcode : code.isLocal = true) : Walk.Keeps Reports (Walk.error code span message) :=
  reports_report code hcode rfl

theorem reports_duplicate (what name : String) (span previous : Span) :
    Walk.Keeps Reports (Walk.reportDuplicate what name span previous) :=
  reports_report .duplicateSymbol rfl (by split <;> rfl)

theorem reports_undefined (name : String) (span : Span) :
    Walk.Keeps Reports (Walk.reportUndefined name span) :=
  reports_report .undefinedSymbol rfl rfl

theorem reports_unknownType (name : String) (span : Span) :
    Walk.Keeps Reports (Walk.reportUnknownType name span) :=
  reports_report .unknownType rfl rfl

theorem reports_noField (span : Span) (type field : String) :
    Walk.Keeps Reports (reportNoField span type field) :=
  reports_report .unknownField rfl rfl

theorem reports_misfit (code : Code) (span : Span) (message expected actual : String)
    (hcode : code.isLocal = true) :
    Walk.Keeps Reports (reportMisfit code span message expected actual) :=
  reports_report code hcode rfl

/-- A report that names one type. -/
theorem reports_label {id : TypeId} {α : Type} {f : String → Walk α}
    (h : ∀ label, Walk.Keeps Reports (f label)) :
    Walk.Keeps Reports (Walk.labelOf id >>= f) := .look (fun _ => rfl) h

/-- A report that names two types. -/
theorem reports_labels {id id' : TypeId} {α : Type} {f : String → String → Walk α}
    (h : ∀ l r, Walk.Keeps Reports (f l r)) :
    Walk.Keeps Reports (Walk.labelOf id >>= fun l => Walk.labelOf id' >>= f l) :=
  reports_label fun l => reports_label (h l)

theorem reports_dataType (name : String) (span : Span) :
    Walk.Keeps Reports (dataType name span) := by
  unfold dataType
  refine .look (fun _ => rfl) fun s => ?_
  split
  · exact .bind (reports_unknownType _ _) fun _ => .pure _
  · refine .look (fun _ => rfl) fun a => ?_
    split
    · exact .pure _
    · exact .guard (.pure _) (.of_after_eq fun _ => rfl) fun _ =>
        .bind (reports_error _ _ _ rfl) fun _ => .pure _

theorem reports_init (info : DataInfo) (seen : List String) (name : String) (span at_ : Span)
    (v : Value) : Walk.Keeps Reports (checkInit info seen name span at_ v) := by
  unfold checkInit
  refine .ite (.bind (reports_error _ _ _ rfl) fun _ => .pure _) ?_
  split
  · exact .bind (reports_noField _ _ _) fun _ => .pure _
  · refine .look (fun _ => rfl) fun a => .guard (.pure _) (.of_after_eq fun _ => rfl) fun l => ?_
    exact reports_label fun r => .bind (reports_report .typeMismatch rfl rfl) fun _ => .pure _

theorem reports_complete (span : Span) (info : DataInfo) (seen : List String) :
    Walk.Keeps Reports (checkComplete span info seen) := by
  unfold checkComplete
  exact .ite (.pure _) (reports_report .missingField rfl rfl)

theorem reports_completeAll (span : Span) (info : Option DataInfo) (seen : List String) :
    Walk.Keeps Reports (info.forM fun info => checkComplete span info seen) := by
  cases info with
  | none => exact .pure _
  | some info => exact reports_complete span info seen

theorem reports_member (span : Span) (base : Value) (field : String) :
    Walk.Keeps Reports (checkMember span base field) := by
  unfold checkMember
  refine .look (fun _ => rfl) fun a => .ite (.pure _) ?_
  split
  · exact reports_label fun _ => .bind (reports_error _ _ _ rfl) fun _ => .pure _
  · split
    · exact .bind (reports_noField _ _ _) fun _ => .pure _
    · exact .pure _

theorem reports_binary (span : Span) (op : String) (left right : Value) :
    Walk.Keeps Reports (checkBinary span op left right) := by
  unfold checkBinary
  dsimp only
  split
  · exact .bind (reports_error _ _ _ rfl) fun _ => .pure _
  · refine .look (fun _ => rfl) fun a => .ite (.pure _) ?_
    split
    · exact .pure _
    · exact reports_labels fun _ _ => .bind (reports_report .invalidOperands rfl rfl) fun _ => .pure _

theorem reports_unary (span : Span) (op : String) (operand : Value) :
    Walk.Keeps Reports (checkUnary span op operand) := by
  unfold checkUnary
  split
  · exact .bind (reports_error _ _ _ rfl) fun _ => .pure _
  · refine .look (fun _ => rfl) fun a => .ite (.pure _) ?_
    exact reports_label fun _ => .bind (reports_error _ _ _ rfl) fun _ => .pure _

theorem reports_callee (c : CallHead) : Walk.Keeps Reports (callee c) := by
  unfold callee
  refine .ite (.pure _) (.ite (.pure _) (.look (fun _ => rfl) fun found => ?_))
  split
  · split
    · exact .pure _
    · refine .look (fun _ => rfl) fun a => .ite (.pure _) ?_
      split <;> exact .pure _
  · exact .pure _

theorem reports_arguments (target : String) (i : Nat) (params : List TypeId)
    (args : List (Value × Span)) : Walk.Keeps Reports (checkArguments target i params args) := by
  induction params generalizing i args with
  | nil => cases args <;> exact .pure _
  | cons p ps ih =>
    cases args with
    | nil => exact .pure _
    | cons arg args =>
      rw [checkArguments]
      refine .look (fun _ => rfl) fun a => .guard (ih _ _) (.of_after_eq fun _ => rfl) fun l => ?_
      exact reports_label fun r => .bind (reports_report .typeMismatch rfl rfl) fun _ => ih _ _

theorem reports_params (c : CallHead) (params : List TypeId) (args : List (Value × Span)) :
    Walk.Keeps Reports (checkParams c params args) := by
  unfold checkParams
  exact .guard (reports_arguments _ _ _ _) (reports_report .arityMismatch rfl rfl) fun _ => reports_arguments _ _ _ _

theorem reports_bareReturn (fn : Enclosing) (span : Span) :
    Walk.Keeps Reports (checkBareReturn fn span) := by
  unfold checkBareReturn
  refine .look (fun _ => rfl) fun a => .ite (.pure _) ?_
  exact reports_label fun _ => reports_report .returnMismatch rfl rfl

theorem reports_return (fn : Enclosing) (span : Span) (v : Value) :
    Walk.Keeps Reports (checkReturn fn span v) := by
  unfold checkReturn
  refine .look (fun _ => rfl) fun a => .ite (reports_label fun _ => reports_misfit _ _ _ _ _ rfl) ?_
  exact .ite (.pure _) (reports_labels fun _ _ => reports_misfit _ _ _ _ _ rfl)

theorem reports_condition (span : Span) (v : Value) :
    Walk.Keeps Reports (checkCondition span v) := by
  unfold checkCondition
  refine .look (fun _ => rfl) fun a => ?_
  split
  · exact .pure _
  · exact .pure _
  · exact reports_label fun _ => reports_error _ _ _ rfl

theorem reports_wrappedType (kind : Wrap) (span : Span) (type : TypeId) :
    Walk.Keeps Reports (wrappedType kind span type) := by
  unfold wrappedType
  refine .look (fun _ => rfl) fun a => .ite (.pure _) ?_
  split
  · exact .pure _
  · exact .pure _
  · exact .pure _
  · exact reports_label fun _ => .bind (reports_error _ _ _ rfl) fun _ => .pure _

theorem reports_variantType (name : String) : Walk.Keeps Reports (variantType? name) := by
  unfold variantType?
  refine .look (fun _ => rfl) fun found => ?_
  split <;> exact .pure _

theorem reports_catchAll (type : TypeId) (p : Pattern) :
    Walk.Keeps Reports (isCatchAll type p) := by
  unfold isCatchAll
  split
  · exact .pure _
  · refine .look (fun _ => rfl) fun a => .ite (.pure _) (.bind (reports_variantType _) fun t => ?_)
    split <;> exact .pure _
  · exact .pure _

theorem reports_takenBy (span : Span) (type : TypeId) (name : String) (count : Nat) :
    Walk.Keeps Reports (takenBy span type name count) := by
  unfold takenBy
  refine .look (fun _ => rfl) fun a => .look (fun _ => rfl) fun s => ?_
  split
  · exact .ite (.pure _) (.bind (reports_unknownType _ _) fun _ => .pure _)
  · split
    · exact reports_label fun _ => .bind (reports_error _ _ _ rfl) fun _ => .pure _
    · dsimp only
      refine .guard (.ite (.bind (reports_report .arityMismatch rfl rfl) fun _ => .pure _) (.pure _))
        (.of_after_eq fun _ => rfl) fun _ => .bind (reports_error _ _ _ rfl) fun _ => ?_
      exact .ite (.bind (reports_report .arityMismatch rfl rfl) fun _ => .pure _) (.pure _)

/-! ## What patterns report -/

/-- The report of a variant of another type. -/
theorem reports_otherVariant (a : Arena) (span : Span) (type t : TypeId) (name : String) :
    Walk.Keeps Reports (do
      unless isOpaque a type || a.compatible (a.unwrap type) t do
        let variant ← Walk.labelOf t
        let label ← Walk.labelOf type
        Walk.error .typeMismatch span ("variant " ++ Text.quote name ++ " of " ++ variant
          ++ " cannot match a value of type " ++ label)
      return {} : Walk Coverage) :=
  .guard (.pure _) (.of_after_eq fun _ => rfl) fun _ =>
    reports_label fun _ => .bind (reports_error _ _ _ rfl) fun _ => .pure _

/-- The report of a constant of another type. -/
theorem reports_literalPattern (span : Span) (type : TypeId) (value : Expr) (v : Value) :
    Walk.Keeps Reports (do
      let a ← Walk.types
      unless isOpaque a type || a.compatible type v.type do
        let actual ← Walk.labelOf v.type
        let label ← Walk.labelOf type
        Walk.error .typeMismatch span
          ("pattern of type " ++ actual ++ " cannot match a value of type " ++ label)
      return literalCoverage value : Walk Coverage) :=
  .look (fun _ => rfl) fun _ => .guard (.pure _) (.of_after_eq fun _ => rfl) fun _ =>
    reports_label fun _ => .bind (reports_error _ _ _ rfl) fun _ => .pure _

/-- The report of none where there is always something. -/
theorem reports_nonePattern (span : Span) (type : TypeId) :
    Walk.Keeps Reports (do
      let a ← Walk.types
      unless isOpaque a type || a.kindOf type == .optional || a.kindOf type == .null do
        let label ← Walk.labelOf type
        Walk.error .typeMismatch span ("none cannot match a value of type " ++ label)
      return { none := true } : Walk Coverage) :=
  .look (fun _ => rfl) fun _ => .guard (.pure _) (.of_after_eq fun _ => rfl) fun _ =>
    .bind (reports_error _ _ _ rfl) fun _ => .pure _

/-! ## Steps that make types -/

/-- **Types are made and problems added**, and all else stays. -/
structure Makes (s t : State) : Prop where
  eq : t = { s with types := t.types, log := t.log }
  types : s.types.Extends t.types
  grows : ∃ ds : List Diagnostic, LogGrows s t (ds.map .problem) ∧
    ∀ d ∈ ds, d.code.isLocal = true

theorem Reports.makes {s t : State} (h : Reports s t) : Makes s t :=
  ⟨by rw [h.eq], by rw [h.eq]; exact .refl _, h.grows⟩

instance : Walk.Course Makes where
  refl s := Reports.makes (Walk.Course.refl s)
  trans := by
    rintro s t u ⟨ht, hst, ds, hds, hd⟩ ⟨hu, htu, es, hes, he⟩
    refine ⟨by rw [hu, ht], hst.trans htu, ds ++ es, ?_, List.forall_mem_append.2 ⟨hd, he⟩⟩
    rw [List.map_append]
    exact hds.append (by rw [ht]) hes

theorem makes_make {f : Arena → Arena × TypeId} (h : ∀ a : Arena, a.Extends (f a).1) :
    Walk.Keeps Makes (Walk.make f) :=
  fun s => ⟨rfl, h s.types, [], .nil rfl, fun _ hd => nomatch hd⟩

/-- Steps that only report make no type. -/
theorem Walk.Keeps.makes {α : Type} {x : Walk α} (h : Walk.Keeps Reports x) :
    Walk.Keeps Makes x := h.mono fun _ _ => Reports.makes

theorem makes_wrap (kind : Wrap) (inner : Value) : Walk.Keeps Makes (checkWrap kind inner) := by
  unfold checkWrap
  cases kind with
  | some =>
    exact .look (fun _ => rfl) fun a => .ite (.pure _)
      (.bind (makes_make fun a => a.extends_intern _) fun _ => .pure _)
  | ok => exact .bind (makes_make fun a => a.extends_intern _) fun _ => .pure _
  | err => exact .bind (makes_make fun a => a.extends_intern _) fun _ => .pure _

/-- The report of an item that does not fit into a list. -/
theorem reports_unjoined (elem : TypeId) (span : Span) (item : Value) :
    Walk.Keeps Reports (do
      let l ← Walk.labelOf elem
      let r ← Walk.labelOf item.type
      Walk.error .typeMismatch span ("list items have incompatible types " ++ l ++ " and " ++ r)
      return elem : Walk TypeId) :=
  reports_labels fun _ _ => .bind (reports_error _ _ _ rfl) fun _ => .pure _

theorem makes_joinItem (elem : Option TypeId) (span : Span) (item : Value) :
    Walk.Keeps Makes (joinItem elem span item) := by
  unfold joinItem
  cases elem with
  | none => exact .pure _
  | some elem =>
    intro s
    have hjoin : Makes s { s with types := (s.types.join elem item.type).1 } :=
      ⟨rfl, Arena.extends_join _ _ _, [], .nil rfl, fun _ hd => nomatch hd⟩
    refine Walk.Course.trans hjoin ?_
    simp only [Walk.after_bind, Walk.value_types, Walk.after_types,
      Walk.after_modify]
    cases (s.types.join elem item.type).2 with
    | some id => exact Walk.Keeps.pure id _
    | none => exact (reports_unjoined elem span item).makes _

/-! ## Written types -/

/-- **What the steps of resolving a written type keep.** They make types, an optional only of what
is none, and report names that stand for nothing. -/
structure KeepingTypes (R : State → State → Prop) : Prop where
  unknownType : ∀ name span, Walk.Keeps R (Walk.reportUnknownType name span)
  var : ∀ name, Walk.Keeps R (Walk.make (·.var name))
  optional : ∀ {s : State} {elem}, s.types.kindOf elem ≠ .optional →
    R s ((Walk.make (·.optional elem)).after s)
  list : ∀ elem, Walk.Keeps R (Walk.make (·.list elem))
  map : ∀ key value, Walk.Keeps R (Walk.make (·.map key value))
  result : ∀ ok err, Walk.Keeps R (Walk.make (·.result ok err))
  func : ∀ params res, Walk.Keeps R (Walk.make (·.func params res))
  pii : ∀ base level category, Walk.Keeps R (Walk.make (·.pii base level category))

theorem keepingTypes_of_makes {R : State → State → Prop}
    (hm : ∀ {s t}, Makes s t → R s t) : KeepingTypes R where
  unknownType name span s := hm ((reports_unknownType name span).makes s)
  var _ s := hm (makes_make (fun a => a.extends_var _) s)
  optional _ := hm (makes_make (fun a => a.extends_intern _) _)
  list _ s := hm (makes_make (fun a => a.extends_intern _) s)
  map _ _ s := hm (makes_make (fun a => a.extends_intern _) s)
  result _ _ s := hm (makes_make (fun a => a.extends_intern _) s)
  func _ _ s := hm (makes_make (fun a => a.extends_func _ _) s)
  pii _ _ _ s := hm (makes_make (fun a => a.extends_pii _ _ _) s)

section Resolve

variable {R : State → State → Prop} [Walk.Course R] {find : Resolver}

/-- An optional that is made unless there is one already. -/
theorem KeepingTypes.orOptional (h : KeepingTypes R) (elem : TypeId) :
    Walk.Keeps R (do
      if (← Walk.types).kindOf elem == .optional then return elem
      else Walk.make (·.optional elem) : Walk TypeId) := by
  intro s
  rw [Walk.after_bind, Walk.value_types, Walk.after_types, Walk.after_ite]
  split
  · exact Walk.Course.refl s
  · next hk => exact h.optional fun he => hk (beq_iff_eq.2 he)

mutual

/-- **Resolving a written type keeps what its steps keep**, if looking up its names does. -/
theorem KeepingTypes.resolveType (h : KeepingTypes R) (hfind : ∀ n, Walk.Keeps R (find n))
    (vars : List String) (fallback : Span) :
    ∀ t : TypeExpr, Walk.Keeps R (resolveType find vars fallback t)
  | .name at_ name => by
    rw [Check.resolveType]
    refine .ite (h.var _) (.bind (hfind name) fun found => ?_)
    split
    · exact .pure _
    · exact .bind (h.unknownType _ _) fun _ => .pure _
  | .var _ name => by
    rw [Check.resolveType]
    exact h.var _
  | .optional at_ elem => by
    rw [Check.resolveType]
    exact .bind (resolveType h hfind vars _ elem) fun elem => h.orOptional elem
  | .list at_ elem => by
    rw [Check.resolveType]
    exact .bind (resolveType h hfind vars _ elem) fun _ => h.list _
  | .map at_ key value => by
    rw [Check.resolveType]
    exact .bind (resolveType h hfind vars _ key) fun _ =>
      .bind (resolveType h hfind vars _ value) fun _ => h.map _ _
  | .result at_ ok err => by
    rw [Check.resolveType]
    exact .bind (resolveType h hfind vars _ ok) fun _ =>
      .bind (resolveType h hfind vars _ err) fun _ => h.result _ _
  | .func at_ params ret => by
    rw [Check.resolveType]
    exact .bind (resolveTypes h hfind vars _ params) fun _ =>
      .bind (resolveResult h hfind vars _ ret) fun _ => h.func _ _
  | .pii at_ elem level category => by
    rw [Check.resolveType]
    exact .bind (resolveType h hfind vars _ elem) fun _ => h.pii _ _ _

theorem KeepingTypes.resolveTypes (h : KeepingTypes R) (hfind : ∀ n, Walk.Keeps R (find n))
    (vars : List String) (fallback : Span) :
    ∀ ts : List TypeExpr, Walk.Keeps R (resolveTypes find vars fallback ts)
  | [] => by rw [Check.resolveTypes]; exact .pure _
  | t :: ts => by
    rw [Check.resolveTypes]
    exact .bind (resolveType h hfind vars fallback t) fun _ =>
      .bind (resolveTypes h hfind vars fallback ts) fun _ => .pure _

theorem KeepingTypes.resolveResult (h : KeepingTypes R) (hfind : ∀ n, Walk.Keeps R (find n))
    (vars : List String) (fallback : Span) :
    ∀ t : Option TypeExpr, Walk.Keeps R (resolveResult find vars fallback t)
  | none => by rw [Check.resolveResult]; exact .pure _
  | some t => by rw [Check.resolveResult]; exact resolveType h hfind vars fallback t

end

/-- **Resolving a written type keeps what making types keeps**, if looking up its names does. -/
theorem keeps_resolveType (hm : ∀ {s t}, Makes s t → R s t) (hfind : ∀ n, Walk.Keeps R (find n))
    (vars : List String) (fallback : Span) (t : TypeExpr) :
    Walk.Keeps R (resolveType find vars fallback t) :=
  (keepingTypes_of_makes hm).resolveType hfind vars fallback t

theorem keeps_resolveResult (hm : ∀ {s t}, Makes s t → R s t) (hfind : ∀ n, Walk.Keeps R (find n))
    (vars : List String) (fallback : Span) (t : Option TypeExpr) :
    Walk.Keeps R (resolveResult find vars fallback t) :=
  (keepingTypes_of_makes hm).resolveResult hfind vars fallback t

end Resolve

/-! ## Names of types -/

/-- **What the steps of looking names up keep**, when it is a matter of the types alone. -/
structure KeepingNames (R : State → State → Prop) : Prop extends KeepingTypes R where
  still : ∀ {s t : State}, t.types = s.types → R s t

namespace KeepingNames

variable {R : State → State → Prop} [Walk.Course R] (h : KeepingNames R)

include h

theorem ownedBy {α : Type} {x : Walk α} (hx : Walk.Keeps R x) (i : Nat) :
    Walk.Keeps R (Walk.ownedBy i x) := fun s =>
  Walk.Course.trans (h.still (t := { s with owner := some i }) rfl)
    (Walk.Course.trans (hx _) (h.still rfl))

/-- **Aliases are resolved on the way**, each on behalf of its own declaration. -/
theorem aliasResolver (targets : List AliasTarget) (fuel : Nat) (name : String) :
    Walk.Keeps R (Check.aliasResolver targets fuel name) := by
  induction fuel generalizing name with
  | zero => exact .pure _
  | succ fuel ih =>
    rw [Check.aliasResolver]
    split
    · exact .look (fun _ => rfl) fun _ => .pure _
    · next t _ =>
      refine .look (fun _ => rfl) fun s => ?_
      split
      · exact .look (fun _ => rfl) fun _ => .pure _
      · exact .bind (fun _ => h.still rfl) fun _ => .pure _
      · exact .bind (fun _ => h.still rfl) fun _ =>
          .bind (h.ownedBy (h.resolveType ih [] t.span t.target) _) fun _ =>
            .bind (fun _ => h.still rfl) fun _ => .pure _

theorem onDemand (targets : List AliasTarget) (name : String) :
    Walk.Keeps R (Check.onDemand targets name) := h.aliasResolver targets _ name

theorem resolveFields (targets : List AliasTarget) (owner : Span) (seen : List (String × Span))
    (fs : List TypedName) :
    Walk.Keeps R (Check.resolveFields (Check.onDemand targets) owner seen fs) := by
  induction fs generalizing seen with
  | nil => exact .pure _
  | cons f fs ih =>
    rw [Check.resolveFields]
    split
    · exact .bind (fun _ => h.still rfl) fun _ => ih _
    · exact .bind (h.resolveType (h.onDemand targets) [] owner f.type) fun _ =>
        .bind (ih _) fun _ => .pure _

theorem resolveAlias (targets : List AliasTarget) (span : Span) (name : String)
    (target : TypeExpr) (i : Nat) (own : Option TypeId) :
    Walk.Keeps R (resolveDecl targets (.alias span name target, i, own)) := by
  rw [resolveDecl]
  exact .ite (.bind (h.onDemand targets name) fun _ => .pure _)
    (.bind (h.ownedBy (h.resolveType (h.onDemand targets) [] span target) i) fun _ => .pure _)

end KeepingNames

theorem makes_resolveType {find : Resolver} (hfind : ∀ n, Walk.Keeps Makes (find n))
    (vars : List String) (fallback : Span) (t : TypeExpr) :
    Walk.Keeps Makes (resolveType find vars fallback t) :=
  keeps_resolveType (fun h => h) hfind vars fallback t

theorem makes_tableResolver (name : String) : Walk.Keeps Makes (tableResolver name) :=
  .of_after_eq fun _ => rfl

/-- With a written type, a binding resolves it and then only reports. -/
theorem reports_bindingOf (fn : Enclosing) (span : Span) (name : String) (t : TypeExpr) (v : Value)
    (s : State) : Reports ((resolveType tableResolver fn.typeParams fn.span t).after s)
      ((bindingOf fn span name (some t) v).after s) := by
  have hrest : ∀ declared, Walk.Keeps Reports (do
      let a ← Walk.types
      unless a.compatible declared v.type do
        let actual ← Walk.labelOf v.type
        let expected ← Walk.labelOf declared
        reportMisfit .typeMismatch span ("cannot bind a value of type " ++ actual ++ " to "
          ++ Text.quote name ++ " of type " ++ expected) expected actual
      return ⟨declared, Taint.merge v.taint (a.taintOf declared)⟩ : Walk Value) := fun declared =>
    .look (fun _ => rfl) fun a => .guard (.pure _) (.of_after_eq fun _ => rfl) fun _ =>
      reports_label fun _ => .bind (reports_misfit _ _ _ _ _ rfl) fun _ => .pure _
  exact hrest _ _

theorem makes_bindingOf (fn : Enclosing) (span : Span) (name : String) (written : Option TypeExpr)
    (v : Value) : Walk.Keeps Makes (bindingOf fn span name written v) := by
  cases written with
  | some t =>
    exact fun s => Walk.Course.trans (makes_resolveType makes_tableResolver _ _ t s)
      (reports_bindingOf fn span name t v s).makes
  | none =>
    exact .look (fun _ => rfl) fun a => .ite
      (.bind (makes_make fun a => a.extends_intern _) fun _ => .pure _) (.pure _)

/-! ## Steps that bind nothing -/

/-- **Nothing is bound**: types are made and the log grows, and all else stays. -/
structure Quiet (s t : State) : Prop where
  eq : t = { s with types := t.types, log := t.log }
  types : s.types.Extends t.types
  grows : Grows s t

theorem Makes.quiet {s t : State} (h : Makes s t) : Quiet s t := by
  obtain ⟨ds, hds, hd⟩ := h.grows
  exact ⟨h.eq, h.types, _, hds,
    List.forall_mem_map.2 fun d hmem => Code.isSemantic_of_isLocal (hd d hmem)⟩

theorem Reports.quiet {s t : State} (h : Reports s t) : Quiet s t := h.makes.quiet

instance : Walk.Course Quiet where
  refl s := ⟨rfl, .refl _, .nil rfl⟩
  trans := by
    rintro s t u ⟨ht, hst, hgrows⟩ ⟨hu, htu, hmore⟩
    exact ⟨by rw [hu, ht], hst.trans htu, hgrows.trans (by rw [ht]) hmore⟩

theorem quiet_observe (o : Observation) (ho : o.isPlain = true) :
    Walk.Keeps Quiet (Walk.observe o) := fun s =>
  ⟨rfl, .refl _, [o], by simp [LogGrows], by simpa using ho⟩

/-- Steps that only report are quiet. -/
theorem Walk.Keeps.quiet {α : Type} {x : Walk α} (h : Walk.Keeps Reports x) :
    Walk.Keeps Quiet x := h.mono fun _ _ => Reports.quiet

/-- Steps that only make types and report are quiet. -/
theorem Walk.Keeps.quietly {α : Type} {x : Walk α} (h : Walk.Keeps Makes x) :
    Walk.Keeps Quiet x := h.mono fun _ _ => Makes.quiet

/-! ## Expressions -/

/-- **What the steps of expressions keep.** They report, observe, wrap values, join the items of
lists and make the types of lists. -/
structure Keeping (R : State → State → Prop) : Prop where
  reports : ∀ {s t}, Reports s t → R s t
  observe : ∀ o : Observation, o.isPlain = true → Walk.Keeps R (Walk.observe o)
  wrap : ∀ kind inner, Walk.Keeps R (checkWrap kind inner)
  join : ∀ elem span item, Walk.Keeps R (joinItem elem span item)
  list : ∀ elem, Walk.Keeps R (Walk.make (·.list elem))

namespace Keeping

variable {R : State → State → Prop}

theorem of_reports (h : Keeping R) {α : Type} {x : Walk α} (hx : Walk.Keeps Reports x) :
    Walk.Keeps R x := hx.mono fun _ _ => h.reports

variable [Walk.Course R]

theorem finishCall (h : Keeping R) (c : CallHead) (callee : Callee) (args : List (Value × Span)) :
    Walk.Keeps R (Check.finishCall c callee args) := by
  unfold Check.finishCall
  cases callee with
  | declassifier => exact .bind (h.observe _ rfl) fun _ => .look (fun _ => rfl) fun _ => .pure _
  | function sig =>
    exact .bind (h.of_reports (reports_params _ _ _)) fun _ => .bind (h.observe _ rfl) fun _ =>
      .look (fun _ => rfl) fun _ => .pure _
  | value params result =>
    exact .bind (h.of_reports (reports_params _ _ _)) fun _ => .bind (h.observe _ rfl) fun _ =>
      .look (fun _ => rfl) fun _ => .pure _
  | external => exact .bind (h.observe _ rfl) fun _ => .pure _
  | notCallable sym =>
    exact h.of_reports (reports_label fun _ => .bind (reports_report .notCallable rfl rfl) fun _ =>
      .pure _)
  | undefined => exact .bind (h.of_reports (reports_undefined _ _)) fun _ => .pure _

mutual

/-- **Expressions keep what their steps keep.** -/
theorem expr (h : Keeping R) : ∀ e : Expr, Walk.Keeps R (checkExpr e)
  | .name span name => by
    rw [checkExpr]
    refine .look (fun _ => rfl) fun found => ?_
    split
    · exact .pure _
    · exact .bind (h.of_reports (reports_undefined _ _)) fun _ => .pure _
  | .literal _ value => by rw [checkExpr]; exact .pure _
  | .binary span op left right => by
    rw [checkExpr]
    exact .bind (expr h left) fun _ => .bind (expr h right) fun _ =>
      h.of_reports (reports_binary _ _ _ _)
  | .unary span op operand => by
    rw [checkExpr]
    exact .bind (expr h operand) fun _ => h.of_reports (reports_unary _ _ _)
  | .call span target args effect capability => by
    rw [checkExpr]
    exact .bind (h.of_reports (reports_callee _)) fun _ => .bind (exprs h span args) fun _ =>
      h.finishCall _ _ _
  | .construct span type fields => by
    rw [checkExpr]
    exact .bind (h.of_reports (reports_dataType _ _)) fun found =>
      .bind (inits h span found.2 [] none fields) fun r =>
        .bind (h.of_reports (reports_completeAll _ _ _)) fun _ => .pure _
  | .member span base field => by
    rw [checkExpr]
    exact .bind (expr h base) fun _ => h.of_reports (reports_member _ _ _)
  | .wrap _ kind inner => by
    rw [checkExpr]
    exact .bind (expr h inner) fun _ => h.wrap _ _
  | .none _ => by rw [checkExpr]; exact .pure _
  | .list span es => by
    rw [checkExpr]
    exact .bind (items h span none none es) fun _ => .bind (h.list _) fun _ => .pure _
  | .await span task => by
    rw [checkExpr]
    exact .bind (expr h task) fun _ => .bind (h.observe _ rfl) fun _ => .pure _

theorem exprs (h : Keeping R) (outer : Span) : ∀ es : List Expr, Walk.Keeps R (checkExprs outer es)
  | [] => by rw [checkExprs]; exact .pure _
  | e :: es => by
    rw [checkExprs]
    exact .bind (expr h e) fun _ => .bind (exprs h outer es) fun _ => .pure _

theorem items (h : Keeping R) (outer : Span) (elem : Option TypeId) (taint : Option Taint) :
    ∀ es : List Expr, Walk.Keeps R (checkItems outer elem taint es)
  | [] => by rw [checkItems]; exact .pure _
  | e :: es => by
    rw [checkItems]
    exact .bind (expr h e) fun _ => .bind (h.join _ _ _) fun _ => items h outer _ _ es

theorem inits (h : Keeping R) (outer : Span) (info : Option DataInfo) (seen : List String)
    (taint : Option Taint) : ∀ is : List Init, Walk.Keeps R (checkInits outer info seen taint is)
  | [] => by rw [checkInits]; exact .pure _
  | .mk span name value :: rest => by
    rw [checkInits]
    refine .bind (expr h value) fun _ => ?_
    cases info with
    | none => exact .bind (.pure _) fun _ => inits h outer _ _ _ rest
    | some info =>
      exact .bind (h.of_reports (reports_init _ _ _ _ _ _)) fun _ => inits h outer _ _ _ rest

end

end Keeping

theorem keeping_quiet : Keeping Quiet where
  reports := Reports.quiet
  observe := quiet_observe
  wrap kind inner := (makes_wrap kind inner).quietly
  join elem span item := (makes_joinItem elem span item).quietly
  list _ := (makes_make fun a => a.extends_intern _).quietly

theorem quiet_finishCall (c : CallHead) (callee : Callee) (args : List (Value × Span)) :
    Walk.Keeps Quiet (finishCall c callee args) := keeping_quiet.finishCall c callee args

/-- **Expressions are walked quietly.** -/
theorem quiet_expr (e : Expr) : Walk.Keeps Quiet (checkExpr e) := keeping_quiet.expr e

theorem quiet_exprs (outer : Span) (es : List Expr) : Walk.Keeps Quiet (checkExprs outer es) :=
  keeping_quiet.exprs outer es

theorem quiet_items (outer : Span) (elem : Option TypeId) (taint : Option Taint) (es : List Expr) :
    Walk.Keeps Quiet (checkItems outer elem taint es) := keeping_quiet.items outer elem taint es

theorem quiet_inits (outer : Span) (info : Option DataInfo) (seen : List String)
    (taint : Option Taint) (is : List Init) :
    Walk.Keeps Quiet (checkInits outer info seen taint is) :=
  keeping_quiet.inits outer info seen taint is

/-! ## Assignments and awaited tasks -/

/-- **What an assignment does**: an unknown name and one that cannot be assigned to are reported;
else the taint of the value is added to the taint of what the name stands for. -/
theorem assign_cases (span at_ : Span) (name : String) (v : Value) (s : State) :
    ((Walk.lookup name).value s = none ∧ Reports s ((assign span at_ name v).after s)) ∨
      ∃ id sym, (Walk.lookup name).value s = some (id, sym) ∧
        ((!sym.flags.mutable && sym.kind != .param) = true ∧
            Reports s ((assign span at_ name v).after s) ∨
          (!sym.flags.mutable && sym.kind != .param) = false ∧ ∃ t, Reports s t ∧
            (assign span at_ name v).after s = (Walk.update id fun sym =>
              { sym with taint := Taint.merge sym.taint v.taint }).after t) := by
  unfold assign
  rw [Walk.after_bind, Walk.after_lookup]
  cases (Walk.lookup name).value s with
  | none => exact .inl ⟨rfl, reports_undefined name span s⟩
  | some found =>
    obtain ⟨id, sym⟩ := found
    refine .inr ⟨id, sym, rfl, ?_⟩
    dsimp only
    rw [Walk.after_ite]
    split
    · next hno => exact .inl ⟨hno, (reports_error _ _ _ rfl) s⟩
    · next hyes =>
      refine .inr ⟨Bool.eq_false_iff.2 hyes, ?_⟩
      rw [Walk.after_bind, Walk.after_types, Walk.after_ite]
      split
      · exact ⟨s, Walk.Course.refl s, rfl⟩
      · exact ⟨_, (reports_misfit _ _ _ _ _ rfl) s, rfl⟩

section

variable {R : State → State → Prop} [Walk.Course R] (hreports : ∀ {s t}, Reports s t → R s t)

include hreports

/-- An assignment keeps what reports keep and what adding a taint keeps. -/
theorem keeps_assign (hadd : ∀ id taint,
    Walk.Keeps R (Walk.update id fun sym => { sym with taint := Taint.merge sym.taint taint }))
    (span at_ : Span) (name : String) (v : Value) : Walk.Keeps R (assign span at_ name v) := by
  intro s
  obtain ⟨-, hr⟩ | ⟨id, sym, -, ⟨-, hr⟩ | ⟨-, t, hr, he⟩⟩ := assign_cases span at_ name v s
  · exact hreports hr
  · exact hreports hr
  · rw [he]
    exact Walk.Course.trans (hreports hr) (hadd id v.taint t)

/-- Waiting for tasks keeps what reports keep and what marking a task as awaited keeps. -/
theorem keeps_awaitTasks (hmark : ∀ id, Walk.Keeps R (Walk.update id fun sym =>
    { sym with flags := { sym.flags with awaited := true } })) (span : Span) (names : List String) :
    Walk.Keeps R (awaitTasks span names) := by
  have hreport : ∀ {α : Type} {x : Walk α}, Walk.Keeps Reports x → Walk.Keeps R x :=
    fun hx => hx.mono fun _ _ => hreports
  induction names with
  | nil => exact .pure _
  | cons name names ih =>
    rw [awaitTasks]
    refine .look (fun _ => rfl) fun found => ?_
    split
    · exact .bind (hreport (reports_undefined _ _)) fun _ => ih
    · split
      · exact .bind (hmark _) fun _ => ih
      · exact .bind (hreport (reports_error _ _ _ rfl)) fun _ => ih

end

end Check

end CoreCheck

import CoreCheck.Proofs.Match.Coverage
import CoreCheck.Proofs.Path.Reached
import CoreCheck.Proofs.Walk.Sealed

/-!
# Proofs/Match/Bound — what patterns cover while their names are bound

A walk finds out what a pattern covers while it binds the names in it, and after other cases were
walked.  None of this changes what a name in a pattern stands for: a name is only bound where it is no
variant, and a case leaves its scope.  So every answer is the one that the state at the start of the
match gives.
-/

namespace CoreCheck.Check

open CoreCheck.Types CoreCheck.Scope CoreCheck.Ir

/-! ## Variants in view -/

/-- The type of which a name is a variant, by what can be seen. -/
def variantIn (v : View) (name : String) : Option TypeId :=
  (v.lookup name).bind fun sym => if sym.kind == .variant then some sym.type else none

theorem value_variantType_eq {s : State} (h : s.table.Sound) (name : String) :
    (variantType? name).value s = variantIn s.table.view name := by
  rw [value_variantType, variantIn]
  obtain ⟨hnone, hview⟩ | ⟨i, sym, hsome, -, hview⟩ := value_lookup_cases h name
  · rw [hnone, hview]
    rfl
  · rw [hsome, hview]
    rfl

theorem variantIn_cons_none (v : View) (name : String) :
    variantIn ((fun _ => none) :: v) name = variantIn v name := rfl

/-- Binding a name that is no variant to something else leaves the variants alone. -/
theorem variantIn_bind {v : View} {name : String} (h : variantIn v name = none) {sym : Symbol}
    (hk : sym.kind ≠ .variant) (m : String) : variantIn (v.bind name sym) m = variantIn v m := by
  cases v with
  | nil => rfl
  | cons ns rest =>
    by_cases hm : m = name
    · subst hm
      rw [h, variantIn, View.lookup, View.bind, List.findSome?_cons]
      beta_reduce
      rw [if_pos rfl]
      exact if_neg fun he => hk (beq_iff_eq.1 he)
    · rw [variantIn, View.lookup, View.bind, List.findSome?_cons]
      beta_reduce
      rw [if_neg hm, variantIn, View.lookup, List.findSome?_cons]

theorem variantIn_grown {v w : View} (h : v.Grown w) (m : String) :
    variantIn w m = variantIn v m := by
  induction h with
  | nil => rfl
  | @cons ns ms rest rest' hnm _ ih =>
    have hm := hnm m
    rw [variantIn, variantIn, View.lookup, View.lookup] at ih ⊢
    rw [List.findSome?_cons, List.findSome?_cons]
    generalize ns m = x at hm ⊢
    generalize ms m = y at hm ⊢
    cases hm with
    | none => exact ih
    | some hg =>
      dsimp only
      rw [Option.bind_some, Option.bind_some, hg.kind_eq, hg.type_eq]

/-! ## Agreement with the start of a match -/

/-- **A state agrees with an earlier one** on what patterns mean: types were added, and names are
variants of the same types. -/
structure Agrees (d s t : State) : Prop where
  start : Paired d s s
  stop : Paired d t t
  types : s.types.Extends t.types
  variants : ∀ name, (variantType? name).value t = (variantType? name).value s

section

variable {d s t u : State} {type : TypeId}

namespace Agrees

theorem refl (h : Paired d s s) : Agrees d s s := ⟨h, h, .refl _, fun _ => rfl⟩

/-- A step after which all names are as before. -/
theorem enclosed (h : Agrees d s t) (he : Enclosed t u) (hu : Paired d u u) : Agrees d s u := by
  refine ⟨h.start, hu, h.types.trans he.types, fun name => ?_⟩
  obtain ⟨hsound, -, hgrown⟩ := he.table h.stop.left.table
  rw [← h.variants name, value_variantType_eq hsound, value_variantType_eq h.stop.left.table,
    variantIn_grown hgrown]

theorem reports {α : Type} (h : Agrees d s t) {x : Walk α} (hx : Walk.Keeps Reports x) :
    Agrees d s (x.after t) := h.enclosed (hx t).quiet.enclosed (paired_reports h.stop hx)

theorem expr (h : Agrees d s t) (e : Expr) : Agrees d s ((checkExpr e).after t) :=
  h.enclosed (quiet_expr e t).enclosed (paired_expr h.stop e)

theorem enter (h : Agrees d s t) (kind : ScopeKind) (span : Span) :
    Agrees d s ((Walk.enter kind span).after t) := by
  have hstop := h.stop.enter kind kind span span
  refine ⟨h.start, hstop, h.types, fun name => ?_⟩
  rw [← h.variants name, value_variantType_eq hstop.left.table,
    value_variantType_eq h.stop.left.table, Walk.after_enter, Table.view_enter, variantIn_cons_none]

section Types

variable (h : Agrees d s t) (hle : type ≤ s.types.size)

include h hle

theorem same : Arena.Same s.types type t.types type :=
  (Arena.Same.refl hle).extends h.start.left.types h.start.left.types (.refl _) h.start.left.types
    h.stop.left.types h.types

theorem compatible_eq {other : TypeId} (hle' : other ≤ s.types.size) :
    t.types.compatible type other = s.types.compatible type other :=
  ((h.same hle).compatible_eq h.start.left.types h.stop.left.types (h.same hle')).symm

theorem unwrap_eq : t.types.unwrap type = s.types.unwrap type := by
  rw [Arena.unwrap, Arena.unwrap, h.types.lookup_eq type hle]

theorem lookup_eq : t.types.lookup type = s.types.lookup type := h.types.lookup_eq type hle

theorem lookup_unwrap_eq :
    t.types.lookup (t.types.unwrap type) = s.types.lookup (s.types.unwrap type) := by
  rw [h.unwrap_eq hle]
  exact h.types.lookup_eq _ (h.start.left.types.unwrap_le hle)

theorem isOpaque_eq : isOpaque t.types type = isOpaque s.types type :=
  (Check.isOpaque_eq h.start.left.types h.stop.left.types (h.same hle)).symm

theorem hasVariant_eq (name : String) :
    hasVariant t.types type name = hasVariant s.types type name := by
  rw [hasVariant, hasVariant, Arena.enumInfo?, Arena.enumInfo?, h.lookup_unwrap_eq hle,
    h.types.enums_eq]

theorem partOf_eq (kind : Wrap) : partOf t.types kind type = partOf s.types kind type := by
  unfold partOf
  rw [h.lookup_unwrap_eq hle]

theorem sense_eq (name : String) : sense t type name = sense s type name := by
  rw [sense, sense, h.hasVariant_eq hle, h.unwrap_eq hle, h.variants]

theorem catches_eq (p : Pattern) : catches t type p = catches s type p := by
  cases p with
  | name at_ name => rw [catches, catches, h.sense_eq hle, h.unwrap_eq hle]
  | _ => rfl

theorem taken_eq (name : String) (count : Nat) : taken t type name count = taken s type name count := by
  rw [taken, taken, h.stop.left.aliases, h.start.left.aliases, h.hasVariant_eq hle]
  cases hr : d.aliases.resolve? name with
  | none => rfl
  | some id =>
    have hid := h.start.ground.aliases hr
    dsimp only
    rw [h.stop.left.dataInfo_eq hid, h.start.left.dataInfo_eq hid]

end Types

/-- A name in a pattern is bound only where it is no variant. -/
theorem bindName (h : Agrees d s t) (span : Span) (hle : type ≤ t.types.size)
    (taint : Option Taint) (name : String) :
    Agrees d s ((Check.bindName span type taint name).after t) := by
  have hstop : Paired d ((Check.bindName span type taint name).after t)
      ((Check.bindName span type taint name).after t) := by
    have hpattern := paired_pattern h.stop span hle taint (.name {} name)
    rwa [bindPattern] at hpattern
  obtain hr | ⟨hnone, hdefine, -⟩ := bindName_cases span type taint name t
  · exact h.enclosed hr.quiet.enclosed hstop
  · obtain ⟨-, e, he⟩ | ⟨-, hd, hfree⟩ := h.stop.left.table.define_cases name
      { kind := .binding, span, type, taint }
    · rw [hdefine, Walk.after_define_error he]
      exact h.reports (reports_duplicate _ _ _ _)
    · rw [hdefine, Walk.after_define_ok hd] at hstop ⊢
      refine ⟨h.start, hstop, h.types, fun m => ?_⟩
      rw [value_variantType_eq h.stop.left.table] at hnone
      rw [← h.variants m, value_variantType_eq hstop.left.table,
        value_variantType_eq h.stop.left.table, h.stop.left.table.view_bound _ hfree]
      exact variantIn_bind hnone (show SymbolKind.binding ≠ .variant by decide) m

end Agrees

/-! ## What patterns answer -/

theorem value_catchAll (type : TypeId) (p : Pattern) (s : State) :
    (isCatchAll type p).value s = catches s type p := by
  cases p with
  | name at_ name =>
    rw [isCatchAll, Walk.value_bind, Walk.value_types, Walk.after_types, Walk.value_ite, catches,
      sense]
    split
    · exact (bne_self_eq_false _).symm
    · rw [Walk.value_bind]
      cases (variantType? name).value s <;> rfl
  | _ => rfl

theorem partOf_eq (a : Arena) (kind : Wrap) (type : TypeId) :
    partOf a kind type = (wrapPart? kind (a.lookup (a.unwrap type))).getD unknown := by
  unfold partOf
  rcases a.lookup (a.unwrap type) with _ | shape
  · cases kind <;> rfl
  · cases kind <;> cases shape <;> rfl

theorem value_wrappedType_eq (kind : Wrap) (span : Span) (type : TypeId) (s : State) :
    (wrappedType kind span type).value s = partOf s.types kind type := by
  rw [value_wrappedType, partOf_eq]
  split
  · next hop =>
    -- what may be anything has no part
    rw [isOpaque, Arena.kindOf] at hop
    generalize s.types.lookup (s.types.unwrap type) = found at hop ⊢
    rcases found with _ | shape
    · cases kind <;> rfl
    · cases shape <;> first
        | (cases kind <;> rfl)
        | exact Bool.noConfusion hop
  · rfl

theorem partOf_le (h : Paired d s s) (hle : type ≤ s.types.size) (kind : Wrap) :
    partOf s.types kind type ≤ s.types.size := by
  have hpart := (h.wrappedType (.refl hle) kind {} {}).right
  rwa [value_wrappedType_eq] at hpart

theorem value_bindName (span at_ : Span) (type : TypeId) (taint : Option Taint) (name : String)
    (s : State) :
    (bindName span type taint name).value s = coverageOf s type (.name at_ name) := by
  rw [bindName, Walk.value_bind, Walk.value_types, Walk.after_types, Walk.value_ite, coverageOf]
  split
  · rfl
  · rw [Walk.value_bind]
    cases (variantType? name).value s with
    | none => rfl
    | some t =>
      dsimp only
      rw [Walk.value_ite]
      split <;> rfl

mutual

/-- **A pattern covers what it does at the start of the match**, and leaves a state that agrees. -/
theorem coverage_pattern : ∀ (p : Pattern) {t : State}, Agrees d s t → ∀ {type : TypeId},
    type ≤ s.types.size → ∀ (outer : Span) (taint : Option Taint),
    (bindPattern outer type taint p).value t = coverageOf s type p ∧
      Agrees d s ((bindPattern outer type taint p).after t)
  | .wildcard _, t, h, type, hle, outer, taint => by
    rw [bindPattern]
    exact ⟨rfl, h⟩
  | .name at_ name, t, h, type, hle, outer, taint => by
    rw [bindPattern]
    refine ⟨?_, h.bindName _ (h.types.le_size hle) taint name⟩
    rw [value_bindName _ at_, coverageOf, coverageOf, h.hasVariant_eq hle, h.variants]
  | .literal at_ value, t, h, type, hle, outer, taint => by
    rw [bindPattern]
    have hreports := fun v => reports_literalPattern (at_.orElse outer) type value v
    rw [Walk.value_bind, Walk.after_bind]
    refine ⟨?_, (h.expr value).reports (hreports _)⟩
    rw [Walk.value_bind, Walk.value_types, Walk.after_types, coverageOf]
    dsimp only
    rw [Walk.value_ite]
    split <;> rfl
  | .none at_, t, h, type, hle, outer, taint => by
    rw [bindPattern]
    refine ⟨?_, h.reports (reports_nonePattern (at_.orElse outer) type)⟩
    rw [Walk.value_bind, Walk.value_types, Walk.after_types, coverageOf]
    dsimp only
    rw [Walk.value_ite]
    split <;> rfl
  | .wrap at_ kind inner, t, h, type, hle, outer, taint => by
    rw [bindPattern]
    have hfirst := h.reports (reports_wrappedType kind (at_.orElse outer) type)
    have hpart := value_wrappedType_eq kind (at_.orElse outer) type t
    rw [h.partOf_eq hle] at hpart
    have hle' := partOf_le h.start hle kind
    obtain ⟨-, hinner⟩ := coverage_pattern inner hfirst hle' (at_.orElse outer) taint
    rw [Walk.value_bind, Walk.after_bind, hpart, Walk.value_bind, Walk.after_bind, Walk.value_bind,
      Walk.after_bind, value_catchAll, hinner.catches_eq hle', coverageOf]
    refine ⟨?_, hinner.reports (reports_catchAll _ inner)⟩
    rw [Walk.value_pure]
  | .ctor at_ name ps, t, h, type, hle, outer, taint => by
    rw [bindPattern]
    have hfirst := h.reports (reports_takenBy (at_.orElse outer) type name ps.length)
    have htaken := value_takenBy (at_.orElse outer) type name ps.length t
    change _ = taken t type name ps.length at htaken
    rw [h.taken_eq hle] at htaken
    rw [Walk.value_bind, Walk.after_bind, htaken, coverageOf]
    cases hcase : taken s type name ps.length with
    | variant => exact ⟨rfl, hfirst⟩
    | unclear =>
      have hnil : ∀ f ∈ ([] : List Field), f.type ≤ d.types.size := fun _ hf => nomatch hf
      exact ⟨rfl, (catchesAll_args ps hfirst hnil (at_.orElse outer) taint).2⟩
    | data id info =>
      dsimp only
      obtain ⟨hall, hargs⟩ := catchesAll_args ps hfirst
        (h.stop.taken_le (htaken.trans hcase)) (at_.orElse outer) taint
      refine ⟨?_, hargs⟩
      obtain ⟨slot, hslot, -⟩ := slot_of_taken hcase
      rw [Walk.value_bind, hall, Walk.value_bind, Walk.value_types, Walk.value_pure,
        hargs.isOpaque_eq hle, hargs.unwrap_eq hle,
        hargs.compatible_eq (h.start.left.types.unwrap_le hle) (Arena.le_size_of_lookup hslot)]

/-- Patterns for the fields of a record match everything if they do at the start of the match. -/
theorem catchesAll_args : ∀ (ps : List Pattern) {t : State}, Agrees d s t →
    ∀ {fields : List Field}, (∀ f ∈ fields, f.type ≤ d.types.size) →
    ∀ (outer : Span) (taint : Option Taint),
    (bindArgs outer taint fields ps).value t = catchesAll s fields ps ∧
      Agrees d s ((bindArgs outer taint fields ps).after t)
  | [], t, h, fields, hfields, outer, taint => by
    rw [bindArgs]
    exact ⟨rfl, h⟩
  | p :: ps, t, h, fields, hfields, outer, taint => by
    rw [bindArgs]
    have hle : fieldType fields ≤ s.types.size := fieldType_le h.start hfields
    have htail : ∀ f ∈ fields.tail, f.type ≤ d.types.size :=
      fun f hf => hfields f (List.mem_of_mem_tail hf)
    have hfirst := fun m => (coverage_pattern p h hle outer m).2
    have hcatch := fun m => value_catchAll (fieldType fields) p
      ((bindPattern outer (fieldType fields) m p).after t)
    have hrest := fun m => catchesAll_args ps
      ((hfirst m).reports (reports_catchAll (fieldType fields) p)) htail outer taint
    refine ⟨?_, (hrest _).2⟩
    rw [catchesAll, ← (hfirst _).catches_eq hle, ← hcatch, ← (hrest _).1]
    rfl

end

/-! ## What cases answer -/

/-- Whether a coverage is exhaustive does not change when types are added. -/
theorem exhaustive_eq (h : Agrees d s t) (hle : type ≤ s.types.size) (c : Coverage) :
    c.exhaustive t.types type = c.exhaustive s.types type := by
  rw [Coverage.exhaustive, Coverage.exhaustive, Arena.kindOf, Arena.kindOf, Arena.enumInfo?,
    Arena.enumInfo?, h.lookup_unwrap_eq hle, h.types.enums_eq]

/-- What the cases of a match cover together, by the state at its start. -/
def coverageOfCases (s : State) (type : TypeId) (cs : List Case) : Coverage :=
  (cs.map fun c => coverageOf s type c.pattern).foldr Coverage.union {}

/-- **Cases cover what they do at the start of the match.** -/
theorem coverage_cases (fn : Enclosing) (outer : Span) {v : Value} (hle : v.type ≤ s.types.size)
    (cs : List Case) (h : Agrees d s t) :
    ((checkCases fn outer v cs).value t).2 = coverageOfCases s v.type cs ∧
      Agrees d s ((checkCases fn outer v cs).after t) := by
  induction cs generalizing t with
  | nil =>
    rw [checkCases]
    exact ⟨rfl, h⟩
  | cons c rest ih =>
    obtain ⟨span, p, ss⟩ := c
    obtain ⟨hpattern, -⟩ := coverage_pattern p (h.enter .matchArm (span.orElse outer)) hle
      (span.orElse outer) v.taint
    have hcase := h.enclosed (enclosed_cases fn outer v [.mk span p ss] t)
      (paired_case h.stop fn outer (h.types.le_size hle) span p ss)
    obtain ⟨hrest, hafter⟩ := ih hcase
    rw [coverage_cases_cons, hpattern, hrest, after_cases_cons]
    exact ⟨rfl, hafter⟩

end

end CoreCheck.Check

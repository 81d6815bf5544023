import CoreCheck.Proofs.Match.Bound

/-!
# Proofs/Match/Exhaustive — when an exhaustive match matches everything

A match that counts as exhaustive matches every value of the matched type, except for values that one
of its cases overclaims and no case matches.  A nested pattern that counts as matching everything does,
unless it is a variant of another type.
-/

namespace CoreCheck.Check

open CoreCheck.Types CoreCheck.Scope CoreCheck.Ir

/-! ## Names of other types -/

section

variable {d s : State} {type : TypeId}

/-- A variant fits into a type other than its own only if the type takes anything or is optional. -/
theorem open_of_compatible {a : Arena} (h : a.Sound) {t : TypeId} {slot : Nat}
    (ht : a.lookup t = some (.enum slot)) (hne : t ≠ a.unwrap type)
    (hc : a.compatible (a.unwrap type) t = true) :
    isOpaque a type = true ∨ a.kindOf type = .optional := by
  rw [isOpaque, Arena.kindOf]
  cases hs : a.lookup (a.unwrap type) with
  | none => exact .inl rfl
  | some sh =>
    rw [Arena.compatible, if_neg hne.symm, hs, ht] at hc
    cases sh with
    | unknown | var => exact .inl rfl
    | optional => exact .inr rfl
    | pii => exact absurd (h.unwrap_flat hs) Bool.noConfusion
    | _ => exact Bool.noConfusion hc

/-- What a foreign name is a variant of is another type, an enumeration. -/
theorem enum_of_foreign (h : Paired d s s) {name : String} {t : TypeId}
    (hsense : sense s type name = some t) (hne : t ≠ s.types.unwrap type) :
    hasVariant s.types type name = false ∧ (variantType? name).value s = some t ∧
      ∃ slot, s.types.lookup t = some (.enum slot) := by
  rw [sense] at hsense
  split at hsense
  · exact absurd (Option.some.inj hsense).symm hne
  next hhas =>
  refine ⟨Bool.eq_false_iff.2 hhas, hsense, ?_⟩
  rw [value_variantType] at hsense
  obtain ⟨hnone, -⟩ | ⟨i, sym, j, sym', hsome, -, -, -, hpaired⟩ := h.lookup name
  · rw [hnone] at hsense
    cases hsense
  · rw [hsome] at hsense
    dsimp only at hsense
    split at hsense
    · next hk =>
      obtain rfl := Option.some.inj hsense
      obtain ⟨-, slot, hslot⟩ := hpaired.variant (beq_iff_eq.1 hk)
      exact ⟨slot, h.left.ext.lookup_some hslot⟩
    · cases hsense

/-- The problems that were reported so far. -/
def State.problems (s : State) : List Diagnostic :=
  s.log.toList.filterMap fun
    | (_, .problem d) => some d
    | _ => none

/-- Whether a step reports no problem. -/
def Walk.isSilent {α : Type} (x : Walk α) (s : State) : Bool :=
  ((x.after s).problems.drop s.problems.length).isEmpty

theorem not_isSilent {α : Type} {x : Walk α} {s : State} {diag : Diagnostic}
    (h : x.after s = (Walk.report diag).after s) : ¬ x.isSilent s = true := by
  have hproblems : ((Walk.report diag).after s).problems = s.problems ++ [diag] := by
    simp [State.problems, Walk.report]
  rw [Walk.isSilent, h, hproblems, List.drop_left]
  exact Bool.false_ne_true

/-- A foreign name about which nothing is reported stands where anything or an optional does. -/
theorem open_of_silent (h : Paired d s s) {outer at_ : Span} {taint : Option Taint} {name : String}
    {t : TypeId} (hsense : sense s type name = some t) (hne : t ≠ s.types.unwrap type)
    (hsilent : (bindPattern outer type taint (.name at_ name)).isSilent s = true) :
    isOpaque s.types type = true ∨ s.types.kindOf type = .optional := by
  obtain ⟨hhas, hvariant, slot, hslot⟩ := enum_of_foreign h hsense hne
  by_cases hfits : (isOpaque s.types type || s.types.compatible (s.types.unwrap type) t) = true
  · obtain hop | hc := Bool.or_eq_true_iff.1 hfits
    · exact .inl hop
    · exact open_of_compatible h.left.types hslot hne hc
  · obtain ⟨diag, hreport⟩ : ∃ diag, (bindPattern outer type taint (.name at_ name)).after s
        = (Walk.report diag).after s := by
      rw [bindPattern, bindName, Walk.after_bind, Walk.value_types, Walk.after_types,
        Walk.after_ite, if_neg (hhas ▸ Bool.false_ne_true), Walk.after_bind, hvariant,
        after_variantType]
      dsimp only
      rw [if_neg hfits]
      exact ⟨_, rfl⟩
    exact absurd hsilent (not_isSilent hreport)

/-- **A foreign name misses a value** of the type, unless a problem is reported. -/
theorem exists_not_matches_of_foreign (h : Paired d s s) {outer : Span} {taint : Option Taint}
    {p : Pattern} (hforeign : IsForeign s type p)
    (hsilent : (bindPattern outer type taint p).isSilent s = true) :
    ∃ w, HasType s.types type w ∧ ¬ Matches s type p w := by
  obtain ⟨at_, name, t, rfl, hsense, hne⟩ := hforeign
  have hmiss : ∀ w, (∀ slot, ¬ w.Reads (.variant slot name)) →
      ¬ Matches s type (.name at_ name) w := by
    intro w hw hm
    rw [Matches] at hm
    obtain ⟨slot, -, hreads⟩ := hm t hsense
    exact hw slot hreads
  obtain hop | hopt := open_of_silent h hsense hne hsilent
  · refine ⟨.other .unit 0, ⟨rfl, .inl hop⟩, hmiss _ fun slot hr => by cases hr⟩
  · exact ⟨.none, .inr (.inl hopt), hmiss _ fun slot hr => by cases hr⟩

end

/-! ## Exhaustive matches -/

/-- **Whether cases count as exhaustive**, once all of them were walked. -/
def countsExhaustive (fn : Enclosing) (outer : Span) (v : Value) (cs : List Case) (s : State) :
    Bool :=
  ((checkCases fn outer v cs).value s).2.exhaustive ((checkCases fn outer v cs).after s).types v.type

/-- **Whether a pattern counts as matching everything**, once its names were bound without a
problem. -/
def countsAll (outer : Span) (type : TypeId) (taint : Option Taint) (p : Pattern) (s : State) :
    Bool :=
  (bindPattern outer type taint p).isSilent s &&
    (isCatchAll type p).value ((bindPattern outer type taint p).after s)

/-- **Every value of the matched type is matched** by a case. -/
def AllMatched (s : State) (type : TypeId) (cs : List Case) : Prop :=
  ∀ w, HasType s.types type w → ∃ c ∈ cs, Matches s type c.pattern w

/-- **What a case overclaims is matched** by another one. -/
def OverclaimedMatched (s : State) (type : TypeId) (cs : List Case) : Prop :=
  ∀ w, HasType s.types type w → (∃ c ∈ cs, Overclaims s type c.pattern w) →
    ∃ c ∈ cs, Matches s type c.pattern w

/-- A value of a type for which cases are exhaustive is matched by one of them, unless that one
overclaims it. -/
theorem exists_matches_iff {s : State} {type : TypeId} {cs : List Case} {w : Val}
    (h : (coverageOfCases s type cs).exhaustive s.types type = true)
    (hw : HasType s.types type w) :
    ∃ c ∈ cs, Matches s type c.pattern w ↔ ¬ Overclaims s type c.pattern w := by
  obtain ⟨cover, hcover, hclaims⟩ := Coverage.exists_claims (claims_of_exhaustive h hw)
  obtain ⟨c, hc, rfl⟩ := List.mem_map.1 hcover
  exact ⟨c, hc, matches_iff_of_claims hclaims hw⟩

/-- **When matches are exhaustive in fact.**  In every body of every module, a match that counts as
exhaustive matches every value of the matched type exactly if the values that its cases overclaim are
matched, and a pattern that counts as matching everything does so exactly if it is no foreign
name. -/
theorem exhaustive_sound_iff (m : Module) {b : Body} (hb : b ∈ (survey m).bodies) :
    (∀ fn outer v cs s, b.Meets m (.cases fn outer v cs, s) →
      countsExhaustive fn outer v cs s = true →
      (AllMatched s v.type cs ↔ OverclaimedMatched s v.type cs)) ∧
    ∀ outer type taint p s, b.Meets m (.pattern outer type taint p, s) →
      countsAll outer type taint p s = true →
      ((∀ w, HasType s.types type w → Matches s type p w) ↔ ¬ IsForeign s type p) := by
  constructor
  · intro fn outer v cs s hmeets hexhaustive
    obtain ⟨hpaired, hle⟩ := hmeets.grounded hb
    obtain ⟨hcover, hafter⟩ := coverage_cases fn outer hle cs (.refl hpaired)
    rw [countsExhaustive, exhaustive_eq hafter hle, hcover] at hexhaustive
    refine ⟨fun h w hw _ => h w hw, fun h w hw => ?_⟩
    obtain ⟨c, hc, hiff⟩ := exists_matches_iff hexhaustive hw
    by_cases hover : Overclaims s v.type c.pattern w
    · exact h w hw ⟨c, hc, hover⟩
    · exact ⟨c, hc, hiff.2 hover⟩
  · intro outer type taint p s hmeets hcounts
    obtain ⟨hsilent, hcatch⟩ := Bool.and_eq_true_iff.1 hcounts
    obtain ⟨hpaired, hle⟩ := hmeets.grounded hb
    obtain ⟨-, hafter⟩ := coverage_pattern p (.refl hpaired) hle outer taint
    rw [value_catchAll, hafter.catches_eq hle] at hcatch
    constructor
    · intro hall hforeign
      obtain ⟨w, hw, hno⟩ := exists_not_matches_of_foreign hpaired hforeign hsilent
      exact hno (hall w hw)
    · intro hno w _
      exact (matches_or_foreign hcatch).resolve_right hno w

/-! ## A name under a wrapper -/

/-- A result of a colour, if any, taken apart by two cases; the first looks at the colour under a
name. -/
def colourCases (name : String) : List Case :=
  [.mk {} (.wrap {} .ok (.name {} name)) [.ret {} (some (.literal {} (.int 1)))],
    .mk {} (.wrap {} .err (.wildcard {})) [.ret {} (some (.literal {} (.int 2)))]]

/-- A function that takes such a result apart and nothing else. -/
def takesColour (name : String) : Func :=
  funcOf "f" [("r", .result {} (.optional {} (.name {} "Color")) (.name {} "Text"))]
    (some (.name {} "Int")) .pure [.select {} (.name {} "r") (colourCases name)]

/-- A module with the function and the only colour. -/
def colourModule (name : String) : Module :=
  moduleOf [.enum {} "Color" ["red"], .func (takesColour name)]

section

variable (name : String) (b : Body)

/-- The state in which the result is looked up. -/
def colourStart : State :=
  (Walk.observe (.visits "match" "")).after ((defineParams b.signature.params).after
    ((Walk.enter .function {}).after ((survey (colourModule name)).start b)))

/-- The result. -/
def colourResult : Value := (checkExpr (.name {} "r")).value (colourStart name b)

/-- The state in which the cases are walked. -/
def colourMatch : State := (checkExpr (.name {} "r")).after (colourStart name b)

/-- The state in which the first case is. -/
def colourArm : State := (Walk.enter .matchArm {}).after (colourMatch name b)

/-- The type of the colour. -/
def colourPart : TypeId := (wrappedType .ok {} (colourResult name b).type).value (colourArm name b)

/-- The state in which the colour is looked at. -/
def colourState : State := (wrappedType .ok {} (colourResult name b).type).after (colourArm name b)

end

section

variable {name : String} {b : Body} (hb : b ∈ (survey (colourModule name)).bodies)

include hb

theorem func_of_colour : b.func = takesColour name := by
  obtain ⟨hdecl, -, -⟩ := mem_bodies hb
  obtain hdecl | hdecl := List.mem_cons.1 hdecl
  · exact nomatch hdecl
  · exact Decl.func.inj (Prod.mk.inj (List.mem_singleton.1 hdecl)).1

theorem meets_colourCases : b.Meets (colourModule name)
    (.cases ⟨"f", {}, [], b.signature.result⟩ {} (colourResult name b) (colourCases name),
      colourMatch name b) := by
  rw [Body.Meets, func_of_colour hb]
  exact .step (.head _) (.step (.head _) (.step (.tail _ (.head _)) (.here _)))

theorem meets_colourName : b.Meets (colourModule name)
    (.pattern {} (colourPart name b) (colourResult name b).taint (.name {} name),
      colourState name b) := by
  rw [Body.Meets, func_of_colour hb]
  exact .step (.head _) (.step (.head _) (.step (.tail _ (.head _)) (.step (.head _)
    (.step (.head _) (.here _)))))

end

/-- What counts for the cases, and for the name under the wrapper. -/
def colourCounts (name : String) (b : Body) : Bool :=
  countsExhaustive ⟨"f", {}, [], b.signature.result⟩ {} (colourResult name b) (colourCases name)
      (colourMatch name b) &&
    countsAll {} (colourPart name b) (colourResult name b).taint (.name {} name)
      (colourState name b)

/-- A name that is no variant is not foreign. -/
theorem not_isForeign {s : State} {type : TypeId} {at_ : Span} {name : String}
    (h : sense s type name = none) : ¬ IsForeign s type (.name at_ name) := by
  rintro ⟨at', name', t, he, hsense, -⟩
  obtain ⟨-, rfl⟩ := Pattern.name.inj he
  exact nomatch h.symm.trans hsense

/-- Under a new name the colour is bound, and the two cases match every result. -/
theorem allMatched_bindsColour : ∃ b ∈ (survey (colourModule "x")).bodies,
    colourCounts "x" b = true ∧
    AllMatched (colourMatch "x" b) (colourResult "x" b).type (colourCases "x") ∧
    ∀ w, HasType (colourState "x" b).types (colourPart "x" b) w →
      Matches (colourState "x" b) (colourPart "x" b) (.name {} "x") w := by
  obtain ⟨b, hb, hcounts, hinner, hname⟩ : ∃ b ∈ (survey (colourModule "x")).bodies,
      colourCounts "x" b = true ∧
      sense (colourMatch "x" b) (partOf (colourMatch "x" b).types .ok (colourResult "x" b).type) "x"
        = none ∧
      sense (colourState "x" b) (colourPart "x" b) "x" = none := by decide +kernel
  obtain ⟨hcases, hall⟩ := Bool.and_eq_true_iff.1 hcounts
  obtain ⟨hmatch, hpattern⟩ := exhaustive_sound_iff (colourModule "x") hb
  refine ⟨b, hb, hcounts, (hmatch _ _ _ _ _ (meets_colourCases hb) hcases).2 ?_,
    (hpattern _ _ _ _ _ (meets_colourName hb) hall).2 (not_isForeign hname)⟩
  rintro w - ⟨c, hc, hover⟩
  obtain rfl | hc := List.mem_cons.1 hc
  · obtain ⟨w', -, hforeign, -⟩ := hover
    exact absurd hforeign (not_isForeign hinner)
  · obtain rfl := List.mem_singleton.1 hc
    obtain ⟨w', -, ⟨at_, name, t, he, -⟩, -⟩ := hover
    exact nomatch he

/-- **Under the name of the colour the match is not exhaustive**, though nothing is reported: there
may be no colour. -/
theorem not_allMatched_namesColour :
    (checkModule {} (colourModule "red")).diagnostics = [] ∧
    ∃ b ∈ (survey (colourModule "red")).bodies, colourCounts "red" b = true ∧
      b.Meets (colourModule "red") (.cases ⟨"f", {}, [], b.signature.result⟩ {}
        (colourResult "red" b) (colourCases "red"), colourMatch "red" b) ∧
      ¬ AllMatched (colourMatch "red" b) (colourResult "red" b).type (colourCases "red") ∧
      b.Meets (colourModule "red") (.pattern {} (colourPart "red" b) (colourResult "red" b).taint
        (.name {} "red"), colourState "red" b) ∧
      ¬ ∀ w, HasType (colourState "red" b).types (colourPart "red" b) w →
        Matches (colourState "red" b) (colourPart "red" b) (.name {} "red") w := by
  refine ⟨by decide +kernel, ?_⟩
  obtain ⟨b, hb, hcounts, hresult, hoptional, hsense, hpart, hname⟩ :
      ∃ b ∈ (survey (colourModule "red")).bodies, colourCounts "red" b = true ∧
      (colourMatch "red" b).types.kindOf (colourResult "red" b).type = .result ∧
      (colourMatch "red" b).types.kindOf
        (partOf (colourMatch "red" b).types .ok (colourResult "red" b).type) = .optional ∧
      (sense (colourMatch "red" b)
        (partOf (colourMatch "red" b).types .ok (colourResult "red" b).type) "red").isSome = true ∧
      (colourState "red" b).types.kindOf (colourPart "red" b) = .optional ∧
      (sense (colourState "red" b) (colourPart "red" b) "red").isSome = true := by decide +kernel
  have hmiss : ∀ {s : State} {type : TypeId}, (sense s type "red").isSome = true →
      ¬ Matches s type (.name {} "red") .none := by
    intro s type hs hm
    obtain ⟨t, ht⟩ := Option.isSome_iff_exists.1 hs
    rw [Matches] at hm
    obtain ⟨slot, -, hreads⟩ := hm t ht
    cases hreads
  refine ⟨b, hb, hcounts, meets_colourCases hb, fun h => ?_, meets_colourName hb, fun h => ?_⟩
  · obtain ⟨c, hc, hm⟩ := h (.ok .none) ⟨.inr hresult, .inr (.inl hoptional)⟩
    obtain rfl | hc := List.mem_cons.1 hc
    · change Matches _ _ (.wrap {} .ok (.name {} "red")) _ at hm
      rw [Matches] at hm
      obtain ⟨w, ⟨⟩, hm⟩ := hm
      exact hmiss hsense hm
    · obtain rfl := List.mem_singleton.1 hc
      change Matches _ _ (.wrap {} .err (.wildcard {})) _ at hm
      rw [Matches] at hm
      obtain ⟨w, ⟨⟩, -⟩ := hm
  · exact hmiss hname (h .none (.inr (.inl hpart)))

end CoreCheck.Check

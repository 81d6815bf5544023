import CoreCheck.Proofs.Match.Values

/-!
# Proofs/Match/Coverage — what coverage promises

A coverage claims values: all of them, or those of the shapes it lists.  When it is exhaustive for a
type it claims every value of the type, and a value that patterns claim together is claimed by one of
them.  What a single pattern claims it matches, or it overclaims it.
-/

namespace CoreCheck.Check

open CoreCheck.Types CoreCheck.Scope CoreCheck.Ir

/-! ## Claims -/

namespace Coverage

/-- The values of a listed shape. -/
def Lists (c : Coverage) : Val → Prop
  | .none => c.none = true
  | .some _ => c.some = true
  | .ok _ => c.ok = true
  | .err _ => c.err = true
  | .variant _ name => name ∈ c.variants
  | .const (.bool true) => c.yes = true
  | .const (.bool false) => c.no = true
  | _ => False

/-- **The values that a coverage claims.** -/
def Claims (c : Coverage) (v : Val) : Prop := c.catchAll = true ∨ c.Lists v

theorem lists_union {c d : Coverage} {v : Val} (h : (c.union d).Lists v) :
    c.Lists v ∨ d.Lists v := by
  rcases v with _ | _ | _ | _ | _ | _ | (_ | _ | _ | _ | (_ | _) | _) | _
  case variant => exact List.mem_append.1 h
  all_goals first
    | exact Bool.or_eq_true_iff.1 h
    | exact h.elim

theorem claims_union {c d : Coverage} {v : Val} (h : (c.union d).Claims v) :
    c.Claims v ∨ d.Claims v := by
  obtain h | h := h
  · exact (Bool.or_eq_true_iff.1 h).imp .inl .inl
  · exact (lists_union h).imp .inr .inr

/-- A coverage without a shape lists no value. -/
theorem not_lists_catchAll {b : Bool} (v : Val) : ¬ Lists { catchAll := b } v := by
  rcases v with _ | _ | _ | _ | _ | _ | (_ | _ | _ | _ | (_ | _) | _) | _ <;> exact nofun

theorem not_claims_empty (v : Val) : ¬ Claims {} v := by
  rintro (h | h)
  · exact nomatch h
  · exact not_lists_catchAll v h

/-- What several patterns claim together, one of them claims. -/
theorem exists_claims {cs : List Coverage} {v : Val} (h : (cs.foldr union {}).Claims v) :
    ∃ c ∈ cs, c.Claims v := by
  induction cs with
  | nil => exact absurd h (not_claims_empty v)
  | cons c cs ih =>
    obtain h | h := claims_union h
    · exact ⟨c, .head _, h⟩
    · obtain ⟨c', hc', hv⟩ := ih h
      exact ⟨c', .tail _ hc', hv⟩

end Coverage

/-! ## Exhaustive coverage -/

theorem isOpaque_of_kindOf {a : Arena} {type : TypeId} {k : Kind} (hk : a.kindOf type = k)
    (hu : k ≠ .unknown) (hv : k ≠ .var) : isOpaque a type = false := by
  rw [isOpaque, hk]
  cases k <;> first | rfl | contradiction

/-- The kind of a type with a shape. -/
theorem kindOf_of_lookup {a : Arena} {type : TypeId} {sh : Shape}
    (h : a.lookup (a.unwrap type) = some sh) : a.kindOf type = sh.kind := by
  rw [Arena.kindOf, h]

/-- The values of a kind. -/
def Val.HasKind (k : Kind) : Val → Prop
  | .none => k = .optional ∨ k = .null
  | .some _ => k = .optional
  | .ok _ | .err _ => k = .result
  | .variant _ _ => k = .enum
  | .record _ _ => k = .data
  | .const l => l ≠ .null ∧ k = literalKind l
  | .other k' _ => Kind.isWhole k' = true ∧ k = k'

namespace Val.HasKind

variable {v : Val}

theorem optional_cases (h : v.HasKind .optional) : v = .none ∨ ∃ w, v = .some w := by
  cases v with
  | none => exact .inl rfl
  | some w => exact .inr ⟨w, rfl⟩
  | ok | err | variant | record => exact nomatch h
  | const l => cases l <;> exact nomatch h.2
  | other k => exact absurd h.1 (h.2 ▸ Bool.false_ne_true)

theorem result_cases (h : v.HasKind .result) : (∃ w, v = .ok w) ∨ ∃ w, v = .err w := by
  cases v with
  | ok w => exact .inl ⟨w, rfl⟩
  | err w => exact .inr ⟨w, rfl⟩
  | none => exact h.elim nofun nofun
  | some | variant | record => exact nomatch h
  | const l => cases l <;> exact nomatch h.2
  | other k => exact absurd h.1 (h.2 ▸ Bool.false_ne_true)

theorem bool_cases (h : v.HasKind .bool) : ∃ b, v = .const (.bool b) := by
  cases v with
  | const l =>
    cases l with
    | bool b => exact ⟨b, rfl⟩
    | _ => exact nomatch h.2
  | none => exact h.elim nofun nofun
  | some | ok | err | variant | record => exact nomatch h
  | other k => exact absurd h.1 (h.2 ▸ Bool.false_ne_true)

theorem enum_cases (h : v.HasKind .enum) : ∃ slot name, v = .variant slot name := by
  cases v with
  | variant slot name => exact ⟨slot, name, rfl⟩
  | none => exact h.elim nofun nofun
  | some | ok | err | record => exact nomatch h
  | const l => cases l <;> exact nomatch h.2
  | other k => exact absurd h.1 (h.2 ▸ Bool.false_ne_true)

end Val.HasKind

section

variable {a : Arena} {type : TypeId} {c : Coverage} {v : Val}

theorem HasType.hasKind (h : HasType a type v) (ho : isOpaque a type = false) :
    v.HasKind (a.kindOf type) := by
  have hno : isOpaque a type ≠ true := ho ▸ Bool.false_ne_true
  cases v with
  | none => exact h.resolve_left hno
  | some | ok | err => exact h.1.resolve_left hno
  | variant | record => exact kindOf_of_lookup (h.1.resolve_left hno)
  | const | other => exact ⟨h.1, h.2.resolve_left hno⟩

/-- **An exhaustive coverage claims every value of the type.** -/
theorem claims_of_exhaustive (h : c.exhaustive a type = true) (hv : HasType a type v) :
    c.Claims v := by
  rw [Coverage.exhaustive] at h
  obtain h | h := Bool.or_eq_true_iff.1 h
  · exact .inl h
  have hclosed : ∀ {k}, a.kindOf type = k → k ≠ .unknown → k ≠ .var → v.HasKind k :=
    fun hk hu hw => hk ▸ hv.hasKind (isOpaque_of_kindOf hk hu hw)
  right
  split at h
  · next hk =>
    obtain ⟨hnone, hsome⟩ := Bool.and_eq_true_iff.1 h
    obtain rfl | ⟨w, rfl⟩ := (hclosed hk (by decide) (by decide)).optional_cases
    · exact hnone
    · exact hsome
  · next hk =>
    obtain ⟨hok, herr⟩ := Bool.and_eq_true_iff.1 h
    obtain ⟨w, rfl⟩ | ⟨w, rfl⟩ := (hclosed hk (by decide) (by decide)).result_cases
    · exact hok
    · exact herr
  · next hk =>
    obtain ⟨hyes, hno⟩ := Bool.and_eq_true_iff.1 h
    obtain ⟨b, rfl⟩ := (hclosed hk (by decide) (by decide)).bool_cases
    cases b <;> assumption
  · next hk =>
    obtain ⟨slot, name, rfl⟩ := (hclosed hk (by decide) (by decide)).enum_cases
    have hslot := hv.1.resolve_left (isOpaque_of_kindOf hk (by decide) (by decide) ▸
      Bool.false_ne_true)
    obtain ⟨info, hinfo, hhas⟩ := (Option.any_eq_true _ _).1 hv.2
    rw [Arena.enumInfo?, hslot] at h
    simp only [hinfo, Bool.and_eq_true] at h
    exact List.contains_iff_mem.1 (List.all_eq_true.1 h.2 name (List.contains_iff_mem.1 hhas))
  · exact nomatch h

end

/-! ## What a pattern covers -/

/-- **What a pattern covers** at the top of a case, where names stand for what they do in a
state. -/
def coverageOf (s : State) (type : TypeId) : Pattern → Coverage
  | .wildcard _ => { catchAll := true }
  | .name _ name =>
    if hasVariant s.types type name then { variants := [name] }
    else if ((variantType? name).value s).isSome then {}
    else { catchAll := true }
  | .literal _ value => literalCoverage value
  | .none _ => { none := true }
  | .wrap _ kind inner =>
    if catches s (partOf s.types kind type) inner then wrapCoverage kind else {}
  | .ctor _ name ps =>
    match taken s type name ps.length with
    | .variant => { variants := [name] }
    | .unclear => {}
    | .data id info =>
      { catchAll := catchesAll s info.fields ps && ps.length = info.fields.length &&
          (isOpaque s.types type || s.types.compatible (s.types.unwrap type) id) }

section

variable {s : State} {type : TypeId} {v : Val}

/-- A listed variant of the matched type is that variant. -/
theorem isVariant_of_lists {name : String} (hhas : hasVariant s.types type name = true)
    (h : Coverage.Claims { variants := [name] } v) (hv : HasType s.types type v) :
    IsVariant s.types (s.types.unwrap type) name v := by
  have hlists : Coverage.Lists { variants := [name] } v := h.resolve_left nofun
  cases v with
  | variant slot name' =>
    obtain rfl := List.mem_singleton.1 hlists
    obtain ⟨info, hinfo, -⟩ := (Option.any_eq_true _ _).1 hhas
    rw [Arena.enumInfo?] at hinfo
    split at hinfo
    · next slot' hslot' =>
      have hop := isOpaque_of_kindOf (kindOf_of_lookup hslot') nofun nofun
      exact ⟨slot, hv.1.resolve_left (hop ▸ Bool.false_ne_true), .here _⟩
    · exact nomatch hinfo
  | const l => rcases l with _ | _ | _ | _ | (_ | _) | _ <;> exact nomatch hlists
  | _ => exact nomatch hlists

/-- The constant patterns that claim a value are `none` and the truth values. -/
theorem eq_ofLiteral_of_claims {span : Span} {l : Literal}
    (h : (literalCoverage (.literal span l)).Claims v) : v = .ofLiteral l := by
  rcases l with _ | _ | _ | _ | (_ | _) | _ <;>
    rcases v with _ | _ | _ | _ | _ | _ | (_ | _ | _ | _ | (_ | _) | _) | _ <;>
    first
    | rfl
    | exact h.elim nofun nofun

theorem eq_wrap_of_claims {kind : Wrap} (h : (wrapCoverage kind).Claims v) :
    ∃ w, v = .wrap kind w := by
  cases kind <;> rcases v with _ | _ | _ | _ | _ | _ | (_ | _ | _ | _ | (_ | _) | _) | _ <;>
    first
    | exact ⟨_, rfl⟩
    | exact h.elim nofun nofun

theorem matches_of_literal {at_ : Span} {value : Expr} (h : (literalCoverage value).Claims v) :
    Matches s type (.literal at_ value) v := by
  cases value with
  | literal span l =>
    rw [Matches, eq_ofLiteral_of_claims h]
    exact .here _
  | _ => exact absurd h (Coverage.not_claims_empty v)

theorem hasVariant_of_taken {name : String} {count : Nat}
    (h : taken s type name count = .variant) : hasVariant s.types type name = true := by
  rw [taken] at h
  split at h
  · split at h
    · next hhas => exact (Bool.and_eq_true_iff.1 hhas).1
    · cases h
  · split at h <;> cases h

/-- What a record pattern takes apart is a record type of the arena. -/
theorem slot_of_taken {name : String} {count : Nat} {id : TypeId} {info : DataInfo}
    (h : taken s type name count = .data id info) :
    ∃ slot, s.types.lookup id = some (.data slot) ∧ s.types.datas[slot]? = some info := by
  rw [taken] at h
  split at h
  · split at h <;> cases h
  · split at h
    · cases h
    · next hinfo =>
      obtain ⟨rfl, rfl⟩ := Taken.data.inj h
      rw [Arena.dataInfo?] at hinfo
      split at hinfo
      · next slot hslot => exact ⟨slot, hslot, hinfo⟩
      · cases hinfo

/-- **What a pattern claims it matches, or it overclaims it.** -/
theorem matches_of_claims {p : Pattern} (h : (coverageOf s type p).Claims v)
    (hv : HasType s.types type v) : Matches s type p v ∨ Overclaims s type p v := by
  cases p with
  | wildcard at_ =>
    left
    rw [Matches]
    trivial
  | name at_ name =>
    left
    rw [coverageOf] at h
    rw [Matches]
    intro t ht
    rw [sense] at ht
    split at h
    · next hhas =>
      rw [if_pos hhas] at ht
      obtain rfl := Option.some.inj ht
      exact isVariant_of_lists hhas h hv
    · next hhas =>
      rw [if_neg hhas] at ht
      split at h
      · exact absurd h (Coverage.not_claims_empty v)
      · next hsome => exact absurd (ht ▸ rfl) hsome
  | literal at_ value => exact .inl (matches_of_literal h)
  | none at_ =>
    left
    rw [Matches]
    have hnull : (literalCoverage (.literal {} .null)).Claims v := h
    exact eq_ofLiteral_of_claims hnull
  | wrap at_ kind inner =>
    rw [coverageOf] at h
    split at h
    · next hcatch =>
      obtain ⟨w, rfl⟩ := eq_wrap_of_claims h
      rw [Matches, Overclaims]
      exact (matches_or_misses hcatch w).imp (fun hm => ⟨w, rfl, hm⟩) fun hm => ⟨w, rfl, hm⟩
    · exact absurd h (Coverage.not_claims_empty v)
  | ctor at_ name ps =>
    rw [coverageOf] at h
    rw [Matches, Overclaims]
    cases htaken : taken s type name ps.length with
    | variant =>
      simp only [htaken] at h
      exact .inl (isVariant_of_lists (hasVariant_of_taken htaken) h hv)
    | unclear =>
      simp only [htaken] at h
      exact absurd h (Coverage.not_claims_empty v)
    | data id info =>
      simp only [htaken] at h
      obtain ⟨slot, hslot, hinfo⟩ := slot_of_taken htaken
      have hall := h.resolve_right (Coverage.not_lists_catchAll v)
      simp only [Bool.and_eq_true, decide_eq_true_eq] at hall
      obtain ⟨⟨hcatch, hlen⟩, -⟩ := hall
      by_cases hreads : ∃ vs, v.Reads (.record slot vs)
      · obtain ⟨vs, hreads⟩ := hreads
        obtain ⟨info', hinfo', htypes⟩ := hv.of_reads hreads
        obtain rfl : info = info' := Option.some.inj (hinfo.symm.trans hinfo')
        obtain hm | hmiss := matchesAll_or_missesSome hcatch (hlen.trans htypes.length_eq.symm)
        · exact .inl ⟨slot, vs, hslot, hreads, hm⟩
        · exact .inr ⟨id, info, slot, rfl, hslot, hlen, hcatch, .inr ⟨vs, hreads, hmiss⟩⟩
      · exact .inr ⟨id, info, slot, rfl, hslot, hlen, hcatch,
          .inl fun vs h => hreads ⟨vs, h⟩⟩

/-- **Of what a pattern claims, it fails to match just what it overclaims.** -/
theorem matches_iff_of_claims {p : Pattern} (h : (coverageOf s type p).Claims v)
    (hv : HasType s.types type v) : Matches s type p v ↔ ¬ Overclaims s type p v :=
  ⟨fun hm hover => not_matches_of_overclaims hover hm, (matches_of_claims h hv).resolve_right⟩

end

end CoreCheck.Check

import CoreCheck.Proofs.Aliases.Expansion
import CoreCheck.Proofs.Types.Canonical
import CoreCheck.Proofs.Walk.Declared

/-!
# Proofs/Aliases/Resolved — what resolving reads off

A step reads off a structure when it answers a known type of that structure and keeps what is known
of the state.  If looking up names does, resolving a written type reads off its meaning.  Looking up
an alias that was not resolved yet does so too, as long as no alias refers to itself: the aliases on
the way to a name all lead to it, so the name is none of them, and each alias is begun at most once.
-/

namespace CoreCheck.Check

open CoreCheck.Types CoreCheck.Ir

/-! ## Reading off a structure -/

/-- **What is kept while types are made**: it only depends on the types as far as they are there. -/
structure Stable (I : State → Prop) : Prop where
  types : ∀ {s}, I s → s.types.Sound
  makes : ∀ {s t}, I s → Makes s t → t.types.Sound → I t

/-- **A step reads off a structure.** -/
structure Reads (I : State → Prop) (s : State) (x : Walk TypeId) (m : Ty) : Prop where
  kept : I (x.after s)
  ext : s.types.Extends (x.after s).types
  known : x.value s ≤ (x.after s).types.size
  tree : (x.after s).types.tree (x.value s) = m

/-- **A look-up finds a structure**; a name that stands for nothing is taken for the placeholder. -/
structure Looks (I : State → Prop) (s : State) (x : Walk (Option TypeId)) (m : Ty) : Prop where
  kept : I (x.after s)
  ext : s.types.Extends (x.after s).types
  found : ∀ id, x.value s = some id →
    id ≤ (x.after s).types.size ∧ (x.after s).types.tree id = m
  lost : x.value s = none → m = .unknown

section Reads

variable {I : State → Prop} (hI : Stable I) {s : State}

theorem Reads.bind {x : Walk TypeId} {y : TypeId → Walk TypeId} {m m' : Ty} (hx : Reads I s x m)
    (hy : Reads I (x.after s) (y (x.value s)) m') : Reads I s (x >>= y) m' :=
  ⟨hy.kept, hx.ext.trans hy.ext, hy.known, hy.tree⟩

include hI

/-- A request is answered by its structure. -/
theorem reads_make (h : I s) (r : Request) (hr : ∀ q ∈ r.args, q ≤ s.types.size)
    (hmade : Arena.Made s.types (r.make s.types)) :
    Reads I s (Walk.make r.make) (r.meaning s.types) :=
  ⟨hI.makes h ⟨rfl, hmade.ext, [], .nil rfl, List.forall_mem_nil _⟩ hmade.sound, hmade.ext,
    hmade.le, Request.tree_make (hI.types h) hr⟩

/-- What was read off stays so. -/
theorem Reads.later {x : Walk TypeId} {m : Ty} (hx : Reads I s x m) {t : State} (ht : I t)
    (hext : (x.after s).types.Extends t.types) :
    x.value s ≤ t.types.size ∧ t.types.tree (x.value s) = m :=
  ⟨hext.le_size hx.known, by
    rw [(hI.types hx.kept).tree_extends (hI.types ht) hext _ hx.known, hx.tree]⟩

/-- A name that is found is read off; one that is not is reported, and the placeholder is. -/
theorem Looks.reads {x : Walk (Option TypeId)} {m : Ty} (hx : Looks I s x m) (name : String)
    (span : Span) : Reads I s (do
      match ← x with
      | some id => return id
      | none =>
        Walk.reportUnknownType name span
        return unknown) m := by
  cases hv : x.value s with
  | some id =>
    obtain ⟨hle, htree⟩ := hx.found id hv
    constructor <;> simp only [Walk.value_bind, Walk.after_bind, hv]
    · exact hx.kept
    · exact hx.ext
    · exact hle
    · exact htree
  | none =>
    have hmakes := (reports_unknownType name span (x.after s)).makes
    have hsound : (x.after s).types.Sound := hI.types hx.kept
    constructor <;> simp only [Walk.value_bind, Walk.after_bind, hv]
    · exact hI.makes hx.kept hmakes hsound
    · exact hx.ext
    · exact hsound.builtin_le (show unknown ≤ 8 by decide)
    · rw [hx.lost hv]
      exact hsound.tree_eq (hsound.builtin.2 unknown (by decide))

end Reads

/-! ## Written types -/

/-- What names stand for in the scope of type parameters. -/
def withParams (vars : List String) (μ : String → Ty) (n : String) : Ty :=
  if vars.contains n then .var n else μ n

section Resolve

variable {I : State → Prop} (hI : Stable I) {find : Resolver} (vars : List String) {μ : String → Ty}

include hI

/-- Some written types, read off one after the other. -/
theorem reads_resolveTypes (fallback : Span) (ts : List TypeExpr)
    (hts : ∀ t ∈ ts, ∀ {s}, I s →
      Reads I s (resolveType find vars fallback t) (t.meaning (withParams vars μ))) {s : State}
    (h : I s) :
    I ((resolveTypes find vars fallback ts).after s) ∧
      s.types.Extends ((resolveTypes find vars fallback ts).after s).types ∧
      (∀ id ∈ (resolveTypes find vars fallback ts).value s,
        id ≤ ((resolveTypes find vars fallback ts).after s).types.size) ∧
      ((resolveTypes find vars fallback ts).value s).map
        ((resolveTypes find vars fallback ts).after s).types.tree
        = TypeExpr.meanings (withParams vars μ) ts := by
  induction ts generalizing s with
  | nil => exact ⟨h, .refl _, List.forall_mem_nil _, rfl⟩
  | cons t ts ih =>
    have hfirst := hts t (.head _) h
    obtain ⟨hkept, hext, hle, htrees⟩ := ih (fun u hu => hts u (.tail _ hu)) hfirst.kept
    obtain ⟨hknown, htree⟩ := hfirst.later hI hkept hext
    rw [resolveTypes]
    refine ⟨hkept, hfirst.ext.trans hext, List.forall_mem_cons.2 ⟨hknown, hle⟩, ?_⟩
    exact congrArg₂ List.cons htree htrees

/-- **Resolving a written type reads off its meaning**, if looking up its names does. -/
theorem reads_resolveType (t : TypeExpr) (fallback : Span)
    (hfind : ∀ n ∈ t.names, ∀ {s}, I s → Looks I s (find n) (μ n)) {s : State} (h : I s) :
    Reads I s (resolveType find vars fallback t) (t.meaning (withParams vars μ)) := by
  induction t using TypeExpr.induct generalizing fallback s with
  | name at_ n =>
    rw [resolveType, TypeExpr.meaning, withParams]
    split
    · exact reads_make hI h (.var n) (List.forall_mem_nil _) (Arena.made_var (hI.types h) n)
    · exact (hfind n (.head _) h).reads hI n (at_.orElse fallback)
  | var at_ n =>
    exact reads_make hI h (.var n) (List.forall_mem_nil _) (Arena.made_var (hI.types h) n)
  | optional at_ e ih =>
    have he := ih (at_.orElse fallback) hfind h
    have hkind : ((resolveType find vars (at_.orElse fallback) e).after s).types.kindOf
        ((resolveType find vars (at_.orElse fallback) e).value s)
        = (e.meaning (withParams vars μ)).unwrap.kind := by
      rw [(hI.types he.kept).kindOf_eq, he.tree]
    rw [resolveType, TypeExpr.meaning, Ty.asOptional]
    refine he.bind ?_
    by_cases hk : (e.meaning (withParams vars μ)).unwrap.kind = .optional
    · rw [if_pos hk]
      constructor <;> simp only [Walk.value_bind, Walk.after_bind, Walk.value_types,
        Walk.after_types, hkind, hk, beq_self_eq_true, if_true]
      · exact he.kept
      · exact .refl _
      · exact he.known
      · exact he.tree
    · rw [if_neg hk, ← he.tree]
      have hmade := reads_make hI he.kept (.optional _) (List.forall_mem_singleton.2 he.known)
        (Arena.made_optional (hI.types he.kept) he.known)
      constructor <;> simp only [Walk.value_bind, Walk.after_bind, Walk.value_types,
        Walk.after_types, hkind, beq_false_of_ne hk, Bool.false_eq_true, if_false]
      · exact hmade.kept
      · exact hmade.ext
      · exact hmade.known
      · exact hmade.tree
  | list at_ e ih =>
    have he := ih (at_.orElse fallback) hfind h
    rw [resolveType, TypeExpr.meaning, ← he.tree]
    exact he.bind (reads_make hI he.kept (.list _) (List.forall_mem_singleton.2 he.known)
      (Arena.made_list (hI.types he.kept) he.known))
  | map at_ k v ihk ihv =>
    obtain ⟨hnk, hnv⟩ := List.forall_mem_append.1 hfind
    have hk := ihk (at_.orElse fallback) hnk h
    have hv := ihv (at_.orElse fallback) hnv hk.kept
    obtain ⟨hle, htree⟩ := hk.later hI hv.kept hv.ext
    rw [resolveType, TypeExpr.meaning, ← htree, ← hv.tree]
    exact hk.bind (hv.bind (reads_make hI hv.kept (.map _ _)
      (List.forall_mem_cons.2 ⟨hle, List.forall_mem_singleton.2 hv.known⟩)
      (Arena.made_map (hI.types hv.kept) hle hv.known)))
  | result at_ x y ihx ihy =>
    obtain ⟨hnx, hny⟩ := List.forall_mem_append.1 hfind
    have hx := ihx (at_.orElse fallback) hnx h
    have hy := ihy (at_.orElse fallback) hny hx.kept
    obtain ⟨hle, htree⟩ := hx.later hI hy.kept hy.ext
    rw [resolveType, TypeExpr.meaning, ← htree, ← hy.tree]
    exact hx.bind (hy.bind (reads_make hI hy.kept (.result _ _)
      (List.forall_mem_cons.2 ⟨hle, List.forall_mem_singleton.2 hy.known⟩)
      (Arena.made_result (hI.types hy.kept) hle hy.known)))
  | func at_ ps r ihps ihr =>
    obtain ⟨hnps, hnr⟩ := List.forall_mem_append.1 hfind
    obtain ⟨hkept, hext, hle, htrees⟩ := reads_resolveTypes hI vars (at_.orElse fallback) ps
      (fun t ht _ h => ihps t ht _ (fun n hn => hnps n (TypeExpr.mem_namesOfAll ht hn)) h) h
    have hr : Reads I ((resolveTypes find vars (at_.orElse fallback) ps).after s)
        (resolveResult find vars (at_.orElse fallback) r)
        (TypeExpr.meaningOfResult (withParams vars μ) r) := by
      cases r with
      | none =>
        have hsound := hI.types hkept
        exact ⟨hkept, .refl _, hsound.builtin_le (show unit ≤ 8 by decide),
          hsound.tree_eq (hsound.builtin.2 unit (by decide))⟩
      | some t => exact ihr t rfl _ hnr hkept
    have hlater : ((resolveTypes find vars (at_.orElse fallback) ps).value s).map
        ((resolveResult find vars (at_.orElse fallback) r).after
          ((resolveTypes find vars (at_.orElse fallback) ps).after s)).types.tree
        = TypeExpr.meanings (withParams vars μ) ps := by
      rw [← htrees]
      exact List.map_congr_left fun id hid =>
        (hI.types hkept).tree_extends (hI.types hr.kept) hr.ext id (hle id hid)
    have hps := fun id hid => hr.ext.le_size (hle id hid)
    have hmake := reads_make hI hr.kept (.func _ _) (List.forall_mem_cons.2 ⟨hr.known, hps⟩)
      (Arena.made_func (hI.types hr.kept) hps hr.known)
    rw [resolveType, TypeExpr.meaning, ← hlater, ← hr.tree]
    exact ⟨hmake.kept, hext.trans (hr.ext.trans hmake.ext), hmake.known, hmake.tree⟩
  | pii at_ e level category ih =>
    have he := ih (at_.orElse fallback) hfind h
    rw [resolveType, TypeExpr.meaning, ← he.tree]
    exact he.bind (reads_make hI he.kept (.pii _ level category)
      (List.forall_mem_singleton.2 he.known)
      (Arena.made_pii (hI.types he.kept) he.known level category))

end Resolve

/-! ## Aliases -/

/-- The target of an alias. -/
def targetOf (targets : List AliasTarget) (n : String) : Option TypeExpr :=
  (targets.find? (·.name = n)).map (·.target)

/-- The aliases that were not begun. -/
def unbegun (targets : List AliasTarget) (visits : List (String × Visit)) : List AliasTarget :=
  targets.filter fun t => (visits.lookup t.name).isNone

/-- The structure that a name is bound to. -/
def boundTo (s : State) (n : String) : Option Ty := (s.aliases.resolve? n).map s.types.tree

/-- **A state while aliases are resolved.** Names that are no aliases are bound to what they are
bound to at first, and aliases that are done to what they stand for; those that were only begun are
among `begun`, and those in `ended` are done. -/
structure Resolving (targets : List AliasTarget) (base : String → Option Ty) (μ : String → Ty)
    (begun ended : String → Prop) (fuel : Nat) (s : State) : Prop where
  types : s.types.Sound
  known : ∀ e ∈ s.aliases.entries, e.2 ≤ s.types.size
  free : ∀ n, targetOf targets n = none → boundTo s n = base n
  done : ∀ n, s.visits.lookup n = some .done → boundTo s n = some (μ n)
  visiting : ∀ n, s.visits.lookup n = some .visiting → begun n
  ended : ∀ n, ended n → s.visits.lookup n = some .done
  fuel : (unbegun targets s.visits).length < fuel

theorem unbegun_cons (targets : List AliasTarget) (visits : List (String × Visit)) (name : String)
    (v : Visit) : unbegun targets ((name, v) :: visits)
      = (unbegun targets visits).filter fun t => t.name ≠ name := by
  rw [unbegun, unbegun, List.filter_filter]
  refine List.filter_congr fun t _ => ?_
  rw [List.lookup_cons]
  by_cases hn : t.name = name
  · simp [hn]
  · simp [hn, beq_false_of_ne hn]

/-- **An alias that is begun is one less to begin.** -/
theorem length_unbegun_lt {targets : List AliasTarget} {visits : List (String × Visit)} {x : String}
    {a : AliasTarget} (ha : targets.find? (·.name = x) = some a) (hx : visits.lookup x = none)
    (v : Visit) :
    (unbegun targets ((x, v) :: visits)).length < (unbegun targets visits).length := by
  have hname : a.name = x := by simpa using List.find?_some ha
  have hmem : a ∈ unbegun targets visits := by
    refine List.mem_filter.2 ⟨List.mem_of_find?_eq_some ha, ?_⟩
    rw [hname, hx]
    rfl
  rw [unbegun_cons]
  exact List.length_filter_lt_length_iff_exists.2 ⟨a, hmem, by simp [hname]⟩

/-- A table binds a name to what it is set to. -/
theorem resolve?_set_self (t : Aliases) (name : String) (id : TypeId) :
    (t.set name id).resolve? name = some id := by
  obtain ⟨l⟩ := t
  rw [Aliases.set]
  split
  · next h =>
    rw [Aliases.resolve?] at h ⊢
    induction l with
    | nil => cases h
    | cons e l ih =>
      rw [List.lookup_cons] at h
      rw [List.map_cons, List.lookup_cons]
      by_cases hn : e.1 = name
      · rw [if_pos hn, hn, beq_self_eq_true]
      · rw [beq_false_of_ne (Ne.symm hn)] at h
        rw [if_neg hn, beq_false_of_ne (Ne.symm hn)]
        exact ih h
  · next h =>
    rw [Aliases.resolve?, Option.not_isSome_iff_eq_none] at h
    rw [Aliases.resolve?, List.lookup_append, h, List.lookup_cons_self]
    rfl

section Aliases

variable {targets : List AliasTarget} {base : String → Option Ty} {μ : String → Ty}
  {begun ended : String → Prop} {fuel : Nat} {s t : State}

theorem Resolving.resolve_le (h : Resolving targets base μ begun ended fuel s) {n : String}
    {id : TypeId} (hr : s.aliases.resolve? n = some id) : id ≤ s.types.size :=
  h.known (n, id) (mem_of_lookup hr)

/-- Names stay bound to their structures as long as types keep theirs. -/
theorem boundTo_eq (hs : s.types.Sound) (ht : t.types.Sound)
    (hknown : ∀ e ∈ s.aliases.entries, e.2 ≤ s.types.size) (ha : t.aliases = s.aliases)
    (hlookup : ∀ id ≤ s.types.size, t.types.lookup id = s.types.lookup id) (n : String) :
    boundTo t n = boundTo s n := by
  rw [boundTo, boundTo, ha]
  cases hr : s.aliases.resolve? n with
  | none => rfl
  | some id =>
    exact congrArg some (hs.tree_of_lookup_eq ht hlookup id (hknown (n, id) (mem_of_lookup hr)))

/-- What holds while aliases are resolved only depends on the types as far as they are there. -/
theorem Resolving.congr (h : Resolving targets base μ begun ended fuel s) (ht : t.types.Sound)
    (hsize : s.types.size ≤ t.types.size)
    (hlookup : ∀ id ≤ s.types.size, t.types.lookup id = s.types.lookup id)
    (ha : t.aliases = s.aliases) (hv : t.visits = s.visits) :
    Resolving targets base μ begun ended fuel t := by
  have hbound := boundTo_eq h.types ht h.known ha hlookup
  refine ⟨ht, fun e he => Nat.le_trans (h.known e (ha ▸ he)) hsize,
    fun n hn => (hbound n).trans (h.free n hn), ?_, ?_, ?_, ?_⟩ <;> rw [hv]
  · exact fun n hn => (hbound n).trans (h.done n hn)
  · exact h.visiting
  · exact h.ended
  · exact h.fuel

/-- **New types change nothing.** -/
theorem stable_resolving : Stable (Resolving targets base μ begun ended fuel) where
  types h := h.types
  makes h hm ht := h.congr ht hm.types.size_le hm.types.lookup_eq (by rw [hm.eq]) (by rw [hm.eq])

/-- **An alias is begun**: one less is left to begin. -/
theorem Resolving.begin {x : String} {a : AliasTarget} (ha : targets.find? (·.name = x) = some a)
    (hx : s.visits.lookup x = none) (owner : Option Nat)
    (h : Resolving targets base μ begun ended (fuel + 1) s) :
    Resolving targets base μ (fun w => begun w ∨ w = x) ended fuel
      { s with visits := (x, .visiting) :: s.visits, owner } := by
  have hlookup : ∀ {n v}, ((x, Visit.visiting) :: s.visits).lookup n = some v →
      n = x ∧ v = .visiting ∨ s.visits.lookup n = some v := by
    intro n v hn
    rw [List.lookup_cons] at hn
    by_cases hnx : n = x
    · rw [hnx, beq_self_eq_true] at hn
      exact .inl ⟨hnx, (Option.some.inj hn).symm⟩
    · rw [beq_false_of_ne hnx] at hn
      exact .inr hn
  refine ⟨h.types, h.known, h.free, fun n hn => ?_, fun n hn => ?_, fun n hn => ?_, ?_⟩
  · obtain ⟨-, ⟨⟩⟩ | hn := hlookup hn
    exact h.done n hn
  · exact (hlookup hn).elim (fun hn => .inr hn.1) fun hn => .inl (h.visiting n hn)
  · have hdone := h.ended n hn
    have hnx : n ≠ x := by
      rintro rfl
      cases hx.symm.trans hdone
    rw [List.lookup_cons, beq_false_of_ne hnx]
    exact hdone
  · exact Nat.lt_of_lt_of_le (length_unbegun_lt ha hx .visiting) (Nat.le_of_lt_succ h.fuel)

/-- **An alias is done**: it is set to what it stands for. -/
theorem Resolving.finish {x : String} {u : TypeExpr} (hx : targetOf targets x = some u)
    {id : TypeId} (hid : id ≤ s.types.size) (htree : s.types.tree id = μ x) (owner : Option Nat)
    (h : Resolving targets base μ (fun w => begun w ∨ w = x) ended fuel s) :
    Resolving targets base μ begun ended (fuel + 1)
      { s with aliases := s.aliases.set x id, visits := (x, .done) :: s.visits, owner } := by
  have hother : ∀ {n}, n ≠ x → ((s.aliases.set x id).resolve? n).map s.types.tree = boundTo s n :=
    fun hn => by rw [resolve?_set_of_ne _ hn.symm, boundTo]
  have hlookup : ∀ {n}, n ≠ x → ((x, Visit.done) :: s.visits).lookup n = s.visits.lookup n := by
    intro n hn
    rw [List.lookup_cons, beq_false_of_ne hn]
  refine ⟨h.types, fun e he => ?_, fun n hn => ?_, fun n hn => ?_, fun n hn => ?_, fun n hn => ?_,
    ?_⟩
  · obtain he | he := entries_set _ x id e he
    · exact h.known e he
    · exact he ▸ hid
  · have hne : n ≠ x := by
      rintro rfl
      cases hn.symm.trans hx
    exact (hother hne).trans (h.free n hn)
  · by_cases hne : n = x
    · subst hne
      change ((s.aliases.set n id).resolve? n).map s.types.tree = _
      rw [resolve?_set_self, Option.map_some, htree]
    · exact (hother hne).trans (h.done n ((hlookup hne).symm.trans hn))
  · by_cases hne : n = x
    · subst hne
      rw [List.lookup_cons_self] at hn
      cases hn
    · exact (h.visiting n ((hlookup hne).symm.trans hn)).resolve_right hne
  · by_cases hne : n = x
    · subst hne
      exact List.lookup_cons_self
    · exact (hlookup hne).trans (h.ended n hn)
  · rw [unbegun_cons]
    exact Nat.lt_succ_of_lt (Nat.lt_of_le_of_lt (List.length_filter_le _ _) h.fuel)

theorem Looks.get {I : State → Prop} {m : Ty} {f : State → Walk (Option TypeId)}
    (h : Looks I s (f s) m) : Looks I s (get >>= f) m := ⟨h.kept, h.ext, h.found, h.lost⟩

theorem withParams_nil (μ : String → Ty) : withParams [] μ = μ := rfl

/-- **Looking up a name finds what it stands for**, whether or not it is an alias that was resolved
before. -/
theorem looks_aliasResolver (hacyclic : TypeExpr.Acyclic (targetOf targets))
    (hfree : ∀ n, targetOf targets n = none → μ n = (base n).getD .unknown)
    (htarget : ∀ n u, targetOf targets n = some u → μ n = u.meaning μ) (fuel : Nat) (x : String)
    {begun : String → Prop} (hbegun : ∀ w, begun w → (targetOf targets x).isSome = true →
      Relation.TransGen (TypeExpr.Refers (targetOf targets)) w x)
    (h : Resolving targets base μ begun ended fuel s) :
    Looks (Resolving targets base μ begun ended fuel) s (aliasResolver targets fuel x) (μ x) := by
  induction fuel generalizing x begun s with
  | zero => exact absurd h.fuel (Nat.not_lt_zero _)
  | succ fuel ih =>
    rw [aliasResolver]
    cases hfind : targets.find? (·.name = x) with
    | none =>
      have hnone : targetOf targets x = none := by rw [targetOf, hfind]; rfl
      have hbound := h.free x hnone
      refine ⟨h, .refl _, fun id hid => ?_, fun hlost => ?_⟩
      · replace hid : s.aliases.resolve? x = some id := hid
        rw [boundTo, hid] at hbound
        exact ⟨h.resolve_le hid, by rw [hfree x hnone, ← hbound]; rfl⟩
      · replace hlost : s.aliases.resolve? x = none := hlost
        rw [boundTo, hlost] at hbound
        rw [hfree x hnone, ← hbound]
        rfl
    | some a =>
      have hsome : targetOf targets x = some a.target := by rw [targetOf, hfind]; rfl
      refine .get ?_
      cases hv : s.visits.lookup x with
      | none =>
        -- the aliases that lead to this one lead to all that its target names
        have hnames : ∀ n ∈ a.target.names, ∀ w, begun w ∨ w = x →
            (targetOf targets n).isSome = true →
            Relation.TransGen (TypeExpr.Refers (targetOf targets)) w n := by
          intro n hn w hw halias
          have hstep : TypeExpr.Refers (targetOf targets) x n := ⟨a.target, hsome, hn, halias⟩
          obtain hw | rfl := hw
          · exact (hbegun w hw (by rw [hsome]; rfl)).tail hstep
          · exact .single hstep
        have hread := reads_resolveType stable_resolving [] a.target a.span
          (fun n hn _ hs => ih n (hnames n hn) hs) (h.begin hfind hv (some a.index))
        rw [withParams_nil, ← htarget x a.target hsome] at hread
        refine ⟨hread.kept.finish hsome hread.known hread.tree s.owner, hread.ext, ?_,
          fun hlost => by cases hlost⟩
        rintro _ ⟨⟩
        exact ⟨hread.known, hread.tree⟩
      | some visit =>
        cases visit with
        | visiting => exact absurd (hbegun x (h.visiting x hv) (by rw [hsome]; rfl)) (hacyclic x)
        | done =>
          obtain ⟨id, hid, htree⟩ := Option.map_eq_some_iff.1 (h.done x hv)
          refine ⟨h, .refl _, fun id' hid' => ?_, fun hlost => by cases hlost⟩
          obtain rfl : id = id' := by
            replace hid' : some ((s.aliases.resolve? x).getD 0) = some id' := hid'
            rw [hid] at hid'
            exact Option.some.inj hid'
          exact ⟨h.resolve_le hid, htree⟩

end Aliases

end CoreCheck.Check

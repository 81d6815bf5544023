import CoreCheck.Proofs.Aliases.Registered
import CoreCheck.Proofs.Passage.Owners

/-!
# Proofs/Aliases/Bound — what the type names of a module are bound to

When all names are registered, aliases are resolved and the fields of records are set, again in the
order of the declarations; a field may resolve an alias earlier.  If no alias refers to itself, each
alias is in the end bound to what it stands for, and each field is of the type that is written for
it (`bound_survey`).  No trace of the order is left but the numbers of records and enumerations.
-/

namespace CoreCheck

/-- The names and the structures of fields. -/
def Types.Arena.fieldTrees (a : Types.Arena) (fields : List Types.Field) :
    List (String × Types.Ty) := fields.map fun f => (f.name, a.tree f.type)

namespace Check

open CoreCheck.Types CoreCheck.Ir

/-! ## The aliases that are resolved -/

theorem map_registered (ds : List (Decl × Nat)) :
    (registered ds).map Prod.fst = typeNames (ds.map Prod.fst) := by
  rw [registered, typeNames, List.map_filterMap, List.filterMap_map]
  refine List.filterMap_congr fun e _ => ?_
  obtain ⟨d, i⟩ := e
  dsimp only [Function.comp_apply]
  cases d.typeName? <;> rfl

/-- The aliases of declarations, under the names that they hold. -/
abbrev targetsOf (ds : List Decl) : List AliasTarget :=
  aliasTargets (registered ds.zipIdx) ds.zipIdx

section Targets

variable {ds : List Decl} (h : WellNamed ds)

include h

/-- **Every alias is resolved under its name.** -/
theorem mem_aliasTargets {span : Span} {n : String} {u : TypeExpr} {i : Nat}
    (hd : (Decl.alias span n u, i) ∈ ds.zipIdx) :
    ⟨n, i, span, u⟩ ∈ targetsOf ds := by
  refine List.mem_filterMap.2 ⟨_, hd, ?_⟩
  have hmem : (n, i, span) ∈ registered ds.zipIdx := List.mem_filterMap.2 ⟨_, hd, rfl⟩
  have hnodup : ((registered ds.zipIdx).map Prod.fst).Nodup := by
    rw [map_registered, List.zipIdx_map_fst]
    exact h.distinct
  dsimp only
  rw [lookup_of_mem hnodup hmem, if_pos (by simp)]

omit h in
theorem alias_of_mem_aliasTargets {known : TypeNames} {t : AliasTarget}
    (ht : t ∈ aliasTargets known ds.zipIdx) : (t.name, t.target) ∈ aliases ds := by
  obtain ⟨⟨d, i⟩, hd, he⟩ := List.mem_filterMap.1 ht
  cases d with
  | «alias» span name target =>
    obtain ⟨-, he⟩ := Option.ite_none_right_eq_some.1 he
    obtain rfl := Option.some.inj he
    exact mem_aliases.2 ⟨span, List.mem_of_getElem? (List.mem_zipIdx_iff_getElem?.1 hd)⟩
  | _ => cases he

theorem targetOf_aliasTargets : targetOf (targetsOf ds) = aliasOf ds := by
  funext n
  rw [targetOf]
  cases hf : (targetsOf ds).find? (·.name = n) with
  | none =>
    refine (Option.eq_none_iff_forall_ne_some.2 fun u hu => ?_).symm
    obtain ⟨span, hd⟩ := h.aliasOf_eq_some_iff.1 hu
    obtain ⟨i, hi⟩ := List.mem_iff_getElem?.1 hd
    have hmem := mem_aliasTargets h (List.mem_zipIdx_iff_getElem?.2 hi)
    simpa using List.find?_eq_none.1 hf _ hmem
  | some t =>
    have hname : t.name = n := by simpa using List.find?_some hf
    have hmem := alias_of_mem_aliasTargets (List.mem_of_find?_eq_some hf)
    rw [hname] at hmem
    exact (lookup_of_mem h.nodup_aliases hmem).symm

end Targets

/-! ## Resolving -/

/-- The fields that a record has, with what their types mean: of fields of one name the first. -/
def fieldsOf (μ : String → Ty) (seen : List String) : List TypedName → List (String × Ty)
  | [] => []
  | f :: fs =>
    if f.name ∈ seen then fieldsOf μ seen fs
    else (f.name, f.type.meaning μ) :: fieldsOf μ (f.name :: seen) fs

/-- **What the type names of declarations stand for.** -/
def senseOf (ds : List Decl) : String → Ty :=
  TypeExpr.sense (aliasOf ds) ((aliases ds).map Prod.fst) fun n => (baseOf ds n).getD .unknown

/-- A state while the aliases of some declarations are resolved, between two of them. -/
abbrev Between (ds : List Decl) (ended : String → Prop) (s : State) : Prop :=
  Resolving (targetsOf ds) (baseOf ds) (senseOf ds) (fun _ => False) ended
    ((targetsOf ds).length + 1) s

/-- Which aliases are known to be done is a matter of choice. -/
theorem Resolving.settle {targets : List AliasTarget} {base : String → Option Ty} {μ : String → Ty}
    {begun ended ended' : String → Prop} {fuel : Nat} {s : State}
    (h : Resolving targets base μ begun ended fuel s)
    (hdone : ∀ n, ended' n → s.visits.lookup n = some .done) :
    Resolving targets base μ begun ended' fuel s :=
  ⟨h.types, h.known, h.free, h.done, h.visiting, hdone, h.fuel⟩

/-- An alias that is looked up is done. -/
theorem done_aliasResolver {targets : List AliasTarget} {x : String} {a : AliasTarget}
    (ha : targets.find? (·.name = x) = some a) {s : State}
    (hv : s.visits.lookup x ≠ some .visiting) (fuel : Nat) :
    ((aliasResolver targets (fuel + 1) x).after s).visits.lookup x = some .done := by
  rw [aliasResolver, ha]
  simp only [Walk.after_bind, Walk.value_get, Walk.after_get]
  cases hs : s.visits.lookup x with
  | none => exact List.lookup_cons_self
  | some visit =>
    cases visit with
    | visiting => exact absurd hs hv
    | done => exact hs

section Between

variable {ds : List Decl} (h : WellNamed ds) (hacyclic : TypeExpr.Acyclic (aliasOf ds))
  {ended : String → Prop} {s : State}

include h hacyclic

theorem looks_onDemand (hs : Between ds ended s) (n : String) :
    Looks (Between ds ended) s (onDemand (targetsOf ds) n) (senseOf ds n) := by
  refine looks_aliasResolver ?_ ?_ ?_ _ n (fun _ hw => hw.elim) hs
  · rw [targetOf_aliasTargets h]
    exact hacyclic
  · intro n hn
    rw [targetOf_aliasTargets h] at hn
    exact TypeExpr.sense_of_none hn
  · intro n u hu
    rw [targetOf_aliasTargets h] at hu
    exact TypeExpr.sense_of_some hacyclic (fun _ => isSome_aliasOf.1) _ hu

/-- **Fields are of the types that are written for them.** -/
theorem between_resolveFields (owner : Span) (fs : List TypedName) (seen : List (String × Span))
    (hs : Between ds ended s) :
    let x := resolveFields (onDemand (targetsOf ds)) owner seen fs
    Between ds ended (x.after s) ∧ s.types.Extends (x.after s).types ∧
      (∀ f ∈ x.value s, f.type ≤ (x.after s).types.size) ∧
      (x.after s).types.fieldTrees (x.value s) = fieldsOf (senseOf ds) (seen.map Prod.fst) fs := by
  induction fs generalizing seen s with
  | nil => exact ⟨hs, .refl _, List.forall_mem_nil _, rfl⟩
  | cons f fs ih =>
    rw [resolveFields, fieldsOf]
    cases hseen : seen.lookup f.name with
    | some previous =>
      have hreport := reports_duplicate "field" f.name (f.span.orElse owner) previous s
      rw [if_pos (isSome_lookup.1 (by rw [hseen]; rfl))]
      obtain ⟨hkept, hext, hrest⟩ :=
        ih seen (stable_resolving.makes hs hreport.makes (hreport.types ▸ hs.types))
      exact ⟨hkept, hreport.makes.types.trans hext, hrest⟩
    | none =>
      have hread := reads_resolveType stable_resolving [] f.type owner
        (fun n _ _ hs => looks_onDemand h hacyclic hs n) hs
      obtain ⟨hkept, hext, hle, htrees⟩ := ih ((f.name, f.span.orElse owner) :: seen) hread.kept
      obtain ⟨hknown, htree⟩ := hread.later stable_resolving hkept hext
      rw [withParams_nil] at htree
      rw [if_neg fun hin => by simpa [hseen] using isSome_lookup.2 hin]
      exact ⟨hkept, hread.ext.trans hext, List.forall_mem_cons.2 ⟨hknown, hle⟩,
        congrArg₂ List.cons (congrArg (Prod.mk f.name) htree) htrees⟩

end Between

/-! ## One declaration after the other -/

/-- **The fields of a record are of the types that are written for them.** -/
def Filled (ds : List Decl) (a : Arena) : Decl → Prop
  | .data _ name fs => ∃ slot info, (dataNames ds).idxOf? name = some slot ∧
      a.datas[slot]? = some info ∧ a.fieldTrees info.fields = fieldsOf (senseOf ds) [] fs
  | _ => True

/-- **A state between two declarations**, of which some are resolved. -/
structure Progress (ds past : List Decl) (s : State) : Prop where
  between : Between ds (fun n => n ∈ (aliases past).map Prod.fst) s
  datas : s.types.datas.toList.map (·.name) = dataNames ds
  enums : s.types.enums.toList.map (fun e => (e.name, e.variants)) = enumerations ds
  filled : ∀ d ∈ past, Filled ds s.types d

theorem fieldTrees_eq {a b : Arena} (ha : a.Sound) (hb : b.Sound)
    (hlookup : ∀ id ≤ a.size, b.lookup id = a.lookup id) {fields : List Field}
    (hf : ∀ f ∈ fields, f.type ≤ a.size) : b.fieldTrees fields = a.fieldTrees fields :=
  List.map_congr_left fun f hmem =>
    congrArg (Prod.mk f.name) (ha.tree_of_lookup_eq hb hlookup f.type (hf f hmem))

theorem Filled.extends {ds : List Decl} {a b : Arena} (ha : a.Sound) (hb : b.Sound)
    (hab : a.Extends b) {d : Decl} (h : Filled ds a d) : Filled ds b d := by
  cases d with
  | data span name fs =>
    obtain ⟨slot, info, hslot, hinfo, hfields⟩ := h
    refine ⟨slot, info, hslot, hab.datas_eq ▸ hinfo, ?_⟩
    rw [fieldTrees_eq ha hb hab.lookup_eq (ha.fields info (Array.mem_of_getElem? hinfo)), hfields]
  | _ => trivial

section Progress

variable {ds past : List Decl} {s : State}

/-- Types are made, and aliases may be resolved. -/
theorem Progress.extends (hp : Progress ds past s) {t : State} {past' : List Decl}
    (hbetween : Between ds (fun n => n ∈ (aliases past').map Prod.fst) t)
    (hext : s.types.Extends t.types) (hpast : ∀ d ∈ past', d ∈ past ∨ d.dataName? = none) :
    Progress ds past' t where
  between := hbetween
  datas := by rw [hext.datas_eq, hp.datas]
  enums := by rw [hext.enums_eq, hp.enums]
  filled d hmem := by
    obtain hd | hd := hpast d hmem
    · exact (hp.filled d hd).extends hp.between.types hbetween.types hext
    · cases d with
      | data => cases hd
      | _ => trivial

theorem mem_or_of_mem_concat {d e : Decl} (hd : d.dataName? = none) (he : e ∈ past ++ [d]) :
    e ∈ past ∨ e.dataName? = none := by
  obtain he | he := List.mem_append.1 he
  · exact .inl he
  · exact .inr (List.mem_singleton.1 he ▸ hd)

theorem mem_aliases_concat {n : String} {d : Decl} :
    n ∈ (aliases (past ++ [d])).map Prod.fst ↔
      n ∈ (aliases past).map Prod.fst ∨ ∃ u, d.alias? = some (n, u) := by
  rw [aliases_concat, List.map_append, List.mem_append]
  cases d.alias? <;> simp [eq_comm, Prod.ext_iff]

/-- A declaration that is neither an alias nor a record is passed over. -/
theorem Progress.skip (hp : Progress ds past s) {d : Decl} (halias : d.alias? = none)
    (hdata : d.dataName? = none) : Progress ds (past ++ [d]) s := by
  refine hp.extends (hp.between.settle fun n hn => ?_) (.refl _) fun _ => mem_or_of_mem_concat hdata
  obtain hn | ⟨u, hu⟩ := mem_aliases_concat.1 hn
  · exact hp.between.ended n hn
  · cases halias.symm.trans hu

/-- **An alias is resolved**, unless it was before. -/
theorem Progress.resolveAlias (h : WellNamed ds) (hacyclic : TypeExpr.Acyclic (aliasOf ds))
    (hp : Progress ds past s) {span : Span} {name : String} {target : TypeExpr}
    {i : Nat} (hd : (Decl.alias span name target, i) ∈ ds.zipIdx) :
    let x := onDemand (targetsOf ds) name
    Progress ds (past ++ [.alias span name target]) (x.after s) ∧
      s.types.Extends (x.after s).types := by
  intro x
  have hlook := looks_onDemand h hacyclic hp.between name
  obtain ⟨t, ht⟩ : ∃ t, (targetsOf ds).find? (·.name = name) = some t := by
    refine Option.isSome_iff_exists.1 (List.find?_isSome.2 ⟨_, mem_aliasTargets h hd, ?_⟩)
    simp
  have hdone : (x.after s).visits.lookup name = some .done :=
    done_aliasResolver ht (fun hv => hp.between.visiting name hv) _
  refine ⟨hp.extends (hlook.kept.settle fun n hn => ?_) hlook.ext fun _ => mem_or_of_mem_concat rfl,
    hlook.ext⟩
  obtain hn | ⟨u, hu⟩ := mem_aliases_concat.1 hn
  · exact hlook.kept.ended n hn
  · obtain ⟨rfl, -⟩ := Prod.mk.inj (Option.some.inj hu)
    exact hdone

theorem names_modify (datas : Array DataInfo) (slot : Nat) (fields : List Field) :
    (datas.modify slot fun d => { d with fields }).toList.map (·.name)
      = datas.toList.map (·.name) := by
  refine List.ext_getElem? fun i => ?_
  simp only [List.getElem?_map, Array.getElem?_toList, Array.getElem?_modify]
  split
  · rw [Option.map_map]
    rfl
  · rfl

theorem getElem?_of_idxOf? {l : List String} {n : String} {i : Nat} (hi : l.idxOf? n = some i) :
    l[i]? = some n := by
  obtain ⟨hlt, hn, -⟩ := List.idxOf?_eq_some_iff.1 hi
  rw [List.getElem?_eq_getElem hlt, hn]

/-- **The fields of a record are set**, and those of the others stay as they are. -/
theorem Progress.setFields (h : WellNamed ds) (hp : Progress ds past s)
    (hpast : ∀ d ∈ past, d ∈ ds) {span : Span} {name : String} {fs : List TypedName}
    (hd : Decl.data span name fs ∈ ds) {id : TypeId} {slot : Nat}
    (hid : s.types.lookup id = some (.data slot))
    (hslot : (dataNames ds).idxOf? name = some slot) {fields : List Field}
    (hknown : ∀ f ∈ fields, f.type ≤ s.types.size)
    (hfields : s.types.fieldTrees fields = fieldsOf (senseOf ds) [] fs) (owner : Option Nat) :
    Progress ds (past ++ [.data span name fs])
      { s with types := s.types.setFields id fields, owner } := by
  have hsound := hp.between.types
  have hset : s.types.setFields id fields
      = { s.types with datas := s.types.datas.modify slot fun d => { d with fields } } := by
    rw [Arena.setFields, hid]
  have hsound' := hsound.setFields id hknown
  rw [hset] at hsound' ⊢
  have htrees : ∀ {fields' : List Field}, (∀ f ∈ fields', f.type ≤ s.types.size) → _ =
      s.types.fieldTrees fields' := fun hf => fieldTrees_eq hsound hsound' (fun _ _ => rfl) hf
  -- the record itself, under its number
  have hown : Filled ds
      { s.types with datas := s.types.datas.modify slot fun d => { d with fields } }
      (.data span name fs) := by
    have hin : (s.types.datas.toList.map (·.name))[slot]? = some name := by
      rw [hp.datas]
      exact getElem?_of_idxOf? hslot
    rw [List.getElem?_map, Array.getElem?_toList] at hin
    obtain ⟨info, hinfo, -⟩ := Option.map_eq_some_iff.1 hin
    refine ⟨slot, { info with fields }, hslot, ?_, (htrees hknown).trans hfields⟩
    rw [Array.getElem?_modify, if_pos rfl, hinfo]
    rfl
  refine ⟨?_, (names_modify _ _ _).trans hp.datas, hp.enums, ?_⟩
  · refine Resolving.settle (hp.between.congr hsound' (Nat.le_refl _) (fun _ _ => rfl) rfl rfl) ?_
    intro n hn
    obtain hn | ⟨u, hu⟩ := mem_aliases_concat.1 hn
    · exact hp.between.ended n hn
    · cases hu
  · refine List.forall_mem_append.2 ⟨fun d hmem => ?_, List.forall_mem_singleton.2 hown⟩
    cases d with
    | data span' name' fs' =>
      obtain ⟨slot', info, hslot', hinfo, hold⟩ := hp.filled _ hmem
      by_cases heq : slot = slot'
      · have hname : name = name' := by
          have hin := getElem?_of_idxOf? hslot
          rw [heq, getElem?_of_idxOf? hslot'] at hin
          exact (Option.some.inj hin).symm
        rw [h.unique (hpast _ hmem) hd (n := name) (congrArg some hname.symm) rfl]
        exact hown
      · refine ⟨slot', info, hslot', ?_, ?_⟩
        · rw [Array.getElem?_modify, if_neg heq, hinfo]
        · rw [htrees (hsound.fields info (Array.mem_of_getElem? hinfo)), hold]
    | _ => trivial

/-- **One declaration more is resolved**, and types keep their shapes. -/
theorem progress_resolveDecl (h : WellNamed ds) (hacyclic : TypeExpr.Acyclic (aliasOf ds))
    (hp : Progress ds past s) (hpast : ∀ d ∈ past, d ∈ ds) {e : Entry}
    (he : e.placed ∈ ds.zipIdx) (htyped : Typed ds s.types e) :
    let x := resolveDecl (targetsOf ds) e
    Progress ds (past ++ [e.1]) (x.after s) ∧
      ∀ id sh, s.types.lookup id = some sh → (x.after s).types.lookup id = some sh := by
  obtain ⟨d, i, own⟩ := e
  have hkeep : ∀ id sh, s.types.lookup id = some sh → s.types.lookup id = some sh :=
    fun _ _ hsh => hsh
  cases d with
  | «alias» span name target =>
    have hany : ((targetsOf ds).any fun t => t.name = name && t.index = i) = true :=
      List.any_eq_true.2 ⟨_, mem_aliasTargets h he, by simp⟩
    obtain ⟨hnext, hext⟩ := hp.resolveAlias h hacyclic he
    intro x
    have hx : x.after s = (onDemand (targetsOf ds) name).after s := by
      change (resolveDecl _ _).after s = _
      rw [resolveDecl, Walk.after_ite, if_pos hany]
      rfl
    rw [hx]
    exact ⟨hnext, fun id sh hsh => hext.lookup_some hsh⟩
  | data span name fs =>
    obtain ⟨id, slot, rfl, hid, hslot⟩ := htyped name rfl
    have hd := List.mem_of_getElem? (List.mem_zipIdx_iff_getElem?.1 he)
    have hstart : Progress ds past { s with owner := some i } :=
      ⟨hp.between.congr hp.between.types (Nat.le_refl _) (fun _ _ => rfl) rfl rfl, hp.datas,
        hp.enums, hp.filled⟩
    obtain ⟨hkept, hext, hknown, hfields⟩ :=
      between_resolveFields h hacyclic span fs [] hstart.between
    have hmid := hstart.extends hkept hext fun _ => .inl
    refine ⟨hmid.setFields h hpast hd (hext.lookup_some hid) hslot hknown hfields s.owner, ?_⟩
    intro id' sh hsh
    change (Arena.setFields _ _ _).lookup id' = some sh
    rw [Arena.lookup, Arena.shapes_setFields]
    exact hext.lookup_some hsh
  | enum span name variants => exact ⟨hp.skip rfl rfl, hkeep⟩
  | func f => exact ⟨hp.skip rfl rfl, hkeep⟩
  | imported span name => exact ⟨hp.skip rfl rfl, hkeep⟩

/-- **All declarations are resolved.** -/
theorem progress_resolveDecls (h : WellNamed ds) (hacyclic : TypeExpr.Acyclic (aliasOf ds))
    (rest : List Entry) (hp : Progress ds past s) (hpast : ∀ d ∈ past, d ∈ ds)
    (hrest : ∀ e ∈ rest, e.placed ∈ ds.zipIdx ∧ Typed ds s.types e) :
    Progress ds (past ++ rest.map Prod.fst)
      ((rest.forM (resolveDecl (targetsOf ds))).after s) := by
  induction rest generalizing past s with
  | nil => exact (List.append_nil past).symm ▸ hp
  | cons e rest ih =>
    obtain ⟨⟨he, htyped⟩, hrest⟩ := List.forall_mem_cons.1 hrest
    obtain ⟨hnext, hkeep⟩ := progress_resolveDecl h hacyclic hp hpast he htyped
    rw [List.map_cons, List.append_cons]
    refine ih hnext ?_ fun e he => ⟨(hrest e he).1, (hrest e he).2.keep hkeep⟩
    refine List.forall_mem_append.2 ⟨hpast, List.forall_mem_singleton.2 ?_⟩
    exact List.mem_of_getElem? (List.mem_zipIdx_iff_getElem?.1 he)

/-- **When all names are registered**, no alias is resolved and no field is set. -/
theorem Declaring.progress (h : WellNamed ds) {typed : List Entry} {known : TypeNames}
    (hdecl : Declaring typed known s) (hds : typed.map Prod.fst = ds) : Progress ds [] s where
  between := by
    refine ⟨hdecl.types, hdecl.entries, fun n hn => ?_, ?_, ?_, (fun n hn => by cases hn), ?_⟩
    · rw [targetOf_aliasTargets h] at hn
      rw [hdecl.bound n fun hin => ?_, hds]
      rw [hds] at hin
      simpa [hn] using isSome_aliasOf.2 hin
    · rw [hdecl.visits]
      exact fun n hn => by cases hn
    · rw [hdecl.visits]
      exact fun n hn => by cases hn
    · exact Nat.lt_succ_of_le (List.length_filter_le _ _)
  datas := hds ▸ hdecl.datas
  enums := hds ▸ hdecl.enums
  filled := List.forall_mem_nil _

/-- **The type names of a module.** -/
theorem progress_collectTypes (h : WellNamed ds) (hacyclic : TypeExpr.Acyclic (aliasOf ds)) :
    Progress ds ds ((collectTypes ds.zipIdx).after {}) := by
  obtain ⟨hdecl, hplaced⟩ := declaring_declareTypes ds.zipIdx
    (by simpa [List.zipIdx_map_fst] using h) declaring_initial
  rw [List.nil_append] at hdecl
  have hds : ((declareTypes [] ds.zipIdx).value {}).2.map Prod.fst = ds := by
    have hmap := congrArg (List.map Prod.fst) hplaced
    rwa [List.map_map, List.zipIdx_map_fst] at hmap
  have hids := hdecl.ids
  rw [hds] at hids
  have hlast := progress_resolveDecls h hacyclic ((declareTypes [] ds.zipIdx).value {}).2
    (hdecl.progress h hds) (List.forall_mem_nil _) fun e he =>
      ⟨hplaced ▸ List.mem_map_of_mem he, hids e he⟩
  rw [List.nil_append, hds] at hlast
  have hknown := hdecl.known
  rw [hplaced] at hknown
  rw [targetsOf, ← hknown] at hlast
  exact hlast

end Progress

/-! ## What values leave alone -/

/-- **Type names are left alone**, and types are only made. -/
structure Spares (s t : State) : Prop where
  types : s.types.Extends t.types
  aliases : t.aliases = s.aliases

instance : Walk.Course Spares where
  refl _ := ⟨.refl _, rfl⟩
  trans h h' := ⟨h.types.trans h'.types, h'.aliases.trans h.aliases⟩

theorem Makes.spares {s t : State} (h : Makes s t) : Spares s t := ⟨h.types, by rw [h.eq]⟩

theorem spares_define (name : String) (sym : Scope.Symbol) (what : String) :
    Walk.Keeps Spares (Walk.define name sym what) :=
  (onward_define name sym what).mono fun _ _ h => ⟨h.types, h.aliases⟩

theorem spares_ownedBy {α : Type} {x : Walk α} (hx : Walk.Keeps Spares x) (i : Nat) :
    Walk.Keeps Spares (Walk.ownedBy i x) := fun s =>
  ⟨(hx { s with owner := some i }).types, (hx { s with owner := some i }).aliases⟩

theorem spares_defineVariants (span : Span) (type : TypeId) :
    ∀ vs : List String, Walk.Keeps Spares (defineVariants span type vs)
  | [] => .pure _
  | v :: vs => by
    rw [defineVariants]
    have hrest := spares_defineVariants span type vs
    exact .look (fun _ => rfl) fun _ => .ite hrest (.bind (spares_define _ _ _) fun _ => hrest)

theorem spares_declareValue (known : TypeNames) (d : Decl) (i : Nat) :
    Walk.Keeps Spares (declareValue known d i) := by
  refine spares_ownedBy ?_ i
  cases d with
  | func f =>
    exact .bind ((makes_signatureOf f).mono fun _ _ => Makes.spares) fun _ =>
      .bind ((makes_make fun a => a.extends_func _ _).mono fun _ _ => Makes.spares) fun _ =>
        .bind (spares_define _ _ _) fun _ => .pure _
  | enum span name variants =>
    exact .ite (.look (fun _ => rfl) fun _ => .bind (spares_defineVariants _ _ _) fun _ => .pure _)
      (.pure _)
  | imported span name => exact .bind (spares_define _ _ _) fun _ => .pure _
  | data span name fields => exact .pure _
  | «alias» span name target => exact .pure _

theorem spares_declareValues (known : TypeNames) :
    ∀ rest : List (Decl × Nat), Walk.Keeps Spares (declareValues known rest)
  | [] => .pure _
  | (d, i) :: rest => by
    rw [declareValues]
    exact .bind (spares_declareValue known d i) fun _ =>
      .bind (spares_declareValues known rest) fun _ => .pure _

/-! ## What is left in the end -/

/-- **What a type name is bound to** in the end: an alias to what it stands for. -/
def boundOf (ds : List Decl) (n : String) : Option Ty :=
  if (aliasOf ds n).isSome then some (senseOf ds n) else baseOf ds n

/-- **What declarations leave of their types**: names are bound, records and enumerations hold their
numbers, and fields are of the types that are written for them. -/
structure Bound (ds : List Decl) (s : State) : Prop where
  types : s.types.Sound
  names : ∀ n, boundTo s n = boundOf ds n
  datas : s.types.datas.toList.map (·.name) = dataNames ds
  enums : s.types.enums.toList.map (fun e => (e.name, e.variants)) = enumerations ds
  filled : ∀ d ∈ ds, Filled ds s.types d

theorem Progress.bound {ds : List Decl} (h : WellNamed ds) {s : State} (hp : Progress ds ds s) :
    Bound ds s where
  types := hp.between.types
  names n := by
    rw [boundOf]
    split
    · next halias => exact hp.between.done n (hp.between.ended n (isSome_aliasOf.1 halias))
    · next hno =>
      refine hp.between.free n ?_
      rw [targetOf_aliasTargets h, Option.not_isSome_iff_eq_none.1 hno]
  datas := hp.datas
  enums := hp.enums
  filled := hp.filled

/-- **What the declarations of a module leave of its types.** -/
theorem bound_survey {m : Module} (h : WellNamed m.decls)
    (hacyclic : TypeExpr.Acyclic (aliasOf m.decls)) : Bound m.decls (survey m).declared := by
  have hp := progress_collectTypes h hacyclic
  have hb := hp.bound h
  have hspares : Spares ((collectTypes m.decls.zipIdx).after {}) (survey m).declared :=
    spares_declareValues _ _ _
  have hsound : (survey m).declared.types.Sound := (founded_survey m).types
  refine ⟨hsound, fun n => ?_, ?_, ?_, fun d hd => ?_⟩
  · rw [← hb.names n]
    exact boundTo_eq hb.types hsound hp.between.known hspares.aliases hspares.types.lookup_eq n
  · rw [hspares.types.datas_eq, hb.datas]
  · rw [hspares.types.enums_eq, hb.enums]
  · exact (hb.filled d hd).extends hb.types hsound hspares.types

end Check

end CoreCheck

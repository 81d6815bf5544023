import CoreCheck.Proofs.Aliases.Bound

/-!
# Proofs/Aliases/Reordered — the order of declarations is no matter

By the table of type names that declarations leave, a written type is resolved to the same structure
as the written type with its aliases replaced.  That expansion knows nothing of the order of the
declarations.  In another order records and enumerations have other numbers, and `Ty.renumber` is all
that changes in the structures that names are bound to, and in those of fields.
-/

namespace CoreCheck

/-! ## Other numbers -/

namespace Types.Ty

mutual

/-- **A structure with other numbers** for its records and enumerations. -/
def renumber (σ τ : Nat → Nat) : Ty → Ty
  | .data slot => .data (σ slot)
  | .enum slot => .enum (τ slot)
  | .func ps r => .func (renumberAll σ τ ps) (r.renumber σ τ)
  | .optional e => .optional (e.renumber σ τ)
  | .list e => .list (e.renumber σ τ)
  | .map k v => .map (k.renumber σ τ) (v.renumber σ τ)
  | .result x y => .result (x.renumber σ τ) (y.renumber σ τ)
  | .pii base level category => .pii (base.renumber σ τ) level category
  | t => t

/-- Structures with other numbers. -/
def renumberAll (σ τ : Nat → Nat) : List Ty → List Ty
  | [] => []
  | t :: ts => t.renumber σ τ :: renumberAll σ τ ts

end

section Renumber

variable (σ τ : Nat → Nat)

attribute [local simp] renumber

theorem renumberAll_eq (ts : List Ty) : renumberAll σ τ ts = ts.map (renumber σ τ) := by
  induction ts with
  | nil => rfl
  | cons t ts ih => rw [renumberAll, ih, List.map_cons]

@[simp] theorem unwrap_renumber (t : Ty) : (t.renumber σ τ).unwrap = t.unwrap.renumber σ τ := by
  cases t <;> simp [unwrap]

@[simp] theorem kind_renumber (t : Ty) : (t.renumber σ τ).kind = t.kind := by
  cases t <;> simp [kind]

@[simp] theorem markedLevel_renumber (t : Ty) (level : Level) :
    (t.renumber σ τ).markedLevel level = t.markedLevel level := by
  cases t <;> simp [markedLevel]

theorem asOptional_renumber (t : Ty) :
    (t.renumber σ τ).asOptional = t.asOptional.renumber σ τ := by
  rw [asOptional, asOptional, unwrap_renumber, kind_renumber]
  split <;> simp

theorem marked_renumber (t : Ty) (level : Level) (category : String) :
    (t.renumber σ τ).marked level category = (t.marked level category).renumber σ τ := by
  simp [marked]

end Renumber

end Types.Ty

open CoreCheck.Types

/-- **Numbers go through a written type** to the structures that its names stand for. -/
theorem Ir.TypeExpr.meaning_renumber (σ τ : Nat → Nat) (μ : String → Ty) (t : TypeExpr) :
    t.meaning (fun n => (μ n).renumber σ τ) = (t.meaning μ).renumber σ τ := by
  induction t using induct with
  | name at_ n => rfl
  | var at_ n => simp [meaning, Ty.renumber]
  | optional at_ e ih => rw [meaning, meaning, ih, Ty.asOptional_renumber]
  | list at_ e ih => rw [meaning, meaning, ih, Ty.renumber]
  | map at_ k v ihk ihv => rw [meaning, meaning, ihk, ihv, Ty.renumber]
  | result at_ x y ihx ihy => rw [meaning, meaning, ihx, ihy, Ty.renumber]
  | func at_ ps r ihps ihr =>
    have hr : meaningOfResult (fun n => (μ n).renumber σ τ) r
        = (meaningOfResult μ r).renumber σ τ := by
      cases r with
      | none => simp [meaningOfResult, Ty.renumber]
      | some t => exact ihr t rfl
    rw [meaning, meaning, Ty.renumber, Ty.renumberAll_eq, hr, meanings_eq, meanings_eq,
      List.map_map]
    exact congrArg (Ty.func · _) (List.map_congr_left ihps)
  | pii at_ e level category ih => rw [meaning, meaning, ih, Ty.marked_renumber]

namespace Check

open CoreCheck.Ir

/-! ## Permuted names -/

/-- **Where a name goes** when a list is permuted, from its place. -/
def moved (l l' : List String) (i : Nat) : Nat := (l[i]?.bind l'.idxOf?).getD i

theorem idxOf?_moved {l l' : List String} (h : l'.Perm l) (n : String) :
    l'.idxOf? n = (l.idxOf? n).map (moved l l') := by
  cases hi : l.idxOf? n with
  | none =>
    rw [List.idxOf?_eq_none_iff] at hi
    exact List.idxOf?_eq_none_iff.2 fun hin => hi (h.mem_iff.1 hin)
  | some i =>
    have hat := getElem?_of_idxOf? hi
    obtain ⟨j, hj⟩ : ∃ j, l'.idxOf? n = some j := by
      refine Option.ne_none_iff_exists'.1 fun hnone => ?_
      exact List.idxOf?_eq_none_iff.1 hnone (h.mem_iff.2 (List.mem_of_getElem? hat))
    rw [Option.map_some, moved, hat, Option.bind_some, hj]
    rfl

theorem idxOf?_of_getElem? {l : List String} (h : l.Nodup) {i : Nat} {n : String}
    (hi : l[i]? = some n) : l.idxOf? n = some i := by
  obtain ⟨hlt, rfl⟩ := List.getElem?_eq_some_iff.1 hi
  refine List.idxOf?_eq_some_iff.2 ⟨hlt, rfl, fun j hj heq => ?_⟩
  exact Nat.ne_of_lt hj (h.getElem_inj_iff.1 heq)

section Perm

variable {ds ds' : List Decl} (hn : WellNamed ds) (h : ds'.Perm ds)

include h

theorem perm_dataNames : (dataNames ds').Perm (dataNames ds) := h.filterMap _

theorem perm_enumNames : (enumNames ds').Perm (enumNames ds) := (h.filterMap _).map _

/-- The numbers of records in another order. -/
abbrev dataMoved (ds ds' : List Decl) : Nat → Nat := moved (dataNames ds) (dataNames ds')

/-- The numbers of enumerations in another order. -/
abbrev enumMoved (ds ds' : List Decl) : Nat → Nat := moved (enumNames ds) (enumNames ds')

omit h in
/-- Builtin types have no numbers. -/
theorem renumber_builtin (σ τ : Nat → Nat) (id : TypeId) :
    (Arena.initial.tree id).renumber σ τ = Arena.initial.tree id := by
  have hshapes : ∀ sh ∈ Arena.initial.shapes, (sh.assemble Arena.initial.tree).renumber σ τ
      = sh.assemble Arena.initial.tree := by
    simp [Arena.initial, Shape.assemble, Ty.renumber]
  cases hsh : Arena.initial.lookup id with
  | none => rw [Arena.tree_of_none hsh, Ty.renumber] <;> simp
  | some sh =>
    rw [Arena.sound_initial.tree_eq hsh]
    exact hshapes sh (Arena.mem_shapes_of_lookup hsh)

/-- **Names that are no aliases** are bound to the same types under other numbers. -/
theorem baseOf_perm (n : String) :
    baseOf ds' n = (baseOf ds n).map (Ty.renumber (dataMoved ds ds') (enumMoved ds ds')) := by
  rw [baseOf, baseOf, idxOf?_moved (perm_dataNames h), idxOf?_moved (perm_enumNames h)]
  cases Aliases.initial.resolve? n with
  | some id => exact congrArg some (renumber_builtin _ _ id).symm
  | none =>
    cases (dataNames ds).idxOf? n with
    | some slot => simp [Ty.renumber]
    | none => cases (enumNames ds).idxOf? n <;> simp [Ty.renumber]

include hn

theorem aliasOf_perm : aliasOf ds' = aliasOf ds := by
  funext n
  refine Option.ext fun u => ?_
  rw [(hn.perm h).aliasOf_eq_some_iff, hn.aliasOf_eq_some_iff]
  exact exists_congr fun span => h.mem_iff

/-- **What a name stands for** is the same under other numbers. -/
theorem senseOf_perm (n : String) :
    senseOf ds' n = (senseOf ds n).renumber (dataMoved ds ds') (enumMoved ds ds') := by
  have hlen : ((aliases ds').map Prod.fst).length = ((aliases ds).map Prod.fst).length :=
    ((h.filterMap _).map _).length_eq
  rw [senseOf, senseOf, TypeExpr.sense, TypeExpr.sense, aliasOf_perm hn h, hlen,
    ← TypeExpr.meaning_renumber]
  refine TypeExpr.meaning_congr _ fun m _ => ?_
  rw [baseOf_perm h]
  cases baseOf ds m <;> simp [Ty.renumber]

theorem boundOf_perm (n : String) :
    boundOf ds' n = (boundOf ds n).map (Ty.renumber (dataMoved ds ds') (enumMoved ds ds')) := by
  rw [boundOf, boundOf, aliasOf_perm hn h]
  split
  · rw [senseOf_perm hn h, Option.map_some]
  · exact baseOf_perm h n

theorem fieldsOf_perm (seen : List String) (fs : List TypedName) :
    fieldsOf (senseOf ds') seen fs = (fieldsOf (senseOf ds) seen fs).map
      (Prod.map id (Ty.renumber (dataMoved ds ds') (enumMoved ds ds'))) := by
  induction fs generalizing seen with
  | nil => rfl
  | cons f fs ih =>
    have hmeaning := TypeExpr.meaning_congr f.type fun n _ => senseOf_perm hn h n
    rw [TypeExpr.meaning_renumber] at hmeaning
    rw [fieldsOf, fieldsOf]
    split
    · exact ih seen
    · rw [List.map_cons, ih, hmeaning]
      rfl

end Perm

/-- **Two states have the same types under other numbers**: records and enumerations of one name
correspond, with their fields and variants, and so do the structures that names are bound to. -/
structure Renumbered (σ τ : Nat → Nat) (s t : State) : Prop where
  datas : ∀ {i d}, s.types.datas[i]? = some d → ∃ d', t.types.datas[σ i]? = some d' ∧
    d'.name = d.name ∧ t.types.fieldTrees d'.fields
      = (s.types.fieldTrees d.fields).map (Prod.map id (Ty.renumber σ τ))
  enums : ∀ {i e}, s.types.enums[i]? = some e → ∃ e', t.types.enums[τ i]? = some e' ∧
    e'.name = e.name ∧ e'.variants = e.variants
  names : ∀ n, boundTo t n = (boundTo s n).map (Ty.renumber σ τ)

section Renumbered

variable {ds ds' : List Decl} {s t : State}

theorem Bound.dataName (hs : Bound ds s) {i : Nat} {d : DataInfo}
    (hd : s.types.datas[i]? = some d) : (dataNames ds)[i]? = some d.name := by
  rw [← hs.datas, List.getElem?_map, Array.getElem?_toList, hd]
  rfl

theorem Bound.enumeration (hs : Bound ds s) {i : Nat} {e : EnumInfo}
    (he : s.types.enums[i]? = some e) : (enumerations ds)[i]? = some (e.name, e.variants) := by
  rw [← hs.enums, List.getElem?_map, Array.getElem?_toList, he]
  rfl

/-- A record holds its number, and its fields are of the types that are written for it. -/
theorem Bound.data (hs : Bound ds s) (hn : WellNamed ds) {i : Nat} {d : DataInfo}
    (hd : s.types.datas[i]? = some d) : ∃ span fs, Decl.data span d.name fs ∈ ds ∧
      (dataNames ds).idxOf? d.name = some i ∧
      s.types.fieldTrees d.fields = fieldsOf (senseOf ds) [] fs := by
  have hname := hs.dataName hd
  have hplace := idxOf?_of_getElem? hn.nodup_dataNames hname
  obtain ⟨decl, hmem, hdecl⟩ := List.mem_filterMap.1 (List.mem_of_getElem? hname)
  cases decl with
  | data span name fs =>
    obtain rfl := Option.some.inj hdecl
    obtain ⟨slot, info, hslot, hinfo, hfields⟩ := hs.filled _ hmem
    obtain rfl := Option.some.inj (hslot.symm.trans hplace)
    obtain rfl := Option.some.inj (hinfo.symm.trans hd)
    exact ⟨span, fs, hmem, hplace, hfields⟩
  | _ => cases hdecl

/-- An enumeration is found by its number. -/
theorem Bound.enum (hs : Bound ds s) {n : String} {i : Nat}
    (hi : (enumNames ds).idxOf? n = some i) : ∃ e, s.types.enums[i]? = some e ∧ e.name = n := by
  have hname := getElem?_of_idxOf? hi
  rw [enumNames, ← hs.enums, List.map_map, List.getElem?_map, Array.getElem?_toList] at hname
  exact Option.map_eq_some_iff.1 hname

/-- **Declarations in another order leave the same types** under other numbers. -/
theorem Bound.renumbered (hs : Bound ds s) (ht : Bound ds' t) (hn : WellNamed ds)
    (h : ds'.Perm ds) : Renumbered (dataMoved ds ds') (enumMoved ds ds') s t where
  datas := by
    intro i d hd
    obtain ⟨span, fs, hmem, hplace, hfields⟩ := hs.data hn hd
    obtain ⟨slot, d', hslot, hd', hfields'⟩ := ht.filled _ (h.mem_iff.2 hmem)
    have hname := (getElem?_of_idxOf? hslot).symm.trans (ht.dataName hd')
    rw [idxOf?_moved (perm_dataNames h), hplace] at hslot
    obtain rfl := Option.some.inj hslot
    refine ⟨d', hd', (Option.some.inj hname).symm, ?_⟩
    rw [hfields', hfields, fieldsOf_perm hn h]
  enums := by
    intro i e he
    have hmem := List.mem_of_getElem? (hs.enumeration he)
    have hplace : (enumNames ds).idxOf? e.name = some i := by
      refine idxOf?_of_getElem? hn.nodup_enumNames ?_
      rw [enumNames, List.getElem?_map, hs.enumeration he]
      rfl
    have hmoved := idxOf?_moved (perm_enumNames h) e.name
    rw [hplace] at hmoved
    obtain ⟨e', he', hname⟩ := ht.enum hmoved
    -- of the enumerations of one name there is one only
    have hsame := List.inj_on_of_nodup_map (hn.perm h).nodup_enumNames
      (List.mem_of_getElem? (ht.enumeration he')) ((h.filterMap _).mem_iff.2 hmem) hname
    exact ⟨e', he', hname, (Prod.mk.inj hsame).2⟩
  names n := by rw [ht.names, hs.names, boundOf_perm hn h]

end Renumbered

/-! ## By the table of type names -/

/-- **The structure that a written type is resolved to** by the table of type names. -/
def resolved (s : State) (vars : List String) (fallback : Span) (t : TypeExpr) : Ty :=
  ((resolveType tableResolver vars fallback t).after s).types.tree
    ((resolveType tableResolver vars fallback t).value s)

/-- **A written type with all its aliases replaced.** -/
def expansion (ds : List Decl) (t : TypeExpr) : TypeExpr :=
  TypeExpr.expand (aliasOf ds) (aliases ds).length t

/-- Type parameters apart from aliases: none is an alias, or named in the target of one. -/
def Apart (ds : List Decl) (vars : List String) : Prop :=
  ∀ v ∈ vars, aliasOf ds v = none ∧ ∀ n u, aliasOf ds n = some u → v ∉ u.names

theorem stable_over {d : State} : Stable (Over d) where
  types h := h.types
  makes h hm ht := ⟨ht, h.ext.trans hm.types, by rw [hm.eq]; exact h.aliases,
    by rw [hm.eq]; exact h.table⟩

theorem withParams_of_notMem {vars : List String} {n : String} (h : n ∉ vars) (μ : String → Ty) :
    withParams vars μ n = μ n := if_neg (by simpa using h)

theorem senseOf_eq (ds : List Decl) (n : String) : senseOf ds n = (boundOf ds n).getD .unknown := by
  rw [boundOf]
  split
  · rfl
  · next hno => exact TypeExpr.sense_of_none (Option.not_isSome_iff_eq_none.1 hno)

section Resolved

variable {ds : List Decl}

/-- The table finds what a name stands for. -/
theorem looks_tableResolver {d s : State} (hb : Bound ds d) (hg : Ground d) (hs : Over d s)
    (n : String) : Looks (Over d) s (tableResolver n) (senseOf ds n) := by
  have hbound := hb.names n
  rw [boundTo, ← hs.aliases] at hbound
  refine ⟨hs, .refl _, fun id hid => ?_, fun hlost => ?_⟩
  · replace hid : s.aliases.resolve? n = some id := hid
    have hle : id ≤ d.types.size := hg.aliases (hs.aliases ▸ hid)
    rw [hid] at hbound
    refine ⟨hs.ext.le_size hle, ?_⟩
    rw [senseOf_eq, ← hbound]
    exact hb.types.tree_extends hs.types hs.ext id hle
  · replace hlost : s.aliases.resolve? n = none := hlost
    rw [hlost] at hbound
    rw [senseOf_eq, ← hbound]
    rfl

/-- **A written type is resolved to its meaning.** -/
theorem resolved_eq {d s : State} (hb : Bound ds d) (hg : Ground d) (hs : Over d s)
    (vars : List String) (fallback : Span) (t : TypeExpr) :
    resolved s vars fallback t = t.meaning (withParams vars (senseOf ds)) :=
  (reads_resolveType stable_over vars t fallback
    (fun n _ _ hs => looks_tableResolver hb hg hs n) hs).tree

variable (hacyclic : TypeExpr.Acyclic (aliasOf ds))

include hacyclic

/-- **No alias is left in an expansion.** -/
theorem closed_expansion (t : TypeExpr) : TypeExpr.Closed (aliasOf ds) (expansion ds t) := by
  rw [expansion, ← List.length_map Prod.fst]
  exact TypeExpr.closed_expand hacyclic (fun _ => isSome_aliasOf.1) t

/-- **Each alias is replaced by the expansion of its target.** -/
theorem expansion_eq (t : TypeExpr) :
    expansion ds t = t.replace fun n => (aliasOf ds n).map (expansion ds) :=
  (TypeExpr.expand_succ (closed_expansion hacyclic t)).symm

/-- **An expansion means the same.** -/
theorem meaning_expansion {vars : List String} (hvars : Apart ds vars) (t : TypeExpr) :
    (expansion ds t).meaning (withParams vars (senseOf ds))
      = t.meaning (withParams vars (senseOf ds)) := by
  rw [expansion, TypeExpr.meaning_expand]
  refine TypeExpr.meaning_congr t fun n _ => ?_
  by_cases hn : n ∈ vars
  · rw [TypeExpr.expand_of_none (hvars n hn).1, TypeExpr.meaning]
  · rw [withParams_of_notMem hn, senseOf, TypeExpr.sense, List.length_map]
    refine TypeExpr.meaning_congr _ fun a ha => ?_
    -- a name that comes with an alias is no type parameter
    have hno : a ∉ vars := by
      intro hin
      obtain ha | ⟨b, u, hu, ha⟩ := TypeExpr.mem_names_expand ha
      · exact hn (List.mem_singleton.1 ha ▸ hin)
      · exact (hvars a hin).2 b u hu ha
    rw [withParams_of_notMem hno]
    exact TypeExpr.sense_of_none (closed_expansion hacyclic (.name {} n) a ha)

end Resolved

/-- The declarations of a module are over themselves. -/
theorem over_declared (m : Module) : Over (survey m).declared (survey m).declared :=
  have hf := founded_survey m
  ⟨hf.types, .refl _, rfl, hf.table⟩

/-- **Aliases are resolved to their full expansion, whatever the order of the declarations.** Type
names are different from each other and from builtin ones, and no alias refers to itself.  Then a
written type is resolved to the same structure as its expansion, which names no alias any more; and
declarations in another order leave the same types, under other numbers. -/
theorem resolved_expansion_in_any_order {m : Module} (hn : WellNamed m.decls)
    (hacyclic : TypeExpr.Acyclic (aliasOf m.decls)) :
    (∀ t, TypeExpr.Closed (aliasOf m.decls) (expansion m.decls t) ∧
      expansion m.decls t = t.replace fun n => (aliasOf m.decls n).map (expansion m.decls)) ∧
    (∀ vars, Apart m.decls vars → ∀ t fallback fallback' s s',
      Over (survey m).declared s → Over (survey m).declared s' →
      resolved s vars fallback t = resolved s' vars fallback' (expansion m.decls t)) ∧
    ∀ m' : Module, m'.decls.Perm m.decls →
      ∃ σ τ, Renumbered σ τ (survey m).declared (survey m').declared := by
  have hb := bound_survey hn hacyclic
  have hg : Ground (survey m).declared := (founded_survey m).ground
  refine ⟨fun t => ⟨closed_expansion hacyclic t, expansion_eq hacyclic t⟩, ?_, ?_⟩
  · intro vars hvars t fallback fallback' s s' hs hs'
    rw [resolved_eq hb hg hs, resolved_eq hb hg hs', meaning_expansion hacyclic hvars]
  · intro m' hperm
    have hb' : Bound m'.decls (survey m').declared :=
      bound_survey (hn.perm hperm) (by rwa [aliasOf_perm hn hperm])
    exact ⟨_, _, hb.renumbered hb' hn hperm⟩

/-- A record and two aliases, each of which refers to what is declared after it. -/
def forwardAliases : Module where
  version := 1
  name := "shapes"
  source := ""
  decls := [
    .data {} "Shape" [⟨{}, "shade", .name {} "Shade"⟩, ⟨{}, "next", .name {} "Shape"⟩],
    .alias {} "Shade" (.optional {} (.name {} "Palette")),
    .alias {} "Palette" (.list {} (.name {} "Color")),
    .enum {} "Color" ["red", "green"]]

theorem acyclic_forwardAliases : TypeExpr.Acyclic (aliasOf forwardAliases.decls) := by
  refine TypeExpr.acyclic_of_rank (fun n => if n = "Shade" then 1 else 0) ?_
  rintro a b ⟨u, hu, hb, halias⟩
  have hmem : (a, u) ∈ aliases forwardAliases.decls := mem_of_lookup hu
  obtain ⟨rfl, rfl⟩ | ⟨rfl, rfl⟩ : "Shade" = a ∧ .optional {} (.name {} "Palette") = u ∨
      "Palette" = a ∧ .list {} (.name {} "Color") = u := by
    simpa [forwardAliases, aliases, Decl.alias?] using hmem
  · obtain rfl := List.mem_singleton.1 hb
    decide
  · obtain rfl := List.mem_singleton.1 hb
    exact absurd halias (by decide)

/-- Both aliases are resolved, though the first one refers to the second; and nothing changes when
each stands behind what it refers to. -/
theorem resolved_expansion_in_any_order_forwardAliases :
    WellNamed forwardAliases.decls ∧ TypeExpr.Acyclic (aliasOf forwardAliases.decls) ∧
    resolved (survey forwardAliases).declared [] {} (.name {} "Shade")
      = resolved (survey forwardAliases).declared [] {}
        (.optional {} (.list {} (.name {} "Color"))) ∧
    ∃ σ τ, Renumbered σ τ (survey forwardAliases).declared
      (survey { forwardAliases with decls := forwardAliases.decls.reverse }).declared := by
  have hn : WellNamed forwardAliases.decls := ⟨by decide, by decide⟩
  have hacyclic := acyclic_forwardAliases
  obtain ⟨-, hresolved, hperm⟩ := resolved_expansion_in_any_order hn hacyclic
  have hover := over_declared forwardAliases
  have hexpansion : expansion forwardAliases.decls (.name {} "Shade")
      = .optional {} (.list {} (.name {} "Color")) := rfl
  refine ⟨hn, hacyclic, ?_, hperm _ (List.reverse_perm _)⟩
  rw [← hexpansion]
  exact hresolved [] (List.forall_mem_nil _) _ {} {} _ _ hover hover

end Check

end CoreCheck

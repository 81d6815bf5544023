import Mathlib.Data.List.Nodup
import Mathlib.Data.List.Pairwise
import CoreCheck.Proofs.Aliases.Resolved

/-!
# Proofs/Aliases/Registered — what type names are bound to at first

The names of a module are registered in the order of the declarations, aliases for the placeholder.
If names are different from each other and from the builtin ones, each record and each enumeration
is bound to a type of its own, which holds its number (`declaring_declareTypes`).
-/

namespace CoreCheck.Ir

/-! ## The type names of declarations -/

namespace Decl

/-- The name of the type that a declaration introduces. -/
def typeName? : Decl → Option String
  | .data _ name _ | .enum _ name _ | .alias _ name _ => some name
  | .func _ | .imported _ _ => none

/-- The name of a record type. -/
def dataName? : Decl → Option String
  | .data _ name _ => some name
  | _ => none

/-- An enumeration with its variants. -/
def enum? : Decl → Option (String × List String)
  | .enum _ name variants => some (name, variants)
  | _ => none

/-- An alias with its target. -/
def alias? : Decl → Option (String × TypeExpr)
  | .alias _ name target => some (name, target)
  | _ => none

end Decl

/-- The type names that are declared, in order. -/
def typeNames (ds : List Decl) : List String := ds.filterMap Decl.typeName?

/-- The names of the records, in order. -/
def dataNames (ds : List Decl) : List String := ds.filterMap Decl.dataName?

/-- The enumerations with their variants, in order. -/
def enumerations (ds : List Decl) : List (String × List String) := ds.filterMap Decl.enum?

/-- The names of the enumerations, in order. -/
def enumNames (ds : List Decl) : List String := (enumerations ds).map Prod.fst

/-- The aliases with their targets, in order. -/
def aliases (ds : List Decl) : List (String × TypeExpr) := ds.filterMap Decl.alias?

/-- **The target of an alias.** -/
def aliasOf (ds : List Decl) (n : String) : Option TypeExpr := (aliases ds).lookup n

/-- **Well-named declarations**: type names are different from each other and from builtin ones. -/
structure WellNamed (ds : List Decl) : Prop where
  distinct : (typeNames ds).Nodup
  fresh : ∀ n ∈ typeNames ds, Types.Aliases.isBuiltin n = false

theorem mem_typeNames {ds : List Decl} {d : Decl} {n : String} (hd : d ∈ ds)
    (hn : d.typeName? = some n) : n ∈ typeNames ds := List.mem_filterMap.2 ⟨d, hd, hn⟩

theorem typeName_of_dataName {d : Decl} {n : String} (h : d.dataName? = some n) :
    d.typeName? = some n := by
  cases d <;> first | exact h | cases h

theorem typeName_of_enum {d : Decl} {e : String × List String} (h : d.enum? = some e) :
    d.typeName? = some e.1 := by
  cases d <;> first | (cases h; rfl) | cases h

theorem typeName_of_alias {d : Decl} {e : String × TypeExpr} (h : d.alias? = some e) :
    d.typeName? = some e.1 := by
  cases d <;> first | (cases h; rfl) | cases h

theorem filterMap_concat {α : Type} (f : Decl → Option α) (ds : List Decl) (d : Decl) :
    (ds ++ [d]).filterMap f = ds.filterMap f ++ (f d).toList := by
  rw [List.filterMap_append, List.filterMap_cons]
  cases f d <;> rfl

theorem dataNames_concat (ds : List Decl) (d : Decl) :
    dataNames (ds ++ [d]) = dataNames ds ++ d.dataName?.toList := filterMap_concat _ ds d

theorem enumerations_concat (ds : List Decl) (d : Decl) :
    enumerations (ds ++ [d]) = enumerations ds ++ d.enum?.toList := filterMap_concat _ ds d

theorem enumNames_concat (ds : List Decl) (d : Decl) :
    enumNames (ds ++ [d]) = enumNames ds ++ d.enum?.toList.map Prod.fst := by
  rw [enumNames, enumerations_concat, List.map_append, enumNames]

theorem aliases_concat (ds : List Decl) (d : Decl) :
    aliases (ds ++ [d]) = aliases ds ++ d.alias?.toList := filterMap_concat _ ds d

/-- Of entries with different names each is found. -/
theorem lookup_of_mem {α : Type} {l : List (String × α)} (h : (l.map Prod.fst).Nodup) {n : String}
    {a : α} (hm : (n, a) ∈ l) : l.lookup n = some a := by
  cases hl : l.lookup n with
  | none => simpa using List.lookup_eq_none_iff.1 hl _ hm
  | some b =>
    have hinj := List.inj_on_of_nodup_map h hm (Check.mem_of_lookup hl) rfl
    rw [(Prod.mk.inj hinj).2]

theorem isSome_lookup {α : Type} {l : List (String × α)} {n : String} :
    (l.lookup n).isSome = true ↔ n ∈ l.map Prod.fst := by
  induction l with
  | nil => simp
  | cons e l ih =>
    rw [List.lookup_cons, List.map_cons, List.mem_cons]
    by_cases hn : n = e.1
    · simp [hn]
    · rw [beq_false_of_ne hn]
      simp [hn, ih]

theorem mem_aliases {ds : List Decl} {n : String} {u : TypeExpr} :
    (n, u) ∈ aliases ds ↔ ∃ span, Decl.alias span n u ∈ ds := by
  constructor
  · intro h
    obtain ⟨d, hd, he⟩ := List.mem_filterMap.1 h
    cases d with
    | «alias» span name target =>
      obtain ⟨rfl, rfl⟩ := Prod.mk.inj (Option.some.inj he)
      exact ⟨span, hd⟩
    | _ => cases he
  · rintro ⟨span, hd⟩
    exact List.mem_filterMap.2 ⟨_, hd, rfl⟩

namespace WellNamed

variable {ds : List Decl} (h : WellNamed ds)

include h

theorem perm {ds' : List Decl} (hp : ds'.Perm ds) : WellNamed ds' :=
  ⟨(hp.filterMap _).nodup_iff.2 h.distinct,
    fun n hn => h.fresh n ((hp.filterMap _).mem_iff.1 hn)⟩

theorem sublist {ds' : List Decl} (hs : ds'.Sublist ds) : WellNamed ds' :=
  ⟨h.distinct.sublist (hs.filterMap _), fun n hn => h.fresh n ((hs.filterMap _).subset hn)⟩

/-- A type name is that of one declaration only. -/
theorem unique {d d' : Decl} (hd : d ∈ ds) (hd' : d' ∈ ds) {n : String} (hn : d.typeName? = some n)
    (hn' : d'.typeName? = some n) : d = d' := by
  by_contra hne
  have hsymm : Std.Symm fun d d' : Decl => ∀ n, d.typeName? = some n →
      ∀ n', d'.typeName? = some n' → n ≠ n' :=
    ⟨fun _ _ hne n hn n' hn' heq => hne n' hn' n hn heq.symm⟩
  exact (List.pairwise_filterMap.1 h.distinct).forall hd hd' hne n hn n hn' rfl

/-- What is read off declarations under their names has different names. -/
theorem nodup_filterMap {α : Type} {f : Decl → Option α} {g : α → String}
    (hf : ∀ {d a}, f d = some a → d.typeName? = some (g a)) : ((ds.filterMap f).map g).Nodup := by
  rw [List.Nodup, List.pairwise_map, List.pairwise_filterMap]
  refine (List.pairwise_filterMap.1 h.distinct).imp ?_
  intro d d' hne a ha a' ha'
  exact hne (g a) (hf ha) (g a') (hf ha')

theorem nodup_aliases : ((aliases ds).map Prod.fst).Nodup := h.nodup_filterMap typeName_of_alias

theorem nodup_enumNames : (enumNames ds).Nodup := h.nodup_filterMap typeName_of_enum

theorem nodup_dataNames : (dataNames ds).Nodup := by
  have hnodup := h.nodup_filterMap (g := id) typeName_of_dataName
  rwa [List.map_id] at hnodup

/-- **The target of an alias is that of its only declaration.** -/
theorem aliasOf_eq_some_iff {n : String} {u : TypeExpr} :
    aliasOf ds n = some u ↔ ∃ span, Decl.alias span n u ∈ ds := by
  rw [← mem_aliases]
  exact ⟨Check.mem_of_lookup, lookup_of_mem h.nodup_aliases⟩

end WellNamed

theorem isSome_aliasOf {ds : List Decl} {n : String} :
    (aliasOf ds n).isSome = true ↔ n ∈ (aliases ds).map Prod.fst := isSome_lookup

end CoreCheck.Ir

namespace CoreCheck.Check

open CoreCheck.Types CoreCheck.Ir

/-! ## What names are bound to at first -/

/-- **What a name that is no alias is bound to**: builtin names to their types, others to the record
or the enumeration of that name, by its number. -/
def baseOf (ds : List Decl) (n : String) : Option Ty :=
  ((Aliases.initial.resolve? n).map Arena.initial.tree).or
    ((((dataNames ds).idxOf? n).map .data).or (((enumNames ds).idxOf? n).map .enum))

theorem idxOf?_concat (l : List String) (a n : String) :
    (l ++ [a]).idxOf? n = (l.idxOf? n).or (if n = a then some l.length else none) := by
  unfold List.idxOf?
  rw [List.findIdx?_append, List.findIdx?_singleton]
  by_cases hn : n = a
  · simp [hn]
  · simp [hn, Ne.symm hn]

theorem resolve?_initial {n : String} (h : Aliases.isBuiltin n = false) :
    Aliases.initial.resolve? n = none := by
  refine List.lookup_eq_none_iff.2 fun e he => ?_
  have hne : e.1 ≠ n := fun heq => List.any_eq_false.1 h e he (beq_iff_eq.2 heq)
  exact bne_iff_ne.2 hne.symm

section Append

variable {ds : List Decl} {d : Decl} {a : String} (h : WellNamed (ds ++ [d]))
  (ha : d.typeName? = some a)

include h ha

/-- The name of one declaration more is a new one. -/
theorem notMem_typeNames : a ∉ typeNames ds := by
  have hdistinct := h.distinct
  rw [typeNames, List.filterMap_append] at hdistinct
  exact fun hin => (List.nodup_append.1 hdistinct).2.2 a hin a (by simp [ha]) rfl

theorem isBuiltin_new : Aliases.isBuiltin a = false :=
  h.fresh a (mem_typeNames (List.mem_append_right _ (.head _)) ha)

theorem baseOf_new : baseOf ds a = none := by
  have hnew := notMem_typeNames h ha
  have hbuiltin := isBuiltin_new h ha
  have hdata : (dataNames ds).idxOf? a = none := by
    rw [List.idxOf?_eq_none_iff]
    intro hin
    obtain ⟨d, hd, hn⟩ := List.mem_filterMap.1 hin
    exact hnew (mem_typeNames hd (typeName_of_dataName hn))
  have henum : (enumNames ds).idxOf? a = none := by
    rw [List.idxOf?_eq_none_iff]
    intro hin
    obtain ⟨e, he, rfl⟩ := List.mem_map.1 hin
    obtain ⟨d, hd, hn⟩ := List.mem_filterMap.1 he
    exact hnew (mem_typeNames hd (typeName_of_enum hn))
  rw [baseOf, resolve?_initial hbuiltin, hdata, henum]
  rfl

/-- **One declaration more** binds its own name, and no other. -/
theorem baseOf_append (n : String) : baseOf (ds ++ [d]) n =
    if n = a then (d.dataName?.map fun _ => Ty.data (dataNames ds).length).or
      (d.enum?.map fun _ => Ty.enum (enumNames ds).length) else baseOf ds n := by
  have hnew := baseOf_new h ha
  simp only [baseOf, Option.or_eq_none_iff, Option.map_eq_none_iff] at hnew
  obtain ⟨hbuiltin, hdata, henum⟩ := hnew
  rw [baseOf, baseOf, dataNames_concat, enumNames_concat]
  cases d with
  | data span name fields =>
    obtain rfl := Option.some.inj ha
    by_cases hn : n = name
    · simp [hn, Decl.dataName?, Decl.enum?, idxOf?_concat, hbuiltin, hdata]
    · simp [hn, Decl.dataName?, Decl.enum?, idxOf?_concat]
  | enum span name variants =>
    obtain rfl := Option.some.inj ha
    by_cases hn : n = name
    · simp [hn, Decl.dataName?, Decl.enum?, idxOf?_concat, hbuiltin, hdata, henum]
    · simp [hn, Decl.dataName?, Decl.enum?, idxOf?_concat]
  | «alias» span name target =>
    obtain rfl := Option.some.inj ha
    by_cases hn : n = name
    · simp [hn, Decl.dataName?, Decl.enum?, hbuiltin, hdata, henum]
    · simp [hn, Decl.dataName?, Decl.enum?]
  | func | imported => cases ha

end Append

/-! ## Registering -/

/-- The type names of declarations with their places. -/
def registered (ds : List (Decl × Nat)) : TypeNames :=
  ds.filterMap fun (d, i) => d.typeName?.map fun n => (n, i, d.span)

/-- A declaration with its place and, if it is a record or an enumeration, with the type that was
made for it. -/
abbrev Entry := Decl × Nat × Option TypeId

/-- A declaration and its place. -/
def Entry.placed (e : Entry) : Decl × Nat := (e.1, e.2.1)

/-- **A record comes with its own type**, which holds its number among the declarations. -/
def Typed (ds : List Decl) (a : Arena) (e : Entry) : Prop :=
  ∀ n, e.1.dataName? = some n → ∃ id slot,
    e.2.2 = some id ∧ a.lookup id = some (.data slot) ∧ (dataNames ds).idxOf? n = some slot

/-- **A state while type names are registered**, behind some declarations. -/
structure Declaring (typed : List Entry) (known : TypeNames) (s : State) : Prop where
  types : s.types.Sound
  entries : ∀ e ∈ s.aliases.entries, e.2 ≤ s.types.size
  visits : s.visits = []
  bound : ∀ n, n ∉ (aliases (typed.map Prod.fst)).map Prod.fst →
    boundTo s n = baseOf (typed.map Prod.fst) n
  datas : s.types.datas.toList.map (·.name) = dataNames (typed.map Prod.fst)
  enums : s.types.enums.toList.map (fun e => (e.name, e.variants))
    = enumerations (typed.map Prod.fst)
  known : known = registered (typed.map Entry.placed)
  ids : ∀ e ∈ typed, Typed (typed.map Prod.fst) s.types e

theorem declaring_initial : Declaring [] [] {} where
  types := Arena.sound_initial
  entries := founded_initial.aliases
  visits := rfl
  bound n _ := by
    rw [boundTo, baseOf]
    cases Aliases.initial.resolve? n <;> rfl
  datas := rfl
  enums := rfl
  known := rfl
  ids := List.forall_mem_nil _

/-- The type of a record stays as long as types keep their shapes. -/
theorem Typed.keep {ds : List Decl} {a b : Arena} {e : Entry} (h : Typed ds a e)
    (hlookup : ∀ id sh, a.lookup id = some sh → b.lookup id = some sh) : Typed ds b e := by
  intro n hn
  obtain ⟨id, slot, hid, hsh, hslot⟩ := h n hn
  exact ⟨id, slot, hid, hlookup id _ hsh, hslot⟩

/-- Its number stays when declarations are added. -/
theorem Typed.concat {ds : List Decl} {a : Arena} {e : Entry} (h : Typed ds a e) (d : Decl) :
    Typed (ds ++ [d]) a e := by
  intro n hn
  obtain ⟨id, slot, hid, hsh, hslot⟩ := h n hn
  refine ⟨id, slot, hid, hsh, ?_⟩
  rw [dataNames_concat]
  cases hd : d.dataName? with
  | none => rwa [Option.toList_none, List.append_nil]
  | some a => rw [Option.toList_some, idxOf?_concat, hslot, Option.some_or]

theorem after_ownedBy {α : Type} (owner : Nat) (x : Walk α) (s : State) :
    (Walk.ownedBy owner x).after s
      = { x.after { s with owner := some owner } with owner := s.owner } := rfl

theorem value_ownedBy {α : Type} (owner : Nat) (x : Walk α) (s : State) :
    (Walk.ownedBy owner x).value s = x.value { s with owner := some owner } := rfl

theorem registerName_new (known : TypeNames) {name : String} {s : State}
    (hb : Aliases.isBuiltin name = false) (hr : s.aliases.resolve? name = none) (i : Nat)
    (span : Span) (id : TypeId) :
    (registerName known i name span id).after s
        = { s with aliases := ⟨s.aliases.entries ++ [(name, id)]⟩ } ∧
      (registerName known i name span id).value s = known ++ [(name, i, span)] := by
  have hdef : s.aliases.define? name id = some ⟨s.aliases.entries ++ [(name, id)]⟩ := by
    rw [Aliases.define?, hr]
    rfl
  rw [registerName, hb]
  simp only [Bool.false_eq_true, if_false, Walk.after_bind, Walk.value_bind, Walk.value_get,
    Walk.after_get, hdef]
  exact ⟨rfl, rfl⟩

/-- A name that is new is bound to its type, and the others stay as they are. -/
theorem boundTo_define {s : State} {name : String} (hr : s.aliases.resolve? name = none)
    (id : TypeId) (n : String) :
    boundTo { s with aliases := ⟨s.aliases.entries ++ [(name, id)]⟩ } n
      = if n = name then some (s.types.tree id) else boundTo s n := by
  rw [Aliases.resolve?] at hr
  change ((s.aliases.entries ++ [(name, id)]).lookup n).map s.types.tree = _
  rw [List.lookup_append]
  by_cases hn : n = name
  · rw [if_pos hn, hn, hr, List.lookup_cons_self]
    rfl
  · rw [if_neg hn, List.lookup_cons, beq_false_of_ne hn, List.lookup_nil, Option.or_none]
    rfl

section Register

variable {typed : List Entry} {known : TypeNames} {s : State} {d : Decl} {i : Nat}
  (h : Declaring typed known s) (hn : WellNamed (typed.map Prod.fst ++ [d]))

include h hn

theorem Declaring.resolve?_new {a : String} (ha : d.typeName? = some a) :
    s.aliases.resolve? a = none := by
  have hbound := h.bound a fun hin => by
    obtain ⟨e, he, rfl⟩ := List.mem_map.1 hin
    obtain ⟨d, hd, hn'⟩ := List.mem_filterMap.1 he
    exact notMem_typeNames hn ha (mem_typeNames hd (typeName_of_alias hn'))
  rw [baseOf_new hn ha] at hbound
  exact Option.map_eq_none_iff.1 hbound

/-- **One name more is registered**, for a type that was made for it. -/
theorem Declaring.register {a : String} (ha : d.typeName? = some a) {b : Arena} {id : TypeId}
    {own : Option TypeId} (hb : b.Sound) (hsize : s.types.size ≤ b.size)
    (hlookup : ∀ id ≤ s.types.size, b.lookup id = s.types.lookup id) (hid : id ≤ b.size)
    (htree : d.alias? = none → some (b.tree id) = baseOf (typed.map Prod.fst ++ [d]) a)
    (hdatas : b.datas.toList.map (·.name) = dataNames (typed.map Prod.fst ++ [d]))
    (henums : b.enums.toList.map (fun e => (e.name, e.variants))
      = enumerations (typed.map Prod.fst ++ [d]))
    (hown : Typed (typed.map Prod.fst ++ [d]) b (d, i, own))
    (owner : Option Nat) (log : Array (Option Nat × Observation)) :
    Declaring (typed ++ [(d, i, own)]) (known ++ [(a, i, d.span)])
      { s with types := b, aliases := ⟨s.aliases.entries ++ [(a, id)]⟩, owner, log } := by
  have hmap : (typed ++ [(d, i, own)]).map Prod.fst = typed.map Prod.fst ++ [d] := by simp
  refine ⟨hb, ?_, h.visits, fun n hno => ?_, hmap ▸ hdatas, hmap ▸ henums, ?_, ?_⟩
  · refine List.forall_mem_append.2 ⟨fun e he => Nat.le_trans (h.entries e he) hsize, ?_⟩
    exact List.forall_mem_singleton.2 hid
  · rw [hmap] at hno ⊢
    rw [aliases_concat, List.map_append, List.mem_append, not_or] at hno
    have hold : boundTo { s with types := b, owner, log } n = boundTo s n :=
      boundTo_eq (t := { s with types := b, owner, log }) h.types hb h.entries rfl hlookup n
    refine (boundTo_define (s := { s with types := b, owner, log }) (h.resolve?_new hn ha) id
      n).trans ?_
    rw [hold]
    split
    · next hna =>
      rw [hna]
      refine htree ?_
      cases d with
      | «alias» span name target =>
        obtain rfl := Option.some.inj ha
        exact absurd (List.mem_singleton.2 hna) hno.2
      | _ => rfl
    · next hna =>
      rw [baseOf_append hn ha, if_neg hna]
      exact h.bound n hno.1
  · rw [h.known, registered, registered, List.map_append, List.filterMap_append]
    simp [ha, Entry.placed]
  · rw [hmap]
    refine List.forall_mem_append.2 ⟨fun e he => ((h.ids e he).keep fun id sh hsh => ?_).concat d,
      List.forall_mem_singleton.2 hown⟩
    exact (hlookup id (Arena.le_size_of_lookup hsh)).trans hsh

/-- A declaration without a type name changes nothing. -/
theorem Declaring.skip (hd : d.typeName? = none) : Declaring (typed ++ [(d, i, none)]) known s := by
  obtain ⟨hdata, henum, halias⟩ : d.dataName? = none ∧ d.enum? = none ∧ d.alias? = none := by
    cases d <;> first | exact ⟨rfl, rfl, rfl⟩ | cases hd
  have hmap : (typed ++ [(d, i, none)]).map Prod.fst = typed.map Prod.fst ++ [d] := by simp
  refine ⟨h.types, h.entries, h.visits, ?_, ?_, ?_, ?_, ?_⟩
  · rw [hmap, aliases_concat, halias, Option.toList_none, List.append_nil]
    intro n hno
    rw [baseOf, dataNames_concat, enumNames_concat, hdata, henum, Option.toList_none,
      Option.toList_none, List.map_nil, List.append_nil, List.append_nil]
    exact h.bound n hno
  · rw [hmap, dataNames_concat, hdata, Option.toList_none, List.append_nil, h.datas]
  · rw [hmap, enumerations_concat, henum, Option.toList_none, List.append_nil, h.enums]
  · rw [h.known, registered, registered, List.map_append, List.filterMap_append]
    simp [hd, Entry.placed]
  · rw [hmap]
    refine List.forall_mem_append.2 ⟨fun e he => (h.ids e he).concat d, ?_⟩
    exact List.forall_mem_singleton.2 fun n hn => by cases hdata.symm.trans hn

omit hn in
theorem Declaring.size_datas : s.types.datas.size = (dataNames (typed.map Prod.fst)).length := by
  rw [← h.datas, List.length_map, Array.length_toList]

omit hn in
theorem Declaring.size_enums : s.types.enums.size = (enumNames (typed.map Prod.fst)).length := by
  rw [enumNames, ← h.enums, List.length_map, List.length_map, Array.length_toList]

/-- A record or an enumeration is registered for the type that is made for it. -/
theorem Declaring.make {a : String} (ha : d.typeName? = some a) (r : Request) (hr : r.args = [])
    (htree : some (r.meaning s.types) = baseOf (typed.map Prod.fst ++ [d]) a)
    (hdatas : (r.prepared s.types).datas.toList.map (·.name)
      = dataNames (typed.map Prod.fst ++ [d]))
    (henums : (r.prepared s.types).enums.toList.map (fun e => (e.name, e.variants))
      = enumerations (typed.map Prod.fst ++ [d]))
    (hshape : ∀ n, d.dataName? = some n → ∃ slot, r.shape s.types = .data slot ∧
      (dataNames (typed.map Prod.fst ++ [d])).idxOf? n = some slot)
    (owner : Option Nat) (log : Array (Option Nat × Observation)) :
    Declaring (typed ++ [(d, i, some (r.make s.types).2)]) (known ++ [(a, i, d.span)])
      { s with
        types := (r.make s.types).1
        aliases := ⟨s.aliases.entries ++ [(a, (r.make s.types).2)]⟩
        owner
        log } := by
  have hargs : ∀ q ∈ r.args, q ≤ s.types.size := by
    rw [hr]
    exact List.forall_mem_nil _
  have happ := Request.appendsTo_make s.types r
  refine h.register hn ha (Request.sound_make h.types hargs) happ.size_le
    (fun id hid => happ.lookup_eq hid) (Arena.le_size_of_lookup (Request.lookup_make s.types r)) ?_
    ?_ ?_ ?_ owner log
  · intro _
    rw [Request.tree_make h.types hargs, htree]
  · rw [Request.datas_make, hdatas]
  · rw [Request.enums_make, henums]
  · intro n hdn
    obtain ⟨slot, hsh, hslot⟩ := hshape n hdn
    exact ⟨_, slot, rfl, hsh ▸ Request.lookup_make s.types r, hslot⟩

/-- **One declaration more.** -/
theorem declaring_declareType :
    Declaring (typed ++ [(d, i, ((declareType known i d).value s).2)])
      ((declareType known i d).value s).1 ((declareType known i d).after s) := by
  cases d with
  | data span name fields =>
    have hbase := baseOf_append hn rfl name
    have hslot : (dataNames (typed.map Prod.fst ++ [.data span name fields])).idxOf? name
        = some s.types.datas.size := by
      have hnew := baseOf_new hn rfl
      simp only [baseOf, Option.or_eq_none_iff, Option.map_eq_none_iff] at hnew
      rw [dataNames_concat, Decl.dataName?, Option.toList_some, idxOf?_concat, hnew.2.1, if_pos rfl,
        h.size_datas, Option.none_or]
    rw [if_pos rfl, ← h.size_datas] at hbase
    have hmade := h.make (i := i) hn rfl (.data name span) rfl hbase.symm
      (by simp [Request.prepared, h.datas, dataNames_concat, Decl.dataName?])
      (by simp [Request.prepared, h.enums, enumerations_concat, Decl.enum?])
      (by rintro _ ⟨⟩; exact ⟨_, rfl, hslot⟩) s.owner s.log
    obtain ⟨hafter, hvalue⟩ := registerName_new known (isBuiltin_new hn rfl)
      (s := { s with owner := some i, types := (s.types.newData name span).1 })
      (h.resolve?_new hn rfl) i span (s.types.newData name span).2
    simp only [declareType, after_ownedBy, value_ownedBy, Walk.after_bind, Walk.value_bind,
      Walk.after_make, Walk.value_make, Walk.after_pure, Walk.value_pure, hafter, hvalue]
    exact hmade
  | enum span name variants =>
    have hbase := baseOf_append hn rfl name
    rw [if_pos rfl, ← h.size_enums] at hbase
    obtain ⟨log, hlog⟩ : ∃ log, (reportRepeats span [] variants).after
          { s with owner := some i, types := (s.types.newEnum name span variants).1 }
        = { s with owner := some i, types := (s.types.newEnum name span variants).1, log } :=
      ⟨_, (reports_repeats span [] variants _).eq⟩
    have hmade := h.make (i := i) hn rfl (.enum name span variants) rfl hbase.symm
      (by simp [Request.prepared, h.datas, dataNames_concat, Decl.dataName?])
      (by simp [Request.prepared, h.enums, enumerations_concat, Decl.enum?])
      (fun _ hno => by cases hno) s.owner log
    obtain ⟨hafter, hvalue⟩ := registerName_new known (isBuiltin_new hn rfl)
      (s := { s with owner := some i, types := (s.types.newEnum name span variants).1, log })
      (h.resolve?_new hn rfl) i span (s.types.newEnum name span variants).2
    simp only [declareType, after_ownedBy, value_ownedBy, Walk.after_bind, Walk.value_bind,
      Walk.after_make, Walk.value_make, Walk.after_pure, Walk.value_pure, hlog, hafter, hvalue]
    exact hmade
  | «alias» span name target =>
    obtain ⟨hafter, hvalue⟩ := registerName_new known (isBuiltin_new hn rfl)
      (s := { s with owner := some i }) (h.resolve?_new hn rfl) i span unknown
    have hmade := h.register (i := i) hn rfl h.types (Nat.le_refl _) (fun _ _ => rfl)
      (h.types.builtin_le (show unknown ≤ 8 by decide)) (fun hno => by cases hno)
      (by simp [h.datas, dataNames_concat, Decl.dataName?])
      (by simp [h.enums, enumerations_concat, Decl.enum?])
      (show Typed _ _ (_, i, none) from fun _ hno => by cases hno) s.owner s.log
    simp only [declareType, after_ownedBy, value_ownedBy, Walk.after_bind, Walk.value_bind,
      Walk.after_pure, Walk.value_pure, hafter, hvalue]
    exact hmade
  | func f => exact h.skip hn rfl
  | imported span name => exact h.skip hn rfl

end Register

/-- **All declarations.** -/
theorem declaring_declareTypes (rest : List (Decl × Nat)) {typed : List Entry}
    {known : TypeNames} {s : State} (hn : WellNamed (typed.map Prod.fst ++ rest.map Prod.fst))
    (h : Declaring typed known s) :
    Declaring (typed ++ ((declareTypes known rest).value s).2)
        ((declareTypes known rest).value s).1 ((declareTypes known rest).after s) ∧
      ((declareTypes known rest).value s).2.map Entry.placed = rest := by
  induction rest generalizing typed known s with
  | nil => exact ⟨(List.append_nil typed).symm ▸ h, rfl⟩
  | cons e rest ih =>
    obtain ⟨d, i⟩ := e
    rw [List.map_cons, List.append_cons] at hn
    have hfirst := declaring_declareType (i := i) h (hn.sublist (List.sublist_append_left _ _))
    obtain ⟨hlast, htyped⟩ := ih (by rwa [List.map_append]) hfirst
    rw [← List.append_cons] at hlast
    rw [declareTypes]
    exact ⟨hlast, congrArg (List.cons (d, i)) htyped⟩

end CoreCheck.Check

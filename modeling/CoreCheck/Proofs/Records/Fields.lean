import CoreCheck.Proofs.Aliases.Bound

/-!
# Proofs/Records/Fields — the fields that records have

A record gets its number when its name is registered, and its fields when its declaration is
resolved.  Of fields of one name the first is kept, so the fields of a record are named as in its
declaration, without repetitions.  This holds of every declaration of a record, also of one that
does not hold its name (`outlines_survey`).
-/

namespace CoreCheck

/-- A list without repetitions has none. -/
theorem nodup_eraseDups (l : List String) : l.eraseDups.Nodup := by
  induction hn : l.length using Nat.strong_induction_on generalizing l with
  | h n ih =>
    cases l with
    | nil => exact List.nodup_nil
    | cons a as =>
      rw [List.eraseDups_cons, List.nodup_cons, List.mem_eraseDups, List.mem_filter]
      refine ⟨by simp, ih _ ?_ _ rfl⟩
      rw [← hn]
      exact Nat.lt_succ_of_le (List.length_filter_le _ _)

namespace Check

open CoreCheck.Types CoreCheck.Ir

/-! ## Types are only added -/

/-- **Types are only added.** -/
def Widens (s t : State) : Prop := s.types.Extends t.types

instance : Walk.Course Widens where
  refl _ := .refl _
  trans := Arena.Extends.trans

theorem Makes.widens {s t : State} (h : Makes s t) : Widens s t := h.types

theorem keepingNames_widens : KeepingNames Widens where
  toKeepingTypes := keepingTypes_of_makes Makes.widens
  still h := by
    rw [Widens, h]
    exact .refl _

/-! ## The names of fields -/

/-- **Of fields of one name the first is kept.** -/
theorem names_resolveFields (find : Resolver) (owner : Span) (seen : List (String × Span))
    (fs : List TypedName) (s : State) :
    ((resolveFields find owner seen fs).value s).map Field.name
      = ((fs.map TypedName.name).filter (· ∉ seen.map Prod.fst)).eraseDups := by
  induction fs generalizing seen s with
  | nil => rfl
  | cons f fs ih =>
    rw [resolveFields, List.map_cons]
    cases hseen : seen.lookup f.name with
    | some previous =>
      have hin : f.name ∈ seen.map Prod.fst := isSome_lookup.1 (by rw [hseen]; rfl)
      rw [List.filter_cons_of_neg (by simpa using hin)]
      exact ih seen _
    | none =>
      have hin : f.name ∉ seen.map Prod.fst := fun hin => by
        simpa [hseen] using isSome_lookup.2 hin
      rw [List.filter_cons_of_pos (by simpa using hin), List.eraseDups_cons, List.filter_filter]
      simp only [Walk.value_bind, Walk.value_pure, List.map_cons, ih]
      congr 3
      funext n
      simp [not_or]

/-! ## Registering -/

/-- The name of a record, and the names of its fields. -/
def outline (info : DataInfo) : String × List String := (info.name, info.fields.map Field.name)

/-- The name and the fields of a record as they are declared. -/
def Decl.record? : Decl → Option (String × List TypedName)
  | .data _ name fs => some (name, fs)
  | _ => none

/-- **The names of fields, without repetitions.** -/
def distinctNames (fs : List TypedName) : List String := (fs.map TypedName.name).eraseDups

/-- The name of a record, and the names of its fields as they are declared. -/
def Decl.outline? (d : Decl) : Option (String × List String) :=
  (Decl.record? d).map fun r => (r.1, distinctNames r.2)

/-- The type of a record with what is declared of it. -/
def Entry.record? (e : Entry) : Option (TypeId × String × List String) :=
  e.2.2.bind fun id => (Decl.outline? e.1).map (id, ·)

/-- **A state in which some records have their fields and others have none yet.** The numbers of
records follow their declarations. -/
structure Outlining (past rest : List Entry) (s : State) : Prop where
  ids : ∀ k r, ((past ++ rest).filterMap Entry.record?)[k]? = some r →
    s.types.lookup r.1 = some (.data k)
  outlines : s.types.datas.toList.map outline
    = (past.filterMap Entry.record?).map (·.2)
      ++ (rest.filterMap Entry.record?).map fun r => (r.2.1, [])

theorem types_registerName (known : TypeNames) (i : Nat) (name : String) (span : Span) (id : TypeId)
    (s : State) : ((registerName known i name span id).after s).types = s.types := by
  unfold registerName
  rw [Walk.after_ite]
  split
  · rfl
  · simp only [Walk.after_bind, Walk.value_get, Walk.after_get]
    cases s.aliases.define? name id <;> rfl

section Register

variable {typed : List Entry} {s : State}

/-- What is no record adds types at most. -/
theorem Outlining.skip {past rest : List Entry} (h : Outlining past rest s) {t : State}
    (hdatas : t.types.datas = s.types.datas)
    (hshapes : ∀ {id sh}, s.types.lookup id = some sh → t.types.lookup id = some sh) {e : Entry}
    (he : e.record? = none) : Outlining past (rest ++ [e]) t := by
  have hrest : (rest ++ [e]).filterMap Entry.record? = rest.filterMap Entry.record? := by
    rw [List.filterMap_append, List.filterMap_cons_none he, List.filterMap_nil, List.append_nil]
  refine ⟨fun k r hr => hshapes (h.ids k r ?_), ?_⟩
  · rwa [List.filterMap_append, hrest, ← List.filterMap_append] at hr
  · rw [hrest, hdatas, h.outlines]

theorem Outlining.length (h : Outlining [] typed s) :
    (typed.filterMap Entry.record?).length = s.types.datas.size := by
  simpa using (congrArg List.length h.outlines).symm

/-- **A record gets the next number**, and has no fields yet. -/
theorem Outlining.newData (h : Outlining [] typed s) {t : State} {name : String} {span : Span}
    (ht : t.types = (s.types.newData name span).1) {e : Entry} {fields : List String}
    (he : e.record? = some ((s.types.newData name span).2, name, fields)) :
    Outlining [] (typed ++ [e]) t := by
  have hrest : (typed ++ [e]).filterMap Entry.record?
      = typed.filterMap Entry.record? ++ [((s.types.newData name span).2, name, fields)] := by
    rw [List.filterMap_append, List.filterMap_cons_some he, List.filterMap_nil]
  have hext := Arena.extends_intern { s.types with datas := s.types.datas.push { name, span } }
    (.data s.types.datas.size)
  refine ⟨fun k r hr => ?_, ?_⟩
  · rw [List.nil_append, hrest, List.getElem?_append] at hr
    rw [ht]
    split at hr
    · exact hext.lookup_some (h.ids k r hr)
    · next hk =>
      obtain ⟨hlt, rfl⟩ := List.getElem?_eq_some_iff.1 hr
      rw [List.length_singleton, h.length] at hlt
      rw [h.length] at hk
      obtain rfl : k = s.types.datas.size := by omega
      rw [List.getElem_singleton]
      exact Arena.lookup_intern _ _
  · have hold := h.outlines
    rw [List.filterMap_nil, List.map_nil, List.nil_append] at hold ⊢
    rw [hrest, List.map_append, ← hold, ht]
    change (Arena.datas (Arena.intern _ _).1).toList.map outline = _
    rw [hext.datas_eq, Array.toList_push, List.map_append]
    rfl

/-- **One declaration more.** -/
theorem outlining_declareType (h : Outlining [] typed s) (known : TypeNames) (i : Nat) (d : Decl) :
    Outlining [] (typed ++ [(d, i, ((declareType known i d).value s).2)])
      ((declareType known i d).after s) := by
  cases d with
  | data span name fs => exact h.newData (types_registerName known i name span _ _) rfl
  | enum span name variants =>
    have hext := Arena.extends_intern
      { s.types with enums := s.types.enums.push { name, span, variants } }
      (.enum s.types.enums.size)
    have htypes : ((declareType known i (.enum span name variants)).after s).types
        = (s.types.newEnum name span variants).1 :=
      (types_registerName known i name span _ _).trans (reports_repeats span [] variants _).types
    refine h.skip ?_ (fun hsh => ?_) rfl
    · rw [htypes]
      exact hext.datas_eq
    · rw [htypes]
      exact hext.lookup_some hsh
  | «alias» span name target =>
    have htypes : ((declareType known i (.alias span name target)).after s).types = s.types :=
      types_registerName known i name span unknown _
    refine h.skip ?_ (fun hsh => ?_) rfl
    · rw [htypes]
    · rwa [htypes]
  | func f => exact h.skip rfl (fun hsh => hsh) rfl
  | imported span name => exact h.skip rfl (fun hsh => hsh) rfl

/-- **All declarations.** -/
theorem outlining_declareTypes (h : Outlining [] typed s) (known : TypeNames)
    (rest : List (Decl × Nat)) :
    Outlining [] (typed ++ ((declareTypes known rest).value s).2)
      ((declareTypes known rest).after s) := by
  induction rest generalizing typed known s with
  | nil => exact (List.append_nil typed).symm ▸ h
  | cons e rest ih =>
    have hnext := ih (outlining_declareType h known e.2 e.1) ((declareType known e.2 e.1).value s).1
    rw [List.append_assoc] at hnext
    rw [declareTypes]
    exact hnext

end Register

/-! ## Setting the fields -/

section Resolve

variable {past rest : List Entry} {s : State}

theorem Outlining.widen (h : Outlining past rest s) {t : State} (hw : Widens s t) :
    Outlining past rest t :=
  ⟨fun k r hr => hw.lookup_some (h.ids k r hr), by rw [hw.datas_eq, h.outlines]⟩

/-- A declaration that is no record is passed over. -/
theorem Outlining.pass {e : Entry} (h : Outlining past (e :: rest) s) (he : e.record? = none) :
    Outlining (past ++ [e]) rest s := by
  refine ⟨by simpa using h.ids, ?_⟩
  rw [h.outlines, List.filterMap_cons_none he, List.filterMap_append,
    List.filterMap_cons_none he, List.filterMap_nil, List.append_nil]

/-- **A record gets its fields**, and those of the others stay as they are. -/
theorem Outlining.setFields {e : Entry} (h : Outlining past (e :: rest) s) {id : TypeId}
    {name : String} {fields : List Field}
    (he : e.record? = some (id, name, fields.map Field.name)) (owner : Option Nat) :
    Outlining (past ++ [e]) rest { s with types := s.types.setFields id fields, owner } := by
  have hpast : (past ++ [e]).filterMap Entry.record?
      = past.filterMap Entry.record? ++ [(id, name, fields.map Field.name)] := by
    rw [List.filterMap_append, List.filterMap_cons_some he, List.filterMap_nil]
  -- the number of the record is that of the records before it
  have hid : s.types.lookup id = some (.data (past.filterMap Entry.record?).length) := by
    refine h.ids _ (id, name, fields.map Field.name) ?_
    rw [List.filterMap_append, List.filterMap_cons_some he,
      List.getElem?_append_right (Nat.le_refl _), Nat.sub_self]
    rfl
  refine ⟨fun k r hr => ?_, ?_⟩
  · change (s.types.setFields id fields).lookup r.1 = _
    rw [Arena.lookup, Arena.shapes_setFields]
    exact h.ids k r (by simpa using hr)
  · have hold := h.outlines
    rw [List.filterMap_cons_some he, List.map_cons] at hold
    obtain ⟨before, behind, hsplit, hbefore, hbehind⟩ := List.map_eq_append_iff.1 hold
    obtain ⟨info, after, rfl, hinfo, hafter⟩ := List.map_eq_cons_iff.1 hbehind
    have hlength : before.length = (past.filterMap Entry.record?).length := by
      simpa using congrArg List.length hbefore
    change (s.types.setFields id fields).datas.toList.map outline = _
    rw [Arena.setFields, hid]
    dsimp only
    rw [Array.toList_modify, hsplit, ← hlength, List.modify_eq_take_drop, List.take_left,
      List.drop_left, List.map_append, hbefore, hpast, List.map_append, List.append_assoc]
    rw [List.modifyHead_cons, List.map_cons, hafter]
    have hname : info.name = name := congrArg Prod.fst hinfo
    rw [outline, hname]
    rfl

/-- **One declaration more is resolved.** -/
theorem outlining_resolveDecl {e : Entry} (h : Outlining past (e :: rest) s)
    (targets : List AliasTarget) :
    Outlining (past ++ [e]) rest ((resolveDecl targets e).after s) := by
  obtain ⟨d, i, own⟩ := e
  cases d with
  | «alias» span name target =>
    have hw := keepingNames_widens.resolveAlias targets span name target i own
    exact (h.widen (hw s)).pass (by cases own <;> rfl)
  | data span name fs =>
    cases own with
    | none => exact h.pass rfl
    | some id =>
      have hstart := h.widen (t := { s with owner := some i }) (.refl _)
      have hmid := hstart.widen (keepingNames_widens.resolveFields targets span [] fs _)
      have hnames := names_resolveFields (onDemand targets) span [] fs { s with owner := some i }
      rw [List.map_nil, List.filter_eq_self.2 (by simp)] at hnames
      exact hmid.setFields (congrArg (fun names => some (id, name, names)) hnames.symm) s.owner
  | enum span name variants => exact h.pass (by cases own <;> rfl)
  | func f => exact h.pass (by cases own <;> rfl)
  | imported span name => exact h.pass (by cases own <;> rfl)

/-- **All declarations are resolved.** -/
theorem outlining_resolveDecls (h : Outlining past rest s) (targets : List AliasTarget) :
    Outlining (past ++ rest) [] ((rest.forM (resolveDecl targets)).after s) := by
  induction rest generalizing past s with
  | nil => exact (List.append_nil past).symm ▸ h
  | cons e rest ih =>
    rw [List.append_cons]
    exact ih (outlining_resolveDecl h targets)

end Resolve

/-! ## The records of a module -/

/-- Every declaration of a record has its own type. -/
theorem records_declareTypes (rest : List (Decl × Nat)) (known : TypeNames) (s : State) :
    ((declareTypes known rest).value s).2.filterMap (fun e => (Entry.record? e).map Prod.snd)
      = (rest.map Prod.fst).filterMap Decl.outline? := by
  induction rest generalizing known s with
  | nil => rfl
  | cons e rest ih =>
    obtain ⟨d, i⟩ := e
    rw [declareTypes]
    cases d with
    | data span name fs => exact congrArg (List.cons _) (ih _ _)
    | _ => exact ih _ _

/-- **The records of a module are those of its declarations**, in their order, and their fields are
named as in their declarations, without repetitions. -/
theorem outlines_survey (m : Module) :
    (survey m).declared.types.datas.toList.map outline
      = (m.decls.filterMap Decl.record?).map fun r => (r.1, distinctNames r.2) := by
  have hstart : Outlining [] [] {} := ⟨fun k r hr => (nomatch hr), rfl⟩
  have hend := outlining_resolveDecls (outlining_declareTypes hstart [] m.decls.zipIdx)
    (aliasTargets ((declareTypes [] m.decls.zipIdx).value {}).1 m.decls.zipIdx)
  have hspares : Spares ((collectTypes m.decls.zipIdx).after {}) (survey m).declared :=
    spares_declareValues _ _ _
  rw [hspares.types.datas_eq]
  refine hend.outlines.trans ?_
  rw [List.filterMap_nil, List.map_nil, List.append_nil, List.nil_append, List.nil_append,
    List.map_filterMap, records_declareTypes, List.zipIdx_map_fst, List.map_filterMap]
  rfl

end Check

end CoreCheck

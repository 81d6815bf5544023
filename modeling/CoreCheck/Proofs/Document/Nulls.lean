import CoreCheck.Proofs.Document.Read

/-!
# Proofs/Document/Nulls — a null field is an absent field

`Value.erase key path v` is the document `v` without one key of one of its objects.  If the value of
that key is null, every reading of every node stays what it was, refusals included (`reading_eq`):
the readers of a node ask for its fields by `get?` alone, and `get?` cannot tell the two apart.  One
question is asked otherwise, that for the key of the declarations.  There a null hides the other
spelling of the key, and nowhere else does the law fail (`same_module_without_null_iff`).
-/

namespace CoreCheck.Document

/-! ## Documents without a key -/

/-- **A document without a key** of the object that a path leads to. -/
def Value.erase (key : String) : List Step → Value → Value
  | [], .object fields => .object (fields.filter fun e => e.1 ≠ key)
  | .key k :: path, .object fields =>
    match field? fields k with
    | some w => .object (setField fields k (w.erase key path))
    | none => .object fields
  | .index i :: path, .array items => .array (items.modify i (Value.erase key path))
  | _, v => v

theorem field?_cons (k' : String) (v : Value) (rest : List (String × Value)) (k : String) :
    field? ((k', v) :: rest) k = if k = k' then some v else field? rest k := by
  rw [field?, List.lookup_cons]
  by_cases hk : k = k'
  · simp [hk]
  · rw [beq_false_of_ne hk, if_neg hk]
    rfl

theorem field?_filter_ne (fields : List (String × Value)) (key k : String) :
    field? (fields.filter fun e => e.1 ≠ key) k = if k = key then none else field? fields k := by
  induction fields with
  | nil => simp [field?]
  | cons e rest ih =>
    by_cases hk : e.1 = key
    · rw [List.filter_cons_of_neg (by simpa using hk), ih, field?_cons, hk]
      split <;> rfl
    · rw [List.filter_cons_of_pos (by simpa using hk), field?_cons, field?_cons, ih]
      by_cases he : k = e.1
      · simp [he, hk]
      · simp [he]

theorem field?_setField (fields : List (String × Value)) (key k : String) (v : Value) :
    field? (setField fields key v) k = if k = key then some v else field? fields k := by
  induction fields with
  | nil => rw [setField, field?_cons]
  | cons e rest ih =>
    rw [setField]
    split
    · next he =>
      rw [field?_cons, field?_cons, he]
      split <;> rfl
    · next he =>
      rw [field?_cons, field?_cons, ih]
      by_cases hk : k = e.1
      · simp [hk, he]
      · simp [hk]

/-- A path that starts with a key leads into an object. -/
theorem Value.at?_key {v x : Value} {k : String} {path : List Step}
    (h : v.at? (.key k :: path) = some x) :
    ∃ o w, v = .object o ∧ field? o k = some w ∧ w.at? path = some x := by
  cases v with
  | object o =>
    obtain ⟨w, hw, hx⟩ := Option.bind_eq_some_iff.1 h
    exact ⟨o, w, rfl, hw, hx⟩
  | _ => exact nomatch h

/-- A path that starts with an index leads into a list. -/
theorem Value.at?_index {v x : Value} {i : Nat} {path : List Step}
    (h : v.at? (.index i :: path) = some x) :
    ∃ vs w, v = .array vs ∧ vs[i]? = some w ∧ w.at? path = some x := by
  cases v with
  | array vs =>
    obtain ⟨w, hw, hx⟩ := Option.bind_eq_some_iff.1 h
    exact ⟨vs, w, rfl, hw, hx⟩
  | _ => exact nomatch h

end CoreCheck.Document

namespace CoreCheck.Ir

open CoreCheck.Document (Value Step field? field?_filter_ne field?_setField)

/-! ## Documents that differ in null fields -/

/-- **Two documents that differ in null fields only**: in an object, a key whose value is null is as
good as one that is not there. -/
inductive UpToNull : Value → Value → Prop where
  | refl (v : Value) : UpToNull v v
  | array {vs ws : List Value} : vs.length = ws.length →
      (∀ (i : Nat) v w, vs[i]? = some v → ws[i]? = some w → UpToNull v w) →
      UpToNull (.array vs) (.array ws)
  | object {o o' : List (String × Value)} :
      (∀ key, (plainField? o key).isSome = (plainField? o' key).isSome) →
      (∀ key v w, plainField? o key = some v → plainField? o' key = some w → UpToNull v w) →
      UpToNull (.object o) (.object o')

namespace UpToNull

theorem isNull_eq {v w : Value} (h : UpToNull v w) : v.isNull = w.isNull := by
  rcases h with _ | _ | _ <;> rfl

/-- What stands under a key of two such objects. -/
theorem field {o o' : List (String × Value)} (h : UpToNull (.object o) (.object o'))
    (key : String) : (plainField? o key = none ∧ plainField? o' key = none) ∨
      ∃ v w, plainField? o key = some v ∧ plainField? o' key = some w ∧ UpToNull v w := by
  rcases hv : plainField? o key with _ | v <;> rcases hw : plainField? o' key with _ | w
  · exact .inl ⟨rfl, rfl⟩
  all_goals rcases h with _ | _ | ⟨hsome, hinner⟩
  · exact nomatch hv.symm.trans hw
  · simpa [hv, hw] using hsome key
  · exact nomatch hv.symm.trans hw
  · simpa [hv, hw] using hsome key
  · obtain rfl := Option.some.inj (hv.symm.trans hw)
    exact .inr ⟨v, v, rfl, rfl, .refl v⟩
  · exact .inr ⟨v, w, rfl, rfl, hinner key v w hv hw⟩

/-- The items of two such lists, one by one. -/
theorem items {vs ws : List Value} (h : UpToNull (.array vs) (.array ws)) :
    List.Forall₂ UpToNull vs ws := by
  rcases h with _ | ⟨hlength, hinner⟩
  · exact List.forall₂_same.2 fun v _ => .refl v
  · refine List.forall₂_iff_get.2 ⟨hlength, fun i hi hi' => hinner i _ _ ?_ ?_⟩ <;> simp

end UpToNull

/-- **Deleting a null key changes null fields only**, wherever it stands. -/
theorem upToNull_erase {key : String} {fields : List (String × Value)}
    (hnull : field? fields key = some .null) : ∀ (path : List Step) {v : Value},
      v.at? path = some (.object fields) → UpToNull v (v.erase key path)
  | [], v, hat => by
    obtain rfl := Option.some.inj hat
    have hsame : ∀ k, plainField? (fields.filter fun e => e.1 ≠ key) k = plainField? fields k := by
      intro k
      rw [plainField?, plainField?, field?_filter_ne]
      split
      · next hk => rw [hk, hnull]; rfl
      · rfl
    refine .object (fun k => by rw [hsame]) fun k v w hv hw => ?_
    obtain rfl := Option.some.inj (hv.symm.trans ((hsame k).symm.trans hw))
    exact .refl v
  | .key k :: path, v, hat => by
    obtain ⟨o, w, rfl, hw, hat⟩ := Value.at?_key hat
    have hinner := upToNull_erase hnull path hat
    have hsame : ∀ k', plainField? (Document.setField o k (w.erase key path)) k'
        = if k' = k then (some (w.erase key path)).filter (!·.isNull) else plainField? o k' := by
      intro k'
      rw [plainField?, plainField?, field?_setField]
      split <;> rfl
    have hold : plainField? o k = (some w).filter (!·.isNull) := by rw [plainField?, hw]
    rw [Value.erase, hw]
    refine .object (fun k' => ?_) fun k' x y hx hy => ?_
    · rw [hsame]
      split
      · next hk =>
        rw [hk, hold]
        simp only [Option.filter, hinner.isNull_eq]
        split <;> rfl
      · rfl
    · rw [hsame] at hy
      split at hy
      · next hk =>
        rw [hk, hold] at hx
        obtain rfl := Option.some.inj (Option.filter_eq_some_iff.1 hx).1
        obtain rfl := Option.some.inj (Option.filter_eq_some_iff.1 hy).1
        exact hinner
      · obtain rfl := Option.some.inj (hx.symm.trans hy)
        exact .refl x
  | .index i :: path, v, hat => by
    obtain ⟨vs, w, rfl, hw, hat⟩ := Value.at?_index hat
    have hinner := upToNull_erase hnull path hat
    rw [Value.erase]
    refine .array (by simp) fun j x y hx hy => ?_
    rw [List.getElem?_modify] at hy
    split at hy
    · next hj =>
      rw [← hj, hw] at hx hy
      obtain rfl := Option.some.inj hx
      obtain rfl := Option.some.inj hy
      exact hinner
    · obtain rfl := Option.some.inj (hx.symm.trans (by simpa using hy))
      exact .refl x

/-! ## Readers of one object -/

/-- **Fields that answer alike**: under each key the same reading, of values that differ in null
fields only. -/
def Fields.Agree (o o' : Fields) : Prop := ∀ key, (o.get? key = none ∧ o'.get? key = none) ∨
  ∃ v w r, o.get? key = some (v, r) ∧ o'.get? key = some (w, r) ∧ UpToNull v w

section Plain

variable {o o' : List (String × Value)} (h : UpToNull (.object o) (.object o')) (p : Place)

include h

theorem readCoord_eq (key : String) : readCoord o p key = readCoord o' p key := by
  rw [readCoord, readCoord]
  rcases h.field key with ⟨hx, hy⟩ | ⟨v, w, hx, hy, hvw⟩
  · rw [hx, hy]
  · rw [hx, hy]
    rcases hvw with _ | _ | _ <;> rfl

theorem readPosition_eq (key : String) : readPosition o p key = readPosition o' p key := by
  rw [readPosition, readPosition]
  rcases h.field key with ⟨hx, hy⟩ | ⟨v, w, hx, hy, hvw⟩
  · rw [hx, hy]
  · rw [hx, hy]
    rcases hvw with _ | _ | ⟨hsome, hinner⟩
    · rfl
    · rfl
    · have hobject := UpToNull.object hsome hinner
      simp only [plainFields?, readCoord_eq hobject]

end Plain

theorem textItems_eq (p : Place) {vs ws : List Value} (h : List.Forall₂ UpToNull vs ws) :
    ∀ i, Fields.textItems p i vs = Fields.textItems p i ws := by
  induction h with
  | nil => intro i; rfl
  | @cons v w vs ws hvw _ ih =>
    intro i
    rcases hvw with _ | _ | _
    · rcases v <;> simp only [Fields.textItems, ih]
    · rfl
    · rfl

namespace Fields.Agree

variable {α : Type} {o o' : Fields} (h : o.Agree o') (p : Place)

include h

theorem text_eq (key : String) : o.text p key = o'.text p key := by
  rw [Fields.text, Fields.text]
  rcases h key with ⟨hx, hy⟩ | ⟨v, w, r, hx, hy, hvw⟩
  · rw [hx, hy]
  · rw [hx, hy]
    rcases hvw with _ | _ | _ <;> rfl

theorem text?_eq (key : String) : o.text? p key = o'.text? p key := by
  rw [Fields.text?, Fields.text?]
  rcases h key with ⟨hx, hy⟩ | ⟨v, w, r, hx, hy, hvw⟩
  · rw [hx, hy]
  · rw [hx, hy]
    rcases hvw with _ | _ | _ <;> rfl

theorem name_eq (key : String) : o.name p key = o'.name p key := by
  rw [Fields.name, Fields.name, h.text_eq]

/-- The list under a key: its items are read alike, and differ in null fields only. -/
theorem list?_cases (key : String) :
    (o.list? p key = .ok none ∧ o'.list? p key = .ok none) ∨
    (∃ vs ws rs, o.list? p key = .ok (some (vs, rs)) ∧ o'.list? p key = .ok (some (ws, rs)) ∧
      List.Forall₂ UpToNull vs ws) ∨
    ∃ e, o.list? p key = .error e ∧ o'.list? p key = .error e := by
  rw [Fields.list?, Fields.list?]
  rcases h key with ⟨hx, hy⟩ | ⟨v, w, r, hx, hy, hvw⟩
  · rw [hx, hy]
    exact .inl ⟨rfl, rfl⟩
  · rw [hx, hy]
    rcases hvw with _ | ⟨hlength, hinner⟩ | _
    · cases v with
      | array vs =>
        exact .inr (.inl ⟨vs, vs, r.items, rfl, rfl, List.forall₂_same.2 fun v _ => .refl v⟩)
      | _ => exact .inr (.inr ⟨_, rfl, rfl⟩)
    · exact .inr (.inl ⟨_, _, r.items, rfl, rfl, (UpToNull.array hlength hinner).items⟩)
    · exact .inr (.inr ⟨_, rfl, rfl⟩)

theorem each_eq (key : String) (read : Reading → Read α) :
    o.each p key read = o'.each p key read := by
  rw [Fields.each, Fields.each]
  rcases h.list?_cases p key with ⟨hx, hy⟩ | ⟨vs, ws, rs, hx, hy, -⟩ | ⟨e, hx, hy⟩
  · rw [hx, hy]
  · rw [hx, hy]
    rfl
  · rw [hx, hy]

theorem eachRequired_eq (key : String) (read : Reading → Read α) :
    o.eachRequired p key read = o'.eachRequired p key read := by
  rw [Fields.eachRequired, Fields.eachRequired]
  rcases h.list?_cases p key with ⟨hx, hy⟩ | ⟨vs, ws, rs, hx, hy, -⟩ | ⟨e, hx, hy⟩
  · rw [hx, hy]
  · rw [hx, hy]
    rfl
  · rw [hx, hy]

theorem texts?_eq (key : String) : o.texts? p key = o'.texts? p key := by
  rw [Fields.texts?, Fields.texts?]
  rcases h.list?_cases p key with ⟨hx, hy⟩ | ⟨vs, ws, rs, hx, hy, hvw⟩ | ⟨e, hx, hy⟩
  · rw [hx, hy]
  · rw [hx, hy]
    simp only [bind, Except.bind, textItems_eq _ hvw]
  · rw [hx, hy]

theorem part_eq (key : String) (read : Reading → Read α) :
    o.part p key read = o'.part p key read := by
  rw [Fields.part, Fields.part]
  rcases h key with ⟨hx, hy⟩ | ⟨v, w, r, hx, hy, -⟩ <;> rw [hx, hy]

theorem part?_eq (key : String) (read : Reading → Read α) :
    o.part? p key read = o'.part? p key read := by
  rw [Fields.part?, Fields.part?]
  rcases h key with ⟨hx, hy⟩ | ⟨v, w, r, hx, hy, -⟩ <;> rw [hx, hy]

theorem span_eq : o.span p = o'.span p := by
  rw [Fields.span, Fields.span]
  rcases h "span" with ⟨hx, hy⟩ | ⟨v, w, r, hx, hy, hvw⟩
  · rw [hx, hy]
  · rw [hx, hy]
    rcases hvw with _ | _ | ⟨hsome, hinner⟩
    · rfl
    · rfl
    · have hobject := UpToNull.object hsome hinner
      simp only [plainFields?, readPosition_eq hobject]
      rcases hobject.field "file" with ⟨hf, hf'⟩ | ⟨f, f', hf, hf', hff⟩
      · rw [hf, hf']
      · rw [hf, hf']
        rcases hff with _ | _ | _ <;> rfl

theorem literal_eq (kind : String) : o.literal p kind = o'.literal p kind := by
  rw [Fields.literal, Fields.literal]
  rcases h "value" with ⟨hx, hy⟩ | ⟨v, w, r, hx, hy, hvw⟩
  · rw [hx, hy]
  · rw [hx, hy]
    rcases hvw with _ | _ | _ <;> rfl

theorem level_eq : o.level p = o'.level p := by
  rw [Fields.level, Fields.level]
  rcases h "level" with ⟨hx, hy⟩ | ⟨v, w, r, hx, hy, hvw⟩
  · rw [hx, hy]
  · rw [hx, hy]
    rcases hvw with _ | _ | _ <;> rfl

/-! ## Nodes -/

theorem type_eq : o.type p = o'.type p := by
  simp only [Fields.type, h.text_eq, h.span_eq, h.name_eq, h.part_eq, h.each_eq, h.part?_eq,
    h.level_eq, h.text?_eq]

theorem expr_eq : o.expr p = o'.expr p := by
  simp only [Fields.expr, Fields.effect?, Fields.capability?, h.text_eq, h.span_eq, h.literal_eq,
    h.name_eq, h.part_eq, h.each_eq, h.text?_eq]

theorem init_eq : o.init p = o'.init p := by
  simp only [Fields.init, h.span_eq, h.name_eq, h.part_eq]

theorem typedName_eq : o.typedName p = o'.typedName p := by
  simp only [Fields.typedName, h.span_eq, h.name_eq, h.part_eq]

theorem pattern_eq : o.pattern p = o'.pattern p := by
  simp only [Fields.pattern, h.text_eq, h.span_eq, h.literal_eq, h.name_eq, h.part_eq, h.each_eq]

theorem case_eq : o.case p = o'.case p := by
  simp only [Fields.case, h.span_eq, h.part_eq]

theorem stmt_eq : o.stmt p = o'.stmt p := by
  simp only [Fields.stmt, h.text_eq, h.span_eq, h.name_eq, h.part?_eq, h.part_eq,
    h.eachRequired_eq, h.texts?_eq]

theorem block_eq : o.block p = o'.block p := by
  simp only [Fields.block, h.eachRequired_eq]

theorem func_eq (s : Span) : o.func p s = o'.func p s := by
  simp only [Fields.func, Fields.declaredEffect, Fields.declaredCapabilities, h.name_eq,
    h.texts?_eq, h.each_eq, h.part?_eq, h.text?_eq, h.part_eq]

theorem decl_eq : o.decl p = o'.decl p := by
  simp only [Fields.decl, h.text_eq, h.span_eq, h.func_eq, h.name_eq, h.each_eq, h.texts?_eq,
    h.part_eq]

end Fields.Agree

/-! ## Documents -/

theorem agree_readFields {o o' : List (String × Value)} (h : UpToNull (.object o) (.object o'))
    (hreading : ∀ key v w, plainField? o key = some v → plainField? o' key = some w →
      reading v = reading w) : (readFields o).Agree (readFields o') := by
  intro key
  rw [Form.get?_readFields, Form.get?_readFields]
  rcases h.field key with ⟨hx, hy⟩ | ⟨v, w, hx, hy, hvw⟩
  · rw [hx, hy]
    exact .inl ⟨rfl, rfl⟩
  · rw [hx, hy]
    exact .inr ⟨v, w, reading w, congrArg (fun r => some (v, r)) (hreading key v w hx hy), rfl, hvw⟩

theorem ofObject_eq {o o' : Fields} (h : o.Agree o') :
    Reading.ofObject o = Reading.ofObject o' := by
  unfold Reading.ofObject
  congr 1 <;> ext p : 1
  · exact h.type_eq p
  · exact h.expr_eq p
  · exact h.pattern_eq p
  · exact h.stmt_eq p
  · exact h.block_eq p
  · exact h.typedName_eq p
  · exact h.init_eq p
  · exact h.case_eq p

theorem readValues_eq_map (vs : List Value) : readValues vs = vs.map reading := by
  induction vs with
  | nil => rfl
  | cons v vs ih => rw [readValues, ih, List.map_cons]

/-- **Documents that differ in null fields read the same**, in every position and with the same
refusals. -/
theorem reading_eq {v w : Value} (h : UpToNull v w) : reading v = reading w := by
  induction h with
  | refl v => rfl
  | @array vs ws hlength _ ih =>
    rw [reading, reading, readValues_eq_map, readValues_eq_map]
    refine congrArg Reading.ofArray (List.ext_getElem (by simpa using hlength) fun i hi hi' => ?_)
    rw [List.getElem_map, List.getElem_map]
    exact ih i _ _ (List.getElem?_eq_getElem _) (List.getElem?_eq_getElem _)
  | object hsome hinner ih =>
    rw [reading, reading]
    exact ofObject_eq (agree_readFields (.object hsome hinner) ih)

theorem UpToNull.agree {o o' : List (String × Value)} (h : UpToNull (.object o) (.object o')) :
    (readFields o).Agree (readFields o') :=
  agree_readFields h fun key v w hv hw => by
    rcases h.field key with ⟨hx, -⟩ | ⟨x, y, hx, hy, hxy⟩
    · exact nomatch hv.symm.trans hx
    · obtain rfl := Option.some.inj (hx.symm.trans hv)
      obtain rfl := Option.some.inj (hy.symm.trans hw)
      exact reading_eq hxy

/-! ## Modules -/

theorem readDecl_eq {v w : Value} (h : UpToNull v w) (p : Place) : readDecl v p = readDecl w p := by
  rcases h with _ | _ | ⟨hsome, hinner⟩
  · rfl
  · rfl
  · exact (UpToNull.object hsome hinner).agree.decl_eq p

theorem readDecls_eq (p : Place) {vs ws : List Value} (h : List.Forall₂ UpToNull vs ws) :
    ∀ i, readDecls p i vs = readDecls p i ws := by
  induction h with
  | nil => intro i; rfl
  | cons hvw _ ih =>
    intro i
    rw [readDecls, readDecls, readDecl_eq hvw, ih]

/-- The key under which a document has its declarations. -/
def declsKey (o : Fields) : String :=
  if !o.has "decls" && o.has "declarations" then "declarations" else "decls"

/-- **The module that a document holds, with its declarations under a given key.** -/
def Module.takenFrom (source key : String) : Value → Except ContractError Module
  | .object fields => do
    let o := readFields fields
    let p : Place := { source }
    checkVersion o p
    let name ← o.name p "name"
    match ← o.list? p key with
    | none => p.fail (.missing key)
    | some (items, _) =>
      let decls ← readDecls (p.key key) 0 items
      return ⟨supportedVersion, name, source, decls⟩
  | v => Place.fail { source } (.notObject v.kindName)

theorem ofDocument_object (source : String) (o : List (String × Value)) :
    Module.ofDocument source (.object o)
      = Module.takenFrom source (declsKey (readFields o)) (.object o) := rfl

theorem toOption_bind {α β : Type} (x : Except ContractError α) (f : α → Except ContractError β) :
    (x >>= f).toOption = x.toOption.bind fun a => (f a).toOption := by
  cases x <;> rfl

/-- Versions are accepted alike. The refusals may differ, since they show the value. -/
theorem toOption_checkVersion {o o' : Fields} (h : o.Agree o') (p : Place) :
    (checkVersion o p).toOption = (checkVersion o' p).toOption := by
  rw [checkVersion, checkVersion]
  rcases h "version" with ⟨hx, hy⟩ | ⟨v, w, r, hx, hy, hvw⟩
  · rw [hx, hy]
  · rw [hx, hy]
    rcases hvw with _ | _ | _ <;> rfl

/-- **The key given, null fields do not matter.** -/
theorem toOption_takenFrom (source key : String) {v w : Value} (h : UpToNull v w) :
    (Module.takenFrom source key v).toOption = (Module.takenFrom source key w).toOption := by
  rcases h with _ | _ | ⟨hsome, hinner⟩
  · rfl
  · rfl
  · have hagree := (UpToNull.object hsome hinner).agree
    simp only [Module.takenFrom, toOption_bind, toOption_checkVersion hagree, hagree.name_eq]
    congr 1
    ext _ : 1
    congr 1
    ext name : 1
    rcases hagree.list?_cases { source } key with ⟨hx, hy⟩ | ⟨vs, ws, rs, hx, hy, hvw⟩ | ⟨e, hx, hy⟩
    · rw [hx, hy]
    · rw [hx, hy]
      simp only [Except.toOption, Option.bind, readDecls_eq _ hvw]
    · rw [hx, hy]

/-- Without a list under the key there is no module. -/
theorem toOption_takenFrom_of_none {source key : String} {o : List (String × Value)}
    (h : plainField? o key = none) : (Module.takenFrom source key (.object o)).toOption = none := by
  have hlist : ∀ p, (readFields o).list? p key = .ok none := by
    intro p
    rw [Fields.list?, Form.get?_readFields, h]
    rfl
  simp only [Module.takenFrom, toOption_bind, hlist]
  rcases (checkVersion (readFields o) { source }).toOption with _ | _
  · rfl
  · rcases ((readFields o).name { source } "name").toOption with _ | _ <;> rfl

theorem declsKey_readFields (o : List (String × Value)) :
    declsKey (readFields o) = if !(field? o "decls").isSome && (field? o "declarations").isSome then
      "declarations" else "decls" := by
  rw [declsKey, Form.has_readFields, Form.has_readFields]

theorem plainField?_of_none {o : List (String × Value)} {key : String} (h : field? o key = none) :
    plainField? o key = none := by
  rw [plainField?, h]
  rfl

theorem plainField?_of_null {o : List (String × Value)} {key : String}
    (h : field? o key = some .null) : plainField? o key = none := by
  rw [plainField?, h]
  rfl

/-- Objects with the same keys have their declarations under the same key. -/
theorem toOption_ofDocument (source : String) {o o' : List (String × Value)}
    (h : UpToNull (.object o) (.object o'))
    (hkeys : ∀ k, (field? o k).isSome = (field? o' k).isSome) :
    (Module.ofDocument source (.object o)).toOption
      = (Module.ofDocument source (.object o')).toOption := by
  rw [ofDocument_object, ofDocument_object, declsKey_readFields, declsKey_readFields, hkeys, hkeys]
  exact toOption_takenFrom source _ h

/-! ## A null key of an inner object -/

theorem isSome_field?_setField {o : List (String × Value)} {k : String} {w : Value}
    (hw : field? o k = some w) (w' : Value) (k' : String) :
    (field? (Document.setField o k w') k').isSome = (field? o k').isSome := by
  rw [field?_setField]
  split
  · next hk => rw [hk, hw]; rfl
  · rfl

theorem toOption_erase_inner (source : String) {key : String} {fields : List (String × Value)}
    (hnull : field? fields key = some .null) {v : Value} {step : Step} {path : List Step}
    (hat : v.at? (step :: path) = some (.object fields)) :
    (Module.ofDocument source (v.erase key (step :: path))).toOption
      = (Module.ofDocument source v).toOption := by
  have hnulls := upToNull_erase hnull _ hat
  rcases step with k | i
  · obtain ⟨o, w, rfl, hw, -⟩ := Value.at?_key hat
    rw [Value.erase, hw] at hnulls ⊢
    exact (toOption_ofDocument source hnulls fun k' => (isSome_field?_setField hw _ k').symm).symm
  · obtain ⟨vs, w, rfl, -, -⟩ := Value.at?_index hat
    rfl

/-! ## A null key of the document itself -/

section Root

variable (source : String) {fields : List (String × Value)}

/-- Where `decls` is null, the document is refused. -/
theorem toOption_ofDocument_of_null (hnull : field? fields "decls" = some .null) :
    (Module.ofDocument source (.object fields)).toOption = none := by
  have hkey : declsKey (readFields fields) = "decls" := by
    rw [declsKey_readFields, hnull]
    rfl
  rw [ofDocument_object, hkey]
  exact toOption_takenFrom_of_none (plainField?_of_null hnull)

/-- Once a null `decls` is gone, the other key counts. -/
theorem toOption_erase_decls (hnull : field? fields "decls" = some .null) :
    (Module.ofDocument source ((Value.object fields).erase "decls" [])).toOption
      = (Module.takenFrom source "declarations" (.object fields)).toOption := by
  have hnulls : UpToNull (.object fields) ((Value.object fields).erase "decls" []) :=
    upToNull_erase hnull [] rfl
  have hgone : field? (fields.filter fun e => e.1 ≠ "decls") "decls" = none := by
    rw [field?_filter_ne, if_pos rfl]
  have hkept : field? (fields.filter fun e => e.1 ≠ "decls") "declarations"
      = field? fields "declarations" := by
    rw [field?_filter_ne, if_neg (by decide)]
  rw [Value.erase] at hnulls ⊢
  rw [ofDocument_object, declsKey_readFields, hgone, hkept]
  rcases hd : field? fields "declarations" with _ | d
  · rw [toOption_takenFrom_of_none (plainField?_of_none hd)]
    exact toOption_takenFrom_of_none (plainField?_of_none hgone)
  · exact (toOption_takenFrom source _ hnulls).symm

/-- A null key other than `decls` may go. -/
theorem toOption_erase_root {key : String} (hkey : key ≠ "decls")
    (hnull : field? fields key = some .null) :
    (Module.ofDocument source ((Value.object fields).erase key [])).toOption
      = (Module.ofDocument source (.object fields)).toOption := by
  have hnulls : UpToNull (.object fields) ((Value.object fields).erase key []) :=
    upToNull_erase hnull [] rfl
  have hdecls : field? (fields.filter fun e => e.1 ≠ key) "decls" = field? fields "decls" := by
    rw [field?_filter_ne, if_neg (Ne.symm hkey)]
  rw [Value.erase] at hnulls ⊢
  rw [ofDocument_object, ofDocument_object, declsKey_readFields, declsKey_readFields, hdecls]
  by_cases hother : key = "declarations"
  · subst hother
    rcases hd : field? fields "decls" with _ | d
    · -- neither key holds a list, with the null or without it
      rw [field?_filter_ne, if_pos rfl, hnull]
      exact (toOption_takenFrom_of_none (plainField?_of_none (hdecls.trans hd))).trans
        (toOption_takenFrom_of_none (plainField?_of_null hnull)).symm
    · exact (toOption_takenFrom source _ hnulls).symm
  · rw [field?_filter_ne, if_neg (Ne.symm hother)]
    exact (toOption_takenFrom source _ hnulls).symm

end Root

/-- **Declarations behind a null**: the key is the `decls` of the document itself, and the document
is a module by its other list of declarations. -/
def HidesDeclarations (source : String) (v : Value) (path : List Step) (key : String) : Prop :=
  path = [] ∧ key = "decls" ∧ ∃ m, Module.takenFrom source "declarations" v = .ok m

/-- **A null key may be deleted anywhere in a document**: the module that is read stays the same,
and a document that is refused stays refused, exactly unless the null hides the declarations. -/
theorem same_module_without_null_iff (source : String) {v : Value} {path : List Step}
    {fields : List (String × Value)} {key : String} (hat : v.at? path = some (.object fields))
    (hnull : field? fields key = some .null) :
    (Module.ofDocument source (v.erase key path)).toOption
        = (Module.ofDocument source v).toOption ↔ ¬ HidesDeclarations source v path key := by
  rcases path with _ | ⟨step, path⟩
  · obtain rfl := Option.some.inj hat
    by_cases hkey : key = "decls"
    · subst hkey
      rw [toOption_erase_decls source hnull, toOption_ofDocument_of_null source hnull]
      rcases hm : Module.takenFrom source "declarations" (.object fields) with e | m
      · simp [HidesDeclarations, hm, Except.toOption]
      · simp [HidesDeclarations, hm, Except.toOption]
    · simp [HidesDeclarations, hkey, toOption_erase_root source hkey hnull]
  · simp [HidesDeclarations, toOption_erase_inner source hnull hat]

/-- A function whose result is given as null. -/
def givesNothing : Value :=
  .object [("name", .text "m"), ("decls", .array [.object [
    ("kind", .text "func"), ("name", .text "f"), ("ret", .null), ("body", .array [])]])]

/-- **The null result of a function may be left out.** -/
theorem same_module_givesNothing :
    givesNothing.erase "ret" [.key "decls", .index 0] =
        .object [("name", .text "m"), ("decls", .array [.object [
          ("kind", .text "func"), ("name", .text "f"), ("body", .array [])]])] ∧
      (Module.ofDocument "" givesNothing).toOption.isSome = true ∧
      (Module.ofDocument "" (givesNothing.erase "ret" [.key "decls", .index 0])).toOption
        = (Module.ofDocument "" givesNothing).toOption := by
  have hat : givesNothing.at? [.key "decls", .index 0] = some (.object [("kind", .text "func"),
      ("name", .text "f"), ("ret", .null), ("body", .array [])]) := rfl
  refine ⟨rfl, rfl, (same_module_without_null_iff "" hat rfl).2 ?_⟩
  rintro ⟨hpath, -⟩
  exact nomatch hpath

/-- A document with a null list of declarations before the real one. -/
def hidesNothing : Value :=
  .object [("name", .text "m"), ("decls", .null), ("declarations", .array [])]

/-- **A null `decls` hides the declarations**: with it the document is refused, without it there is
a module. -/
theorem not_same_module_hidesNothing :
    Module.ofDocument "" hidesNothing = .error ⟨"", [], .missing "decls"⟩ ∧
      Module.ofDocument "" (hidesNothing.erase "decls" []) = .ok ⟨1, "m", "", []⟩ :=
  ⟨rfl, rfl⟩

end CoreCheck.Ir

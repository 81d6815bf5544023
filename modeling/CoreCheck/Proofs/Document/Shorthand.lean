import CoreCheck.Proofs.Document.Refusal
import CoreCheck.Proofs.Document.Roles

/-!
# Proofs/Document/Shorthand — short and long forms

A type may be written as a bare name and a block as a bare list.  `Role.Same` says that two values are
taken alike in a role: both are read as the same or both are refused.  The readers of a node only ask
for its parts, so parts that are taken alike may be exchanged (`same_replace`), and a short form may be
written long anywhere in a document, unless the name of a type is blank without being empty: the short
form is read then and the long one is refused (`same_module_written_long_iff`).
-/

namespace CoreCheck.Ir

open CoreCheck.Document (Value Step field? setField field?_setField)

/-! ## Values that are taken alike -/

/-- **Two values are taken alike in a role.** -/
def Role.Same : Role → Value → Value → Prop
  | .module, v, w => ∀ source,
    (Module.ofDocument source v).toOption = (Module.ofDocument source w).toOption
  | .decl, v, w => ∀ p, (readDecl v p).toOption = (readDecl w p).toOption
  | .typedName, v, w => ∀ p, ((reading v).typedName p).toOption = ((reading w).typedName p).toOption
  | .type, v, w => ∀ p, ((reading v).type p).toOption = ((reading w).type p).toOption
  | .stmt, v, w => ∀ p, ((reading v).stmt p).toOption = ((reading w).stmt p).toOption
  | .case, v, w => ∀ p, ((reading v).case p).toOption = ((reading w).case p).toOption
  | .block, v, w => ∀ p, ((reading v).block p).toOption = ((reading w).block p).toOption
  | .list r, v, w => v = w ∨ ∃ vs ws, v = .array vs ∧ w = .array ws ∧ List.Forall₂ r.Same vs ws

theorem Role.Same.refl (r : Role) (v : Value) : r.Same v v := by
  cases r with
  | list => exact .inl rfl
  | _ => exact fun _ => rfl

theorem toOption_bind_congr {α β : Type} {x y : Except ContractError α}
    {f g : α → Except ContractError β} (hx : x.toOption = y.toOption)
    (hf : ∀ a, x = .ok a → (f a).toOption = (g a).toOption) :
    (x >>= f).toOption = (y >>= g).toOption := by
  rw [toOption_bind, toOption_bind, ← hx]
  cases x with
  | error e => rfl
  | ok a => exact hf a rfl

/-- **Two objects whose parts are taken alike** in a role. All else is the same in both. -/
structure PartsSame (r : Role) (o o' : List (String × Value)) : Prop where
  keys : ∀ key, (field? o key).isSome = (field? o' key).isSome
  parts : ∀ key, plainField? o key = plainField? o' key ∨
    ∃ t v w, (key, t) ∈ r.partsOf o ∧ plainField? o key = some v ∧ plainField? o' key = some w ∧
      t.Same v w

/-- Another value for one part. -/
theorem partsSame_setField {r t : Role} {o : List (String × Value)} {key : String} {w w' : Value}
    (hkey : (key, t) ∈ r.partsOf o) (hw : plainField? o key = some w) (hw' : w'.isNull = false)
    (h : t.Same w w') : PartsSame r o (setField o key w') where
  keys k := (isSome_field?_setField (field?_of_plainField? hw).1 w' k).symm
  parts k := by
    by_cases hk : k = key
    · subst hk
      exact .inr ⟨t, w, w', hkey, hw, plainField?_setField_self o k hw', h⟩
    · exact .inl (by rw [plainField?, plainField?, field?_setField, if_neg hk])

namespace PartsSame

variable {r : Role} {o o' : List (String × Value)} (h : PartsSame r o o') (p : Place)

include h

/-! ## Fields of one object -/

theorem get?_eq {key : String} (hkey : key ∉ roleKeys) :
    (readFields o).get? key = (readFields o').get? key := by
  rw [Form.get?_readFields, Form.get?_readFields]
  obtain heq | ⟨t, v, w, hpart, -⟩ := h.parts key
  · rw [heq]
  · exact absurd (mem_roleKeys hpart) hkey

theorem text_eq {key : String} (hkey : key ∉ roleKeys) :
    (readFields o).text p key = (readFields o').text p key := by
  rw [Fields.text, Fields.text, h.get?_eq hkey]

theorem text?_eq {key : String} (hkey : key ∉ roleKeys) :
    (readFields o).text? p key = (readFields o').text? p key := by
  rw [Fields.text?, Fields.text?, h.get?_eq hkey]

theorem name_eq {key : String} (hkey : key ∉ roleKeys) :
    (readFields o).name p key = (readFields o').name p key := by
  rw [Fields.name, Fields.name, h.text_eq p hkey]

theorem texts?_eq {key : String} (hkey : key ∉ roleKeys) :
    (readFields o).texts? p key = (readFields o').texts? p key := by
  rw [Fields.texts?, Fields.texts?, Fields.list?, Fields.list?, h.get?_eq hkey]

theorem part_eq {α : Type} (read : Reading → Read α) {key : String} (hkey : key ∉ roleKeys) :
    (readFields o).part p key read = (readFields o').part p key read := by
  rw [Fields.part, Fields.part, h.get?_eq hkey]

theorem part?_eq {α : Type} (read : Reading → Read α) {key : String} (hkey : key ∉ roleKeys) :
    (readFields o).part? p key read = (readFields o').part? p key read := by
  rw [Fields.part?, Fields.part?, h.get?_eq hkey]

theorem span_eq : (readFields o).span p = (readFields o').span p := by
  rw [Fields.span, Fields.span, h.get?_eq (by decide)]

theorem level_eq : (readFields o).level p = (readFields o').level p := by
  rw [Fields.level, Fields.level, h.get?_eq (by decide)]

theorem declaredEffect_eq :
    (readFields o).declaredEffect p = (readFields o').declaredEffect p := by
  rw [Fields.declaredEffect, Fields.declaredEffect, h.texts?_eq p (by decide),
    h.text?_eq p (by decide)]

theorem declaredCapabilities_eq :
    (readFields o).declaredCapabilities p = (readFields o').declaredCapabilities p := by
  rw [Fields.declaredCapabilities, Fields.declaredCapabilities, h.texts?_eq p (by decide)]

theorem checkVersion_eq : checkVersion (readFields o) p = checkVersion (readFields o') p := by
  rw [checkVersion, checkVersion, h.get?_eq (by decide)]

section Parts

variable {α : Type} {read : Reading → Read α} {key : String} {t : Role}
  (hrole : ∀ u, (key, u) ∈ r.partsOf o → u = t)

include hrole

/-- What stands under a key of both objects is taken alike in the role of the key. -/
theorem part_cases : plainField? o key = plainField? o' key ∨
    ∃ v w, plainField? o key = some v ∧ plainField? o' key = some w ∧ t.Same v w := by
  obtain heq | ⟨u, v, w, hpart, hv, hw, hsame⟩ := h.parts key
  · exact .inl heq
  · exact .inr ⟨v, w, hv, hw, hrole u hpart ▸ hsame⟩

theorem part_same (hread : ∀ v w, t.Same v w → ∀ q,
      (read (reading v) q).toOption = (read (reading w) q).toOption) :
    ((readFields o).part p key read).toOption = ((readFields o').part p key read).toOption := by
  rw [Fields.part, Fields.part, Form.get?_readFields, Form.get?_readFields]
  obtain heq | ⟨v, w, hv, hw, hsame⟩ := h.part_cases hrole
  · rw [heq]
  · rw [hv, hw]
    exact hread v w hsame _

theorem part?_same (hread : ∀ v w, t.Same v w → ∀ q,
      (read (reading v) q).toOption = (read (reading w) q).toOption) :
    ((readFields o).part? p key read).toOption = ((readFields o').part? p key read).toOption := by
  rw [Fields.part?, Fields.part?, Form.get?_readFields, Form.get?_readFields]
  obtain heq | ⟨v, w, hv, hw, hsame⟩ := h.part_cases hrole
  · rw [heq]
  · rw [hv, hw]
    exact toOption_bind_congr (hread v w hsame _) fun _ _ => rfl

end Parts

end PartsSame

/-- **Items that are taken alike** are read alike, one by one. -/
theorem readItems_same {α : Type} {read : Reading → Read α} {t : Role} (p : Place)
    (hread : ∀ v w, t.Same v w → ∀ q,
      (read (reading v) q).toOption = (read (reading w) q).toOption) {vs ws : List Value}
    (h : List.Forall₂ t.Same vs ws) : ∀ i, (Fields.readItems read p i (readValues vs)).toOption =
      (Fields.readItems read p i (readValues ws)).toOption := by
  induction h with
  | nil => exact fun _ => rfl
  | cons hvw _ ih =>
    intro i
    exact toOption_bind_congr (hread _ _ hvw _) fun _ _ =>
      toOption_bind_congr (ih (i + 1)) fun _ _ => rfl

theorem readDecls_same (p : Place) {vs ws : List Value} (h : List.Forall₂ Role.decl.Same vs ws) :
    ∀ i, (readDecls p i vs).toOption = (readDecls p i ws).toOption := by
  induction h with
  | nil => exact fun _ => rfl
  | cons hvw _ ih =>
    intro i
    exact toOption_bind_congr (hvw _) fun _ _ => toOption_bind_congr (ih (i + 1)) fun _ _ => rfl

namespace PartsSame

variable {r : Role} {o o' : List (String × Value)} (h : PartsSame r o o') (p : Place)

include h

section Lists

variable {α : Type} {read : Reading → Read α} {key : String} {t : Role}
  (hrole : ∀ u, (key, u) ∈ r.partsOf o → u = .list t)
  (hread : ∀ v w, t.Same v w → ∀ q,
    (read (reading v) q).toOption = (read (reading w) q).toOption)

include hrole

/-- The lists under a key: the same, or item by item taken alike. -/
theorem list?_cases : (readFields o).list? p key = (readFields o').list? p key ∨
    ∃ vs ws, (readFields o).list? p key = .ok (some (vs, readValues vs)) ∧
      (readFields o').list? p key = .ok (some (ws, readValues ws)) ∧
      List.Forall₂ t.Same vs ws := by
  rw [Fields.list?, Fields.list?, Form.get?_readFields, Form.get?_readFields]
  obtain heq | ⟨v, w, hv, hw, hsame⟩ := h.part_cases hrole
  · exact .inl (by rw [heq])
  · obtain rfl | ⟨vs, ws, rfl, rfl, hitems⟩ := hsame
    · exact .inl (by rw [hv, hw])
    · refine .inr ⟨vs, ws, ?_, ?_, hitems⟩
      · rw [hv, Option.map_some, reading]
        rfl
      · rw [hw, Option.map_some, reading]
        rfl

include hread

theorem each_same : ((readFields o).each p key read).toOption =
    ((readFields o').each p key read).toOption := by
  rw [Fields.each, Fields.each]
  obtain heq | ⟨vs, ws, hv, hw, hitems⟩ := h.list?_cases p hrole
  · rw [heq]
  · rw [hv, hw]
    exact readItems_same _ hread hitems 0

theorem eachRequired_same : ((readFields o).eachRequired p key read).toOption =
    ((readFields o').eachRequired p key read).toOption := by
  rw [Fields.eachRequired, Fields.eachRequired]
  obtain heq | ⟨vs, ws, hv, hw, hitems⟩ := h.list?_cases p hrole
  · rw [heq]
  · rw [hv, hw]
    exact readItems_same _ hread hitems 0

end Lists

end PartsSame

/-! ## Nodes -/

section Nodes

variable {o o' : List (String × Value)} (p : Place)

theorem type_same (h : PartsSame .type o o') :
    ((readFields o).type p).toOption = ((readFields o').type p).toOption := by
  unfold Fields.type
  rw [← h.text_eq p (by decide), ← h.span_eq, ← h.name_eq p (by decide), ← h.text?_eq p (by decide),
    ← h.level_eq]
  refine toOption_bind_congr rfl fun kind hkind => toOption_bind_congr rfl fun s _ => ?_
  have hparts := partsOf_type (Form.gives_text _ _ _ hkind)
  have htype : ∀ {key}, (∀ u, (key, u) ∈ Role.type.parts kind → u = .type) →
      ((readFields o).part p key (·.type)).toOption =
        ((readFields o').part p key (·.type)).toOption :=
    fun hrole => h.part_same (t := .type) p (fun u hu => hrole u (hparts ▸ hu)) fun _ _ hvw => hvw
  split
  · rfl
  · rfl
  · exact toOption_bind_congr (htype (by simp [Role.parts])) fun _ _ => rfl
  · exact toOption_bind_congr (htype (by simp [Role.parts])) fun _ _ => rfl
  · exact toOption_bind_congr (htype (by simp [Role.parts])) fun _ _ =>
      toOption_bind_congr (htype (by simp [Role.parts])) fun _ _ => rfl
  · exact toOption_bind_congr (htype (by simp [Role.parts])) fun _ _ =>
      toOption_bind_congr (htype (by simp [Role.parts])) fun _ _ => rfl
  · have hparams : ∀ u, ("params", u) ∈ Role.type.partsOf o → u = .list .type := by
      simp [hparts, Role.parts]
    have hret : ∀ u, ("ret", u) ∈ Role.type.partsOf o → u = .type := by simp [hparts, Role.parts]
    exact toOption_bind_congr (h.each_same p hparams fun _ _ hvw => hvw) fun _ _ =>
      toOption_bind_congr (h.part?_same p hret fun _ _ hvw => hvw) fun _ _ => rfl
  · exact toOption_bind_congr (htype (by simp [Role.parts])) fun _ _ => rfl
  · rfl

theorem typedName_same (h : PartsSame .typedName o o') :
    ((readFields o).typedName p).toOption = ((readFields o').typedName p).toOption := by
  have htype : ∀ u, ("type", u) ∈ Role.typedName.partsOf o → u = .type := by simp [Role.partsOf]
  unfold Fields.typedName
  rw [← h.span_eq, ← h.name_eq p (by decide)]
  exact toOption_bind_congr rfl fun _ _ => toOption_bind_congr rfl fun _ _ =>
    toOption_bind_congr (h.part_same p htype fun _ _ hvw => hvw) fun _ _ => rfl

theorem case_same (h : PartsSame .case o o') :
    ((readFields o).case p).toOption = ((readFields o').case p).toOption := by
  have hbody : ∀ u, ("body", u) ∈ Role.case.partsOf o → u = .block := by simp [Role.partsOf]
  unfold Fields.case
  rw [← h.span_eq, ← h.part_eq p _ (by decide)]
  exact toOption_bind_congr rfl fun _ _ => toOption_bind_congr rfl fun _ _ =>
    toOption_bind_congr (h.part_same p hbody fun _ _ hvw => hvw) fun _ _ => rfl

theorem block_same (h : PartsSame .block o o') :
    ((readFields o).block p).toOption = ((readFields o').block p).toOption := by
  have hstmts : ∀ u, ("statements", u) ∈ Role.block.partsOf o → u = .list .stmt := by
    simp [Role.partsOf]
  exact h.eachRequired_same p hstmts fun _ _ hvw => hvw

theorem stmt_same (h : PartsSame .stmt o o') :
    ((readFields o).stmt p).toOption = ((readFields o').stmt p).toOption := by
  unfold Fields.stmt
  rw [← h.text_eq p (by decide), ← h.span_eq, ← h.name_eq p (by decide),
    ← h.part_eq p _ (by decide : "expr" ∉ roleKeys), ← h.part?_eq p _ (by decide : "expr" ∉ roleKeys),
    ← h.part_eq p _ (by decide : "cond" ∉ roleKeys), ← h.texts?_eq p (by decide)]
  refine toOption_bind_congr rfl fun kind hkind => toOption_bind_congr rfl fun s _ => ?_
  have hparts := partsOf_stmt (Form.gives_text _ _ _ hkind)
  have hblock : ∀ {key}, (∀ u, (key, u) ∈ Role.stmt.parts kind → u = .block) →
      ((readFields o).part p key (·.block)).toOption =
        ((readFields o').part p key (·.block)).toOption :=
    fun hrole => h.part_same (t := .block) p (fun u hu => hrole u (hparts ▸ hu)) fun _ _ hvw => hvw
  split
  · have htype : ∀ u, ("type", u) ∈ Role.stmt.partsOf o → u = .type := by simp [hparts, Role.parts]
    exact toOption_bind_congr rfl fun _ _ =>
      toOption_bind_congr (h.part?_same p htype fun _ _ hvw => hvw) fun _ _ => rfl
  · rfl
  · rfl
  · rfl
  · have helse : ∀ u, ("else", u) ∈ Role.stmt.partsOf o → u = .block := by
      simp [hparts, Role.parts]
    exact toOption_bind_congr rfl fun _ _ =>
      toOption_bind_congr (hblock (by simp [Role.parts])) fun _ _ =>
        toOption_bind_congr (h.part?_same p helse fun _ _ hvw => hvw) fun _ _ => rfl
  · have hcases : ∀ u, ("cases", u) ∈ Role.stmt.partsOf o → u = .list .case := by
      simp [hparts, Role.parts]
    exact toOption_bind_congr rfl fun _ _ =>
      toOption_bind_congr (h.eachRequired_same p hcases fun _ _ hvw => hvw) fun _ _ => rfl
  · exact toOption_bind_congr (hblock (by simp [Role.parts])) fun _ _ => rfl
  · exact toOption_bind_congr (hblock (by simp [Role.parts])) fun _ _ => rfl
  · rfl
  · rfl
  · rfl

theorem func_same (h : PartsSame .decl o o') (s : Span)
    (hparts : Role.decl.partsOf o =
      [("params", .list .typedName), ("ret", .type), ("body", .block)]) :
    ((readFields o).func p s).toOption = ((readFields o').func p s).toOption := by
  have hparams : ∀ u, ("params", u) ∈ Role.decl.partsOf o → u = .list .typedName := by simp [hparts]
  have hret : ∀ u, ("ret", u) ∈ Role.decl.partsOf o → u = .type := by simp [hparts]
  have hbody : ∀ u, ("body", u) ∈ Role.decl.partsOf o → u = .block := by simp [hparts]
  unfold Fields.func
  rw [← h.name_eq p (by decide), ← h.texts?_eq p (by decide), ← h.declaredEffect_eq,
    ← h.declaredCapabilities_eq]
  exact toOption_bind_congr rfl fun _ _ => toOption_bind_congr rfl fun _ _ =>
    toOption_bind_congr (h.each_same p hparams fun _ _ hvw => hvw) fun _ _ =>
      toOption_bind_congr (h.part?_same p hret fun _ _ hvw => hvw) fun _ _ =>
        toOption_bind_congr rfl fun _ _ => toOption_bind_congr rfl fun _ _ =>
          toOption_bind_congr (h.part_same p hbody fun _ _ hvw => hvw) fun _ _ => rfl

theorem decl_same (h : PartsSame .decl o o') :
    ((readFields o).decl p).toOption = ((readFields o').decl p).toOption := by
  unfold Fields.decl
  rw [← h.text_eq p (by decide), ← h.span_eq, ← h.name_eq p (by decide), ← h.texts?_eq p (by decide)]
  refine toOption_bind_congr rfl fun kind hkind => toOption_bind_congr rfl fun s _ => ?_
  have hparts := partsOf_decl (Form.gives_text _ _ _ hkind)
  have htype : (∀ u, ("type", u) ∈ Role.decl.parts kind → u = .type) →
      ((readFields o).part p "type" (·.type)).toOption =
        ((readFields o').part p "type" (·.type)).toOption :=
    fun hrole => h.part_same (t := .type) p (fun u hu => hrole u (hparts ▸ hu)) fun _ _ hvw => hvw
  split
  · exact toOption_bind_congr (func_same p h s hparts) fun _ _ => rfl
  · exact toOption_bind_congr (func_same p h s hparts) fun _ _ => rfl
  · exact toOption_bind_congr (func_same p h s hparts) fun _ _ => rfl
  · have hfields : ∀ u, ("fields", u) ∈ Role.decl.partsOf o → u = .list .typedName := by
      simp [hparts, Role.parts]
    exact toOption_bind_congr rfl fun _ _ =>
      toOption_bind_congr (h.each_same p hfields fun _ _ hvw => hvw) fun _ _ => rfl
  · rfl
  · exact toOption_bind_congr rfl fun _ _ =>
      toOption_bind_congr (htype (by simp [Role.parts])) fun _ _ => rfl
  · exact toOption_bind_congr rfl fun _ _ =>
      toOption_bind_congr (htype (by simp [Role.parts])) fun _ _ => rfl
  · rfl
  · rfl

end Nodes

theorem module_same (source : String) {o o' : List (String × Value)} (h : PartsSame .module o o') :
    (Module.ofDocument source (.object o)).toOption =
      (Module.ofDocument source (.object o')).toOption := by
  have hdecls : ∀ u, (declsKey (readFields o), u) ∈ Role.module.partsOf o → u = .list .decl := by
    simp [Role.partsOf]
  have hkeys : declsKey (readFields o') = declsKey (readFields o) := by
    rw [declsKey_readFields, declsKey_readFields, h.keys, h.keys]
  rw [ofDocument_object, ofDocument_object, hkeys]
  simp only [Module.takenFrom]
  rw [← h.checkVersion_eq, ← h.name_eq _ (by decide)]
  refine toOption_bind_congr rfl fun _ _ => toOption_bind_congr rfl fun name _ => ?_
  obtain heq | ⟨vs, ws, hv, hw, hitems⟩ := h.list?_cases { source } hdecls
  · rw [heq]
  · rw [hv, hw]
    exact toOption_bind_congr (x := readDecls _ 0 vs) (readDecls_same _ hitems 0) fun _ _ => rfl

/-! ## Documents -/

/-- **Objects whose parts are taken alike are taken alike themselves.** -/
theorem same_of_parts {r : Role} {o o' : List (String × Value)} (h : PartsSame r o o')
    (hr : ∀ t, r ≠ .list t) : r.Same (.object o) (.object o') := by
  cases r with
  | module => exact fun source => module_same source h
  | decl => exact fun p => decl_same p h
  | typedName => exact fun p => by rw [reading, reading]; exact typedName_same p h
  | type => exact fun p => by rw [reading, reading]; exact type_same p h
  | stmt => exact fun p => by rw [reading, reading]; exact stmt_same p h
  | case => exact fun p => by rw [reading, reading]; exact case_same p h
  | block => exact fun p => by rw [reading, reading]; exact block_same p h
  | list t => exact absurd rfl (hr t)

/-- One item of a list is exchanged for one that is taken alike. -/
theorem same_modify {r : Role} {w w' : Value} (h : r.Same w w') : ∀ {vs : List Value} {i : Nat},
    vs[i]? = some w → ∀ {f : Value → Value}, f w = w' → List.Forall₂ r.Same vs (vs.modify i f)
  | v :: vs, 0, hi, f, hf => by
    obtain rfl : v = w := Option.some.inj hi
    subst hf
    exact .cons h (List.forall₂_same.2 fun v _ => .refl r v)
  | v :: vs, i + 1, hi, f, hf => by
    rw [List.getElem?_cons_succ] at hi
    rw [List.modify_succ_cons]
    exact .cons (.refl r v) (same_modify h hi hf)
  | [], _, hi, _, _ => nomatch hi

/-- **What is taken alike in its role may be exchanged** anywhere in a document. -/
theorem same_replace {r u : Role} {v x new : Value} {path : List Step} (h : Stands r v path u x)
    (hnew : new.isNull = false) (hsame : u.Same x new) : r.Same v (v.replace path new) := by
  induction h with
  | here => rwa [Value.replace]
  | @part r o key t w path u x hkey hw hinner ih =>
    rw [replace_key hw]
    refine same_of_parts (partsSame_setField hkey hw (isNull_replace hinner hnew) (ih hsame)) ?_
    rintro t rfl
    exact absurd hkey List.not_mem_nil
  | item hi _ ih =>
    rw [replace_index]
    exact .inr ⟨_, _, rfl, rfl, same_modify (ih hsame) hi rfl⟩
  | @stmt vs i w path u x hi _ ih =>
    have hread : ∀ v w, Role.stmt.Same v w → ∀ q,
        ((reading v).stmt q).toOption = ((reading w).stmt q).toOption := fun _ _ hvw => hvw
    rw [replace_index]
    intro p
    rw [reading, reading]
    exact readItems_same p hread (same_modify (ih hsame) hi rfl) 0

/-! ## Short and long forms -/

/-- **A short form with its long form**: a type by its bare name, a block by its bare list. -/
inductive Shorthand : Role → Value → Value → Prop where
  | type (s : String) :
    Shorthand .type (.text s) (.object [("kind", .text "name"), ("name", .text s)])
  | block (vs : List Value) : Shorthand .block (.array vs) (.object [("statements", .array vs)])

/-- A name of blanks only that is not empty. -/
def BlankName (v : Value) : Prop := ∃ s, v = .text s ∧ s ≠ "" ∧ Text.isBlankText s = true

theorem isNull_long {r : Role} {x w : Value} (h : Shorthand r x w) : w.isNull = false := by
  cases h <;> rfl

theorem type_short (s : String) (p : Place) :
    (reading (.text s)).type p = if s = "" then p.fail .emptyTypeName else .ok (.name {} s) := by
  rw [reading]
  rfl

theorem type_long (s : String) (p : Place) :
    (reading (.object [("kind", .text "name"), ("name", .text s)])).type p =
      if Text.isBlankText s then p.fail (.blankName "name") else .ok (.name {} s) := by
  have hread : (reading (.object [("kind", .text "name"), ("name", .text s)])).type p =
      (if Text.isBlankText s then p.fail (.blankName "name") else .ok s) >>=
        fun n => .ok (.name {} n) := by
    rw [reading, readFields, readFields, readFields]
    rfl
  rw [hread]
  split <;> rfl

theorem block_short (vs : List Value) (p : Place) :
    (reading (.array vs)).block p = Fields.readItems (·.stmt) p 0 (readValues vs) := by
  rw [reading]
  rfl

theorem block_long (vs : List Value) (p : Place) :
    (reading (.object [("statements", .array vs)])).block p =
      Fields.readItems (·.stmt) (p.key "statements") 0 (readValues vs) := by
  rw [reading, readFields, readFields, reading]
  rfl

/-- **Both forms are taken alike**, unless the name is blank. -/
theorem same_long {r : Role} {x w : Value} (h : Shorthand r x w) (hx : ¬ BlankName x) :
    r.Same x w := by
  cases h with
  | type s =>
    intro p
    rw [type_short, type_long]
    by_cases hs : s = ""
    · rw [if_pos hs, if_pos (by rw [hs]; rfl)]
      rfl
    · have hblank : ¬ Text.isBlankText s = true := fun hb => hx ⟨s, rfl, hs, hb⟩
      rw [if_neg hs, if_neg hblank]
  | block vs =>
    intro p
    -- the items stand at other places in the long form, which only shows in refusals
    have hpoints := (pinpoints (.array vs)).block p.source p.path (p.key "statements").path
    rw [block_short, block_short] at hpoints
    rw [block_short, block_long]
    exact hpoints.toOption_eq

/-- No type is written long by a blank name. -/
theorem not_formed_long {s : String} (hs : Text.isBlankText s = true) :
    ¬ Role.type.Formed (.object [("kind", .text "name"), ("name", .text s)]) := by
  have hname : ∀ {n}, ¬ Form.Part Form.IsName [("kind", .text "name"), ("name", .text s)] "name" n := by
    rintro n ⟨hkey, rfl, hblank⟩
    obtain rfl : s = n := Value.text.inj (Option.some.inj hkey)
    exact nomatch hs.symm.trans hblank
  have hkind : ∀ {kind span},
      Form.IsNode [("kind", .text "name"), ("name", .text s)] kind span → kind = "name" :=
    fun hnode => (Value.text.inj (Option.some.inj hnode.kind)).symm
  rintro ⟨t, h⟩
  cases h with
  | name _ hn | var _ hn => exact hname hn
  | optional hnode | list hnode | map hnode | result hnode | func hnode | pii hnode =>
    exact absurd (hkind hnode) (by decide)

/-- **A document with a type by a blank name in its long form is refused.** -/
theorem refused_long {source : String} {v x w : Value} {path : List Step} {r : Role}
    (hstands : Stands .module v path r x) (hlong : Shorthand r x w) (hx : BlankName x) (m : Module) :
    Module.ofDocument source (v.replace path w) ≠ .ok m := by
  intro hm
  have hformed : r.Formed w :=
    formed_of_stands (stands_replace hstands (isNull_long hlong)) ⟨m, Form.isModule_of_ofDocument hm⟩
  obtain ⟨s, rfl, -, hblank⟩ := hx
  cases hlong
  exact not_formed_long hblank hformed

/-- **A short form may be written long anywhere in a document**: the module that is read stays the
same, and a document that is refused stays refused, exactly unless the name of a type is blank without
being empty and the document is a module. -/
theorem same_module_written_long_iff (source : String) {v x w : Value} {path : List Step} {r : Role}
    (hstands : Stands .module v path r x) (hlong : Shorthand r x w) :
    (Module.ofDocument source (v.replace path w)).toOption = (Module.ofDocument source v).toOption ↔
      ¬ (BlankName x ∧ ∃ m, Module.ofDocument source v = .ok m) := by
  by_cases hx : BlankName x
  · have hnone : (Module.ofDocument source (v.replace path w)).toOption = none := by
      cases hm : Module.ofDocument source (v.replace path w) with
      | error => rfl
      | ok m => exact absurd hm (refused_long hstands hlong hx m)
    rw [hnone]
    cases Module.ofDocument source v with
    | error => simp [Except.toOption]
    | ok m => simp [Except.toOption, hx]
  · have hsame := same_replace hstands (isNull_long hlong) (same_long hlong hx)
    simp [hx, hsame source]

/-- A function that takes a list and does something if a name says so. -/
def takesList (elem yes : Value) : Value :=
  .object [("name", .text "m"), ("decls", .array [.object [
    ("kind", .text "func"), ("name", .text "f"),
    ("params", .array [.object [("name", .text "xs"),
      ("type", .object [("kind", .text "list"), ("type", elem)])]]),
    ("body", .array [.object [("kind", .text "if"),
      ("cond", .object [("kind", .text "name"), ("name", .text "c")]), ("then", yes)]])]])]

/-- A block that gives nothing back. -/
def returns : Value := .array [.object [("kind", .text "return")]]

/-- **The type of the items and the block may be written long.** -/
theorem same_module_written_long_takesList :
    (Module.ofDocument "" (takesList (.text "Text") returns)).toOption.isSome = true ∧
    (Module.ofDocument "" (takesList (.object [("kind", .text "name"), ("name", .text "Text")])
        returns)).toOption = (Module.ofDocument "" (takesList (.text "Text") returns)).toOption ∧
    (Module.ofDocument "" (takesList (.text "Text") (.object [("statements", returns)]))).toOption =
      (Module.ofDocument "" (takesList (.text "Text") returns)).toOption := by
  have htype : Stands .module (takesList (.text "Text") returns) [.key "decls", .index 0,
      .key "params", .index 0, .key "type", .key "type"] .type (.text "Text") :=
    .part (.head _) rfl (.item rfl (.part (.head _) rfl (.item rfl
      (.part (.head _) rfl (.part (.head _) rfl .here)))))
  have hblock : Stands .module (takesList (.text "Text") returns) [.key "decls", .index 0,
      .key "body", .index 0, .key "then"] .block returns :=
    .part (.head _) rfl (.item rfl (.part (.tail _ (.tail _ (.head _))) rfl
      (.stmt rfl (.part (.head _) rfl .here))))
  refine ⟨rfl, (same_module_written_long_iff "" htype (.type "Text")).2 ?_,
    (same_module_written_long_iff "" hblock (.block _)).2 ?_⟩
  · rintro ⟨⟨_, ⟨⟩, -, hblank⟩, -⟩
    exact absurd hblank (by decide)
  · rintro ⟨⟨_, hblank, -⟩, -⟩
    exact nomatch hblank

/-- An alias for a type by a name of one blank. -/
def aliasesBlank (target : Value) : Value :=
  .object [("name", .text "m"), ("decls", .array [.object [
    ("kind", .text "alias"), ("name", .text "A"), ("type", target)]])]

/-- **A blank name is read in the short form and refused in the long one.** -/
theorem not_same_module_written_long_aliasesBlank :
    Stands .module (aliasesBlank (.text " ")) [.key "decls", .index 0, .key "type"] .type
        (.text " ") ∧
      Module.ofDocument "" (aliasesBlank (.text " ")) =
        .ok ⟨1, "m", "", [.alias {} "A" (.name {} " ")]⟩ ∧
      Module.ofDocument "" ((aliasesBlank (.text " ")).replace [.key "decls", .index 0, .key "type"]
          (.object [("kind", .text "name"), ("name", .text " ")])) =
        .error ⟨"", [.key "decls", .index 0, .key "type"], .blankName "name"⟩ :=
  ⟨.part (.head _) rfl (.item rfl (.part (.head _) rfl .here)), rfl, rfl⟩

end CoreCheck.Ir

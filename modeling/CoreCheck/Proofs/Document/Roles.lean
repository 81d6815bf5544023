import CoreCheck.Proofs.Document.Nulls

/-!
# Proofs/Document/Roles — what stands where in a document

The kind of a node says in which role the value of each key is read: as a type, a block, a list of
declarations.  `Stands` follows the roles down a path, and whatever stands inside a document that has
the form of its role has the form of its own role (`formed_of_stands`).  `Value.replace` puts another
value at the end of a path; what stood there in a role is then replaced in that role
(`stands_replace`).
-/

namespace CoreCheck.Document

/-- **A document with another value at the end of a path.** -/
def Value.replace (v : Value) (path : List Step) (new : Value) : Value :=
  match path, v with
  | [], _ => new
  | .key k :: path, .object fields =>
    match field? fields k with
    | some w => .object (setField fields k (w.replace path new))
    | none => .object fields
  | .index i :: path, .array items => .array (items.modify i fun w => w.replace path new)
  | _, v => v

end CoreCheck.Document

namespace CoreCheck.Ir

open CoreCheck.Document (Value Step field? setField field?_setField)

/-! ## Roles -/

/-- **The roles of values** that hold types or blocks, or are such. -/
inductive Role where
  | module
  | decl
  | typedName
  | type
  | stmt
  | case
  | block
  | list (items : Role)

/-- The keys of a node of a kind, with the roles of what stands under them. -/
def Role.parts : Role → String → List (String × Role)
  | .decl, "func" | .decl, "fn" | .decl, "function" =>
    [("params", .list .typedName), ("ret", .type), ("body", .block)]
  | .decl, "data" => [("fields", .list .typedName)]
  | .decl, "alias" | .decl, "type" => [("type", .type)]
  | .type, "optional" | .type, "list" | .type, "pii" => [("type", .type)]
  | .type, "map" => [("key", .type), ("value", .type)]
  | .type, "result" => [("ok", .type), ("err", .type)]
  | .type, "func" => [("params", .list .type), ("ret", .type)]
  | .stmt, "let" => [("type", .type)]
  | .stmt, "if" => [("then", .block), ("else", .block)]
  | .stmt, "match" => [("cases", .list .case)]
  | .stmt, "scope" | .stmt, "block" => [("body", .block)]
  | _, _ => []

/-- The keys of an object in a role, with the roles of what stands under them. -/
def Role.partsOf (r : Role) (o : List (String × Value)) : List (String × Role) :=
  match r with
  | .module => [(declsKey (readFields o), .list .decl)]
  | .typedName => [("type", .type)]
  | .case => [("body", .block)]
  | .block => [("statements", .list .stmt)]
  | .list _ => []
  | .decl | .type | .stmt =>
    match plainField? o "kind" with
    | some (.text kind) => r.parts kind
    | _ => []

/-- **What stands in a role inside a value** that stands in a role itself, and the path to it. -/
inductive Stands : Role → Value → List Step → Role → Value → Prop where
  | here {r v} : Stands r v [] r v
  | part {r o key t w path u x} : (key, t) ∈ r.partsOf o → plainField? o key = some w →
      Stands t w path u x → Stands r (.object o) (.key key :: path) u x
  | item {r vs i w path u x} : vs[i]? = some w → Stands r w path u x →
      Stands (.list r) (.array vs) (.index i :: path) u x
  | stmt {vs i w path u x} : vs[i]? = some w → Stands .stmt w path u x →
      Stands .block (.array vs) (.index i :: path) u x

/-- The keys under which parts in a role stand. -/
def roleKeys : List String :=
  ["decls", "declarations", "params", "ret", "body", "fields", "type", "key", "value", "ok", "err",
    "then", "else", "cases", "statements"]

section PartsOf

variable {o : List (String × Value)} {kind key : String} {r t : Role}

theorem partsOf_decl (h : plainField? o "kind" = some (.text kind)) :
    Role.decl.partsOf o = Role.decl.parts kind := by
  rw [Role.partsOf, h]

theorem partsOf_type (h : plainField? o "kind" = some (.text kind)) :
    Role.type.partsOf o = Role.type.parts kind := by
  rw [Role.partsOf, h]

theorem partsOf_stmt (h : plainField? o "kind" = some (.text kind)) :
    Role.stmt.partsOf o = Role.stmt.parts kind := by
  rw [Role.partsOf, h]

theorem mem_roleKeys_of_parts (h : (key, t) ∈ r.parts kind) : key ∈ roleKeys := by
  have hall : ∀ e ∈ r.parts kind, e.1 ∈ roleKeys := by
    unfold Role.parts
    split <;> decide
  exact hall _ h

theorem mem_roleKeys (h : (key, t) ∈ r.partsOf o) : key ∈ roleKeys := by
  have hkinded : ∀ r : Role, (key, t) ∈ (match plainField? o "kind" with
      | some (.text kind) => r.parts kind
      | _ => []) → key ∈ roleKeys := by
    intro r h
    split at h
    · exact mem_roleKeys_of_parts h
    · exact absurd h List.not_mem_nil
  cases r with
  | module =>
    obtain ⟨⟩ := List.mem_singleton.1 h
    rw [declsKey]
    split <;> decide
  | typedName | case | block =>
    obtain ⟨⟩ := List.mem_singleton.1 h
    decide
  | list => exact absurd h List.not_mem_nil
  | decl | type | stmt => exact hkinded _ h

/-- Another value for a part leaves the roles of all parts as they are. -/
theorem partsOf_setField {w w' : Value} (hkey : (key, t) ∈ r.partsOf o)
    (hw : field? o key = some w) : r.partsOf (setField o key w') = r.partsOf o := by
  have hne : "kind" ≠ key := by
    rintro rfl
    exact absurd (mem_roleKeys hkey) (by decide)
  have hkind : plainField? (setField o key w') "kind" = plainField? o "kind" := by
    rw [plainField?, plainField?, field?_setField, if_neg hne]
  cases r with
  | module =>
    simp only [Role.partsOf, declsKey_readFields, isSome_field?_setField hw]
  | typedName | case | block | list => rfl
  | decl | type | stmt => simp only [Role.partsOf, hkind]

end PartsOf

/-! ## Other values -/

theorem field?_of_plainField? {o : List (String × Value)} {key : String} {w : Value}
    (h : plainField? o key = some w) : field? o key = some w ∧ w.isNull = false := by
  obtain ⟨hw, hnull⟩ := Option.filter_eq_some_iff.1 h
  exact ⟨hw, by simpa using hnull⟩

theorem plainField?_setField_self (o : List (String × Value)) (key : String) {w : Value}
    (hw : w.isNull = false) : plainField? (setField o key w) key = some w := by
  rw [plainField?, field?_setField, if_pos rfl]
  simp [Option.filter, hw]

theorem replace_key {o : List (String × Value)} {key : String} {w : Value}
    (h : plainField? o key = some w) (path : List Step) (new : Value) :
    (Value.object o).replace (.key key :: path) new
      = .object (setField o key (w.replace path new)) := by
  rw [Value.replace, (field?_of_plainField? h).1]

theorem replace_index (vs : List Value) (i : Nat) (path : List Step) (new : Value) :
    (Value.array vs).replace (.index i :: path) new
      = .array (vs.modify i fun w => w.replace path new) := by
  rw [Value.replace]

/-- A replacement that is not null leaves no null on its way. -/
theorem isNull_replace {r u : Role} {v x new : Value} {path : List Step}
    (h : Stands r v path u x) (hnew : new.isNull = false) : (v.replace path new).isNull = false := by
  cases h with
  | here => rwa [Value.replace]
  | part _ hw => rw [replace_key hw]; rfl
  | item | stmt => rw [replace_index]; rfl

theorem getElem?_modify_self {vs : List Value} {i : Nat} {w : Value} (h : vs[i]? = some w)
    (f : Value → Value) : (vs.modify i f)[i]? = some (f w) := by
  rw [List.getElem?_modify_eq, h]
  rfl

/-- **What stood in a role is replaced in that role.** -/
theorem stands_replace {r u : Role} {v x new : Value} {path : List Step}
    (h : Stands r v path u x) (hnew : new.isNull = false) :
    Stands r (v.replace path new) path u new := by
  induction h with
  | here => rw [Value.replace]; exact .here
  | part hkey hw hinner ih =>
    rw [replace_key hw]
    refine .part ?_ (plainField?_setField_self _ _ (isNull_replace hinner hnew)) ih
    rw [partsOf_setField hkey (field?_of_plainField? hw).1]
    exact hkey
  | item hi _ ih =>
    rw [replace_index]
    exact .item (getElem?_modify_self hi _) ih
  | stmt hi _ ih =>
    rw [replace_index]
    exact .stmt (getElem?_modify_self hi _) ih

/-! ## Forms of roles -/

/-- **A value has the form of a role.** -/
def Role.Formed : Role → Value → Prop
  | .module, v => ∃ m, Form.IsModule v m
  | .decl, v => ∃ d, Form.IsDecl v d
  | .typedName, v => ∃ n, Form.IsTypedName v n
  | .type, v => ∃ t, Form.IsType v t
  | .stmt, v => ∃ s, Form.IsStmt v s
  | .case, v => ∃ c, Form.IsCase v c
  | .block, v => ∃ b, Form.IsBlock v b
  | .list r, v => ∃ vs, v = .array vs ∧ ∀ w ∈ vs, r.Formed w

section Formed

variable {α : Type} {R : Value → α → Prop} {o : List (String × Value)} {key : String} {w : Value}

theorem exists_of_part {a : α} (h : Form.Part R o key a) (hw : plainField? o key = some w) :
    ∃ a, R w a := by
  obtain ⟨hv, ha⟩ := h
  obtain rfl := Option.some.inj (hv.symm.trans hw)
  exact ⟨a, ha⟩

theorem exists_of_partOpt {a : Option α} (h : Form.PartOpt R o key a)
    (hw : plainField? o key = some w) : ∃ a, R w a := by
  cases h with
  | absent hnone => exact nomatch hnone.symm.trans hw
  | given hv ha =>
    obtain rfl := Option.some.inj (hv.symm.trans hw)
    exact ⟨_, ha⟩

theorem formed_of_isList {r : Role} {xs : List α} (hr : ∀ v a, R v a → r.Formed v)
    (h : Form.IsList R w xs) : (Role.list r).Formed w := by
  obtain ⟨hxs⟩ := h
  refine ⟨_, rfl, ?_⟩
  induction hxs with
  | nil => exact fun _ hv => nomatch hv
  | cons ha _ ih =>
    intro v hv
    obtain rfl | hv := List.mem_cons.1 hv
    · exact hr _ _ ha
    · exact ih v hv

theorem formed_of_listOpt {r : Role} {xs : List α} (hr : ∀ v a, R v a → r.Formed v)
    (h : Form.ListOpt R o key xs) (hw : plainField? o key = some w) : (Role.list r).Formed w := by
  cases h with
  | absent hnone => exact nomatch hnone.symm.trans hw
  | given hv hxs =>
    obtain rfl := Option.some.inj (hv.symm.trans hw)
    exact formed_of_isList hr hxs

end Formed

section Parts

variable {o : List (String × Value)} {key : String} {t : Role} {w : Value}

theorem formed_type (h : Role.type.Formed (.object o)) (hkey : (key, t) ∈ Role.type.partsOf o)
    (hw : plainField? o key = some w) : t.Formed w := by
  obtain ⟨_, h⟩ := h
  cases h with
  | name hnode | var hnode =>
    rw [partsOf_type hnode.kind] at hkey
    exact nomatch hkey
  | optional hnode hpart | list hnode hpart | pii hnode hpart =>
    rw [partsOf_type hnode.kind] at hkey
    obtain ⟨⟩ := List.mem_singleton.1 hkey
    exact exists_of_part hpart hw
  | map hnode hfirst hsecond | result hnode hfirst hsecond =>
    simp only [partsOf_type hnode.kind, Role.parts, List.mem_cons, Prod.mk.injEq, List.not_mem_nil,
      or_false] at hkey
    obtain ⟨rfl, rfl⟩ | ⟨rfl, rfl⟩ := hkey
    · exact exists_of_part hfirst hw
    · exact exists_of_part hsecond hw
  | func hnode hparams hret =>
    simp only [partsOf_type hnode.kind, Role.parts, List.mem_cons, Prod.mk.injEq, List.not_mem_nil,
      or_false] at hkey
    obtain ⟨rfl, rfl⟩ | ⟨rfl, rfl⟩ := hkey
    · exact formed_of_listOpt (r := .type) (fun _ t h => ⟨t, h⟩) hparams hw
    · exact exists_of_partOpt hret hw

theorem formed_stmt (h : Role.stmt.Formed (.object o)) (hkey : (key, t) ∈ Role.stmt.partsOf o)
    (hw : plainField? o key = some w) : t.Formed w := by
  obtain ⟨_, h⟩ := h
  cases h with
  | set hnode | ret hnode | eval hnode | start hnode | wait hnode =>
    rw [partsOf_stmt hnode.kind] at hkey
    exact nomatch hkey
  | bind hnode _ htype _ =>
    rw [partsOf_stmt hnode.kind] at hkey
    obtain ⟨⟩ := List.mem_singleton.1 hkey
    exact exists_of_partOpt htype hw
  | branch hnode _ hyes hno =>
    simp only [partsOf_stmt hnode.kind, Role.parts, List.mem_cons, Prod.mk.injEq, List.not_mem_nil,
      or_false] at hkey
    obtain ⟨rfl, rfl⟩ | ⟨rfl, rfl⟩ := hkey
    · exact exists_of_part hyes hw
    · exact exists_of_partOpt hno hw
  | select hnode _ hcases =>
    rw [partsOf_stmt hnode.kind] at hkey
    obtain ⟨⟩ := List.mem_singleton.1 hkey
    obtain ⟨_, hcases⟩ := exists_of_part hcases hw
    exact formed_of_isList (r := .case) (fun _ c h => ⟨c, h⟩) hcases
  | scope hkind hnode hbody =>
    rw [partsOf_stmt hnode.kind] at hkey
    obtain rfl | rfl := hkind <;>
      · obtain ⟨⟩ := List.mem_singleton.1 hkey
        exact exists_of_part hbody hw

theorem formed_decl (h : Role.decl.Formed (.object o)) (hkey : (key, t) ∈ Role.decl.partsOf o)
    (hw : plainField? o key = some w) : t.Formed w := by
  obtain ⟨_, h⟩ := h
  cases h with
  | func hkind hnode hfunc =>
    have hparts : Role.decl.partsOf o =
        [("params", .list .typedName), ("ret", .type), ("body", .block)] := by
      rw [partsOf_decl hnode.kind]
      obtain rfl | rfl | rfl := hkind <;> rfl
    simp only [hparts, List.mem_cons, Prod.mk.injEq, List.not_mem_nil, or_false] at hkey
    obtain ⟨rfl, rfl⟩ | ⟨rfl, rfl⟩ | ⟨rfl, rfl⟩ := hkey
    · exact formed_of_listOpt (r := .typedName) (fun _ n h => ⟨n, h⟩) hfunc.params hw
    · exact exists_of_partOpt hfunc.ret hw
    · exact exists_of_part hfunc.body hw
  | data hnode _ hfields =>
    rw [partsOf_decl hnode.kind] at hkey
    obtain ⟨⟩ := List.mem_singleton.1 hkey
    exact formed_of_listOpt (r := .typedName) (fun _ n h => ⟨n, h⟩) hfields hw
  | enum hnode | imported hnode =>
    rw [partsOf_decl hnode.kind] at hkey
    exact nomatch hkey
  | aliased hkind hnode _ htype =>
    rw [partsOf_decl hnode.kind] at hkey
    obtain rfl | rfl := hkind <;>
      · obtain ⟨⟩ := List.mem_singleton.1 hkey
        exact exists_of_part htype hw

theorem formed_block (h : Role.block.Formed (.object o)) (hkey : (key, t) ∈ Role.block.partsOf o)
    (hw : plainField? o key = some w) : t.Formed w := by
  obtain ⟨⟩ := List.mem_singleton.1 hkey
  obtain ⟨_, h⟩ := h
  cases h with
  | array h => exact nomatch h
  | object h =>
    obtain ⟨_, h⟩ := exists_of_part h hw
    exact formed_of_isList (r := .stmt) (fun _ s h => ⟨s, h⟩) h

theorem formed_module (h : Role.module.Formed (.object o))
    (hkey : (key, t) ∈ Role.module.partsOf o) (hw : plainField? o key = some w) : t.Formed w := by
  obtain ⟨⟩ := List.mem_singleton.1 hkey
  obtain ⟨m, h⟩ := h
  cases h with
  | @mk _ key _ hchoice _ _ hdecls =>
    have hkeys : declsKey (readFields o) = key := by
      obtain ⟨hlist, -⟩ := hdecls
      have hthere := (field?_of_plainField? hlist).1
      rw [declsKey_readFields]
      obtain rfl | ⟨rfl, hnone⟩ := hchoice
      · simp [hthere]
      · simp [hthere, hnone]
    rw [hkeys] at hw
    obtain ⟨_, hlist⟩ := exists_of_part hdecls hw
    exact formed_of_isList (r := .decl) (fun _ d h => ⟨d, h⟩) hlist

/-- **A part of an object that has the form of its role** has the form of its own. -/
theorem formed_part {r : Role} (h : r.Formed (.object o)) (hkey : (key, t) ∈ r.partsOf o)
    (hw : plainField? o key = some w) : t.Formed w := by
  cases r with
  | module => exact formed_module h hkey hw
  | decl => exact formed_decl h hkey hw
  | typedName =>
    obtain ⟨⟩ := List.mem_singleton.1 hkey
    obtain ⟨_, ⟨-, -, htype⟩⟩ := h
    exact exists_of_part htype hw
  | type => exact formed_type h hkey hw
  | stmt => exact formed_stmt h hkey hw
  | case =>
    obtain ⟨⟩ := List.mem_singleton.1 hkey
    obtain ⟨_, ⟨-, -, hbody⟩⟩ := h
    exact exists_of_part hbody hw
  | block => exact formed_block h hkey hw
  | list => exact nomatch hkey

end Parts

/-- **What stands in a role has its form**, inside all that has the form of its own role. -/
theorem formed_of_stands {r u : Role} {v x : Value} {path : List Step} (h : Stands r v path u x)
    (hv : r.Formed v) : u.Formed x := by
  induction h with
  | here => exact hv
  | part hkey hw _ ih => exact ih (formed_part hv hkey hw)
  | item hi _ ih =>
    obtain ⟨_, ⟨⟩, hitems⟩ := hv
    exact ih (hitems _ (List.mem_of_getElem? hi))
  | stmt hi _ ih =>
    obtain ⟨_, h⟩ := hv
    cases h with
    | array h =>
      obtain ⟨_, ⟨⟩, hitems⟩ := formed_of_isList (r := .stmt) (fun _ s h => ⟨s, h⟩) h
      exact ih (hitems _ (List.mem_of_getElem? hi))

end CoreCheck.Ir

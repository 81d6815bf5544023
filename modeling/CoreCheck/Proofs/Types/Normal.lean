import CoreCheck.Proofs.Types.Exposed

/-!
# Proofs/Types/Normal — types in normal form

No mark stands on a mark, and no optional on an optional, be there a mark between them or none.  The
arena itself sees to the first.  The second is left to those who ask it for an optional: they look at
the element first.  So what is told here is told of calls.  `Arena.Call` is one call by someone who
looks first, and what such calls lead to is in normal form, as is everything that was there on the
way (`inNormalForm_of_calls`): types are only added, and the parts of a type are older than the type.
-/

namespace CoreCheck.Types

/-- **Who asks for an optional has looked first**: the element is none, or is the placeholder. -/
def Request.Guarded (a : Arena) : Request → Prop
  | .optional elem => elem = unknown ∨ a.kindOf elem ≠ .optional
  | _ => True

namespace Arena

/-- **One call of an arena**: a type is asked for, or the fields of a record are set. -/
inductive Call (a : Arena) : Arena → Prop
  | ask (r : Request) (h : r.Guarded a) : Call a (r.make a).1
  | fields (id : TypeId) (fields : List Field) : Call a (a.setFields id fields)

/-- Any number of calls, one after the other. -/
def Calls : Arena → Arena → Prop := Relation.ReflTransGen Call

/-- **An arena is earlier than another**: its types are the first ones of the other. -/
structure Earlier (a b : Arena) : Prop where
  size_le : a.size ≤ b.size
  lookup_eq : ∀ id ≤ a.size, b.lookup id = a.lookup id

/-- **The types of an arena are in normal form.** -/
structure InNormalForm (a : Arena) : Prop where
  /-- No mark stands on a mark. -/
  mark : ∀ id base level category, a.lookup id = some (.pii base level category) →
    ∀ base' level' category', a.lookup base ≠ some (.pii base' level' category')
  /-- No optional stands on an optional, with a mark between them or without. -/
  optional : ∀ id elem, a.lookup id = some (.optional elem) → a.kindOf elem ≠ .optional
  /-- The kind of a type is never that of a mark. -/
  kind : ∀ id, a.kindOf id ≠ .pii
  /-- Under the mark of a type there is no other. -/
  unwrap : ∀ id, a.unwrap (a.unwrap id) = a.unwrap id

/-- **Joining looks at the type that it makes optional.** -/
theorem calls_join (a : Arena) (s t : TypeId) : a.Calls (a.join s t).1 := by
  have optional : ∀ {i}, (a.kindOf i != .optional) = true → a.Calls (a.optional i).1 :=
    fun hi => .single (.ask (.optional _) (.inr (bne_iff_ne.1 hi)))
  unfold Arena.join
  split
  · exact .refl
  split
  · exact .refl
  split
  · exact .refl
  split
  · next ht => exact optional (Bool.and_eq_true_iff.1 ht).2
  split
  · next hs => exact optional (Bool.and_eq_true_iff.1 hs).2
  split
  · exact .refl
  split <;> exact .refl

/-! ## Earlier arenas -/

theorem Earlier.refl (a : Arena) : a.Earlier a := ⟨Nat.le_refl _, fun _ _ => rfl⟩

theorem Earlier.trans {a b c : Arena} (h : a.Earlier b) (h' : b.Earlier c) : a.Earlier c where
  size_le := Nat.le_trans h.size_le h'.size_le
  lookup_eq id hid :=
    (h'.lookup_eq id (Nat.le_trans hid h.size_le)).trans (h.lookup_eq id hid)

theorem Extends.earlier {a b : Arena} (h : a.Extends b) : a.Earlier b := ⟨h.size_le, h.lookup_eq⟩

theorem AppendsTo.earlier {a b : Arena} (h : a.AppendsTo b) : a.Earlier b :=
  ⟨h.size_le, fun _ hid => h.lookup_eq hid⟩

theorem lookup_setFields (a : Arena) (i : TypeId) (fields : List Field) (id : TypeId) :
    (a.setFields i fields).lookup id = a.lookup id := by
  rw [lookup, lookup, shapes_setFields]

/-- **A call adds types at most.** -/
theorem Call.earlier {a b : Arena} (h : a.Call b) : a.Earlier b := by
  cases h with
  | ask r h => exact (r.appendsTo_make a).earlier
  | fields id fs =>
    exact ⟨by rw [size, size, shapes_setFields], fun i _ => lookup_setFields a id fs i⟩

theorem Calls.earlier {a b : Arena} (h : a.Calls b) : a.Earlier b := by
  induction h with
  | refl => exact .refl a
  | tail _ hcall ih => exact ih.trans hcall.earlier

section Sound

variable {a b : Arena} (h : a.Earlier b) (hb : b.Sound) {id : TypeId}

include h

theorem Earlier.lookup_some {s : Shape} (hs : a.lookup id = some s) : b.lookup id = some s :=
  (h.lookup_eq id (le_size_of_lookup hs)).trans hs

theorem Earlier.unwrap_eq (hid : id ≤ a.size) : b.unwrap id = a.unwrap id := by
  rw [unwrap, unwrap, h.lookup_eq id hid]

include hb

theorem Earlier.older {s : Shape} (hs : a.lookup id = some s) : ∀ q ∈ s.parts, q < id :=
  hb.older (h.lookup_some hs)

theorem Earlier.kindOf_eq (hid : id ≤ a.size) : b.kindOf id = a.kindOf id := by
  have hle : a.unwrap id ≤ a.size := by
    rw [unwrap]
    split
    · next hs => exact Nat.le_trans (Nat.le_of_lt (h.older hb hs _ (.head _))) hid
    · exact hid
  rw [kindOf, kindOf, h.unwrap_eq hid, h.lookup_eq _ hle]

end Sound

/-! ## Calls lead to normal forms -/

/-- The placeholder is no optional. -/
theorem Sound.kindOf_unknown {a : Arena} (h : a.Sound) : a.kindOf unknown = .unknown := by
  have hlook : a.lookup unknown = some .unknown := h.builtin.2 unknown (by decide)
  have hbare : a.unwrap unknown = unknown := by rw [Arena.unwrap, hlook]
  rw [kindOf, hbare, hlook]
  rfl

/-- **An optional that a call adds stands on no optional.** -/
theorem Call.optional {a b c : Arena} (h : a.Call b) (hbc : b.Earlier c) (hc : c.Sound)
    {id elem : TypeId} (hid : b.lookup id = some (.optional elem)) :
    a.lookup id = some (.optional elem) ∨ c.kindOf elem ≠ .optional := by
  have hac := h.earlier.trans hbc
  by_cases hold : id ≤ a.size
  · exact .inl ((h.earlier.lookup_eq id hold).symm.trans hid)
  cases h with
  | fields i fs => exact .inl ((lookup_setFields a i fs id).symm.trans hid)
  | ask r hr =>
    have hle := le_size_of_lookup hid
    obtain ⟨hsize, -⟩ | ⟨hsize, hnew⟩ := r.make_cases a
    · exact absurd (hsize ▸ hle) hold
    have hlast : id = (r.make a).2 :=
      hnew ▸ Nat.le_antisymm (hsize ▸ hle) (Nat.lt_of_not_le hold)
    have hshape : r.shape a = .optional elem := by
      rw [hlast, r.lookup_make] at hid
      exact Option.some.inj hid
    cases r with
    | optional e =>
      obtain rfl : e = elem := Shape.optional.inj hshape
      right
      obtain rfl | hk := hr
      · rw [hc.kindOf_unknown]
        decide
      · -- the element is older than what was added, so it was there when it was looked at
        have hlt : e < id := hbc.older hc hid e (.head _)
        rw [hlast, hnew] at hlt
        rwa [hac.kindOf_eq hc (Nat.le_of_lt_succ hlt)]
    | _ => cases hshape

theorem Calls.optional {a c : Arena} (h : Calls .initial a) (hac : a.Earlier c) (hc : c.Sound)
    {id elem : TypeId} (hid : a.lookup id = some (.optional elem)) : c.kindOf elem ≠ .optional := by
  induction h with
  | refl =>
    have hparts := parts_of_mem_initial _ (mem_shapes_of_lookup hid)
    cases hparts
  | tail _ hcall ih =>
    obtain hold | hnew := hcall.optional hac hc hid
    · exact ih (hcall.earlier.trans hac) hold
    · exact hnew

/-- A type in normal form is under its mark when that is taken off. -/
theorem unwrap_of_not_mark {a : Arena} {id : TypeId}
    (h : ∀ base level category, a.lookup id ≠ some (.pii base level category)) :
    a.unwrap id = id := by
  rw [unwrap]
  split
  · next hs => exact absurd hs (h _ _ _)
  · rfl

theorem kindOf_ne_pii {a : Arena} {id : TypeId}
    (h : ∀ base level category, a.lookup (a.unwrap id) ≠ some (.pii base level category)) :
    a.kindOf id ≠ .pii := by
  rw [kindOf]
  split
  · next s hs =>
    cases s with
    | pii base level category => exact absurd hs (h base level category)
    | _ => intro hkind; cases hkind
  · intro hkind; cases hkind

/-- **Calls lead to types in normal form**, and so they were on the way. -/
theorem inNormalForm_of_calls {a : Arena} (h : Calls .initial a) (ha : a.Sound) {b : Arena}
    (hba : b.Earlier a) : b.InNormalForm := by
  have hmark : ∀ id base level category, b.lookup id = some (.pii base level category) →
      ∀ base' level' category', b.lookup base ≠ some (.pii base' level' category') := by
    intro id base level category hid base' level' category' hbase
    exact Bool.noConfusion (ha.flat (hba.lookup_some hid) _ (hba.lookup_some hbase))
  have hunder : ∀ id base level category,
      b.lookup (b.unwrap id) ≠ some (.pii base level category) := by
    intro id
    rw [unwrap]
    split
    · next hid => exact hmark id _ _ _ hid
    · next hno => exact hno
  refine ⟨hmark, fun id elem hid => ?_, fun id => kindOf_ne_pii (hunder id),
    fun id => unwrap_of_not_mark (hunder id)⟩
  have hlt : elem < id := hba.older ha hid elem (.head _)
  rw [← hba.kindOf_eq ha (Nat.le_trans (Nat.le_of_lt hlt) (le_size_of_lookup hid))]
  exact h.optional (.refl a) ha (hba.lookup_some hid)

/-- Who does not look first may put an optional on an optional. -/
example : ¬ ((initial.optional text).1.optional 9).1.InNormalForm :=
  fun h => h.optional 10 9 (by decide +kernel) (by decide +kernel)

end Arena

end CoreCheck.Types

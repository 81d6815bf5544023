import CoreCheck.Proofs.Aliases.Registered

/-!
# Proofs/Aliases/Holders — which declaration holds a type name

Declarations may share a type name, and may take a builtin one.  The first declaration of a name
that is not builtin holds it, and the others are refused.  Registering the names of a module finds
just that, whatever its names are, and the aliases that are resolved under their names are those
that hold them (`find?_aliasTargets`).
-/

namespace CoreCheck.Check

open CoreCheck.Types CoreCheck.Ir

/-! ## Holders -/

/-- **The declaration that holds a type name**, with its place: the first one of that name, unless
the name is builtin. -/
def holder? (ps : List (Decl × Nat)) (n : String) : Option (Decl × Nat) :=
  if Aliases.isBuiltin n then none else ps.find? (·.1.typeName? = some n)

/-- **The alias that holds a name**, if the declaration that holds it is one. -/
def heldAlias? (ps : List (Decl × Nat)) (n : String) : Option AliasTarget :=
  (holder? ps n).bind fun
    | (.alias span name target, index) => some ⟨name, index, span, target⟩
    | _ => none

theorem holder?_concat (ps : List (Decl × Nat)) (e : Decl × Nat) (n : String) :
    holder? (ps ++ [e]) n = (holder? ps n).or (holder? [e] n) := by
  rw [holder?, holder?, holder?]
  split
  · rfl
  · exact List.find?_append

theorem holder?_singleton_of_ne {e : Decl × Nat} {n : String} (h : e.1.typeName? ≠ some n) :
    holder? [e] n = none := by
  rw [holder?, List.find?_cons_of_neg (by simpa using h), List.find?_nil, ite_self]

theorem holder?_singleton {e : Decl × Nat} {n : String} (hb : Aliases.isBuiltin n = false)
    (h : e.1.typeName? = some n) : holder? [e] n = some e := by
  rw [holder?, hb, List.find?_cons_of_pos (by simpa using h)]
  rfl

theorem holder?_of_builtin {n : String} (hb : Aliases.isBuiltin n = true) (ps : List (Decl × Nat)) :
    holder? ps n = none := if_pos hb

/-- What holds a name is among the declarations, and is of that name. -/
theorem holder?_spec {ps : List (Decl × Nat)} {n : String} {e : Decl × Nat}
    (h : holder? ps n = some e) : e ∈ ps ∧ e.1.typeName? = some n := by
  rw [holder?] at h
  split at h
  · cases h
  · exact ⟨List.mem_of_find?_eq_some h, by simpa using List.find?_some h⟩

theorem name_heldAlias? {ps : List (Decl × Nat)} {n : String} {a : AliasTarget}
    (h : heldAlias? ps n = some a) :
    (Decl.alias a.span n a.target, a.index) ∈ ps ∧ a.name = n := by
  obtain ⟨⟨d, i⟩, he, ha⟩ := Option.bind_eq_some_iff.1 h
  obtain ⟨hmem, hname⟩ := holder?_spec he
  cases d with
  | «alias» span name target =>
    obtain rfl := Option.some.inj ha
    obtain rfl := Option.some.inj hname
    exact ⟨hmem, rfl⟩
  | _ => cases ha

/-! ## Registering -/

/-- **A state while type names are registered**, behind some declarations: the names that are known
are those that are held, and no other names are bound but the builtin ones. -/
structure Registering (past : List (Decl × Nat)) (known : TypeNames) (s : State) : Prop where
  known : ∀ n, known.lookup n = (holder? past n).map fun e => (e.2, e.1.span)
  bound : ∀ n, (s.aliases.resolve? n).isSome = (Aliases.isBuiltin n || (holder? past n).isSome)

theorem isSome_resolve?_initial (n : String) :
    (Aliases.initial.resolve? n).isSome = Aliases.isBuiltin n := by
  rw [Bool.eq_iff_iff, Aliases.resolve?, isSome_lookup, Aliases.isBuiltin, List.any_eq_true,
    List.mem_map]
  simp only [beq_iff_eq]
  rfl

theorem registering_initial : Registering [] [] {} where
  known n := by
    rw [holder?, List.find?_nil, ite_self]
    rfl
  bound n := by
    rw [holder?, List.find?_nil, ite_self, Option.isSome_none, Bool.or_false]
    exact isSome_resolve?_initial n

section Register

variable {past : List (Decl × Nat)} {known : TypeNames} {s : State} {d : Decl} {i : Nat}
  (h : Registering past known s)

include h

/-- Only the names that are bound matter. -/
theorem Registering.congr {t : State} (ha : t.aliases = s.aliases) : Registering past known t :=
  ⟨h.known, fun n => by rw [ha, h.bound n]⟩

theorem Registering.reports {t : State} (hr : Reports s t) : Registering past known t :=
  h.congr (by rw [hr.eq])

/-- A declaration that holds no name changes nothing. -/
theorem Registering.skip (hd : ∀ n, (holder? past n).or (holder? [(d, i)] n) = holder? past n) :
    Registering (past ++ [(d, i)]) known s where
  known n := by rw [holder?_concat, hd, h.known]
  bound n := by rw [holder?_concat, hd, h.bound]

/-- **A name that is new is held by its declaration.** -/
theorem Registering.hold {a : String} (ha : d.typeName? = some a)
    (hb : Aliases.isBuiltin a = false) (hr : s.aliases.resolve? a = none) (id : TypeId) :
    Registering (past ++ [(d, i)]) (known ++ [(a, i, d.span)])
      { s with aliases := ⟨s.aliases.entries ++ [(a, id)]⟩ } := by
  have hfree : holder? past a = none := by simpa [hr, hb] using (h.bound a).symm
  have hother : ∀ n, n ≠ a → holder? [(d, i)] n = none := fun n hn =>
    holder?_singleton_of_ne fun hd => hn (Option.some.inj (hd.symm.trans ha))
  refine ⟨fun n => ?_, fun n => ?_⟩
  · rw [holder?_concat, List.lookup_append, h.known]
    by_cases hn : n = a
    · rw [hn, hfree, holder?_singleton hb ha, List.lookup_cons_self]
      rfl
    · rw [hother n hn, List.lookup_cons, beq_false_of_ne hn, Option.or_none]
      exact Option.or_none
  · have hold := h.bound n
    rw [Aliases.resolve?] at hold ⊢
    rw [holder?_concat, List.lookup_append]
    by_cases hn : n = a
    · rw [hn, holder?_singleton hb ha, List.lookup_cons_self, Option.isSome_or, Option.isSome_or]
      simp
    · rw [hother n hn, List.lookup_cons, beq_false_of_ne hn, Option.or_none, List.lookup_nil,
        Option.or_none, hold]

/-- **One name more is registered**, or refused. -/
theorem registering_registerName {a : String} (ha : d.typeName? = some a) (id : TypeId) :
    Registering (past ++ [(d, i)]) ((registerName known i a d.span id).value s)
      ((registerName known i a d.span id).after s) := by
  have hother : ∀ n, n ≠ a → holder? [(d, i)] n = none := fun n hn =>
    holder?_singleton_of_ne fun hd => hn (Option.some.inj (hd.symm.trans ha))
  cases hb : Aliases.isBuiltin a with
  | true =>
    have hskip : Registering (past ++ [(d, i)]) known s := h.skip fun n => by
      by_cases hn : n = a
      · rw [hn, holder?_of_builtin hb, holder?_of_builtin hb, Option.or_none]
      · rw [hother n hn, Option.or_none]
    rw [registerName, hb]
    exact hskip.reports (reports_error .duplicateSymbol _ _ rfl s)
  | false =>
    cases hr : s.aliases.resolve? a with
    | none =>
      obtain ⟨hafter, hvalue⟩ := registerName_new known hb hr i d.span id
      rw [hafter, hvalue]
      exact h.hold ha hb hr id
    | some held =>
      have htaken : (holder? past a).isSome = true := by simpa [hr, hb] using (h.bound a).symm
      have hskip : Registering (past ++ [(d, i)]) known s := h.skip fun n => by
        by_cases hn : n = a
        · rw [hn, Option.or_of_isSome htaken]
        · rw [hother n hn, Option.or_none]
      have hdefine : s.aliases.define? a id = none := by
        rw [Aliases.define?, hr]
        rfl
      rw [registerName, hb]
      simp only [Bool.false_eq_true, if_false, Walk.after_bind, Walk.value_bind, Walk.value_get,
        Walk.after_get, hdefine]
      exact hskip.reports (reports_duplicate "type" a _ _ s)

/-- **One declaration more.** -/
theorem registering_declareType :
    Registering (past ++ [(d, i)]) ((declareType known i d).value s).1
      ((declareType known i d).after s) := by
  have hskip : d.typeName? = none → Registering (past ++ [(d, i)]) known s := fun hd =>
    h.skip fun n => by
      rw [holder?_singleton_of_ne (by simp [hd]), Option.or_none]
  have hstart : Registering past known { s with owner := some i } := h.congr rfl
  cases d with
  | data span name fields =>
    have hmade : Registering past known
        ((Walk.make (·.newData name span)).after { s with owner := some i }) := hstart.congr rfl
    exact (registering_registerName (d := .data span name fields) hmade rfl _).congr rfl
  | enum span name variants =>
    have hmade : Registering past known
        ((Walk.make (·.newEnum name span variants)).after { s with owner := some i }) :=
      hstart.congr rfl
    exact (registering_registerName (d := .enum span name variants)
      (hmade.reports (reports_repeats span [] variants _)) rfl _).congr rfl
  | «alias» span name target =>
    exact (registering_registerName (d := .alias span name target) hstart rfl _).congr rfl
  | func f => exact (hskip rfl).congr rfl
  | imported span name => exact (hskip rfl).congr rfl

end Register

/-- **All declarations.** -/
theorem registering_declareTypes (rest : List (Decl × Nat)) {past : List (Decl × Nat)}
    {known : TypeNames} {s : State} (h : Registering past known s) :
    Registering (past ++ rest) ((declareTypes known rest).value s).1
      ((declareTypes known rest).after s) := by
  induction rest generalizing past known s with
  | nil => exact (List.append_nil past).symm ▸ h
  | cons e rest ih =>
    rw [List.append_cons, declareTypes]
    exact ih (registering_declareType h)

/-- Every declaration keeps its place. -/
theorem placed_declareTypes (rest : List (Decl × Nat)) (known : TypeNames) (s : State) :
    ((declareTypes known rest).value s).2.map Entry.placed = rest := by
  induction rest generalizing known s with
  | nil => rfl
  | cons e rest ih =>
    rw [declareTypes]
    exact congrArg (List.cons e) (ih _ _)

/-! ## The aliases that are resolved -/

section Targets

variable {ds : List Decl} {known : TypeNames} {s : State}
  (h : Registering ds.zipIdx known s)

include h

/-- **The aliases that are resolved under their names are those that hold them.** -/
theorem mem_aliasTargets_iff {t : AliasTarget} :
    t ∈ aliasTargets known ds.zipIdx ↔ heldAlias? ds.zipIdx t.name = some t := by
  constructor
  · intro ht
    obtain ⟨⟨d, i⟩, hmem, ht⟩ := List.mem_filterMap.1 ht
    cases d with
    | «alias» span name target =>
      obtain ⟨hany, ht⟩ := Option.ite_none_right_eq_some.1 ht
      obtain rfl := Option.some.inj ht
      rw [h.known] at hany
      cases hh : holder? ds.zipIdx name with
      | none => simp [hh] at hany
      | some e =>
        obtain ⟨d', j⟩ := e
        obtain rfl : j = i := by simpa [hh] using hany
        rw [heldAlias?, hh, decl_unique (holder?_spec hh).1 hmem]
        rfl
    | _ => cases ht
  · intro ht
    obtain ⟨hmem, -⟩ := name_heldAlias? ht
    obtain ⟨e, he, ha⟩ := Option.bind_eq_some_iff.1 ht
    refine List.mem_filterMap.2 ⟨_, hmem, if_pos ?_⟩
    obtain ⟨d, j⟩ := e
    cases d with
    | «alias» span name target =>
      obtain rfl := Option.some.inj ha
      rw [h.known, he]
      simp
    | _ => cases ha

/-- **The alias of a name is the one that holds it.** -/
theorem find?_aliasTargets (n : String) :
    (aliasTargets known ds.zipIdx).find? (·.name = n) = heldAlias? ds.zipIdx n := by
  cases hf : (aliasTargets known ds.zipIdx).find? (·.name = n) with
  | none =>
    refine (Option.eq_none_iff_forall_ne_some.2 fun t ht => ?_).symm
    obtain ⟨-, rfl⟩ := name_heldAlias? ht
    simpa using List.find?_eq_none.1 hf t ((mem_aliasTargets_iff h).2 ht)
  | some t =>
    have hname : t.name = n := by simpa using List.find?_some hf
    exact (hname ▸ (mem_aliasTargets_iff h).1 (List.mem_of_find?_eq_some hf)).symm

end Targets

end CoreCheck.Check

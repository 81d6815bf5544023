import CoreCheck.Proofs.Walk.Lockstep

/-!
# Proofs/Walk/Declared — what declarations leave behind

The walks over bodies start from the state that the declarations left.  Its types are sound, the
names of types stand for known types, and what is bound at the top of a module is of a type that
carries no mark: a function, a variant or something imported.  So every body starts paired with
itself.
-/

namespace CoreCheck.Check

open CoreCheck.Types CoreCheck.Scope CoreCheck.Ir

/-- The shapes of what declarations bind. -/
def bare : Shape → Bool
  | .unknown | .enum _ | .func _ _ => true
  | _ => false

/-- **A symbol of a declaration**: without taint, of a type that has none, and nothing can be assigned
to it. -/
structure Symbol.Declared (a : Arena) (sym : Symbol) : Prop where
  shape : ∃ sh, a.lookup sym.type = some sh ∧ bare sh = true
  taint : sym.taint = none
  known : ∀ sig, sym.signature = some sig → Signature.Known a sig
  variant : sym.kind = .variant → ∃ slot, a.lookup sym.type = some (.enum slot)
  fixed : sym.flags.mutable = false ∧ sym.kind ≠ .param

/-- **Scopes at rest**: the table is lawful, only the module's own scope is open, and no fault was
made. -/
structure Resting (table : Table) (opened : List Nat) (fault : Option Fault) : Prop where
  lawful : table.Lawful
  stack_eq : table.stack = [Table.root]
  opened_eq : opened = []
  faultless : fault = none

theorem Enclosed.resting {s t : State} (h : Enclosed s t) (hs : Resting s.table s.opened s.fault) :
    Resting t.table t.opened t.fault where
  lawful := h.lawful hs.lawful
  stack_eq := (h.table hs.lawful.toSound).2.1.trans hs.stack_eq
  opened_eq := h.opened.trans hs.opened_eq
  faultless := (h.faultless hs.lawful.toSound).trans hs.faultless

/-- **A state while declarations are collected.** -/
structure Founded (s : State) : Prop where
  types : s.types.Sound
  aliases : ∀ e ∈ s.aliases.entries, e.2 ≤ s.types.size
  rest : Resting s.table s.opened s.fault
  symbols : ∀ sym ∈ s.table.symbols, Symbol.Declared s.types sym

theorem Founded.table {s : State} (h : Founded s) : s.table.Sound := h.rest.lawful.toSound

theorem founded_initial : Founded {} where
  types := Arena.sound_initial
  aliases := by decide
  rest := ⟨Table.lawful_initial, rfl, rfl, rfl⟩
  symbols _ hsym := absurd hsym (Array.not_mem_empty _)

theorem mem_of_lookup {α : Type} {l : List (String × α)} {name : String} {a : α}
    (h : l.lookup name = some a) : (name, a) ∈ l := by
  obtain ⟨l₁, l₂, rfl, -⟩ := List.lookup_eq_some_iff.1 h
  exact List.mem_append_right l₁ (.head l₂)

theorem Founded.resolve_le {s : State} (h : Founded s) {name : String} {id : TypeId}
    (hr : s.aliases.resolve? name = some id) : id ≤ s.types.size :=
  h.aliases (name, id) (mem_of_lookup hr)

/-! ## Steps of collecting -/

/-- **A step of collecting declarations**: types keep their shapes, and names of types that are not
among the aliases keep their types. -/
structure Laid (targets : List AliasTarget) (s t : State) : Prop where
  founded : Founded t
  shapes : ∀ {id sh}, s.types.lookup id = some sh → t.types.lookup id = some sh
  size_le : s.types.size ≤ t.types.size
  names : ∀ {name id}, (∀ t ∈ targets, t.name ≠ name) → s.aliases.resolve? name = some id →
    t.aliases.resolve? name = some id

theorem Signature.Known.mono {a b : Arena} {sig : Signature} (h : Signature.Known a sig)
    (hab : a.size ≤ b.size) : Signature.Known b sig :=
  ⟨fun p hp => Nat.le_trans (h.params p hp) hab, Nat.le_trans h.result hab⟩

theorem Symbol.Declared.mono {a b : Arena} {sym : Symbol} (h : Symbol.Declared a sym)
    (hshapes : ∀ {id sh}, a.lookup id = some sh → b.lookup id = some sh)
    (hab : a.size ≤ b.size) : Symbol.Declared b sym := by
  obtain ⟨sh, hsh, hbare⟩ := h.shape
  exact ⟨⟨sh, hshapes hsh, hbare⟩, h.taint, fun sig hsig => (h.known sig hsig).mono hab,
    fun hk => (h.variant hk).imp fun _ => hshapes, h.fixed⟩

section Steps

variable {targets : List AliasTarget} {s t u : State}

theorem Laid.refl (h : Founded s) : Laid targets s s :=
  ⟨h, fun h => h, Nat.le_refl _, fun _ h => h⟩

theorem Laid.trans (h : Laid targets s t) (h' : Laid targets t u) : Laid targets s u :=
  ⟨h'.founded, fun hsh => h'.shapes (h.shapes hsh), Nat.le_trans h.size_le h'.size_le,
    fun hno hr => h'.names hno (h.names hno hr)⟩

/-- Only types are made. -/
theorem Laid.types (h : Founded s) {a : Arena} (ha : a.Sound)
    (hshapes : ∀ {id sh}, s.types.lookup id = some sh → a.lookup id = some sh)
    (hsize : s.types.size ≤ a.size) : Laid targets s { s with types := a } :=
  ⟨⟨ha, fun e he => Nat.le_trans (h.aliases e he) hsize, h.rest,
    fun sym hsym => (h.symbols sym hsym).mono hshapes hsize⟩, hshapes, hsize,
    fun _ hr => hr⟩

theorem Laid.made (h : Founded s) {r : Arena × TypeId} (hr : Arena.Made s.types r) :
    Laid targets s { s with types := r.1 } :=
  .types h hr.sound (fun hsh => hr.ext.lookup_some hsh) hr.ext.size_le

theorem Laid.reports (h : Founded s) (hr : Reports s t) : Laid targets s t := by
  rw [hr.eq]
  exact ⟨⟨h.types, h.aliases, h.rest, h.symbols⟩, fun hsh => hsh, Nat.le_refl _, fun _ hn => hn⟩

/-- Observations may belong to another declaration. -/
theorem Laid.ownedBy {α : Type} {x : Walk α} (owner : Nat) (h : Founded s)
    (hx : ∀ s, Founded s → Laid targets s (x.after s)) :
    Laid targets s ((Walk.ownedBy owner x).after s) := by
  have hstep := hx { s with owner := some owner } ⟨h.types, h.aliases, h.rest, h.symbols⟩
  have hstop := hstep.founded
  exact ⟨⟨hstop.types, hstop.aliases, hstop.rest, hstop.symbols⟩, hstep.shapes, hstep.size_le,
    hstep.names⟩

end Steps

/-! ## Record and enumeration types -/

section Details

variable {a : Arena} (h : a.Sound)

include h

theorem sound_newData (name : String) (span : Span) : (a.newData name span).1.Sound :=
  Arena.Sound.intern (h.pushData name span) (fun _ hq => nomatch hq) fun _ _ _ he => nomatch he

theorem sound_newEnum (name : String) (span : Span) (variants : List String) :
    (a.newEnum name span variants).1.Sound :=
  Arena.Sound.intern (h.withEnums _) (fun _ hq => nomatch hq) fun _ _ _ he => nomatch he

end Details

/-! ## Written types -/

/-- **A step that answers a known type.** -/
def Settles (targets : List AliasTarget) (x : Walk TypeId) : Prop :=
  ∀ {s}, Founded s → Laid targets s (x.after s) ∧ x.value s ≤ (x.after s).types.size

/-- A way to look up names of types that answers known types. -/
def Finds (targets : List AliasTarget) (find : Resolver) : Prop :=
  ∀ (name : String) {s}, Founded s → Laid targets s ((find name).after s) ∧
    ∀ id, (find name).value s = some id → id ≤ ((find name).after s).types.size

section Resolve

variable {targets : List AliasTarget} {find : Resolver}

mutual

/-- **A written type stands for a known type.** -/
theorem settles_resolveType (hfind : Finds targets find) (vars : List String) :
    ∀ (t : TypeExpr) (fallback : Span), Settles targets (resolveType find vars fallback t)
  | .name at_ name, fallback, s, h => by
    rw [resolveType]
    split
    · have hmade := Arena.made_var h.types name
      exact ⟨.made h hmade, hmade.le⟩
    · obtain ⟨hl, hle⟩ := hfind name h
      simp only [Walk.after_bind, Walk.value_bind]
      cases hr : (find name).value s with
      | some id => exact ⟨hl, hle id hr⟩
      | none =>
        have hreport : Laid targets _ _ :=
          .reports hl.founded (reports_unknownType name (at_.orElse fallback) _)
        exact ⟨hl.trans hreport, hreport.founded.types.builtin_le (show unknown ≤ 8 by decide)⟩
  | .var _ name, fallback, s, h => by
    rw [resolveType]
    have hmade := Arena.made_var h.types name
    exact ⟨.made h hmade, hmade.le⟩
  | .optional at_ elem, fallback, s, h => by
    rw [resolveType]
    obtain ⟨hl, hle⟩ := settles_resolveType hfind vars elem (at_.orElse fallback) h
    have hmade := Arena.made_optional hl.founded.types hle
    simp only [Walk.after_bind, Walk.value_bind, Walk.value_types, Walk.after_types]
    by_cases hk : ((resolveType find vars (at_.orElse fallback) elem).after s).types.kindOf
        ((resolveType find vars (at_.orElse fallback) elem).value s) = .optional
    · simp only [hk, beq_self_eq_true, if_true]
      exact ⟨hl, hle⟩
    · simp only [beq_false_of_ne hk, Bool.false_eq_true, if_false]
      exact ⟨hl.trans (.made hl.founded hmade), hmade.le⟩
  | .list at_ elem, fallback, s, h => by
    rw [resolveType]
    obtain ⟨hl, hle⟩ := settles_resolveType hfind vars elem (at_.orElse fallback) h
    have hmade := Arena.made_list hl.founded.types hle
    exact ⟨hl.trans (.made hl.founded hmade), hmade.le⟩
  | .map at_ key value, fallback, s, h => by
    rw [resolveType]
    obtain ⟨hl, hk⟩ := settles_resolveType hfind vars key (at_.orElse fallback) h
    obtain ⟨hr, hv⟩ := settles_resolveType hfind vars value (at_.orElse fallback) hl.founded
    have hmade := Arena.made_map hr.founded.types (Nat.le_trans hk hr.size_le) hv
    exact ⟨(hl.trans hr).trans (.made hr.founded hmade), hmade.le⟩
  | .result at_ ok err, fallback, s, h => by
    rw [resolveType]
    obtain ⟨hl, hk⟩ := settles_resolveType hfind vars ok (at_.orElse fallback) h
    obtain ⟨hr, hv⟩ := settles_resolveType hfind vars err (at_.orElse fallback) hl.founded
    have hmade := Arena.made_result hr.founded.types (Nat.le_trans hk hr.size_le) hv
    exact ⟨(hl.trans hr).trans (.made hr.founded hmade), hmade.le⟩
  | .func at_ params ret, fallback, s, h => by
    rw [resolveType]
    obtain ⟨hl, hps⟩ := settles_resolveTypes hfind vars params (at_.orElse fallback) h
    obtain ⟨hr, hv⟩ := settles_resolveResult hfind vars ret (at_.orElse fallback) hl.founded
    have hmade := Arena.made_func hr.founded.types
      (fun p hp => Nat.le_trans (hps p hp) hr.size_le) hv
    exact ⟨(hl.trans hr).trans (.made hr.founded hmade), hmade.le⟩
  | .pii at_ elem level category, fallback, s, h => by
    rw [resolveType]
    obtain ⟨hl, hle⟩ := settles_resolveType hfind vars elem (at_.orElse fallback) h
    have hmade := Arena.made_pii hl.founded.types hle level category
    exact ⟨hl.trans (.made hl.founded hmade), hmade.le⟩

theorem settles_resolveTypes (hfind : Finds targets find) (vars : List String) :
    ∀ (ts : List TypeExpr) (fallback : Span) {s}, Founded s →
      Laid targets s ((resolveTypes find vars fallback ts).after s) ∧
      ∀ id ∈ (resolveTypes find vars fallback ts).value s,
        id ≤ ((resolveTypes find vars fallback ts).after s).types.size
  | [], fallback, s, h => by
    rw [resolveTypes]
    exact ⟨.refl h, fun _ hid => nomatch hid⟩
  | t :: ts, fallback, s, h => by
    rw [resolveTypes]
    obtain ⟨hl, hle⟩ := settles_resolveType hfind vars t fallback h
    obtain ⟨hr, hrest⟩ := settles_resolveTypes hfind vars ts fallback hl.founded
    refine ⟨hl.trans hr, fun id hid => ?_⟩
    obtain rfl | hid := List.mem_cons.1 hid
    · exact Nat.le_trans hle hr.size_le
    · exact hrest id hid

theorem settles_resolveResult (hfind : Finds targets find) (vars : List String) :
    ∀ (t : Option TypeExpr) (fallback : Span), Settles targets (resolveResult find vars fallback t)
  | none, fallback, s, h => by
    rw [resolveResult]
    exact ⟨.refl h, h.types.builtin_le (show unit ≤ 8 by decide)⟩
  | some t, fallback, s, h => by
    rw [resolveResult]
    exact settles_resolveType hfind vars t fallback h

end

theorem finds_tableResolver : Finds targets tableResolver := fun _ _ h =>
  ⟨.refl h, fun _ hr => h.resolve_le hr⟩

end Resolve

/-! ## Names of types -/

theorem resolve?_set_of_ne (t : Aliases) {name other : String} (h : name ≠ other) (id : TypeId) :
    (t.set name id).resolve? other = t.resolve? other := by
  rw [Aliases.set]
  split
  · rw [Aliases.resolve?, Aliases.resolve?]
    induction t.entries with
    | nil => rfl
    | cons e l ih =>
      rw [List.map_cons, List.lookup_cons, List.lookup_cons, ih]
      by_cases hn : e.1 = name
      · rw [if_pos hn, hn, beq_false_of_ne h.symm]
      · rw [if_neg hn]
  · rw [Aliases.resolve?, Aliases.resolve?, List.lookup_append]
    have hnew : [(name, id)].lookup other = none := by
      rw [List.lookup_cons, beq_false_of_ne h.symm]
      rfl
    rw [hnew, Option.or_none]

theorem entries_set (t : Aliases) (name : String) (id : TypeId) :
    ∀ e ∈ (t.set name id).entries, e ∈ t.entries ∨ e.2 = id := by
  intro e he
  rw [Aliases.set] at he
  split at he
  · obtain ⟨⟨n, i⟩, he', rfl⟩ := List.mem_map.1 he
    dsimp only
    split
    · exact .inr rfl
    · exact .inl he'
  · obtain he | he := List.mem_append.1 he
    · exact .inl he
    · rw [List.mem_singleton.1 he]
      exact .inr rfl

section Names

variable {targets : List AliasTarget}

/-- **Names of types are found while aliases are resolved.** -/
theorem finds_aliasResolver : ∀ fuel : Nat, Finds targets (aliasResolver targets fuel)
  | 0, name, s, h => by
    refine ⟨.refl h, ?_⟩
    rintro _ ⟨⟩
    exact h.types.builtin_le (show unknown ≤ 8 by decide)
  | fuel + 1, name, s, h => by
    rw [aliasResolver]
    cases hfind : targets.find? (·.name = name) with
    | none => exact finds_tableResolver name h
    | some t =>
      simp only [Walk.after_bind, Walk.value_bind, Walk.value_get, Walk.after_get]
      cases s.visits.lookup name with
      | none =>
        -- the alias is marked, resolved on its own account, and set
        have hmark : Laid targets s { s with visits := (name, .visiting) :: s.visits } :=
          ⟨⟨h.types, h.aliases, h.rest, h.symbols⟩, fun hsh => hsh, Nat.le_refl _, fun _ hn => hn⟩
        have hown : Founded { s with visits := (name, .visiting) :: s.visits, owner := some t.index } :=
          ⟨h.types, h.aliases, h.rest, h.symbols⟩
        obtain ⟨hl, hle⟩ :=
          settles_resolveType (finds_aliasResolver fuel) [] t.target t.span hown
        have hf := hl.founded
        refine ⟨⟨⟨hf.types, ?_, hf.rest, hf.symbols⟩, hl.shapes, hl.size_le, ?_⟩, ?_⟩
        · intro e he
          obtain he | he := entries_set _ name _ e he
          · exact hf.aliases e he
          · rw [he]
            exact hle
        · intro other id hno hr
          have hne : name ≠ other := by
            have hname : t.name = name := by simpa using List.find?_some hfind
            rw [← hname]
            exact hno t (List.mem_of_find?_eq_some hfind)
          exact (resolve?_set_of_ne _ hne _).trans (hl.names hno hr)
        · rintro _ ⟨⟩
          exact hle
      | some visit =>
        cases visit with
        | visiting =>
          have hreport : ∀ d : Diagnostic, d.code = .unknownType →
              Laid targets s ((Walk.ownedBy t.index (Walk.report d)).after s) :=
            fun d hd => .ownedBy t.index h fun s h => .reports h (reports_report _ rfl hd s)
          refine ⟨hreport _ rfl, ?_⟩
          rintro _ ⟨⟩
          exact h.types.builtin_le (show unknown ≤ 8 by decide)
        | done =>
          refine ⟨.refl h, ?_⟩
          rintro _ ⟨⟩
          change (s.aliases.resolve? name).getD 0 ≤ s.types.size
          cases hr : s.aliases.resolve? name with
          | none => exact Nat.zero_le _
          | some id => exact h.resolve_le hr

theorem finds_onDemand : Finds targets (onDemand targets) := finds_aliasResolver _

end Names

/-- **The enumerations that hold their names**: those names stand for enumeration types. -/
def Named (decls : List (Decl × Nat)) (known : TypeNames) (s : State) : Prop :=
  ∀ name i place span variants, known.lookup name = some (i, place) →
    (Decl.enum span name variants, i) ∈ decls →
    ∃ id slot, s.aliases.resolve? name = some id ∧ s.types.lookup id = some (.enum slot)

theorem Named.laid {decls : List (Decl × Nat)} {known : TypeNames} {s t : State}
    (h : Named decls known s) (hl : Laid [] s t) : Named decls known t := by
  intro name i place span variants hk hd
  obtain ⟨id, slot, hr, hs⟩ := h _ _ _ _ _ hk hd
  exact ⟨id, slot, hl.names (fun _ ht => nomatch ht) hr, hl.shapes hs⟩

theorem decl_unique {decls : List Decl} {d d' : Decl} {i : Nat} (h : (d, i) ∈ decls.zipIdx)
    (h' : (d', i) ∈ decls.zipIdx) : d = d' :=
  Option.some.inj ((List.mem_zipIdx_iff_getElem?.1 h).symm.trans (List.mem_zipIdx_iff_getElem?.1 h'))

/-- **Registering a name** keeps what was registered before. -/
theorem laid_registerName {decls : List Decl} {known : TypeNames} {s : State} (h : Founded s)
    (hn : Named decls.zipIdx known s) {d : Decl} {i : Nat} (hd : (d, i) ∈ decls.zipIdx)
    (name : String) (span : Span) {id : TypeId} (hid : id ≤ s.types.size)
    (henum : ∀ span variants, d = .enum span name variants →
      ∃ slot, s.types.lookup id = some (.enum slot)) :
    Laid [] s ((registerName known i name span id).after s) ∧
      Named decls.zipIdx ((registerName known i name span id).value s)
        ((registerName known i name span id).after s) := by
  rw [registerName]
  split
  · have hl : ∀ m, Laid [] s ((Walk.error .duplicateSymbol span m).after s) :=
      fun m => .reports h ((reports_error .duplicateSymbol span m rfl) s)
    exact ⟨hl _, hn.laid (hl _)⟩
  · simp only [Walk.after_bind, Walk.value_bind, Walk.value_get, Walk.after_get]
    cases hdef : s.aliases.define? name id with
    | none =>
      have hl : ∀ p, Laid [] s ((Walk.reportDuplicate "type" name span p).after s) :=
        fun p => .reports h (reports_duplicate "type" name span p s)
      exact ⟨hl _, hn.laid (hl _)⟩
    | some aliases =>
      rw [Aliases.define?] at hdef
      split at hdef
      · exact nomatch hdef
      · next hfree =>
        obtain rfl := Option.some.inj hdef
        have hl : Laid [] s { s with aliases := ⟨s.aliases.entries ++ [(name, id)]⟩ } := by
          refine ⟨⟨h.types, ?_, h.rest, h.symbols⟩, fun hsh => hsh, Nat.le_refl _, ?_⟩
          · intro e he
            obtain he | he := List.mem_append.1 he
            · exact h.aliases e he
            · rw [List.mem_singleton.1 he]
              exact hid
          · intro other oid _ hr
            rw [Aliases.resolve?] at hr
            rw [Aliases.resolve?, List.lookup_append, hr]
            rfl
        refine ⟨hl, ?_⟩
        intro other j place espan variants hk hmem
        replace hk : (known ++ [(name, i, span)]).lookup other = some (j, place) := hk
        rw [List.lookup_append] at hk
        cases hold : known.lookup other with
        | some old =>
          rw [hold] at hk
          exact hn.laid hl _ _ _ _ _ (hold.trans hk) hmem
        | none =>
          rw [hold, Option.none_or] at hk
          obtain ⟨rfl, rfl, -⟩ : other = name ∧ j = i ∧ place = span := by
            simpa using mem_of_lookup hk
          obtain ⟨slot, hslot⟩ := henum espan variants (decl_unique hd hmem)
          refine ⟨id, slot, ?_, hslot⟩
          have hnone := Option.not_isSome_iff_eq_none.1 hfree
          rw [Aliases.resolve?] at hnone
          change (s.aliases.entries ++ [(_, id)]).lookup _ = some id
          rw [List.lookup_append, hnone, List.lookup_cons_self]
          rfl

theorem reports_repeats (span : Span) (seen vs : List String) :
    Walk.Keeps Reports (reportRepeats span seen vs) := by
  induction vs generalizing seen with
  | nil => exact .pure _
  | cons v vs ih =>
    rw [reportRepeats]
    exact .ite (.bind (reports_duplicate _ _ _ _) fun _ => ih _) (ih _)

/-- **Making the type of a declaration.** -/
theorem laid_declareType {decls : List Decl} {known : TypeNames} {s : State} (h : Founded s)
    (hn : Named decls.zipIdx known s) {d : Decl} {i : Nat} (hd : (d, i) ∈ decls.zipIdx) :
    Laid [] s ((declareType known i d).after s) ∧
      Named decls.zipIdx ((declareType known i d).value s).1 ((declareType known i d).after s) := by
  have hown : Founded { s with owner := some i } := ⟨h.types, h.aliases, h.rest, h.symbols⟩
  have hnown : Named decls.zipIdx known { s with owner := some i } := hn
  -- what an owner stands for is no matter
  have hback : ∀ {t : State} {k : TypeNames}, Laid [] { s with owner := some i } t ∧
      Named decls.zipIdx k t → Laid [] s { t with owner := s.owner } ∧
      Named decls.zipIdx k { t with owner := s.owner } := by
    rintro t k ⟨hl, hk⟩
    have hf := hl.founded
    exact ⟨⟨⟨hf.types, hf.aliases, hf.rest, hf.symbols⟩, hl.shapes, hl.size_le, hl.names⟩, hk⟩
  have hstay : Laid [] s s ∧ Named decls.zipIdx known s := ⟨.refl h, hn⟩
  cases d with
  | data span name fields =>
    have hext : Arena.Extends { s.types with datas := s.types.datas.push { name, span } }
      (s.types.newData name span).1 := Arena.extends_intern _ _
    have hl : Laid [] { s with owner := some i }
        { s with owner := i, types := (s.types.newData name span).1 } :=
      .types hown (sound_newData h.types name span) (fun hsh => hext.lookup_some hsh) hext.size_le
    obtain ⟨hr, hk⟩ := laid_registerName hl.founded (hnown.laid hl) hd name span
      (Arena.intern_le_size _ _) fun _ _ he => nomatch he
    exact hback ⟨hl.trans hr, hk⟩
  | enum span name variants =>
    have hext : Arena.Extends { s.types with enums := s.types.enums.push { name, span, variants } }
      (s.types.newEnum name span variants).1 := Arena.extends_intern _ _
    have hl : Laid [] { s with owner := some i }
        { s with owner := i, types := (s.types.newEnum name span variants).1 } :=
      .types hown (sound_newEnum h.types name span variants) (fun hsh => hext.lookup_some hsh)
        hext.size_le
    have hrep : Laid [] _ _ := .reports hl.founded (reports_repeats span [] variants _)
    obtain ⟨hr, hk⟩ := laid_registerName hrep.founded ((hnown.laid hl).laid hrep) hd name span
      (Nat.le_trans (Arena.intern_le_size _ _) hrep.size_le)
      fun _ _ _ => ⟨_, hrep.shapes (Arena.lookup_intern _ _)⟩
    exact hback ⟨(hl.trans hrep).trans hr, hk⟩
  | «alias» span name target =>
    exact hback (laid_registerName hown hn hd name span
      (h.types.builtin_le (show unknown ≤ 8 by decide)) fun _ _ he => nomatch he)
  | func f => exact hstay
  | imported span name => exact hstay

/-- The types of all declarations. -/
theorem laid_declareTypes {decls : List Decl} : ∀ (rest : List (Decl × Nat)) {known : TypeNames}
    {s : State}, Founded s → Named decls.zipIdx known s → (∀ e ∈ rest, e ∈ decls.zipIdx) →
    Laid [] s ((declareTypes known rest).after s) ∧
      Named decls.zipIdx ((declareTypes known rest).value s).1 ((declareTypes known rest).after s)
  | [], known, s, h, hn, _ => ⟨.refl h, hn⟩
  | (d, i) :: rest, known, s, h, hn, hmem => by
    rw [declareTypes]
    obtain ⟨hl, hk⟩ := laid_declareType h hn (hmem _ (.head _))
    obtain ⟨hr, hk'⟩ := laid_declareTypes rest hl.founded hk fun e he => hmem e (.tail _ he)
    exact ⟨hl.trans hr, hk'⟩

section Fields

variable {targets : List AliasTarget}

theorem settles_resolveFields {find : Resolver} (hfind : Finds targets find) (owner : Span) :
    ∀ (fs : List TypedName) (seen : List (String × Span)) {s : State}, Founded s →
      Laid targets s ((resolveFields find owner seen fs).after s) ∧
      ∀ f ∈ (resolveFields find owner seen fs).value s,
        f.type ≤ ((resolveFields find owner seen fs).after s).types.size
  | [], seen, s, h => ⟨.refl h, fun _ hf => nomatch hf⟩
  | f :: fs, seen, s, h => by
    rw [resolveFields]
    cases seen.lookup f.name with
    | some previous =>
      have hreport : Laid targets s _ :=
        .reports h (reports_duplicate "field" f.name (f.span.orElse owner) previous s)
      obtain ⟨hr, hrest⟩ := settles_resolveFields hfind owner fs seen hreport.founded
      exact ⟨hreport.trans hr, hrest⟩
    | none =>
      obtain ⟨hl, hle⟩ := settles_resolveType hfind [] f.type owner h
      obtain ⟨hr, hrest⟩ := settles_resolveFields hfind owner fs
        ((f.name, f.span.orElse owner) :: seen) hl.founded
      refine ⟨hl.trans hr, fun g hg => ?_⟩
      obtain rfl | hg := List.mem_cons.1 hg
      · exact Nat.le_trans hle hr.size_le
      · exact hrest g hg

/-- **Resolving a declaration** sets what it stands for. -/
theorem laid_resolveDecl (d : Decl × Nat × Option TypeId) {s : State} (h : Founded s) :
    Laid targets s ((resolveDecl targets d).after s) := by
  have hstay : Laid targets s s := .refl h
  obtain ⟨d, i, id⟩ := d
  cases d with
  | «alias» span name target =>
    rw [resolveDecl, Walk.after_ite]
    split
    · exact (finds_onDemand name h).1
    · exact .ownedBy i h fun s h => (settles_resolveType finds_onDemand [] target span h).1
  | data span name fields =>
    cases id with
    | none => exact hstay
    | some id =>
      refine .ownedBy i h fun s h => ?_
      obtain ⟨hl, hle⟩ := settles_resolveFields finds_onDemand span fields [] h
      refine hl.trans (.types hl.founded (hl.founded.types.setFields id hle) ?_ ?_)
      · intro j sh hsh
        rw [Arena.lookup, Arena.shapes_setFields]
        exact hsh
      · rw [Arena.size, Arena.size, Arena.shapes_setFields]
        exact Nat.le_refl _
  | enum span name variants => exact hstay
  | func f => exact hstay
  | imported span name => exact hstay

theorem laid_resolveDecls : ∀ (ds : List (Decl × Nat × Option TypeId)) {s : State}, Founded s →
    Laid targets s ((ds.forM (resolveDecl targets)).after s)
  | [], s, h => .refl h
  | d :: ds, s, h => by
    have hl : Laid targets s _ := laid_resolveDecl d h
    exact hl.trans (laid_resolveDecls ds hl.founded)

end Fields

/-- An alias that holds its name is no enumeration. -/
theorem ne_of_aliasTargets {decls : List Decl} {known : TypeNames} {name : String} {i : Nat}
    {place span : Span} {variants : List String} (hk : known.lookup name = some (i, place))
    (hd : (Decl.enum span name variants, i) ∈ decls.zipIdx) :
    ∀ t ∈ aliasTargets known decls.zipIdx, t.name ≠ name := by
  rintro t ht rfl
  obtain ⟨⟨d, j⟩, hmem, ht⟩ := List.mem_filterMap.1 ht
  cases d with
  | «alias» aspan aname target =>
    simp only [Option.ite_none_right_eq_some] at ht
    obtain ⟨hany, ht⟩ := ht
    obtain rfl := Option.some.inj ht
    have hij : i = j := by simpa [hk] using hany
    subst hij
    exact nomatch decl_unique hd hmem
  | _ => exact nomatch ht

/-- **The type names of a module.** -/
theorem founded_collectTypes (decls : List Decl) {s : State} (h : Founded s) :
    Founded ((collectTypes decls.zipIdx).after s) ∧
      Named decls.zipIdx ((collectTypes decls.zipIdx).value s)
        ((collectTypes decls.zipIdx).after s) := by
  have hempty : Named decls.zipIdx [] s := fun _ _ _ _ _ hlook => nomatch hlook
  obtain ⟨hl, hk⟩ := laid_declareTypes decls.zipIdx h hempty fun _ he => he
  have hr : Laid (aliasTargets ((declareTypes [] decls.zipIdx).value s).1 decls.zipIdx) _ _ :=
    laid_resolveDecls ((declareTypes [] decls.zipIdx).value s).2 hl.founded
  refine ⟨hr.founded, ?_⟩
  intro name i place span variants hlook hmem
  obtain ⟨id, slot, hres, hslot⟩ := hk _ _ _ _ _ hlook hmem
  exact ⟨id, slot, hr.names (ne_of_aliasTargets hlook hmem) hres, hr.shapes hslot⟩

/-! ## Values -/

theorem laid_define {s : State} (h : Founded s) (name : String) (sym : Symbol)
    (hsym : Symbol.Declared s.types sym) (what : String) :
    Laid [] s ((Walk.define name sym what).after s) := by
  obtain ⟨-, e, he⟩ | ⟨-, hd, hnone⟩ := h.table.define_cases name sym
  · rw [Walk.after_define_error he]
    exact .reports h (reports_duplicate _ _ _ _ s)
  · rw [Walk.after_define_ok hd]
    have hrest : Resting (s.table.bound name sym) s.opened s.fault :=
      ⟨h.rest.lawful.bound sym hnone, (Table.stack_bound _ _ _).trans h.rest.stack_eq,
        h.rest.opened_eq, h.rest.faultless⟩
    refine ⟨⟨h.types, h.aliases, hrest, ?_⟩, fun hsh => hsh, Nat.le_refl _, fun _ hn => hn⟩
    intro x hx
    rw [Table.symbols_bound] at hx
    obtain hx | rfl := Array.mem_push.1 hx
    · exact h.symbols x hx
    · exact ⟨hsym.shape, hsym.taint, hsym.known, hsym.variant, hsym.fixed⟩

theorem laid_defineVariants (span : Span) (type : TypeId) : ∀ (vs : List String) {s : State},
    Founded s → (∃ slot, s.types.lookup type = some (.enum slot)) →
    Laid [] s ((defineVariants span type vs).after s)
  | [], s, h, _ => .refl h
  | v :: vs, s, h, ⟨slot, hslot⟩ => by
    rw [defineVariants]
    have hl := laid_define h v { kind := .variant, span, type }
      ⟨⟨_, hslot, rfl⟩, rfl, (fun _ hsig => nomatch hsig), fun _ => ⟨slot, hslot⟩, rfl, by simp⟩
      "value"
    have hrest := fun {t : State} (ht : Laid [] s t) =>
      ht.trans (laid_defineVariants span type vs ht.founded ⟨slot, ht.shapes hslot⟩)
    rw [Walk.after_bind, Walk.after_get, Walk.after_ite]
    split
    · exact hrest (.refl h)
    · exact hrest hl

theorem settles_resolveParams (vars : List String) (owner : Span) :
    ∀ (ps : List TypedName) {s : State}, Founded s →
      Laid [] s ((resolveParams tableResolver vars owner ps).after s) ∧
      ∀ p ∈ (resolveParams tableResolver vars owner ps).value s,
        p.type ≤ ((resolveParams tableResolver vars owner ps).after s).types.size
  | [], s, h => ⟨.refl h, fun _ hp => nomatch hp⟩
  | p :: ps, s, h => by
    rw [resolveParams]
    obtain ⟨hl, hle⟩ := settles_resolveType finds_tableResolver vars p.type (p.span.orElse owner) h
    obtain ⟨hr, hrest⟩ := settles_resolveParams vars owner ps hl.founded
    refine ⟨hl.trans hr, fun q hq => ?_⟩
    obtain rfl | hq := List.mem_cons.1 hq
    · exact Nat.le_trans hle hr.size_le
    · exact hrest q hq

/-- **The signature of a function is made of known types.** -/
theorem settles_signatureOf (f : Func) {s : State} (h : Founded s) :
    Laid [] s ((signatureOf f).after s) ∧
      Signature.Known ((signatureOf f).after s).types ((signatureOf f).value s) := by
  rw [signatureOf]
  obtain ⟨hl, hps⟩ := settles_resolveParams f.typeParams f.span f.params h
  obtain ⟨hr, hres⟩ := settles_resolveResult finds_tableResolver f.typeParams f.ret f.span hl.founded
  exact ⟨hl.trans hr, fun p hp => Nat.le_trans (hps p hp) hr.size_le, hres⟩

/-- **Binding what a declaration introduces.** -/
theorem laid_declareValue {decls : List Decl} {known : TypeNames} {s : State} (h : Founded s)
    (hn : Named decls.zipIdx known s) {d : Decl} {i : Nat} (hd : (d, i) ∈ decls.zipIdx) :
    Laid [] s ((declareValue known d i).after s) ∧
      ∀ sig, (declareValue known d i).value s = some sig →
        Signature.Known ((declareValue known d i).after s).types sig := by
  have hown : Founded { s with owner := some i } := ⟨h.types, h.aliases, h.rest, h.symbols⟩
  have hback : ∀ {t : State}, Laid [] { s with owner := some i } t →
      Laid [] s { t with owner := s.owner } := by
    intro t hl
    have hf := hl.founded
    exact ⟨⟨hf.types, hf.aliases, hf.rest, hf.symbols⟩, hl.shapes, hl.size_le, hl.names⟩
  have hstay : Laid [] s s ∧ ∀ sig, none = some sig → Signature.Known s.types sig :=
    ⟨.refl h, fun _ hsig => nomatch hsig⟩
  cases d with
  | func f =>
    obtain ⟨hl, hsig⟩ := settles_signatureOf f hown
    have hps : ∀ p ∈ ((signatureOf f).value { s with owner := some i }).paramTypes,
        p ≤ ((signatureOf f).after { s with owner := some i }).types.size := by
      intro p hp
      obtain ⟨q, hq, rfl⟩ := List.mem_map.1 hp
      exact hsig.params q hq
    have hmade := Arena.made_func hl.founded.types hps hsig.result
    have hm : Laid [] _ _ := .made hl.founded hmade
    have hdef := laid_define hm.founded f.name
      { kind := .function, span := f.span, type := _,
        signature := some ((signatureOf f).value { s with owner := some i }) }
      ⟨⟨_, Arena.lookup_func _ _ _, rfl⟩, rfl, by
        rintro _ ⟨⟩
        exact hsig.mono hm.size_le, (fun hk => nomatch hk), rfl, by simp⟩ "function"
    refine ⟨hback ((hl.trans hm).trans hdef), ?_⟩
    rintro _ ⟨⟩
    exact hsig.mono (Nat.le_trans hm.size_le hdef.size_le)
  | enum span name variants =>
    rw [declareValue]
    split
    · next hk =>
      obtain ⟨⟨j, place⟩, hlook, hj⟩ := (Option.any_eq_true _ _).1 hk
      obtain rfl : j = i := of_decide_eq_true hj
      obtain ⟨id, slot, hres, hslot⟩ := hn _ _ _ _ _ hlook hd
      have hvs := laid_defineVariants span ((s.aliases.resolve? name).getD 0) variants hown
        ⟨slot, by rw [hres]; exact hslot⟩
      exact ⟨hback hvs, fun _ hsig => nomatch hsig⟩
    · exact ⟨hback (.refl hown), fun _ hsig => nomatch hsig⟩
  | imported span name =>
    have hdef := laid_define hown name
      { kind := .imported, span, type := unknown, flags := { builtin := true } }
      ⟨⟨.unknown, h.types.builtin.2 unknown (by decide), rfl⟩, rfl,
        (fun _ hsig => nomatch hsig), (fun hk => nomatch hk), rfl, by simp⟩ "import"
    exact ⟨hback hdef, fun _ hsig => nomatch hsig⟩
  | data span name fields => exact hstay
  | «alias» span name target => exact hstay

theorem laid_declareValues {decls : List Decl} {known : TypeNames} :
    ∀ (rest : List (Decl × Nat)) {s : State}, Founded s → Named decls.zipIdx known s →
    (∀ e ∈ rest, e ∈ decls.zipIdx) →
    Laid [] s ((declareValues known rest).after s) ∧
      ∀ sig, some sig ∈ (declareValues known rest).value s →
        Signature.Known ((declareValues known rest).after s).types sig
  | [], s, h, _, _ => ⟨.refl h, fun _ hsig => nomatch hsig⟩
  | (d, i) :: rest, s, h, hn, hmem => by
    rw [declareValues]
    obtain ⟨hl, hsig⟩ := laid_declareValue h hn (hmem _ (.head _))
    obtain ⟨hr, hrest⟩ := laid_declareValues rest hl.founded (hn.laid hl)
      fun e he => hmem e (.tail _ he)
    refine ⟨hl.trans hr, fun sig hs => ?_⟩
    obtain hs | hs := List.mem_cons.1 hs
    · exact (hsig sig hs.symm).mono hr.size_le
    · exact hrest sig hs

/-- **What declarations leave behind is founded**, and signatures are made of known types. -/
theorem founded_declare (decls : List Decl) :
    Founded ((declare decls).after {}) ∧
      ∀ sig, some sig ∈ (declare decls).value {} →
        Signature.Known ((declare decls).after {}).types sig := by
  obtain ⟨hf, hn⟩ := founded_collectTypes decls founded_initial
  obtain ⟨hl, hsig⟩ := laid_declareValues decls.zipIdx hf hn fun _ he => he
  exact ⟨hl.founded, hsig⟩

/-! ## Bodies -/

/-- The state in which the walk over a body starts. -/
def Survey.start (s : Survey) (b : Body) : State :=
  { s.declared with owner := some b.index, log := #[] }

theorem Founded.ground {s : State} (h : Founded s) : Ground s := ⟨h.types, h.resolve_le⟩

/-- **A founded state is paired with itself.** -/
theorem Founded.paired {d s : State} (h : Founded d) (ht : s.types = d.types)
    (hs : s.table = d.table) (ha : s.aliases = d.aliases) : Paired d s s := by
  have hover : Over d s := ⟨ht ▸ h.types, ht ▸ .refl _, ha, hs ▸ h.table⟩
  refine ⟨h.ground, hover, hover, List.forall₂_same.2 fun ns hns m => ?_⟩
  rw [hs] at hns
  cases hm : ns m with
  | none => exact .none
  | some sym =>
    have hsym := h.symbols sym (Table.mem_symbols_of_view hns hm)
    obtain ⟨sh, hsh, -⟩ := hsym.shape
    exact .some ⟨rfl, rfl, rfl, hsym.known, fun hk => ⟨rfl, hsym.variant hk⟩,
      .refl (ht ▸ Arena.le_size_of_lookup hsh), .refl _⟩

section Survey

variable {m : Module} {b : Body}

/-- **A body of a module is a walk over one of its functions**, from the declarations. -/
theorem mem_bodies (hb : b ∈ (survey m).bodies) :
    (Decl.func b.func, b.index) ∈ m.decls.zipIdx ∧
      some b.signature ∈ (declare m.decls).value {} ∧
      b = Body.ofFunc (survey m).declared b.index b.func b.signature := by
  obtain ⟨⟨⟨d, i⟩, sig⟩, hmem, hbody⟩ := List.mem_filterMap.1 hb
  have hd := (List.of_mem_zip hmem).1
  have hsig := (List.of_mem_zip hmem).2
  cases d with
  | func f =>
    cases sig with
    | none => exact nomatch hbody
    | some sig =>
      obtain rfl := Option.some.inj hbody
      exact ⟨hd, hsig, rfl⟩
  | _ => exact nomatch hbody

theorem founded_survey (m : Module) : Founded (survey m).declared := (founded_declare m.decls).1

theorem known_signature (hb : b ∈ (survey m).bodies) :
    Signature.Known (survey m).declared.types b.signature :=
  (founded_declare m.decls).2 _ (mem_bodies hb).2.1

theorem paired_start (m : Module) (b : Body) :
    Paired (survey m).declared ((survey m).start b) ((survey m).start b) :=
  (founded_survey m).paired rfl rfl rfl

end Survey

theorem KeepingBody.defineParams {E R : State → State → Prop} [Walk.Course R]
    (h : KeepingBody E R) : ∀ ps : List Param, Walk.Keeps R (defineParams ps)
  | [] => .pure _
  | p :: ps => by
    rw [Check.defineParams]
    exact .look (fun _ => rfl) fun _ => .bind (h.define _ _ _) fun _ => defineParams h ps

theorem onward_defineParams (ps : List Param) : Walk.Keeps Onward (defineParams ps) :=
  keepingBody_onward.defineParams ps

/-- **The report of a missing return**, with the label of the type that is to be returned. -/
def missingReturn (f : Func) (label : String) : Diagnostic :=
  (Diagnostic.error .missingReturn f.span ("function " ++ Text.quote f.name
    ++ " may finish without returning a value of type " ++ label)).withHelp
    "add a return statement at the end of every path"

theorem code_missingReturn (f : Func) (label : String) :
    (missingReturn f label).code = .missingReturn := rfl

/-- What is left of a body behind its statements. -/
def ending (f : Func) (result : TypeId) (closed : Bool) : Walk Unit := do
  if !closed && needsReturn (← Walk.types) result then
    let label ← Walk.labelOf result
    Walk.report (missingReturn f label)

theorem walkBody_eq (f : Func) (sig : Signature) :
    walkBody f sig = Walk.within .function f.span (do
      defineParams sig.params
      let closed ← checkBlock ⟨f.name, f.span, f.typeParams, sig.result⟩ f.body
      ending f sig.result closed) := rfl

/-- **Behind its statements a body makes at most one report.** -/
theorem after_ending (f : Func) (result : TypeId) (closed : Bool) (s : State) :
    (ending f result closed).after s =
      if !closed && needsReturn s.types result then
        (Walk.report (missingReturn f ((Walk.labelOf result).value s))).after s
      else s := by
  rw [ending, Walk.after_bind, Walk.value_types, Walk.after_types, Walk.after_ite, Walk.after_bind,
    Walk.after_labelOf, Walk.after_pure]

theorem Keeping.ending {R : State → State → Prop} [Walk.Course R] (h : Keeping R) (f : Func)
    (result : TypeId) (closed : Bool) : Walk.Keeps R (ending f result closed) := by
  intro s
  rw [after_ending]
  split
  · exact h.observe (.problem _) (congrArg Code.isSemantic (code_missingReturn f _)) s
  · exact Walk.Course.refl s

theorem quiet_ending (f : Func) (result : TypeId) (closed : Bool) :
    Walk.Keeps Quiet (ending f result closed) := keeping_quiet.ending f result closed

/-- **Bodies keep what their steps keep.** -/
theorem KeepingBody.walkBody {E R : State → State → Prop} [Walk.Course E] [Walk.Course R]
    (h : KeepingBody E R) (f : Func) (sig : Signature) : Walk.Keeps E (walkBody f sig) :=
  h.within .function f.span (by decide) <| .bind (h.defineParams sig.params) fun _ =>
    .bind (h.block _ f.body) fun closed => h.all (h.ending f sig.result closed)

/-- **A body leaves every scope it opens.** -/
theorem enclosed_walkBody (f : Func) (sig : Signature) : Walk.Keeps Enclosed (walkBody f sig) :=
  keepingBody_onward.walkBody f sig

/-- What a step writes down on behalf of a declaration, in an empty log. -/
theorem logOf_of_logGrows {s t : State} {i : Nat} {obs : List Observation} (hlog : s.log = #[])
    (howner : s.owner = some i) (h : LogGrows s t obs) : t.logOf i = obs := by
  have hall : t.log.toList = obs.map (some i, ·) := by
    rw [h, hlog, howner]
    rfl
  rw [State.logOf, hall, List.filter_eq_self.2 (by simp), List.map_map]
  exact List.map_id _

/-- **What was seen in a body** is all that the walk over it wrote down, and is plain. -/
theorem grows_body {m : Module} {b : Body} (hb : b ∈ (survey m).bodies) :
    LogGrows ((survey m).start b)
      ((walkBody b.func b.signature).after ((survey m).start b)) b.log ∧
      ∀ o ∈ b.log, o.isPlain = true := by
  obtain ⟨obs, hobs, hplain⟩ := (enclosed_walkBody b.func b.signature ((survey m).start b)).grows
  have hlog : b.log = ((walkBody b.func b.signature).after ((survey m).start b)).logOf b.index := by
    conv_lhs => rw [(mem_bodies hb).2.2]
    rfl
  rw [hlog, logOf_of_logGrows rfl rfl hobs]
  exact ⟨hobs, hplain⟩

theorem logGrows_body {m : Module} {b : Body} (hb : b ∈ (survey m).bodies) :
    LogGrows ((survey m).start b)
      ((walkBody b.func b.signature).after ((survey m).start b)) b.log := (grows_body hb).1

/-! ## Small functions -/

/-- A function with a body and nothing special about it. -/
def funcOf (name : String) (params : List (String × TypeExpr)) (ret : Option TypeExpr)
    (effect : Effect) (body : List Stmt) : Func where
  span := {}
  name := name
  typeParams := []
  params := params.map fun (name, type) => ⟨{}, name, type⟩
  ret := ret
  effect := effect
  capabilities := none
  body := body

/-- A module of some declarations. -/
def moduleOf (decls : List Decl) : Module := ⟨1, "m", "", decls⟩

end CoreCheck.Check

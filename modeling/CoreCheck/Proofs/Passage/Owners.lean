import CoreCheck.Proofs.Walk.Declared

/-!
# Proofs/Passage/Owners — whom the reports about declarations belong to

While declarations are collected, reports belong to the declaration that is being looked at, and that
changes whenever an alias is resolved on the way to another.  Each such change is undone where it was
made, however deep it is nested.  So when all declarations are collected nothing is being looked at,
as in the beginning, and every report belongs to a declaration of the module.
-/

namespace CoreCheck.Check

open CoreCheck.Types CoreCheck.Scope CoreCheck.Ir

/-- **The log grows by entries of no note** whose owners are among some, and the owner is the same
again. -/
structure Files (own : Option Nat → Prop) (s t : State) : Prop where
  owner : t.owner = s.owner
  grows : ∃ es, t.log.toList = s.log.toList ++ es ∧ ∀ e ∈ es, e.2.isNotable = false ∧ own e.1

/-- Owners that are one of the first declarations. -/
def Within (n : Nat) (owner : Option Nat) : Prop := ∃ i < n, owner = some i

/-- What a step of collecting may write down: reports of the current owner, or of a declaration. -/
def Filed (n : Nat) (s t : State) : Prop := Files (fun o => o = s.owner ∨ Within n o) s t

/-- What a step writes down whose reports all belong to declarations. -/
def Homed (n : Nat) (s t : State) : Prop := Files (Within n) s t

theorem Files.nil {own : Option Nat → Prop} {s t : State} (ho : t.owner = s.owner)
    (hl : t.log = s.log) : Files own s t :=
  ⟨ho, [], by rw [hl, List.append_nil], fun _ he => nomatch he⟩

theorem Files.trans {own own' : Option Nat → Prop} {s t u : State} (h : Files own s t)
    (h' : Files own' t u) (hown : ∀ o, own' o → own o) : Files own s u := by
  obtain ⟨es, hes, hin⟩ := h.grows
  obtain ⟨fs, hfs, hin'⟩ := h'.grows
  refine ⟨h'.owner.trans h.owner, es ++ fs, by rw [hfs, hes, List.append_assoc], ?_⟩
  exact List.forall_mem_append.2 ⟨hin, fun e he => (hin' e he).imp_right (hown e.1)⟩

variable {n : Nat}

instance : Walk.Course (Filed n) where
  refl _ := .nil rfl rfl
  trans h h' := h.trans h' fun _ ho => ho.imp_left (·.trans h.owner)

instance : Walk.Course (Homed n) where
  refl _ := .nil rfl rfl
  trans h h' := h.trans h' fun _ ho => ho

theorem Homed.filed {s t : State} (h : Homed n s t) : Filed n s t :=
  ⟨h.owner, h.grows.imp fun _ he => he.imp_right fun hin e hmem => (hin e hmem).imp_right .inr⟩

theorem Makes.filed {s t : State} (h : Makes s t) : Filed n s t := by
  obtain ⟨ds, hds, hlocal⟩ := h.grows
  refine ⟨by rw [h.eq], _, hds, ?_⟩
  refine List.forall_mem_map.2 fun o ho => ⟨?_, .inl rfl⟩
  obtain ⟨d, hd, rfl⟩ := List.mem_map.1 ho
  simp [Observation.isNotable, hlocal d hd]

section Keeps

variable {α : Type} {x : Walk α}

theorem Walk.Keeps.filed (h : Walk.Keeps Reports x) : Walk.Keeps (Filed n) x :=
  h.makes.mono fun _ _ => Makes.filed

/-- **Reports on behalf of a declaration** belong to it, and the owner is the old one again. -/
theorem homed_ownedBy {i : Nat} (hi : i < n) (h : Walk.Keeps (Filed n) x) :
    Walk.Keeps (Homed n) (Walk.ownedBy i x) := by
  intro s
  obtain ⟨es, hes, hin⟩ := (h { s with owner := some i }).grows
  refine ⟨rfl, es, hes, fun e he => ?_⟩
  obtain ⟨hslight, ho | ho⟩ := hin e he
  · exact ⟨hslight, i, hi, ho⟩
  · exact ⟨hslight, ho⟩

theorem filed_define (name : String) (sym : Symbol) (what : String) :
    Walk.Keeps (Filed n) (Walk.define name sym what) := by
  intro s
  cases hd : s.table.define name sym with
  | error d =>
    rw [Walk.after_define_error hd]
    exact (reports_duplicate _ _ _ _).filed s
  | ok r =>
    rw [Walk.after_define_ok hd]
    exact .nil rfl rfl

end Keeps

/-! ## Names of types -/

/-- **An alias is resolved on behalf of its own declaration**, whoever asks for it. -/
theorem homed_aliasResolver {targets : List AliasTarget} (ht : ∀ t ∈ targets, t.index < n) :
    ∀ (fuel : Nat) (name : String), Walk.Keeps (Homed n) (aliasResolver targets fuel name)
  | 0, _ => .pure _
  | fuel + 1, name => by
    rw [aliasResolver]
    cases hfind : targets.find? (·.name = name) with
    | none => exact .look (fun _ => rfl) fun _ => .pure _
    | some t =>
      have hi := ht t (List.mem_of_find?_eq_some hfind)
      have hmodify : ∀ {f : State → State}, (∀ s, (f s).owner = s.owner) →
          (∀ s, (f s).log = s.log) → Walk.Keeps (Homed n) (modify f : Walk PUnit) :=
        fun ho hl s => .nil (ho s) (hl s)
      refine .look (fun _ => rfl) fun s => ?_
      split
      · exact .look (fun _ => rfl) fun _ => .pure _
      · exact .bind (homed_ownedBy hi (reports_report .unknownType rfl rfl).filed) fun _ => .pure _
      · refine .bind (hmodify (fun _ => rfl) fun _ => rfl) fun _ => ?_
        refine .bind (homed_ownedBy hi ?_) fun _ =>
          .bind (hmodify (fun _ => rfl) fun _ => rfl) fun _ => .pure _
        -- the names in the target may be aliases too
        exact keeps_resolveType Makes.filed
          (fun name => (homed_aliasResolver ht fuel name).mono fun _ _ => Homed.filed) [] t.span
          t.target

theorem filed_registerName (known : TypeNames) (i : Nat) (name : String) (span : Span)
    (id : TypeId) : Walk.Keeps (Filed n) (registerName known i name span id) := by
  unfold registerName
  refine .ite (.bind (reports_error _ _ _ rfl).filed fun _ => .pure _) (.look (fun _ => rfl) fun s => ?_)
  split
  · exact .bind (reports_duplicate _ _ _ _).filed fun _ => .pure _
  · exact .bind (fun _ => .nil rfl rfl) fun _ => .pure _

theorem homed_declareType (known : TypeNames) {i : Nat} (hi : i < n) (d : Decl) :
    Walk.Keeps (Homed n) (declareType known i d) := by
  refine homed_ownedBy hi ?_
  have hmake : ∀ f, Walk.Keeps (Filed n) (Walk.make f) := fun f s => .nil rfl rfl
  cases d with
  | data span name fields =>
    exact .bind (hmake _) fun _ => .bind (filed_registerName _ _ _ _ _) fun _ => .pure _
  | enum span name variants =>
    exact .bind (hmake _) fun _ => .bind (reports_repeats _ _ _).filed fun _ =>
      .bind (filed_registerName _ _ _ _ _) fun _ => .pure _
  | «alias» span name target => exact .bind (filed_registerName _ _ _ _ _) fun _ => .pure _
  | func f => exact .pure _
  | imported span name => exact .pure _

theorem homed_declareTypes : ∀ (rest : List (Decl × Nat)), (∀ e ∈ rest, e.2 < n) →
    ∀ known : TypeNames, Walk.Keeps (Homed n) (declareTypes known rest)
  | [], _, _ => .pure _
  | (d, i) :: rest, hin, known => by
    rw [declareTypes]
    exact .bind (homed_declareType known (hin (d, i) (.head _)) d) fun _ =>
      .bind (homed_declareTypes rest (fun e he => hin e (.tail _ he)) _) fun _ => .pure _

/-- Every declaration keeps its number when its type has been made. -/
theorem index_mem_declareTypes : ∀ (rest : List (Decl × Nat)) (known : TypeNames) (s : State),
    ∀ e ∈ ((declareTypes known rest).value s).2, (e.1, e.2.1) ∈ rest
  | [], _, _, _, he => nomatch he
  | (d, i) :: rest, known, s, e, he => by
    rw [declareTypes] at he
    obtain rfl | he := List.mem_cons.1 he
    · exact .head _
    · exact .tail _ (index_mem_declareTypes rest _ _ e he)

theorem filed_resolveFields {find : Resolver} (hfind : ∀ name, Walk.Keeps (Filed n) (find name))
    (owner : Span) : ∀ (fs : List TypedName) (seen : List (String × Span)),
    Walk.Keeps (Filed n) (resolveFields find owner seen fs)
  | [], _ => .pure _
  | f :: fs, seen => by
    rw [resolveFields]
    split
    · exact .bind (reports_duplicate _ _ _ _).filed fun _ => filed_resolveFields hfind owner fs _
    · exact .bind (keeps_resolveType Makes.filed hfind [] owner f.type) fun _ =>
        .bind (filed_resolveFields hfind owner fs _) fun _ => .pure _

/-- Resolving what a declaration stands for. -/
theorem homed_resolveDecl {targets : List AliasTarget} (ht : ∀ t ∈ targets, t.index < n)
    (e : Decl × Nat × Option TypeId) (he : e.2.1 < n) :
    Walk.Keeps (Homed n) (resolveDecl targets e) := by
  have hfind : ∀ name, Walk.Keeps (Homed n) (onDemand targets name) := homed_aliasResolver ht _
  have hfiled := fun name => (hfind name).mono fun _ _ => Homed.filed
  obtain ⟨d, i, id⟩ := e
  cases d with
  | «alias» span name target =>
    rw [resolveDecl]
    refine .ite (.bind (hfind name) fun _ => .pure _) ?_
    exact .bind (homed_ownedBy he (keeps_resolveType Makes.filed hfiled [] span target)) fun _ =>
      .pure _
  | data span name fields =>
    cases id with
    | none => exact .pure _
    | some id =>
      exact homed_ownedBy he (.bind (filed_resolveFields hfiled span fields []) fun _ _ =>
        .nil rfl rfl)
  | enum span name variants => exact .pure _
  | func f => exact .pure _
  | imported span name => exact .pure _

theorem homed_resolveDecls {targets : List AliasTarget} (ht : ∀ t ∈ targets, t.index < n) :
    ∀ ds : List (Decl × Nat × Option TypeId), (∀ e ∈ ds, e.2.1 < n) →
    Walk.Keeps (Homed n) (ds.forM (resolveDecl targets))
  | [], _ => .pure _
  | e :: ds, hin => .bind (homed_resolveDecl ht e (hin e (.head _))) fun _ =>
      homed_resolveDecls ht ds fun e he => hin e (.tail _ he)

theorem index_lt_of_mem_aliasTargets {known : TypeNames} {decls : List (Decl × Nat)}
    (hin : ∀ e ∈ decls, e.2 < n) : ∀ t ∈ aliasTargets known decls, t.index < n := by
  intro t ht
  obtain ⟨⟨d, i⟩, hmem, ht⟩ := List.mem_filterMap.1 ht
  cases d with
  | «alias» span name target =>
    simp only [Option.ite_none_right_eq_some] at ht
    obtain rfl := Option.some.inj ht.2
    exact hin _ hmem
  | _ => exact nomatch ht

theorem homed_collectTypes {decls : List (Decl × Nat)} (hin : ∀ e ∈ decls, e.2 < n) :
    Walk.Keeps (Homed n) (collectTypes decls) := by
  intro s
  rw [collectTypes]
  refine Walk.Course.trans (homed_declareTypes decls hin [] s)
    (homed_resolveDecls (index_lt_of_mem_aliasTargets hin) _ ?_ _)
  exact fun e he => hin _ (index_mem_declareTypes decls [] s e he)

/-! ## Values -/

theorem filed_defineVariants (span : Span) (type : TypeId) :
    ∀ vs : List String, Walk.Keeps (Filed n) (defineVariants span type vs)
  | [] => .pure _
  | v :: vs => by
    rw [defineVariants]
    have hrest := filed_defineVariants span type vs
    exact .look (fun _ => rfl) fun _ => .ite hrest
      (.bind (filed_define _ _ _) fun _ => hrest)

theorem makes_resolveParams (vars : List String) (owner : Span) :
    ∀ ps : List TypedName, Walk.Keeps Makes (resolveParams tableResolver vars owner ps)
  | [] => .pure _
  | p :: ps => by
    rw [resolveParams]
    exact .bind (makes_resolveType makes_tableResolver vars _ p.type) fun _ =>
      .bind (makes_resolveParams vars owner ps) fun _ => .pure _

theorem makes_signatureOf (f : Func) : Walk.Keeps Makes (signatureOf f) :=
  .bind (makes_resolveParams _ _ _) fun _ =>
    .bind (keeps_resolveResult (fun h => h) makes_tableResolver _ _ f.ret) fun _ => .pure _

theorem homed_declareValue (known : TypeNames) (d : Decl) {i : Nat} (hi : i < n) :
    Walk.Keeps (Homed n) (declareValue known d i) := by
  refine homed_ownedBy hi ?_
  cases d with
  | func f =>
    exact .bind ((makes_signatureOf f).mono fun _ _ => Makes.filed) fun _ =>
      .bind (fun _ => .nil rfl rfl) fun _ => .bind (filed_define _ _ _) fun _ => .pure _
  | enum span name variants =>
    exact .ite (.look (fun _ => rfl) fun _ => .bind (filed_defineVariants _ _ _) fun _ => .pure _)
      (.pure _)
  | imported span name => exact .bind (filed_define _ _ _) fun _ => .pure _
  | data span name fields => exact .pure _
  | «alias» span name target => exact .pure _

theorem homed_declareValues (known : TypeNames) : ∀ rest : List (Decl × Nat),
    (∀ e ∈ rest, e.2 < n) → Walk.Keeps (Homed n) (declareValues known rest)
  | [], _ => .pure _
  | (d, i) :: rest, hin => by
    rw [declareValues]
    exact .bind (homed_declareValue known d (hin (d, i) (.head _))) fun _ =>
      .bind (homed_declareValues known rest fun e he => hin e (.tail _ he)) fun _ => .pure _

/-- **Collecting the declarations of a module** leaves the owner as it was, and every report belongs
to one of the declarations. -/
theorem homed_declare (decls : List Decl) : Walk.Keeps (Homed decls.length) (declare decls) := by
  have hin : ∀ e ∈ decls.zipIdx, e.2 < decls.length := by
    intro e he
    obtain ⟨h, -⟩ := List.getElem?_eq_some_iff.1 (List.mem_zipIdx_iff_getElem?.1 he)
    exact h
  exact .bind (homed_collectTypes hin) fun known => homed_declareValues known decls.zipIdx hin

section Survey

variable (m : Module)

/-- **Nothing is being looked at when all declarations have been collected.** -/
theorem owner_declared : (survey m).declared.owner = none := (homed_declare m.decls {}).owner

/-- **Every report about declarations belongs to one**, and is about names or types of one place. -/
theorem log_declared : ∀ e ∈ (survey m).declared.log.toList,
    e.2.isNotable = false ∧ Within m.decls.length e.1 := by
  obtain ⟨es, hes, hin⟩ := (homed_declare m.decls {}).grows
  have hlog : (survey m).declared.log.toList = es := hes
  rw [hlog]
  exact hin

/-- A problem of a declaration is one with names or types of one place. -/
theorem isLocal_of_mem_problemsOf {m : Module} {i : Nat} {d : Diagnostic}
    (hd : d ∈ (survey m).problemsOf i) : d.code.isLocal = true := by
  obtain ⟨o, ho, hod⟩ := List.mem_filterMap.1 hd
  obtain ⟨e, he, rfl⟩ := List.mem_map.1 ho
  have hslight := (log_declared m e (List.mem_filter.1 he).1).1
  split at hod
  · next heq =>
    obtain rfl := Option.some.inj hod
    simpa [heq, Observation.isNotable] using hslight
  · exact nomatch hod

end Survey

end CoreCheck.Check

import CoreCheck.Proofs.Passage.Owners
import CoreCheck.Proofs.Records.Fields
import CoreCheck.Proofs.Types.Normal

/-!
# Proofs/Walk/Guarded — walks look before they ask for an optional

An optional is asked for in four places: where one is written, in `some`, where null is bound to a
name, and where the items of a list are joined.  Each looks at the element in its own way.  Here all
steps of a check are gone through, and what they do to the types is found to be calls of an arena by
someone who looks first (`Asks`), with nothing assumed of the state they start in.
-/

namespace CoreCheck.Check

open CoreCheck.Types CoreCheck.Scope CoreCheck.Ir

/-! ## Bodies -/

/-- **A step asks for types**, and looks at the element before it asks for an optional. -/
def Asks (s t : State) : Prop := s.types.Calls t.types

instance : Walk.Course Asks where
  refl _ := .refl
  trans := .trans

theorem Asks.of_types_eq {s t : State} (h : t.types = s.types) : Asks s t := by
  rw [Asks, h]
  exact .refl

theorem Reports.asks {s t : State} (h : Reports s t) : Asks s t := .of_types_eq h.types

theorem asks_of_reports {α : Type} {x : Walk α} (h : Walk.Keeps Reports x) : Walk.Keeps Asks x :=
  h.mono fun _ _ => Reports.asks

/-- Whatever is no optional may be asked for. -/
theorem asks_make (r : Request) (hr : ∀ a, r.Guarded a) : Walk.Keeps Asks (Walk.make r.make) :=
  fun s => .single (.ask r (hr s.types))

theorem asks_optional {s : State} {elem : TypeId}
    (h : elem = unknown ∨ s.types.kindOf elem ≠ .optional) :
    Asks s ((Walk.make (·.optional elem)).after s) := .single (.ask (.optional elem) h)

/-- **An optional that is written** is asked for unless there is one already. -/
theorem keepingNames_asks : KeepingNames Asks where
  unknownType name span := asks_of_reports (reports_unknownType name span)
  var name := asks_make (.var name) fun _ => trivial
  optional h := asks_optional (.inr h)
  list elem := asks_make (.list elem) fun _ => trivial
  map key value := asks_make (.map key value) fun _ => trivial
  result ok err := asks_make (.result ok err) fun _ => trivial
  func params res := asks_make (.func params res) fun _ => trivial
  pii base level category := asks_make (.pii base level category) fun _ => trivial
  still := Asks.of_types_eq

theorem asks_tableResolver (name : String) : Walk.Keeps Asks (tableResolver name) :=
  .of_after_eq fun _ => rfl

/-- **An optional is not wrapped again.** -/
theorem asks_wrap (kind : Wrap) (inner : Value) : Walk.Keeps Asks (checkWrap kind inner) := by
  cases kind with
  | some =>
    intro s
    by_cases hk : s.types.kindOf inner.type = .optional
    · simp only [checkWrap, Walk.after_bind, Walk.value_types, Walk.after_types, hk,
        beq_self_eq_true, if_true]
      exact .refl
    · simp only [checkWrap, Walk.after_bind, Walk.value_types, Walk.after_types,
        beq_false_of_ne hk, Bool.false_eq_true, if_false]
      exact asks_optional (.inr hk)
  | ok => exact .bind (asks_make (.result inner.type unknown) fun _ => trivial) fun _ => .pure _
  | err => exact .bind (asks_make (.result unknown inner.type) fun _ => trivial) fun _ => .pure _

theorem asks_joinItem (elem : Option TypeId) (span : Span) (item : Value) :
    Walk.Keeps Asks (joinItem elem span item) := by
  cases elem with
  | none => exact .pure _
  | some elem =>
    intro s
    have hjoin : Asks s { s with types := (s.types.join elem item.type).1 } :=
      s.types.calls_join elem item.type
    refine Walk.Course.trans hjoin ?_
    simp only [joinItem, Walk.after_bind, Walk.value_types, Walk.after_types, Walk.after_modify]
    cases (s.types.join elem item.type).2 with
    | some id => exact .refl
    | none => exact asks_of_reports (reports_unjoined elem span item) _

/-- **A name that is bound to null** is an optional of the placeholder. -/
theorem asks_bindingOf (fn : Enclosing) (span : Span) (name : String) (written : Option TypeExpr)
    (v : Value) : Walk.Keeps Asks (bindingOf fn span name written v) := by
  cases written with
  | some t =>
    exact fun s => Walk.Course.trans
      (keepingNames_asks.resolveType asks_tableResolver fn.typeParams fn.span t s)
      (reports_bindingOf fn span name t v s).asks
  | none =>
    exact .look (fun _ => rfl) fun a => .ite
      (.bind (fun _ => asks_optional (.inl rfl)) fun _ => .pure _) (.pure _)

theorem asks_define (name : String) (sym : Symbol) (what : String) :
    Walk.Keeps Asks (Walk.define name sym what) := by
  intro s
  cases hd : s.table.define name sym with
  | error d =>
    rw [Walk.after_define_error hd]
    exact (reports_duplicate _ _ _ _ s).asks
  | ok r =>
    rw [Walk.after_define_ok hd]
    exact .refl

theorem asks_assign (span at_ : Span) (name : String) (v : Value) :
    Walk.Keeps Asks (assign span at_ name v) :=
  keeps_assign Reports.asks (fun _ _ _ => .of_types_eq rfl) span at_ name v

theorem asks_awaitTasks (span : Span) (names : List String) :
    Walk.Keeps Asks (awaitTasks span names) :=
  keeps_awaitTasks Reports.asks (fun _ _ => .of_types_eq rfl) span names

theorem asks_within {α : Type} (kind : ScopeKind) (span : Span) {x : Walk α}
    (hx : Walk.Keeps Asks x) : Walk.Keeps Asks (Walk.within kind span x) := by
  have hleave : Walk.Keeps Asks Walk.leave := fun s => by
    obtain ⟨_, _, _, -, -, he⟩ | ⟨_, he⟩ := Walk.leave_cases s <;> exact .of_types_eq (by rw [he])
  exact .bind (fun _ => .of_types_eq rfl) fun _ => .bind hx fun _ => .bind hleave fun _ => .pure _

/-- **Every step of a body looks first.** -/
theorem keepingBody_asks : KeepingBody Asks Asks where
  reports := Reports.asks
  observe _ _ _ := .of_types_eq rfl
  wrap := asks_wrap
  join := asks_joinItem
  list elem := asks_make (.list elem) fun _ => trivial
  widen h := h
  bindingOf := asks_bindingOf
  assign := asks_assign
  awaitTasks := asks_awaitTasks
  define := asks_define
  within kind span _ _ hx := asks_within kind span hx

theorem asks_walkBody (f : Func) (sig : Signature) : Walk.Keeps Asks (walkBody f sig) :=
  keepingBody_asks.walkBody f sig

/-! ## Type names -/

theorem asks_registerName (known : TypeNames) (i : Nat) (name : String) (span : Span)
    (id : TypeId) : Walk.Keeps Asks (registerName known i name span id) :=
  fun s => .of_types_eq (types_registerName known i name span id s)

theorem asks_declareType (known : TypeNames) (i : Nat) (d : Decl) :
    Walk.Keeps Asks (declareType known i d) := by
  refine keepingNames_asks.ownedBy ?_ i
  cases d with
  | data span name fields =>
    exact .bind (asks_make (.data name span) fun _ => trivial) fun _ =>
      .bind (asks_registerName _ _ _ _ _) fun _ => .pure _
  | enum span name variants =>
    exact .bind (asks_make (.enum name span variants) fun _ => trivial) fun _ =>
      .bind (asks_of_reports (reports_repeats _ _ _)) fun _ =>
        .bind (asks_registerName _ _ _ _ _) fun _ => .pure _
  | «alias» span name target => exact .bind (asks_registerName _ _ _ _ _) fun _ => .pure _
  | func f => exact .pure _
  | imported span name => exact .pure _

theorem asks_declareTypes (known : TypeNames) (rest : List (Decl × Nat)) :
    Walk.Keeps Asks (declareTypes known rest) := by
  induction rest generalizing known with
  | nil => exact .pure _
  | cons e rest ih =>
    rw [declareTypes]
    exact .bind (asks_declareType _ _ _) fun _ => .bind (ih _) fun _ => .pure _

theorem asks_resolveDecl (targets : List AliasTarget) (e : Decl × Nat × Option TypeId) :
    Walk.Keeps Asks (resolveDecl targets e) := by
  obtain ⟨d, i, id⟩ := e
  cases d with
  | «alias» span name target => exact keepingNames_asks.resolveAlias targets span name target i id
  | data span name fields =>
    cases id with
    | none => exact .pure _
    | some id =>
      exact keepingNames_asks.ownedBy (.bind (keepingNames_asks.resolveFields targets span [] fields)
        fun fs _ => .single (.fields id fs)) i
  | enum span name variants => exact .pure _
  | func f => exact .pure _
  | imported span name => exact .pure _

theorem asks_resolveDecls (targets : List AliasTarget) :
    ∀ ds : List (Decl × Nat × Option TypeId), Walk.Keeps Asks (ds.forM (resolveDecl targets))
  | [] => .pure _
  | e :: ds => .bind (asks_resolveDecl targets e) fun _ => asks_resolveDecls targets ds

theorem asks_collectTypes (decls : List (Decl × Nat)) : Walk.Keeps Asks (collectTypes decls) :=
  .bind (asks_declareTypes [] decls) fun _ => .bind (asks_resolveDecls _ _) fun _ => .pure _

/-! ## Values -/

theorem asks_resolveParams (vars : List String) (owner : Span) :
    ∀ ps : List TypedName, Walk.Keeps Asks (resolveParams tableResolver vars owner ps)
  | [] => .pure _
  | p :: ps => by
    rw [resolveParams]
    exact .bind (keepingNames_asks.resolveType asks_tableResolver vars _ p.type) fun _ =>
      .bind (asks_resolveParams vars owner ps) fun _ => .pure _

theorem asks_signatureOf (f : Func) : Walk.Keeps Asks (signatureOf f) :=
  .bind (asks_resolveParams _ _ _) fun _ =>
    .bind (keepingNames_asks.resolveResult asks_tableResolver _ _ f.ret) fun _ => .pure _

theorem asks_defineVariants (span : Span) (type : TypeId) :
    ∀ vs : List String, Walk.Keeps Asks (defineVariants span type vs)
  | [] => .pure _
  | v :: vs => by
    rw [defineVariants]
    have hrest := asks_defineVariants span type vs
    exact .look (fun _ => rfl) fun _ => .ite hrest (.bind (asks_define _ _ _) fun _ => hrest)

theorem asks_declareValue (known : TypeNames) (d : Decl) (i : Nat) :
    Walk.Keeps Asks (declareValue known d i) := by
  refine keepingNames_asks.ownedBy ?_ i
  cases d with
  | func f =>
    exact .bind (asks_signatureOf f) fun sig =>
      .bind (asks_make (.func sig.paramTypes sig.result) fun _ => trivial) fun _ =>
        .bind (asks_define _ _ _) fun _ => .pure _
  | enum span name variants =>
    exact .ite (.look (fun _ => rfl) fun _ => .bind (asks_defineVariants _ _ _) fun _ => .pure _)
      (.pure _)
  | imported span name => exact .bind (asks_define _ _ _) fun _ => .pure _
  | data span name fields => exact .pure _
  | «alias» span name target => exact .pure _

theorem asks_declareValues (known : TypeNames) :
    ∀ rest : List (Decl × Nat), Walk.Keeps Asks (declareValues known rest)
  | [] => .pure _
  | (d, i) :: rest => by
    rw [declareValues]
    exact .bind (asks_declareValue known d i) fun _ =>
      .bind (asks_declareValues known rest) fun _ => .pure _

/-- **Collecting declarations looks first.** -/
theorem asks_declare (decls : List Decl) : Walk.Keeps Asks (declare decls) :=
  .bind (asks_collectTypes _) fun known => asks_declareValues known _

end CoreCheck.Check

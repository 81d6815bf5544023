import CoreCheck.Proofs.Walk.Run

/-!
# Proofs/Walk/Values — what the small steps answer

Most steps of a walk report something or nothing and go on either way.  One equation for each such
step says what it answers, with the reports left out.
-/

namespace CoreCheck.Check

open CoreCheck.Types CoreCheck.Scope CoreCheck.Ir

theorem value_dataType (name : String) (span : Span) (s : State) :
    (dataType name span).value s =
      match s.aliases.resolve? name with
      | none => (unknown, none)
      | some id =>
        match s.types.dataInfo? (s.types.unwrap id) with
        | some info => (s.types.unwrap id, some info)
        | none => (unknown, none) := by
  rw [dataType, Walk.value_bind, Walk.value_get, Walk.after_get]
  cases s.aliases.resolve? name with
  | none => rfl
  | some id =>
    dsimp only
    rw [Walk.value_bind, Walk.value_types, Walk.after_types]
    cases s.types.dataInfo? (s.types.unwrap id) with
    | some info => rfl
    | none =>
      dsimp only
      rw [Walk.value_ite]
      split <;> rfl

theorem value_binary (span : Span) (op : String) (l r : Value) (s : State) :
    (checkBinary span op l r).value s =
      ⟨match binaryRules op with
        | [] => unknown
        | first :: more =>
          if isOpaque s.types l.type || isOpaque s.types r.type then unsettled first.outcome
          else
            match (first :: more).find? (takes s.types · l.type r.type) with
            | some rule => if rule.outcome = .bool then bool else s.types.unwrap l.type
            | none => unsettled first.outcome,
        Taint.merge l.taint r.taint⟩ := by
  unfold checkBinary
  generalize binaryRules op = rules
  cases rules with
  | nil => rfl
  | cons first more =>
    change Walk.value (Walk.types >>= _) s = _
    rw [Walk.value_bind, Walk.value_types, Walk.after_types, Walk.value_ite]
    dsimp only
    split
    · rfl
    · generalize (first :: more).find? (takes s.types · l.type r.type) = found
      cases found <;> rfl

theorem value_unary (span : Span) (op : String) (v : Value) (s : State) :
    (checkUnary span op v).value s =
      ⟨match unaryRule? op with
        | none => unknown
        | some rule =>
          if isOpaque s.types v.type || (s.types.family v.type).fits rule.operand then
            if rule.outcome = .bool then bool else s.types.unwrap v.type
          else unsettled rule.outcome,
        v.taint⟩ := by
  unfold checkUnary
  cases unaryRule? op with
  | none => rfl
  | some rule =>
    dsimp only
    rw [Walk.value_bind, Walk.value_types, Walk.after_types, Walk.value_ite]
    split <;> rfl

theorem value_member (span : Span) (v : Value) (field : String) (s : State) :
    (checkMember span v field).value s =
      if s.types.isUnknown v.type then ⟨unknown, v.taint⟩
      else
        match (s.types.dataInfo? (s.types.unwrap v.type)).bind (·.field? field) with
        | none => ⟨unknown, v.taint⟩
        | some f => ⟨f.type, Taint.merge v.taint (s.types.taintOf f.type)⟩ := by
  unfold checkMember
  rw [Walk.value_bind, Walk.value_types, Walk.after_types, Walk.value_ite]
  split
  · rfl
  · cases s.types.dataInfo? (s.types.unwrap v.type) with
    | none => rfl
    | some info =>
      dsimp only
      rw [Option.bind_some]
      cases info.field? field <;> rfl

theorem value_init (info : DataInfo) (seen : List String) (name : String) (span at_ : Span)
    (v : Value) (s : State) :
    (checkInit info seen name span at_ v).value s
      = if seen.contains name then seen else name :: seen := by
  unfold checkInit
  rw [Walk.value_ite]
  split
  · rfl
  · cases info.field? name with
    | none => rfl
    | some field =>
      dsimp only
      rw [Walk.value_bind, Walk.value_ite]
      split <;> rfl

/-- What calling a symbol calls that is no function of the module. -/
def calledValue (a : Arena) (sym : Symbol) : Callee :=
  if a.isUnknown sym.type then .external
  else
    match a.funcInfo? (a.unwrap sym.type) with
    | some (params, result) => .value params result
    | none => .notCallable sym

/-- What calling a symbol calls. -/
def calledSymbol (a : Arena) (sym : Symbol) : Callee :=
  match sym.kind, sym.signature with
  | .function, some sig => .function sig
  | _, _ => calledValue a sym

/-- **What a call calls by its name alone**, whether or not the name is one that removes taint. -/
def called (c : CallHead) (s : State) : Callee :=
  if isDotted c.target then .external
  else
    match (Walk.lookup c.target).value s with
    | none => if c.effect.isNone && c.capability.isNone then .undefined else .external
    | some (_, sym) => calledSymbol s.types sym

/-- By its name alone, no call removes taint. -/
theorem called_ne_declassifier (c : CallHead) (s : State) : called c s ≠ .declassifier := by
  have hvalue : ∀ sym, calledValue s.types sym ≠ .declassifier := by
    intro sym hd
    rw [calledValue] at hd
    split at hd
    · exact nomatch hd
    · split at hd <;> exact nomatch hd
  intro hd
  rw [called] at hd
  split at hd
  · exact nomatch hd
  split at hd
  · split at hd <;> exact nomatch hd
  · rw [calledSymbol] at hd
    split at hd
    · exact nomatch hd
    · exact hvalue _ hd

theorem value_callee (c : CallHead) (s : State) :
    (callee c).value s = if isDeclassifier c.target then .declassifier else called c s := by
  unfold callee called
  rw [Walk.value_ite, Walk.value_ite]
  split
  · rfl
  split
  · rfl
  rw [Walk.value_bind, Walk.after_lookup]
  cases (Walk.lookup c.target).value s with
  | none => rfl
  | some found =>
    obtain ⟨id, sym⟩ := found
    have hvalue : (do
        let arena ← Walk.types
        if arena.isUnknown sym.type then return .external
        match arena.funcInfo? (arena.unwrap sym.type) with
        | some (params, result) => return .value params result
        | none => return .notCallable sym : Walk Callee).value s = calledValue s.types sym := by
      rw [Walk.value_bind, Walk.value_types, Walk.after_types, Walk.value_ite, calledValue]
      cases s.types.funcInfo? (s.types.unwrap sym.type) <;> rfl
    dsimp only [calledSymbol]
    generalize sym.kind = kind
    generalize sym.signature = signature
    cases kind <;> cases signature <;> first | rfl | exact hvalue

theorem after_callee (c : CallHead) (s : State) : (callee c).after s = s := by
  unfold callee
  rw [Walk.after_ite, Walk.after_ite]
  split
  · rfl
  split
  · rfl
  rw [Walk.after_bind, Walk.after_lookup]
  cases (Walk.lookup c.target).value s with
  | none => rfl
  | some found =>
    obtain ⟨id, sym⟩ := found
    have hvalue : (do
        let arena ← Walk.types
        if arena.isUnknown sym.type then return .external
        match arena.funcInfo? (arena.unwrap sym.type) with
        | some (params, result) => return .value params result
        | none => return .notCallable sym : Walk Callee).after s = s := by
      rw [Walk.after_bind, Walk.value_types, Walk.after_types, Walk.after_ite]
      cases s.types.funcInfo? (s.types.unwrap sym.type) <;> exact ite_self _
    dsimp only
    generalize sym.kind = kind
    generalize sym.signature = signature
    cases kind <;> cases signature <;> first | rfl | exact hvalue

/-- The part of a shape that a wrapper holds, if it has one. -/
def wrapPart? : Wrap → Option Shape → Option TypeId
  | .some, some (.optional elem) => some elem
  | .ok, some (.result good _) => some good
  | .err, some (.result _ bad) => some bad
  | _, _ => none

/-- A wrapper takes its part out of the type, or the type is not one that it can hold. -/
theorem wrappedType_eq (kind : Wrap) (span : Span) (type : TypeId) :
    wrappedType kind span type = (do
      let a ← Walk.types
      if isOpaque a type then return unknown
      match wrapPart? kind (a.lookup (a.unwrap type)) with
      | some part => return part
      | none =>
        let label ← Walk.labelOf type
        Walk.error .typeMismatch span
          (kind.label ++ " pattern cannot match a value of type " ++ label)
        return unknown) := by
  unfold wrappedType
  congr 1
  funext a
  generalize a.lookup (a.unwrap type) = found
  rcases found with _ | shape
  · cases kind <;> rfl
  · cases kind <;> cases shape <;> rfl

theorem value_wrappedType (kind : Wrap) (span : Span) (type : TypeId) (s : State) :
    (wrappedType kind span type).value s =
      if isOpaque s.types type then unknown
      else (wrapPart? kind (s.types.lookup (s.types.unwrap type))).getD unknown := by
  rw [wrappedType_eq, Walk.value_bind, Walk.value_types, Walk.after_types, Walk.value_ite]
  split
  · rfl
  · cases wrapPart? kind (s.types.lookup (s.types.unwrap type)) <;> rfl

theorem value_variantType (name : String) (s : State) :
    (variantType? name).value s =
      match (Walk.lookup name).value s with
      | some (_, sym) => if sym.kind == .variant then some sym.type else none
      | none => none := by
  unfold variantType?
  rw [Walk.value_bind]
  cases (Walk.lookup name).value s <;> rfl

theorem after_variantType (name : String) (s : State) : (variantType? name).after s = s := by
  rw [variantType?, Walk.after_bind, Walk.after_lookup]
  cases (Walk.lookup name).value s <;> rfl

theorem value_takenBy (span : Span) (type : TypeId) (name : String) (count : Nat) (s : State) :
    (takenBy span type name count).value s =
      match s.aliases.resolve? name with
      | none => if hasVariant s.types type name && count = 0 then .variant else .unclear
      | some id =>
        match s.types.dataInfo? id with
        | none => .unclear
        | some info => .data id info := by
  unfold takenBy
  rw [Walk.value_bind, Walk.value_types, Walk.after_types, Walk.value_bind, Walk.value_get,
    Walk.after_get]
  cases s.aliases.resolve? name with
  | none =>
    dsimp only
    rw [Walk.value_ite]
    split <;> rfl
  | some id =>
    dsimp only
    cases s.types.dataInfo? id with
    | none => rfl
    | some info =>
      dsimp only
      rw [Walk.value_ite]
      split
      · rw [Walk.value_ite]
        split <;> rfl
      · rw [Walk.value_bind, Walk.value_bind, Walk.value_ite]
        split <;> rfl

theorem value_bindingOf_some (fn : Enclosing) (span : Span) (name : String) (t : TypeExpr)
    (v : Value) (s : State) :
    (bindingOf fn span name (some t) v).value s =
      ⟨(resolveType tableResolver fn.typeParams fn.span t).value s,
        Taint.merge v.taint (((resolveType tableResolver fn.typeParams fn.span t).after s).types.taintOf
          ((resolveType tableResolver fn.typeParams fn.span t).value s))⟩ := by
  rw [bindingOf, Walk.value_bind, Walk.value_bind, Walk.value_types, Walk.after_types]
  dsimp only
  rw [Walk.value_ite]
  split <;> rfl

theorem value_bindingOf_none (fn : Enclosing) (span : Span) (name : String) (v : Value) (s : State) :
    (bindingOf fn span name none v).value s
      = if s.types.kindOf v.type == .null then ⟨(s.types.optional unknown).2, v.taint⟩ else v := by
  rw [bindingOf, Walk.value_bind, Walk.value_types, Walk.after_types, Walk.value_ite]
  rfl

theorem after_bindingOf_none (fn : Enclosing) (span : Span) (name : String) (v : Value) (s : State) :
    (bindingOf fn span name none v).after s
      = if s.types.kindOf v.type == .null then { s with types := (s.types.optional unknown).1 }
        else s := by
  rw [bindingOf, Walk.after_bind, Walk.value_types, Walk.after_types, Walk.after_ite]
  rfl

/-! ## Cases, one after the other -/

theorem after_cases_cons (fn : Enclosing) (outer : Span) (v : Value) (c : Case) (rest : List Case)
    (s : State) :
    (checkCases fn outer v (c :: rest)).after s
      = (checkCases fn outer v rest).after ((checkCases fn outer v [c]).after s) := by
  obtain ⟨span, p, ss⟩ := c
  rw [checkCases, checkCases, checkCases]
  rfl

theorem coverage_cases_cons (fn : Enclosing) (outer : Span) (v : Value) (span : Span) (p : Pattern)
    (ss : List Stmt) (rest : List Case) (s : State) :
    ((checkCases fn outer v (.mk span p ss :: rest)).value s).2
      = ((bindPattern (span.orElse outer) v.type v.taint p).value
          ((Walk.enter .matchArm (span.orElse outer)).after s)).union
        ((checkCases fn outer v rest).value ((checkCases fn outer v [.mk span p ss]).after s)).2 := by
  rw [checkCases, checkCases, checkCases]
  rfl

end CoreCheck.Check

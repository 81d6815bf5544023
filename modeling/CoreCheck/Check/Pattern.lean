import CoreCheck.Check.Expression

/-!
# Check/Pattern — names bound by patterns, and what a match covers

A pattern is checked against the type of the matched value and binds its names in the innermost
scope. What the patterns of a match cover, taken together, decides whether some case always applies.
-/

namespace CoreCheck.Check

open CoreCheck.Types CoreCheck.Scope CoreCheck.Ir

/-- **What patterns cover.** -/
structure Coverage where
  catchAll : Bool := false
  none : Bool := false
  some : Bool := false
  ok : Bool := false
  err : Bool := false
  yes : Bool := false
  no : Bool := false
  variants : List String := []
deriving Inhabited, DecidableEq

namespace Coverage

/-- What two patterns cover together. -/
def union (c d : Coverage) : Coverage :=
  { catchAll := c.catchAll || d.catchAll, none := c.none || d.none, some := c.some || d.some,
    ok := c.ok || d.ok, err := c.err || d.err, yes := c.yes || d.yes, no := c.no || d.no,
    variants := c.variants ++ d.variants }

/-- **Whether every value of a type is covered.** -/
def exhaustive (c : Coverage) (a : Arena) (scrutinee : TypeId) : Bool :=
  c.catchAll ||
    match a.kindOf scrutinee with
    | .optional => c.none && c.some
    | .result => c.ok && c.err
    | .bool => c.yes && c.no
    | .enum =>
      match a.enumInfo? (a.unwrap scrutinee) with
      | Option.some info => !info.variants.isEmpty && info.variants.all c.variants.contains
      | Option.none => false
    | _ => false

end Coverage

/-- What a constant pattern covers. -/
def literalCoverage : Expr → Coverage
  | .literal _ (.bool true) => { yes := true }
  | .literal _ (.bool false) => { no := true }
  | .literal _ .null => { none := true }
  | _ => {}

/-- What a wrapping pattern covers when its inner pattern covers everything. -/
def wrapCoverage : Wrap → Coverage
  | .some => { some := true }
  | .ok => { ok := true }
  | .err => { err := true }

/-- Whether a type has a variant of a name. -/
def hasVariant (a : Arena) (type : TypeId) (name : String) : Bool :=
  (a.enumInfo? (a.unwrap type)).any (·.hasVariant name)

/-- The variant that a name stands for, by its type. -/
def variantType? (name : String) : Walk (Option TypeId) := do
  match ← Walk.lookup name with
  | some (_, sym) => return if sym.kind == .variant then some sym.type else none
  | none => return none

/-- **Whether a pattern matches every value of a type**, once its names are bound. -/
def isCatchAll (type : TypeId) : Pattern → Walk Bool
  | .wildcard _ => return true
  | .name _ name => do
    let a ← Walk.types
    if hasVariant a type name then return false
    match ← variantType? name with
    | some t => return t != a.unwrap type
    | none => return true
  | _ => return false

/-- The part of a value that a wrapping pattern looks at; a value that cannot be wrapped so is
reported. -/
def wrappedType (kind : Wrap) (span : Span) (type : TypeId) : Walk TypeId := do
  let a ← Walk.types
  if isOpaque a type then return unknown
  match kind, a.lookup (a.unwrap type) with
  | .some, some (.optional elem) => return elem
  | .ok, some (.result good _) => return good
  | .err, some (.result _ bad) => return bad
  | _, _ =>
    let label ← Walk.labelOf type
    Walk.error .typeMismatch span
      (kind.label ++ " pattern cannot match a value of type " ++ label)
    return unknown

/-- A pattern that is just a name: a variant of the matched type, a variant of another type, or a
new binding. -/
def bindName (span : Span) (type : TypeId) (taint : Option Taint) (name : String) :
    Walk Coverage := do
  let a ← Walk.types
  if hasVariant a type name then return { variants := [name] }
  match ← variantType? name with
  | some t =>
    unless isOpaque a type || a.compatible (a.unwrap type) t do
      let variant ← Walk.labelOf t
      let label ← Walk.labelOf type
      Walk.error .typeMismatch span
        ("variant " ++ Text.quote name ++ " of " ++ variant ++ " cannot match a value of type "
          ++ label)
    return {}
  | none =>
    Walk.define name { kind := .binding, span, type, taint } "binding"
    return { catchAll := true }

/-- What a pattern for a record type takes apart. -/
inductive Taken where
  /-- A variant of the matched type, written like a record. -/
  | variant
  /-- Nothing that is known. -/
  | unclear
  | data (id : TypeId) (info : DataInfo)

/-- Finds out what a pattern for a record type takes apart, and reports what cannot be right. -/
def takenBy (span : Span) (type : TypeId) (name : String) (count : Nat) : Walk Taken := do
  let a ← Walk.types
  match (← get).aliases.resolve? name with
  | none =>
    if hasVariant a type name && count = 0 then return .variant
    Walk.reportUnknownType name span
    return .unclear
  | some id =>
    match a.dataInfo? id with
    | none =>
      let label ← Walk.labelOf id
      Walk.error .typeMismatch span (label ++ " is not a data type and cannot be destructured")
      return .unclear
    | some info =>
      unless isOpaque a type || a.compatible (a.unwrap type) id do
        let label ← Walk.labelOf type
        Walk.error .typeMismatch span
          ("pattern for " ++ info.name ++ " cannot match a value of type " ++ label)
      if info.fields.length < count then
        Walk.report <| ((Diagnostic.error .arityMismatch span
          ("pattern for " ++ info.name ++ s!" has {info.fields.length} fields, got {count}"))
          |>.withData "expected" (.int info.fields.length)).withData "actual" (.int count)
      return .data id info

mutual

/-- **Checks a pattern against a type and binds its names.** Answers what the pattern covers when
it stands at the top of a case. -/
def bindPattern (outer : Span) (type : TypeId) (taint : Option Taint) : Pattern → Walk Coverage
  | .wildcard _ => return { catchAll := true }
  | .name at_ name => bindName (at_.orElse outer) type taint name
  | .literal at_ value => do
    let v ← checkExpr value
    let a ← Walk.types
    unless isOpaque a type || a.compatible type v.type do
      let actual ← Walk.labelOf v.type
      let label ← Walk.labelOf type
      Walk.error .typeMismatch (at_.orElse outer)
        ("pattern of type " ++ actual ++ " cannot match a value of type " ++ label)
    return literalCoverage value
  | .none at_ => do
    let a ← Walk.types
    unless isOpaque a type || a.kindOf type == .optional || a.kindOf type == .null do
      let label ← Walk.labelOf type
      Walk.error .typeMismatch (at_.orElse outer) ("none cannot match a value of type " ++ label)
    return { none := true }
  | .wrap at_ kind inner => do
    let part ← wrappedType kind (at_.orElse outer) type
    let _ ← bindPattern (at_.orElse outer) part taint inner
    return if ← isCatchAll part inner then wrapCoverage kind else {}
  | .ctor at_ name args => do
    match ← takenBy (at_.orElse outer) type name args.length with
    | .variant => return { variants := [name] }
    | .unclear =>
      let _ ← bindArgs (at_.orElse outer) taint [] args
      return {}
    | .data id info =>
      let all ← bindArgs (at_.orElse outer) taint info.fields args
      let a ← Walk.types
      return { catchAll := all && args.length = info.fields.length &&
        (isOpaque a type || a.compatible (a.unwrap type) id) }

/-- Binds the parts of a record pattern against the fields of the record; parts without a field are
of unknown type. Answers whether every part matches everything. -/
def bindArgs (outer : Span) (taint : Option Taint) (fields : List Field) :
    List Pattern → Walk Bool
  | [] => return true
  | p :: ps => do
    let type := (fields.head?.map Field.type).getD unknown
    let _ ← bindPattern outer type (Taint.merge taint ((← Walk.types).taintOf type)) p
    let all ← isCatchAll type p
    let rest ← bindArgs outer taint fields.tail ps
    return all && rest

end

end CoreCheck.Check

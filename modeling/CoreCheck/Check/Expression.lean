import CoreCheck.Check.Operand
import CoreCheck.Ir.Syntax

/-!
# Check/Expression — the types and taints of expressions

One walk from the leaves up. An expression binds nothing: of the state it changes the types, which
grow, and the log.
-/

namespace CoreCheck.Check

open CoreCheck.Types CoreCheck.Scope CoreCheck.Ir

/-- The type of a constant. -/
def literalType : Literal → TypeId
  | .int _ => int
  | .long _ => long
  | .double _ => double
  | .text _ => text
  | .bool _ => bool
  | .null => null

/-- **The record type of a name**, with its details. A name of something else is reported, unless
its type is unknown. -/
def dataType (name : String) (span : Span) : Walk (TypeId × Option DataInfo) := do
  match (← get).aliases.resolve? name with
  | none =>
    Walk.reportUnknownType name span
    return (unknown, none)
  | some id =>
    let a ← Walk.types
    match a.dataInfo? (a.unwrap id) with
    | some info => return (a.unwrap id, some info)
    | none =>
      unless a.isUnknown id do
        Walk.error .typeMismatch span ((← Walk.labelOf id) ++ " is not a data type")
      return (unknown, none)

/-- Reports a field that a record type does not have. -/
def reportNoField (span : Span) (type field : String) : Walk Unit :=
  Walk.report <| ((Diagnostic.error .unknownField span
    (type ++ " has no field " ++ Text.quote field)).withText "type" type).withText "field" field

/-- Checks one initialiser of a record: its name must be a field that was not named before, and the
value must fit. Answers the names so far. -/
def checkInit (info : DataInfo) (seen : List String) (name : String) (span at_ : Span)
    (v : Value) : Walk (List String) := do
  if seen.contains name then
    Walk.error .duplicateSymbol span
      ("field " ++ Text.quote name ++ " is initialised more than once")
    return seen
  match info.field? name with
  | none => reportNoField span info.name name
  | some field =>
    unless (← Walk.types).compatible field.type v.type do
      let expected ← Walk.labelOf field.type
      let actual ← Walk.labelOf v.type
      Walk.report <| ((Diagnostic.error .typeMismatch (at_.orElse span)
        ("field " ++ Text.quote name ++ " of " ++ info.name ++ " expects " ++ expected ++ ", got "
          ++ actual)).withText "expected" expected).withText "actual" actual
  return name :: seen

/-- Reports the fields of a record that no initialiser names. -/
def checkComplete (span : Span) (info : DataInfo) (seen : List String) : Walk Unit := do
  let missing := (info.fields.map Field.name).filter (!seen.contains ·)
  unless missing.isEmpty do
    Walk.report <| ((Diagnostic.error .missingField span
      ("construction of " ++ info.name ++ " is missing "
        ++ plural missing.length "field" "fields" ++ " " ++ Text.join ", " missing)).withText
      "type" info.name).withData "fields" (.strings missing)

/-- The value of a field access. -/
def checkMember (span : Span) (base : Value) (field : String) : Walk Value := do
  let a ← Walk.types
  if a.isUnknown base.type then return ⟨unknown, base.taint⟩
  match a.dataInfo? (a.unwrap base.type) with
  | none =>
    let label ← Walk.labelOf base.type
    Walk.error .unknownField span ("type " ++ label ++ " has no field " ++ Text.quote field)
    return ⟨unknown, base.taint⟩
  | some info =>
    match info.field? field with
    | none =>
      reportNoField span info.name field
      return ⟨unknown, base.taint⟩
    | some f => return ⟨f.type, Taint.merge base.taint (a.taintOf f.type)⟩

/-- The value of a wrapped expression; an optional is not wrapped a second time. -/
def checkWrap (kind : Wrap) (inner : Value) : Walk Value := do
  match kind with
  | .some =>
    if (← Walk.types).kindOf inner.type == .optional then return inner
    return ⟨← Walk.make (·.optional inner.type), inner.taint⟩
  | .ok => return ⟨← Walk.make (·.result inner.type unknown), inner.taint⟩
  | .err => return ⟨← Walk.make (·.result unknown inner.type), inner.taint⟩

/-- The element type of a list after one more item: the first item settles it, later ones are
joined in, and an item that does not fit is reported. -/
def joinItem (elem : Option TypeId) (span : Span) (item : Value) : Walk TypeId := do
  match elem with
  | none => return item.type
  | some elem =>
    let (arena, joined) := (← Walk.types).join elem item.type
    modify fun s => { s with types := arena }
    match joined with
    | some id => return id
    | none =>
      let l ← Walk.labelOf elem
      let r ← Walk.labelOf item.type
      Walk.error .typeMismatch span ("list items have incompatible types " ++ l ++ " and " ++ r)
      return elem

mutual

/-- **The type and taint of an expression.** -/
def checkExpr : Expr → Walk Value
  | .name span name => do
    match ← Walk.lookup name with
    | some (_, sym) => return ⟨sym.type, sym.taint⟩
    | none =>
      Walk.reportUndefined name span
      return { type := unknown }
  | .literal _ value => return { type := literalType value }
  | .binary span op left right => do
    let l ← checkExpr left
    let r ← checkExpr right
    checkBinary span op l r
  | .unary span op operand => do
    let v ← checkExpr operand
    checkUnary span op v
  | .call span target args effect capability => do
    let head : CallHead := ⟨span, target, effect, capability⟩
    let callee ← callee head
    let values ← checkExprs span args
    finishCall head callee values
  | .construct span type fields => do
    let (id, info) ← dataType type span
    let (seen, taint) ← checkInits span info [] none fields
    info.forM fun info => checkComplete span info seen
    return ⟨id, taint⟩
  | .member span base field => do
    let v ← checkExpr base
    checkMember span v field
  | .wrap _ kind inner => do
    let v ← checkExpr inner
    checkWrap kind v
  | .none _ => return { type := null }
  | .list span items => do
    let (elem, taint) ← checkItems span none none items
    return ⟨← Walk.make (·.list (elem.getD unknown)), taint⟩
  | .await span task => do
    let v ← checkExpr task
    Walk.observe (.suspends span "await")
    return v

/-- The values of arguments, each with its place. -/
def checkExprs (outer : Span) : List Expr → Walk (List (Value × Span))
  | [] => return []
  | e :: es => do
    let v ← checkExpr e
    let vs ← checkExprs outer es
    return (v, e.span.orElse outer) :: vs

/-- Walks the items of a list: the element type so far and the taint so far. -/
def checkItems (outer : Span) (elem : Option TypeId) (taint : Option Taint) :
    List Expr → Walk (Option TypeId × Option Taint)
  | [] => return (elem, taint)
  | e :: es => do
    let v ← checkExpr e
    let id ← joinItem elem (e.span.orElse outer) v
    checkItems outer (some id) (Taint.merge taint v.taint) es

/-- Walks the initialisers of a record: the names so far and the taint so far. Without details of
the record only the values are walked. -/
def checkInits (outer : Span) (info : Option DataInfo) (seen : List String)
    (taint : Option Taint) : List Init → Walk (List String × Option Taint)
  | [] => return (seen, taint)
  | .mk span name value :: rest => do
    let v ← checkExpr value
    let seen ← match info with
      | none => pure seen
      | some info => checkInit info seen name (span.orElse outer) value.span v
    checkInits outer info seen (Taint.merge taint v.taint) rest

end

end CoreCheck.Check

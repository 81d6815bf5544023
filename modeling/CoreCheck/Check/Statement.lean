import CoreCheck.Check.Pattern
import CoreCheck.Check.TypeNames

/-!
# Check/Statement — statements, blocks and the paths through them

A statement answers whether every path through it ends in a return. Blocks, branches and cases have
scopes of their own.
-/

namespace CoreCheck.Check

open CoreCheck.Types CoreCheck.Scope CoreCheck.Ir

/-- **The function whose body is walked.** -/
structure Enclosing where
  name : String
  span : Span
  typeParams : List String
  result : TypeId

/-- Reports a value that does not fit, with both types. -/
def reportMisfit (code : Code) (span : Span) (message expected actual : String) : Walk Unit :=
  Walk.report <| ((Diagnostic.error code span message).withText "expected" expected).withText
    "actual" actual

/-- The type and taint of a binding. A written type wins over that of the value, and the taint is
that of both; a binding to null becomes optional. -/
def bindingOf (fn : Enclosing) (span : Span) (name : String) (written : Option TypeExpr)
    (v : Value) : Walk Value := do
  match written with
  | some t =>
    let declared ← resolveType tableResolver fn.typeParams fn.span t
    let a ← Walk.types
    unless a.compatible declared v.type do
      let actual ← Walk.labelOf v.type
      let expected ← Walk.labelOf declared
      reportMisfit .typeMismatch span ("cannot bind a value of type " ++ actual ++ " to "
        ++ Text.quote name ++ " of type " ++ expected) expected actual
    return ⟨declared, Taint.merge v.taint (a.taintOf declared)⟩
  | none =>
    if (← Walk.types).kindOf v.type == .null then
      return ⟨← Walk.make (·.optional unknown), v.taint⟩
    return v

/-- Stores a value in a binding. A binding keeps the taint of everything ever stored in it. -/
def assign (span at_ : Span) (name : String) (v : Value) : Walk Unit := do
  match ← Walk.lookup name with
  | none => Walk.reportUndefined name span
  | some (id, sym) =>
    if !sym.flags.mutable && sym.kind != .param then
      Walk.error .typeMismatch span
        ("cannot assign to " ++ sym.kind.label ++ " " ++ Text.quote name)
    else
      unless (← Walk.types).compatible sym.type v.type do
        let actual ← Walk.labelOf v.type
        let expected ← Walk.labelOf sym.type
        reportMisfit .typeMismatch at_ ("cannot assign a value of type " ++ actual ++ " to "
          ++ Text.quote name ++ " of type " ++ expected) expected actual
      Walk.update id fun sym => { sym with taint := Taint.merge sym.taint v.taint }

/-- A return without a value. -/
def checkBareReturn (fn : Enclosing) (span : Span) : Walk Unit := do
  let a ← Walk.types
  unless a.kindOf fn.result == .unit || a.isUnknown fn.result do
    let expected ← Walk.labelOf fn.result
    Walk.report <| (Diagnostic.error .returnMismatch span
      ("function " ++ Text.quote fn.name ++ " must return a value of type " ++ expected)).withText
      "expected" expected

/-- A return with a value. -/
def checkReturn (fn : Enclosing) (span : Span) (v : Value) : Walk Unit := do
  let a ← Walk.types
  if a.kindOf fn.result == .unit && a.kindOf v.type != .unit && !a.isUnknown v.type then
    let actual ← Walk.labelOf v.type
    reportMisfit .returnMismatch span ("function " ++ Text.quote fn.name
      ++ " returns Unit but a value of type " ++ actual ++ " is returned") "Unit" actual
  else unless a.compatible fn.result v.type do
    let expected ← Walk.labelOf fn.result
    let actual ← Walk.labelOf v.type
    reportMisfit .returnMismatch span ("function " ++ Text.quote fn.name ++ " returns " ++ expected
      ++ ", got " ++ actual) expected actual

/-- A condition must be a truth value. -/
def checkCondition (span : Span) (v : Value) : Walk Unit := do
  match (← Walk.types).kindOf v.type with
  | .bool | .unknown => return
  | _ =>
    let label ← Walk.labelOf v.type
    Walk.error .nonBoolCondition span ("condition must be Bool, got " ++ label)

/-- Marks the named tasks as waited for. -/
def awaitTasks (span : Span) : List String → Walk Unit
  | [] => return
  | name :: names => do
    match ← Walk.lookup name with
    | none => Walk.reportUndefined name span
    | some (id, sym) =>
      if sym.kind == .task then
        Walk.update id fun sym => { sym with flags := { sym.flags with awaited := true } }
      else
        Walk.error .typeMismatch span
          (Text.quote name ++ " is a " ++ sym.kind.label ++ ", not a task started with start")
    awaitTasks span names

mutual

/-- **Checks a statement.** Answers whether every path through it returns. -/
def checkStmt (fn : Enclosing) : Stmt → Walk Bool
  | .bind span name type value => do
    Walk.observe (.visits "let" name)
    let v ← checkExpr value
    let bound ← bindingOf fn (value.span.orElse span) name type v
    Walk.define name { kind := .binding, span, flags := { «mutable» := true }, type := bound.type,
                       taint := bound.taint } "binding"
    return false
  | .set span name value => do
    Walk.observe (.visits "set" name)
    let v ← checkExpr value
    assign span (value.span.orElse span) name v
    return false
  | .ret span none => do
    Walk.observe (.visits "return" "")
    checkBareReturn fn span
    return true
  | .ret span (some value) => do
    Walk.observe (.visits "return" "")
    let v ← checkExpr value
    checkReturn fn (value.span.orElse span) v
    return true
  | .eval _ value => do
    let _ ← checkExpr value
    return false
  | .branch span cond yes no => do
    Walk.observe (.visits "if" "")
    let v ← checkExpr cond
    checkCondition (cond.span.orElse span) v
    let a ← Walk.within .block span (checkBlock fn yes)
    let b ← checkElse fn span no
    return a && b
  | .select span scrutinee cases => do
    Walk.observe (.visits "match" "")
    let v ← checkExpr scrutinee
    let (closed, coverage) ← checkCases fn span v cases
    return !cases.isEmpty && closed && coverage.exhaustive (← Walk.types) v.type
  | .scope span body => Walk.within .block span (checkBlock fn body)
  | .start span name task => do
    Walk.observe (.visits "start" name)
    let v ← checkExpr task
    Walk.observe (.suspends span ("start of task " ++ Text.quote name))
    Walk.define name { kind := .task, span, type := v.type, taint := v.taint } "task"
    return false
  | .wait span names => do
    Walk.observe (.visits "wait" "")
    Walk.observe (.suspends span "wait")
    awaitTasks span names
    return false

/-- **Checks statements in order.** Some statement that returns on every path closes the block. -/
def checkBlock (fn : Enclosing) : List Stmt → Walk Bool
  | [] => return false
  | s :: ss => do
    let a ← checkStmt fn s
    let b ← checkBlock fn ss
    return a || b

/-- The other branch of a condition; without one the path goes on. -/
def checkElse (fn : Enclosing) (span : Span) : Option (List Stmt) → Walk Bool
  | none => return false
  | some body => Walk.within .block span (checkBlock fn body)

/-- Checks the cases of a match: whether all of them return, and what they cover together. -/
def checkCases (fn : Enclosing) (outer : Span) (scrutinee : Value) :
    List Case → Walk (Bool × Coverage)
  | [] => return (true, {})
  | .mk span pattern body :: rest => do
    let (closed, coverage) ← Walk.within .matchArm (span.orElse outer) do
      let coverage ← bindPattern (span.orElse outer) scrutinee.type scrutinee.taint pattern
      let closed ← checkBlock fn body
      return (closed, coverage)
    let (others, more) ← checkCases fn outer scrutinee rest
    return (closed && others, coverage.union more)

end

end CoreCheck.Check

import CoreCheck.Check.Module

/-!
# Proofs/Path/Run — taint along one control path

A run of a body takes one branch of every condition and at most one case of every match, and stops at
a return.  `Path.run` follows one such path and carries taint along it: names start with the taint of
what they are bound to, and storing a value replaces the taint of what was there.  Nothing off the
path is looked at.  Expressions have the taint that a walk gives them.

A walk refuses to bind a name twice in one scope.  A run has no such rule: with `rebind` every binding
takes effect.
-/

namespace CoreCheck.Check.Path

open CoreCheck.Types CoreCheck.Scope CoreCheck.Ir

/-- **Which way is taken where a path forks**, in order.  At a condition zero takes the first branch
and any other number the second; at a match a number takes the case of that number, and no case when
there is none.  When the list is used up zero is taken. -/
abbrev Turns := List Nat

/-- How a path goes on: with the turns that are left, or not at all after a return. -/
abbrev Onwards := Option Turns

/-- What can be assigned to: variables and parameters. -/
def assignable (sym : Symbol) : Bool := sym.flags.mutable || sym.kind == .param

/-- **Stores a value**: what was stored before is gone.  A name that does not store what is assigned
to it keeps what it has. -/
def store (stores : Symbol → Bool) (name : String) (v : Value) : Walk Unit := do
  match ← Walk.lookup name with
  | none => return
  | some (id, sym) =>
    if stores sym then Walk.update id fun sym => { sym with taint := v.taint }

/-- How a name is bound to a symbol; the last argument says in messages what it is. -/
abbrev Binder := String → Symbol → String → Walk Unit

/-- **Binds a name in any case**: what it stood for in the innermost scope is replaced. -/
def rebind : Binder := fun name sym _ => do
  match (← get).table.define name sym with
  | .ok (table, _) => modify fun s => { s with table }
  | .error d => Walk.update d.previous fun old =>
      { sym with name := old.name, scope := old.scope, depth := old.depth }

/-- What a variable starts with: the value, or the written type with the taint of both. -/
def initial (fn : Enclosing) (written : Option TypeExpr) (v : Value) : Walk Value := do
  match written with
  | some t =>
    let type ← resolveType tableResolver fn.typeParams fn.span t
    return ⟨type, Taint.merge v.taint ((← Walk.types).taintOf type)⟩
  | none =>
    if (← Walk.types).kindOf v.type == .null then
      return ⟨← Walk.make (·.optional unknown), v.taint⟩
    return v

/-- A name in a pattern is bound, unless it is a variant to compare with. -/
def receiveName (binds : Binder) (span : Span) (type : TypeId) (taint : Option Taint)
    (name : String) : Walk Unit := do
  if hasVariant (← Walk.types) type name then return
  if (← variantType? name).isSome then return
  binds name { kind := .binding, span, type, taint } "binding"

section

variable (binds : Binder)

mutual

/-- **Binds the names of a pattern.**  They start with the taint of the matched value; parts of a
record carry the taint of their own type as well. -/
def receive (type : TypeId) (taint : Option Taint) : Pattern → Walk Unit
  | .wildcard _ | .none _ => return
  | .name span name => receiveName binds span type taint name
  | .literal _ value => do
    let _ ← checkExpr value
  | .wrap span kind inner => do
    let part ← wrappedType kind span type
    receive part taint inner
  | .ctor span name args => do
    match ← takenBy span type name args.length with
    | .variant => return
    | .unclear => receiveParts taint [] args
    | .data _ info => receiveParts taint info.fields args

/-- Binds the names of the parts of a record pattern. -/
def receiveParts (taint : Option Taint) (fields : List Field) : List Pattern → Walk Unit
  | [] => return
  | p :: ps => do
    let type := (fields.head?.map Field.type).getD unknown
    receive type (Taint.merge taint ((← Walk.types).taintOf type)) p
    receiveParts taint fields.tail ps

end

end

section

variable (stores : Symbol → Bool) (binds : Binder) (fn : Enclosing)

mutual

/-- **Follows a path through a statement.** -/
def step (turns : Turns) : Stmt → Walk Onwards
  | .bind span name written value => do
    let v ← checkExpr value
    let start ← initial fn written v
    binds name { kind := .binding, span, flags := { «mutable» := true }, type := start.type,
                 taint := start.taint } "binding"
    return some turns
  | .set _ name value => do
    let v ← checkExpr value
    store stores name v
    return some turns
  | .ret _ none => return none
  | .ret _ (some value) => do
    let _ ← checkExpr value
    return none
  | .eval _ value => do
    let _ ← checkExpr value
    return some turns
  | .branch span cond yes no => do
    let _ ← checkExpr cond
    if turns.headD 0 = 0 then Walk.within .block span (steps turns.tail yes)
    else stepElse span turns.tail no
  | .select span scrutinee cases => do
    let v ← checkExpr scrutinee
    stepCase span v (turns.headD 0) turns.tail cases
  | .scope span body => Walk.within .block span (steps turns body)
  | .start span name task => do
    let v ← checkExpr task
    binds name { kind := .task, span, type := v.type, taint := v.taint } "task"
    return some turns
  | .wait _ _ => return some turns

/-- Follows a path through statements in order, as far as it goes. -/
def steps (turns : Turns) : List Stmt → Walk Onwards
  | [] => return some turns
  | s :: ss => do
    match ← step turns s with
    | none => return none
    | some turns => steps turns ss

/-- The second branch of a condition; without one the path goes on behind it. -/
def stepElse (span : Span) (turns : Turns) : Option (List Stmt) → Walk Onwards
  | none => return some turns
  | some body => Walk.within .block span (steps turns body)

/-- The case of a given number; without one the path goes on behind the match. -/
def stepCase (outer : Span) (scrutinee : Value) (n : Nat) (turns : Turns) :
    List Case → Walk Onwards
  | [] => return some turns
  | .mk span pattern body :: rest =>
    match n with
    | 0 =>
      Walk.within .matchArm (span.orElse outer) do
        receive binds scrutinee.type scrutinee.taint pattern
        steps turns body
    | n + 1 => stepCase outer scrutinee n turns rest

end

end

/-- Parameters start with the taint of their types. -/
def startParams (binds : Binder) : List Param → Walk Unit
  | [] => return
  | p :: ps => do
    let taint := (← Walk.types).taintOf p.type
    binds p.name { kind := .param, span := p.span, type := p.type, taint } "parameter"
    startParams binds ps

/-- **Follows a path through the body of a function.** -/
def run (stores : Symbol → Bool) (binds : Binder) (f : Func) (sig : Signature) (turns : Turns) :
    Walk Unit :=
  Walk.within .function f.span do
    startParams binds sig.params
    let _ ← steps stores binds ⟨f.name, f.span, f.typeParams, sig.result⟩ turns f.body

end CoreCheck.Check.Path

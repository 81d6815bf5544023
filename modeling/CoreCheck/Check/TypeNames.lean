import CoreCheck.Check.State
import CoreCheck.Ir.Syntax

/-!
# Check/TypeNames — from written types to types

A written type is turned into a type of the arena part by part. Names are looked up by a function
that is passed in: while declarations are collected it resolves aliases on demand, later it reads
the finished table. A name that stands for nothing is reported and becomes the placeholder.
-/

namespace CoreCheck.Check

open CoreCheck.Types CoreCheck.Ir

/-- How the name of a type is looked up. -/
abbrev Resolver := String → Walk (Option TypeId)

mutual

/-- **The type that a written type stands for.** Names in `vars` are type parameters; problems are
placed at `fallback` where the written type has no place of its own. -/
def resolveType (find : Resolver) (vars : List String) (fallback : Span) : TypeExpr → Walk TypeId
  | .name at_ name => do
    if vars.contains name then Walk.make (·.var name)
    else
      match ← find name with
      | some id => return id
      | none =>
        Walk.reportUnknownType name (at_.orElse fallback)
        return unknown
  | .var _ name => Walk.make (·.var name)
  | .optional at_ elem => do
    let elem ← resolveType find vars (at_.orElse fallback) elem
    if (← Walk.types).kindOf elem == .optional then return elem
    else Walk.make (·.optional elem)
  | .list at_ elem => do
    let elem ← resolveType find vars (at_.orElse fallback) elem
    Walk.make (·.list elem)
  | .map at_ key value => do
    let key ← resolveType find vars (at_.orElse fallback) key
    let value ← resolveType find vars (at_.orElse fallback) value
    Walk.make (·.map key value)
  | .result at_ ok err => do
    let ok ← resolveType find vars (at_.orElse fallback) ok
    let err ← resolveType find vars (at_.orElse fallback) err
    Walk.make (·.result ok err)
  | .func at_ params ret => do
    let params ← resolveTypes find vars (at_.orElse fallback) params
    let ret ← resolveResult find vars (at_.orElse fallback) ret
    Walk.make (·.func params ret)
  | .pii at_ elem level category => do
    let elem ← resolveType find vars (at_.orElse fallback) elem
    Walk.make (·.pii elem level category)

/-- The types that a list of written types stand for. -/
def resolveTypes (find : Resolver) (vars : List String) (fallback : Span) :
    List TypeExpr → Walk (List TypeId)
  | [] => return []
  | t :: ts => do
    let id ← resolveType find vars fallback t
    let ids ← resolveTypes find vars fallback ts
    return id :: ids

/-- The type of a result; where none is written it is the unit type. -/
def resolveResult (find : Resolver) (vars : List String) (fallback : Span) :
    Option TypeExpr → Walk TypeId
  | none => return unit
  | some t => resolveType find vars fallback t

end

/-- Looks a name up in the table of type names. -/
def tableResolver : Resolver := fun name => return (← get).aliases.resolve? name

/-! ## Aliases -/

/-- An alias declaration under the name it is registered for. -/
structure AliasTarget where
  name : String
  index : Nat
  span : Span
  target : TypeExpr
deriving Inhabited

/-- **Looks a name up, resolving an alias first if that has not happened yet.** An alias that is
met again while it is being resolved refers to itself; that is reported at the alias, and the
placeholder stands for it. Every nested resolution starts on another alias, so the fuel of one more
than the number of aliases is never used up. -/
def aliasResolver (targets : List AliasTarget) : Nat → Resolver
  | 0, _ => return some unknown
  | fuel + 1, name => do
    match targets.find? (·.name = name) with
    | none => return (← get).aliases.resolve? name
    | some t =>
      match (← get).visits.lookup name with
      | some .done => return some (((← get).aliases.resolve? name).getD 0)
      | some .visiting =>
        Walk.ownedBy t.index <| Walk.report <|
          (Diagnostic.error .unknownType t.span
            ("type alias " ++ Text.quote name ++ " refers to itself")).withHelp
            "break the cycle by spelling out the target type"
        return some unknown
      | none =>
        modify fun s => { s with visits := (name, .visiting) :: s.visits }
        let id ← Walk.ownedBy t.index
          (resolveType (aliasResolver targets fuel) [] t.span t.target)
        modify fun s =>
          { s with aliases := s.aliases.set name id, visits := (name, .done) :: s.visits }
        return some id

/-- Looks a name up while aliases are being resolved. -/
def onDemand (targets : List AliasTarget) : Resolver := aliasResolver targets (targets.length + 1)

end CoreCheck.Check

import CoreCheck.Check.Observation
import CoreCheck.Scope.Table
import CoreCheck.Types.Aliases
import CoreCheck.Types.Label

/-!
# Check/State — what a walk carries along

The types and names of the module, and the log of what was seen. An entry of the log may belong to a
declaration, its owner. A walk remembers the scopes it has opened, and leaves the one it opened last.
Having none, or leaving one that is not the innermost of the table, would be a fault of the walk; it
is kept so that its absence can be stated.
-/

namespace CoreCheck.Check

open CoreCheck.Types CoreCheck.Scope

/-- How far the resolution of an alias has come. -/
inductive Visit where
  | visiting | done
deriving DecidableEq

/-- A fault of a walk that leaves a scope. -/
inductive Fault where
  /-- It has opened no scope. -/
  | nothingOpened
  /-- The scope it opened last cannot be left. -/
  | mismatch (m : Mismatch)
deriving DecidableEq

/-- **What a walk carries along.** -/
structure State where
  types : Arena := .initial
  table : Table := .initial
  aliases : Aliases := .initial
  /-- The aliases whose resolution has begun. -/
  visits : List (String × Visit) := []
  /-- The declaration that new entries of the log belong to, if they belong to one. -/
  owner : Option Nat := none
  log : Array (Option Nat × Observation) := #[]
  /-- The scopes that were opened and not left, the last one first. -/
  opened : List Nat := []
  fault : Option Fault := none
deriving Inhabited

/-- A step of a walk. -/
abbrev Walk := StateM State

/-- The observations that belong to a declaration, in order. -/
def State.logOf (s : State) (owner : Nat) : List Observation :=
  (s.log.toList.filter (·.1 = some owner)).map (·.2)

namespace Walk

/-- Writes an observation into the log. -/
def observe (o : Observation) : Walk Unit :=
  modify fun s => { s with log := s.log.push (s.owner, o) }

/-- Reports a problem. -/
def report (d : Diagnostic) : Walk Unit := observe (.problem d)

/-- Reports an error of which there is nothing more to say. -/
def error (code : Code) (span : Span) (message : String) : Walk Unit :=
  report (.error code span message)

/-- Runs a step whose observations belong to another declaration. -/
def ownedBy (owner : Nat) (step : Walk α) : Walk α := do
  let outer := (← get).owner
  modify fun s => { s with owner := some owner }
  let a ← step
  modify fun s => { s with owner := outer }
  return a

/-! ## Types -/

/-- The types so far. -/
def types : Walk Arena := return (← get).types

/-- Makes a type. -/
def make (f : Arena → Arena × TypeId) : Walk TypeId :=
  modifyGet fun s => let (types, id) := f s.types; (id, { s with types })

/-- How a type is written in messages. -/
def labelOf (id : TypeId) : Walk String := do
  let arena ← types
  return if id = 0 then "Unknown" else arena.label id

/-! ## Names -/

/-- What a name stands for, with the number of the symbol. -/
def lookup (name : String) : Walk (Option (Nat × Symbol)) := do
  let table := (← get).table
  return (table.lookupId? name).bind fun id => (table.symbol? id).map (id, ·)

/-- Reports that a name is bound twice, with a note at the earlier binding if its place is known. -/
def reportDuplicate (what name : String) (span previous : Span) : Walk Unit :=
  let d := Diagnostic.error .duplicateSymbol span
    (what ++ " " ++ Text.quote name ++ " is already defined in this scope")
  report (if previous.isZero then d else d.withNote previous "previous definition is here")

/-- Reports a name that stands for nothing. -/
def reportUndefined (name : String) (span : Span) : Walk Unit :=
  report ((Diagnostic.error .undefinedSymbol span ("undefined name " ++ Text.quote name)).withText
    "name" name)

/-- Reports a type name that stands for nothing. -/
def reportUnknownType (name : String) (span : Span) : Walk Unit :=
  report ((Diagnostic.error .unknownType span ("unknown type " ++ Text.quote name)).withText
    "name" name)

/-- **Binds a name in the innermost scope**, or reports that it is bound there already. -/
def define (name : String) (sym : Symbol) (what : String) : Walk Unit := do
  match (← get).table.define name sym with
  | .ok (table, _) => modify fun s => { s with table }
  | .error d => reportDuplicate what name sym.span d.span

/-- Changes a symbol in place. -/
def update (id : Nat) (f : Symbol → Symbol) : Walk Unit :=
  modify fun s => { s with table := s.table.updateSymbol id f }

/-- Opens a scope. -/
def enter (kind : ScopeKind) (span : Span) : Walk Unit :=
  modify fun s =>
    let (table, id) := s.table.enter kind span
    { s with table, opened := id :: s.opened }

/-- Leaves the scope that was opened last, which should be the innermost one. -/
def leave : Walk Unit :=
  modify fun s =>
    match s.opened with
    | [] => { s with fault := some .nothingOpened }
    | id :: opened =>
      match s.table.exit id with
      | .ok table => { s with table, opened }
      | .error m => { s with opened, fault := some (.mismatch m) }

/-- **Runs a step inside a fresh scope.** -/
def within (kind : ScopeKind) (span : Span) (step : Walk α) : Walk α := do
  enter kind span
  let a ← step
  leave
  return a

end Walk

end CoreCheck.Check

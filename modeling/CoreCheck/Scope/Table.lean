import CoreCheck.Scope.Symbol
import CoreCheck.Strings
import CoreCheck.Text.Quoted

/-!
# Scope/Table — names in nested scopes

Scopes and symbols live in arenas, numbered from one, and are never removed. A stack of scope
numbers says which scopes are open, innermost first; the module's own scope is always at the bottom.
A name is looked up from the innermost scope outwards, so inner bindings shadow outer ones.
-/

namespace CoreCheck.Scope

/-- **What kind of scope it is.** Codes that name no kind are kept. -/
inductive ScopeKind where
  | invalid | module | function | block | matchArm
  | other (code : Nat)
deriving DecidableEq, Inhabited

namespace ScopeKind

/-- The name of a kind. -/
def label : ScopeKind → String
  | .module => "module"
  | .function => "function"
  | .block => "block"
  | .matchArm => "match-arm"
  | _ => "invalid"

/-- The kind with a given number. -/
def ofCode (n : Nat) : ScopeKind :=
  match n with
  | 0 => .invalid
  | 1 => .module
  | 2 => .function
  | 3 => .block
  | 4 => .matchArm
  | n => .other n

end ScopeKind

/-- **A scope**: its place among the scopes, and its names with the symbols they stand for. -/
structure Frame where
  kind : ScopeKind
  parent : Nat
  depth : Int
  span : Span := {}
  names : List (Nat × Nat) := []
  symbols : List Nat := []
  children : List Nat := []
deriving Inhabited

/-- **The scopes and symbols of a module.** The stack holds the open scopes, innermost first. -/
structure Table where
  frames : Array Frame
  symbols : Array Symbol
  strings : Strings
  stack : List Nat
deriving Inhabited

/-- A scope that cannot be left. -/
inductive Mismatch where
  /-- Only the module's scope is open. -/
  | noneOpen (asked : Nat)
  /-- Another scope is the innermost one. -/
  | notInnermost (asked innermost : Nat)
deriving DecidableEq

/-- The wording of the failure. -/
def Mismatch.message : Mismatch → String
  | .noneOpen asked => s!"scope mismatch: exit of scope {asked} with no open scope"
  | .notInnermost asked innermost =>
    s!"scope mismatch: expected to exit {asked}, innermost is {innermost}"

/-- A name already bound in the same scope. -/
structure Duplicate where
  name : String
  previous : Nat
  span : Span
deriving DecidableEq

/-- The wording of the failure. -/
def Duplicate.message (d : Duplicate) : String :=
  "duplicate symbol: " ++ Text.quote d.name ++ " already defined in this scope"

namespace Table

/-- The number of the module's scope. -/
def root : Nat := 1

/-- The table in which only the module's scope is open. -/
def initial : Table :=
  { frames := #[{ kind := .module, parent := 0, depth := 0 }], symbols := #[], strings := {},
    stack := [root] }

/-- A scope by its number. -/
def frame? (t : Table) (id : Nat) : Option Frame := if id = 0 then none else t.frames[id - 1]?

/-- A symbol by its number. -/
def symbol? (t : Table) (id : Nat) : Option Symbol := if id = 0 then none else t.symbols[id - 1]?

/-- Changes a scope; an unknown number changes nothing. -/
def updateFrame (t : Table) (id : Nat) (f : Frame → Frame) : Table :=
  if id = 0 then t else { t with frames := t.frames.modify (id - 1) f }

/-- Changes a symbol; an unknown number changes nothing. -/
def updateSymbol (t : Table) (id : Nat) (f : Symbol → Symbol) : Table :=
  if id = 0 then t else { t with symbols := t.symbols.modify (id - 1) f }

/-- The number of the innermost open scope. -/
def current (t : Table) : Nat := t.stack.headD 0

/-- How deep the innermost scope is nested; the module's scope has depth zero. -/
def depth (t : Table) : Int := (t.stack.length : Int) - 1

/-- **Opens a scope** inside the innermost one. -/
def enter (t : Table) (kind : ScopeKind) (span : Span) : Table × Nat :=
  let id := t.frames.size + 1
  let frame : Frame := { kind, parent := t.current, depth := t.stack.length, span }
  let t' := { t with frames := t.frames.push frame, stack := id :: t.stack }
  (t'.updateFrame t.current fun f => { f with children := f.children ++ [id] }, id)

/-- **Leaves the innermost scope**, which must be the one asked for. -/
def exit (t : Table) (asked : Nat) : Except Mismatch Table :=
  match t.stack with
  | top :: next :: rest =>
    if top = asked then .ok { t with stack := next :: rest }
    else .error (.notInnermost asked top)
  | _ => .error (.noneOpen asked)

/-- The symbol that a name stands for in one scope. -/
def inFrame? (t : Table) (scope name : Nat) : Option Nat :=
  (t.frame? scope).bind fun f => f.names.lookup name

/-- The symbol that a name stands for: the innermost binding. -/
def lookupId? (t : Table) (name : String) : Option Nat :=
  (t.strings.find? name).bind fun n => t.stack.findSome? (t.inFrame? · n)

/-- The symbol that a name stands for in the innermost scope alone. -/
def lookupLocalId? (t : Table) (name : String) : Option Nat :=
  (t.strings.find? name).bind fun n => t.inFrame? t.current n

/-- **Binds a name in the innermost scope.** A name bound there already is refused; a name bound
further out is shadowed. -/
def define (t : Table) (name : String) (sym : Symbol) : Except Duplicate (Table × Nat) :=
  let (strings, n) := t.strings.intern name
  match t.inFrame? t.current n with
  | some previous =>
    .error ⟨name, previous, ((t.symbol? previous).map (·.span)).getD {}⟩
  | none =>
    let id := t.symbols.size + 1
    let depth := ((t.frame? t.current).map (·.depth)).getD 0
    let sym := { sym with name := n, scope := t.current, depth }
    let t := { t with strings, symbols := t.symbols.push sym }
    .ok (t.updateFrame t.current fun f =>
      { f with symbols := f.symbols ++ [id], names := f.names ++ [(n, id)] }, id)

/-- The name of a symbol. -/
def nameOf (t : Table) (sym : Symbol) : String := (t.strings.lookup? sym.name).getD ""

end Table

end CoreCheck.Scope

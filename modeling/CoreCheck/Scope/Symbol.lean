import CoreCheck.Capability
import CoreCheck.Effect
import CoreCheck.Span
import CoreCheck.Taint
import CoreCheck.Types.Arena

/-!
# Scope/Symbol — what a name can stand for

A symbol is a named thing of a scope: a function, a binding, a parameter, a variant, a task or an
import.
-/

namespace CoreCheck.Scope

open CoreCheck.Types (TypeId)

/-- **What kind of thing a name stands for.** -/
inductive SymbolKind where
  | invalid | function | binding | param | variant | task | imported
deriving DecidableEq, Inhabited

namespace SymbolKind

/-- The name of a kind. -/
def label : SymbolKind → String
  | .invalid => "invalid"
  | .function => "function"
  | .binding => "let"
  | .param => "param"
  | .variant => "variant"
  | .task => "task"
  | .imported => "import"

/-- The kind with a given number. -/
def ofCode (n : Nat) : SymbolKind :=
  match n with
  | 1 => .function
  | 2 => .binding
  | 3 => .param
  | 4 => .variant
  | 5 => .task
  | 6 => .imported
  | _ => .invalid

end SymbolKind

/-- Marks of a symbol. -/
structure Flags where
  mutable : Bool := false
  builtin : Bool := false
  /-- A task that was waited for. -/
  awaited : Bool := false
deriving DecidableEq, Inhabited

/-- The names of the marks that are set. -/
def Flags.labels (f : Flags) : List String :=
  (if f.mutable then ["mutable"] else []) ++ (if f.builtin then ["builtin"] else [])
    ++ (if f.awaited then ["awaited"] else [])

/-- A parameter of a function. -/
structure Param where
  name : String
  type : TypeId
  span : Span := {}
deriving Inhabited

/-- **What a caller needs to know of a function.** The capabilities are `none` when the function
gave no list at all. -/
structure Signature where
  params : List Param
  result : TypeId
  effect : Effect
  capabilities : Option Capability.Set := none
deriving Inhabited

namespace Signature

/-- The types of the parameters. -/
def paramTypes (s : Signature) : List TypeId := s.params.map (·.type)

/-- The number of parameters. -/
def arity (s : Signature) : Nat := s.params.length

end Signature

/-- **A symbol.** Its name is given by its number in the pool of the table. -/
structure Symbol where
  name : Nat := 0
  kind : SymbolKind
  scope : Nat := 0
  depth : Int := 0
  span : Span := {}
  flags : Flags := {}
  type : TypeId := 0
  taint : Option Taint := none
  signature : Option Signature := none
deriving Inhabited

end CoreCheck.Scope

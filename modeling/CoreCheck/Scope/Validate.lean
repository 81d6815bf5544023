import CoreCheck.Scope.Table

/-!
# Scope/Validate — the structural laws of a scope table

Parents and children agree, depths grow by one, every name of a scope stands for a symbol of that
scope and name, the open scopes form a chain of parents, and every symbol is listed by its scope.
-/

namespace CoreCheck.Scope

/-- **A broken law of a scope table.** -/
inductive Problem where
  | kind (scope : Nat)
  | parent (scope parent : Nat)
  | notChild (scope parent : Nat)
  | depth (scope : Nat) (depth parentDepth : Int)
  | child (scope child : Nat)
  | count (scope names symbols : Nat)
  | foreign (scope name symbol : Nat)
  | stack (level : Nat)
  | symbolScope (symbol scope : Nat)
  | unlisted (symbol scope : Nat)
deriving DecidableEq

/-- The wording of a problem. -/
def Problem.message : Problem → String
  | .kind s => s!"scope {s} has invalid kind"
  | .parent s p => s!"scope {s} has invalid parent {p}"
  | .notChild s p => s!"scope {s} is not among the children of {p}"
  | .depth s d p => s!"scope {s} depth " ++ toString d ++ " under parent depth " ++ toString p
  | .child s c => s!"scope {s} lists child {c} that does not point back"
  | .count s n k => s!"scope {s} indexes {n} names for {k} symbols"
  | .foreign s n k => s!"scope {s} name {n} maps to foreign symbol {k}"
  | .stack l => s!"scope stack broken at level {l}"
  | .symbolScope k s => s!"symbol {k} has invalid scope {s}"
  | .unlisted k s => s!"symbol {k} is missing from scope {s}"

namespace Table

/-- What is wrong with the link of a scope to its parent: at most one thing. -/
def parentProblems (t : Table) (id : Nat) (f : Frame) : List Problem :=
  if f.parent = 0 then []
  else
    match t.frame? f.parent with
    | none => [.parent id f.parent]
    | some p =>
      if f.parent = id then [.parent id f.parent]
      else if !p.children.contains id then [.notChild id f.parent]
      else if f.depth ≠ p.depth + 1 then [.depth id f.depth p.depth]
      else []

/-- What is wrong with one scope. -/
def frameProblems (t : Table) (id : Nat) (f : Frame) : List Problem :=
  (if f.kind = .invalid then [.kind id] else []) ++
  t.parentProblems id f ++
  (f.children.filter fun c => !((t.frame? c).any (·.parent = id))).map (.child id) ++
  (if f.names.length ≠ f.symbols.length then [.count id f.names.length f.symbols.length] else []) ++
  (f.names.filter fun (n, k) => !((t.symbol? k).any fun s => s.scope = id ∧ s.name = n)).map
    fun (n, k) => .foreign id n k

/-- What is wrong with the stack of open scopes, from the outermost on. -/
def stackProblems (t : Table) : Nat → List Nat → List Problem
  | level, outer :: inner :: rest =>
    (if (t.frame? inner).any (·.parent = outer) then [] else [.stack level]) ++
      t.stackProblems (level + 1) (inner :: rest)
  | _, _ => []

/-- What is wrong with one symbol. -/
def symbolProblems (t : Table) (id : Nat) (s : Symbol) : List Problem :=
  match t.frame? s.scope with
  | none => [.symbolScope id s.scope]
  | some f => if f.symbols.contains id then [] else [.unlisted id s.scope]

/-- **Every broken law of a table**: scopes by number, then the stack, then symbols by number. -/
def validate (t : Table) : List Problem :=
  (t.frames.toList.zipIdx.flatMap fun (f, i) => t.frameProblems (i + 1) f) ++
  t.stackProblems 1 t.stack.reverse ++
  (t.symbols.toList.zipIdx.flatMap fun (s, i) => t.symbolProblems (i + 1) s)

end Table

end CoreCheck.Scope

import CoreCheck.Types.Arena

/-!
# Types/Aliases — the names of types

A table from names to types. It starts with the names of the builtin types, some of which have two
spellings, and grows by the type names of a module.
-/

namespace CoreCheck.Types

/-- **A table of type names.** -/
structure Aliases where
  entries : List (String × TypeId)
deriving Inhabited

namespace Aliases

/-- The builtin names. -/
def builtin : List (String × TypeId) := [
  ("Int", int), ("Long", long), ("Double", double), ("Float", double), ("Text", text),
  ("String", text), ("Bool", bool), ("Unit", unit), ("Void", unit), ("Null", null)]

/-- Whether a name is builtin. -/
def isBuiltin (name : String) : Bool := builtin.any (·.1 == name)

/-- The table of the builtin names. -/
def initial : Aliases := ⟨builtin⟩

/-- The type of a name. -/
def resolve? (t : Aliases) (name : String) : Option TypeId := t.entries.lookup name

/-- Adds a name, or answers `none` when it is there already. -/
def define? (t : Aliases) (name : String) (id : TypeId) : Option Aliases :=
  if (t.resolve? name).isSome then none else some ⟨t.entries ++ [(name, id)]⟩

/-- Sets a name, whether it is there or not. -/
def set (t : Aliases) (name : String) (id : TypeId) : Aliases :=
  if (t.resolve? name).isSome then
    ⟨t.entries.map fun (n, i) => if n = name then (n, id) else (n, i)⟩
  else ⟨t.entries ++ [(name, id)]⟩

/-- How many names there are. -/
def size (t : Aliases) : Nat := t.entries.length

/-- The names, sorted. -/
def names (t : Aliases) : List String := (t.entries.map (·.1)).mergeSort

/-- The names that are not builtin, sorted, with their types. -/
def declared (t : Aliases) : List (String × TypeId) :=
  (t.entries.filter fun (n, _) => !isBuiltin n).mergeSort fun x y => x.1 ≤ y.1

end Aliases

end CoreCheck.Types

import CoreCheck.Check.TypeNames

/-!
# Check/Declare — the declarations of a module

Before any body is walked, two passes collect what the declarations introduce. The first registers
type names, resolves aliases and sets the fields of record types; the second binds functions,
variants and imports in the module's scope, so that bodies may use what is declared later.
Everything reported here belongs to the declaration it is about.
-/

namespace CoreCheck.Check

open CoreCheck.Types CoreCheck.Scope CoreCheck.Ir

/-! ## Type names -/

/-- Reports each variant that is listed a second time. -/
def reportRepeats (span : Span) (seen : List String) : List String → Walk Unit
  | [] => return
  | v :: vs => do
    if seen.contains v then Walk.reportDuplicate "enum variant" v span {}
    reportRepeats span (v :: seen) vs

/-- The registered type names: for each its declaration and its place. -/
abbrev TypeNames := List (String × Nat × Span)

/-- Registers a type name; builtin names and names registered before are refused. -/
def registerName (known : TypeNames) (index : Nat) (name : String) (span : Span) (id : TypeId) :
    Walk TypeNames := do
  if Aliases.isBuiltin name then
    Walk.error .duplicateSymbol span
      ("type " ++ Text.quote name ++ " is a builtin type and cannot be redeclared")
    return known
  match (← get).aliases.define? name id with
  | none =>
    Walk.reportDuplicate "type" name span ((known.lookup name).elim {} (·.2))
    return known
  | some aliases =>
    modify fun s => { s with aliases }
    return known ++ [(name, index, span)]

/-- Makes the type of a declaration and registers its name. An alias starts as the placeholder. -/
def declareType (known : TypeNames) (index : Nat) (d : Decl) : Walk (TypeNames × Option TypeId) :=
  Walk.ownedBy index do
    match d with
    | .data span name _ =>
      let id ← Walk.make (·.newData name span)
      return (← registerName known index name span id, some id)
    | .enum span name variants =>
      let id ← Walk.make (·.newEnum name span variants)
      reportRepeats span [] variants
      return (← registerName known index name span id, some id)
    | .alias span name _ =>
      return (← registerName known index name span unknown, none)
    | _ => return (known, none)

/-- Makes the types of all declarations, each with its own type where it has one. -/
def declareTypes (known : TypeNames) :
    List (Decl × Nat) → Walk (TypeNames × List (Decl × Nat × Option TypeId))
  | [] => return (known, [])
  | (d, i) :: rest => do
    let (known, id) ← declareType known i d
    let (known, rest) ← declareTypes known rest
    return (known, (d, i, id) :: rest)

/-- The alias declarations that hold their name. -/
def aliasTargets (known : TypeNames) (decls : List (Decl × Nat)) : List AliasTarget :=
  decls.filterMap fun (d, index) =>
    match d with
    | .alias span name target =>
      if (known.lookup name).any (·.1 = index) then some ⟨name, index, span, target⟩ else none
    | _ => none

/-- The fields of a record type; a name used before is reported and left out. -/
def resolveFields (find : Resolver) (owner : Span) (seen : List (String × Span)) :
    List TypedName → Walk (List Field)
  | [] => return []
  | f :: fs => do
    let span := f.span.orElse owner
    match seen.lookup f.name with
    | some previous =>
      Walk.reportDuplicate "field" f.name span previous
      resolveFields find owner seen fs
    | none =>
      let type ← resolveType find [] owner f.type
      let rest ← resolveFields find owner ((f.name, span) :: seen) fs
      return { name := f.name, type, span := f.span } :: rest

/-- Resolves the target of an alias, or the fields of a record type. The target of an alias that
does not hold its name is resolved too, for its problems. -/
def resolveDecl (targets : List AliasTarget) : Decl × Nat × Option TypeId → Walk Unit
  | (.alias span name target, index, _) => do
    if targets.any fun t => t.name = name && t.index = index then
      let _ ← onDemand targets name
    else
      let _ ← Walk.ownedBy index (resolveType (onDemand targets) [] span target)
  | (.data span _ fields, index, some id) =>
    Walk.ownedBy index do
      let fields ← resolveFields (onDemand targets) span [] fields
      modify fun s => { s with types := s.types.setFields id fields }
  | _ => return

/-- **Collects the type names** and answers where each was declared. -/
def collectTypes (decls : List (Decl × Nat)) : Walk TypeNames := do
  let (known, typed) ← declareTypes [] decls
  let targets := aliasTargets known decls
  typed.forM (resolveDecl targets)
  return known

/-! ## Values -/

/-- The parameters of a function with their types. -/
def resolveParams (find : Resolver) (vars : List String) (owner : Span) :
    List TypedName → Walk (List Param)
  | [] => return []
  | p :: ps => do
    let type ← resolveType find vars (p.span.orElse owner) p.type
    let rest ← resolveParams find vars owner ps
    return { name := p.name, type, span := p.span } :: rest

/-- The declared signature of a function. -/
def signatureOf (f : Func) : Walk Signature := do
  let params ← resolveParams tableResolver f.typeParams f.span f.params
  let result ← resolveResult tableResolver f.typeParams f.span f.ret
  return { params, result, effect := f.effect,
           capabilities := f.capabilities.map Capability.Set.ofList }

/-- Binds the variants of an enumeration; one that is bound to it already was reported before. -/
def defineVariants (span : Span) (type : TypeId) : List String → Walk Unit
  | [] => return
  | v :: vs => do
    let table := (← get).table
    let there := ((table.lookupLocalId? v).bind table.symbol?).any fun sym =>
      sym.kind == .variant && sym.type == type
    unless there do
      Walk.define v { kind := .variant, span, type } "value"
    defineVariants span type vs

/-- Binds what a declaration introduces; a function answers its signature. -/
def declareValue (known : TypeNames) (d : Decl) (index : Nat) : Walk (Option Signature) :=
  Walk.ownedBy index do
    match d with
    | .func f =>
      let sig ← signatureOf f
      let type ← Walk.make (·.func sig.paramTypes sig.result)
      Walk.define f.name { kind := .function, span := f.span, type, signature := some sig }
        "function"
      return some sig
    | .enum span name variants =>
      if (known.lookup name).any (·.1 = index) then
        defineVariants span (((← get).aliases.resolve? name).getD 0) variants
      return none
    | .imported span name =>
      Walk.define name { kind := .imported, span, type := unknown, flags := { builtin := true } }
        "import"
      return none
    | _ => return none

/-- Binds what all declarations introduce. -/
def declareValues (known : TypeNames) : List (Decl × Nat) → Walk (List (Option Signature))
  | [] => return []
  | (d, i) :: rest => do
    let sig ← declareValue known d i
    let sigs ← declareValues known rest
    return sig :: sigs

/-- **Collects all declarations of a module**: the signature of each function, in order. -/
def declare (decls : List Decl) : Walk (List (Option Signature)) := do
  let known ← collectTypes decls.zipIdx
  declareValues known decls.zipIdx

end CoreCheck.Check

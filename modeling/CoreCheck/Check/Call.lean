import CoreCheck.Check.State
import CoreCheck.Text.Split
import CoreCheck.Types.Compatible

/-!
# Check/Call — what a call does

A call removes taint, calls a function of the module, calls a value of function type, or leaves the
module. Calls that leave the module do what their tags say; where a tag is missing, the namespace of
the target tells what is assumed.
-/

namespace CoreCheck.Check

open CoreCheck.Types CoreCheck.Scope

/-- **What a walk infers for an expression.** -/
structure Value where
  type : TypeId
  taint : Option Taint := none
deriving Inhabited

/-- The taint of several values together. -/
def Value.taintOfAll (vs : List Value) : Option Taint := Taint.mergeAll (vs.map Value.taint)

/-! ## What is assumed about targets -/

/-- **What calls into a namespace are assumed to do.** -/
structure Namespace where
  start : String
  effect : Effect
  capability : Option Capability

/-- The known namespaces. -/
def namespaces : List Namespace := [
  ⟨"Http.", .io, some .http⟩, ⟨"Db.", .io, some .sql⟩, ⟨"Sql.", .io, some .sql⟩,
  ⟨"Time.", .io, some .time⟩, ⟨"Files.", .io, some .files⟩, ⟨"Secrets.", .io, some .secrets⟩,
  ⟨"AI.", .io, some .aiModel⟩, ⟨"Cpu.", .cpu, some .cpu⟩, ⟨"Console.", .io, none⟩,
  ⟨"Log.", .io, none⟩]

/-- The namespace of a target. -/
def namespaceOf? (target : String) : Option Namespace :=
  namespaces.find? fun n => n.start.toList.isPrefixOf target.toList

/-- The effect of using a capability. -/
def effectOfCapability : Capability → Effect
  | .cpu => .cpu
  | _ => .io

/-- Whether a call of a target removes taint. -/
def isDeclassifier (target : String) : Bool :=
  ["Pii.declassify", "Pii.redact", "redact", "declassify"].contains target

/-- Whether a target names something outside the module. -/
def isDotted (target : String) : Bool := target.toList.contains '.'

/-- **A call as it is written**, without its arguments. -/
structure CallHead where
  span : Span
  target : String
  effect : Option Effect
  capability : Option Capability

/-- What a call that leaves the module does. Each tag wins on its own; a missing capability comes
from the namespace, a missing effect from the tagged capability joined with the namespace. -/
def CallHead.external (c : CallHead) : Effect × Option Capability :=
  let known := namespaceOf? c.target
  let assumed := (known.map Namespace.effect).getD .pure
  let capability := match c.capability with
    | some cap => some cap
    | none => known.bind Namespace.capability
  let effect := match c.effect, c.capability with
    | some e, _ => e
    | none, some cap => (effectOfCapability cap).join assumed
    | none, none => assumed
  (effect, capability)

/-- What a call of a value does, which only its tags tell. -/
def CallHead.tagged (c : CallHead) : Effect :=
  match c.effect, c.capability with
  | some e, _ => e
  | none, some cap => effectOfCapability cap
  | none, none => .pure

/-! ## The callee -/

/-- **What a call calls.** -/
inductive Callee where
  | declassifier
  | function (sig : Signature)
  /-- A value of function type. -/
  | value (params : List TypeId) (result : TypeId)
  | external
  /-- A name that stands for something else. -/
  | notCallable (sym : Symbol)
  | undefined

/-- What a call calls. A dotted target, a tagged unknown name and a name of unknown type leave the
module. -/
def callee (c : CallHead) : Walk Callee := do
  if isDeclassifier c.target then return .declassifier
  if isDotted c.target then return .external
  match ← Walk.lookup c.target with
  | some (_, sym) =>
    match sym.kind, sym.signature with
    | .function, some sig => return .function sig
    | _, _ =>
      let arena ← Walk.types
      if arena.isUnknown sym.type then return .external
      match arena.funcInfo? (arena.unwrap sym.type) with
      | some (params, result) => return .value params result
      | none => return .notCallable sym
  | none => return if c.effect.isNone && c.capability.isNone then .undefined else .external

/-- One or several. -/
def plural (n : Nat) (one many : String) : String := if n = 1 then one else many

/-- Reports each argument that does not fit its parameter. The arguments come with their places and
are counted from `i`. -/
def checkArguments (target : String) (i : Nat) : List TypeId → List (Value × Span) → Walk Unit
  | p :: ps, (arg, span) :: args => do
    unless (← Walk.types).compatible p arg.type do
      let expected ← Walk.labelOf p
      let actual ← Walk.labelOf arg.type
      Walk.report <| ((Diagnostic.error .typeMismatch span
        (s!"argument {i} of " ++ Text.quote target ++ " expects " ++ expected ++ ", got "
          ++ actual)).withText "expected" expected).withText "actual" actual
    checkArguments target (i + 1) ps args
  | _, _ => return

/-- Reports arguments that do not fit the parameters, in number or in type. -/
def checkParams (c : CallHead) (params : List TypeId) (args : List (Value × Span)) :
    Walk Unit := do
  unless params.length = args.length do
    Walk.report <| ((Diagnostic.error .arityMismatch c.span
      (Text.quote c.target ++ s!" expects {params.length} "
        ++ plural params.length "argument" "arguments" ++ s!", got {args.length}")).withData
      "expected" (.int params.length)).withData "actual" (.int args.length)
  checkArguments c.target 1 params args

/-- **Finishes a call** whose arguments have been walked: reports what does not fit, observes the
call and answers its value. -/
def finishCall (c : CallHead) (callee : Callee) (args : List (Value × Span)) : Walk Value := do
  let values := args.map (·.1)
  let taint := Value.taintOfAll values
  match callee with
  | .declassifier =>
    Walk.observe (.clears c.span c.target taint)
    return { type := (← Walk.types).unwrap ((values.head?.map Value.type).getD unknown) }
  | .function sig =>
    checkParams c sig.paramTypes args
    Walk.observe (.call { target := c.target, span := c.span, effect := sig.effect, taint })
    return ⟨sig.result, Taint.merge taint ((← Walk.types).taintOf sig.result)⟩
  | .value params result =>
    checkParams c params args
    Walk.observe (.call { target := c.target, span := c.span, effect := c.tagged,
                          capability := c.capability, taint })
    return ⟨result, Taint.merge taint ((← Walk.types).taintOf result)⟩
  | .external =>
    let (effect, capability) := c.external
    Walk.observe (.call { target := c.target, span := c.span, effect, capability, taint })
    return ⟨unknown, taint⟩
  | .notCallable sym =>
    let label ← Walk.labelOf sym.type
    Walk.report <| (Diagnostic.error .notCallable c.span
      (Text.quote c.target ++ " is a " ++ sym.kind.label ++ " of type " ++ label
        ++ " and cannot be called")).withText "name" c.target
    return ⟨unknown, taint⟩
  | .undefined =>
    Walk.reportUndefined c.target c.span
    return { type := unknown }

end CoreCheck.Check

import CoreCheck.Check.Call
import CoreCheck.Types.Compatible
import CoreCheck.Types.Operator

/-!
# Check/Operand — whether an operator takes its operands

The rules of an operator are tried in order. Operands of unknown type, or of the type of a type
parameter, are taken as they are.
-/

namespace CoreCheck.Check

open CoreCheck.Types

/-- Types that operators cannot be checked against: the placeholder and type parameters. -/
def isOpaque (a : Arena) (id : TypeId) : Bool :=
  match a.kindOf id with
  | .unknown | .var => true
  | _ => false

/-- Whether a rule takes its operands. -/
def takes (a : Arena) (r : BinaryRule) (left right : TypeId) : Bool :=
  (a.family left).fits r.left && (a.family right).fits r.right &&
    match r.agreement with
    | .sameKind => a.kindOf left == a.kindOf right
    | .compatible => a.compatible left right || a.compatible right left
    | .shortCircuit => true

/-- The type of a result that the operands do not settle. -/
def unsettled : Outcome → TypeId
  | .bool => bool
  | .operand => unknown

/-- **The value of a binary operator**; operands that no rule takes are reported. -/
def checkBinary (span : Span) (op : String) (left right : Value) : Walk Value := do
  let taint := Taint.merge left.taint right.taint
  match binaryRules op with
  | [] =>
    Walk.error .invalidOperands span ("unknown operator " ++ Text.quote op)
    return ⟨unknown, taint⟩
  | first :: more =>
    let a ← Walk.types
    if isOpaque a left.type || isOpaque a right.type then
      return ⟨unsettled first.outcome, taint⟩
    match (first :: more).find? (takes a · left.type right.type) with
    | some r => return ⟨if r.outcome = .bool then bool else a.unwrap left.type, taint⟩
    | none =>
      let l ← Walk.labelOf left.type
      let r ← Walk.labelOf right.type
      Walk.report <| (((Diagnostic.error .invalidOperands span
        ("operator " ++ op ++ " cannot be applied to " ++ l ++ " and " ++ r)).withText
          "operator" op).withText "left" l).withText "right" r
      return ⟨unsettled first.outcome, taint⟩

/-- **The value of a unary operator**; an operand that it does not take is reported. -/
def checkUnary (span : Span) (op : String) (operand : Value) : Walk Value := do
  match unaryRule? op with
  | none =>
    Walk.error .invalidOperands span ("unknown operator " ++ Text.quote op)
    return ⟨unknown, operand.taint⟩
  | some rule =>
    let a ← Walk.types
    let settled := if rule.outcome = .bool then bool else a.unwrap operand.type
    if isOpaque a operand.type || (a.family operand.type).fits rule.operand then
      return ⟨settled, operand.taint⟩
    let label ← Walk.labelOf operand.type
    Walk.error .invalidOperands span ("operator " ++ op ++ " cannot be applied to " ++ label)
    return ⟨unsettled rule.outcome, operand.taint⟩

end CoreCheck.Check

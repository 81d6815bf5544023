import CoreCheck.Types.Arena

/-!
# Types/Operator — what operands an operator takes

Types fall into families; an operator has rules that say which families its operands come from, what
they must have in common and what the result is.
-/

namespace CoreCheck.Types

/-- **A family of types** as operators see them. -/
inductive Family where
  | any | bool | int | long | double | text
deriving DecidableEq, Inhabited

/-- The bit of a family in a mask. -/
def Family.bit : Family → Nat
  | .any => 2
  | .bool => 4
  | .int => 8
  | .long => 16
  | .double => 32
  | .text => 64

/-- Whether a family is among those of a mask; a mask with the bit of `any` takes every family. -/
def Family.fits (f : Family) (mask : Nat) : Bool :=
  mask &&& Family.any.bit != 0 || f.bit &&& mask != 0

/-- The mask of the whole numbers. -/
def integralMask : Nat := Family.int.bit + Family.long.bit

/-- The mask of all numbers. -/
def numericMask : Nat := integralMask + Family.double.bit

/-- What the operands of a rule must have in common. -/
inductive Agreement where
  /-- The same kind. -/
  | sameKind
  /-- Either fits where the other is required. -/
  | compatible
  /-- Nothing; the right operand may not be needed. -/
  | shortCircuit
deriving DecidableEq

/-- The bit of an agreement. -/
def Agreement.bit : Agreement → Nat
  | .sameKind => 2
  | .compatible => 4
  | .shortCircuit => 8

/-- The result of an operator: the type of its left operand, or a truth value. -/
inductive Outcome where
  | operand | bool
deriving DecidableEq

/-- The number of an outcome. -/
def Outcome.code : Outcome → Nat
  | .operand => 1
  | .bool => 2

/-- **A rule of a binary operator.** -/
structure BinaryRule where
  left : Nat
  right : Nat
  outcome : Outcome
  agreement : Agreement
deriving DecidableEq

/-- **The rule of a unary operator.** -/
structure UnaryRule where
  operand : Nat
  outcome : Outcome
deriving DecidableEq

/-- A rule whose operands come from the same families. -/
def BinaryRule.both (mask : Nat) (outcome : Outcome) (agreement : Agreement) : BinaryRule :=
  ⟨mask, mask, outcome, agreement⟩

/-- **The rules of a binary operator**, tried in order; none for an unknown operator. -/
def binaryRules (op : String) : List BinaryRule :=
  match op with
  | "+" => [.both numericMask .operand .sameKind, .both Family.text.bit .operand .sameKind]
  | "-" | "*" | "/" => [.both numericMask .operand .sameKind]
  | "%" => [.both integralMask .operand .sameKind]
  | "<" | "<=" | ">" | ">=" => [.both numericMask .bool .sameKind]
  | "==" | "!=" => [.both Family.any.bit .bool .compatible]
  | "and" | "&&" | "or" | "||" => [.both Family.bool.bit .bool .shortCircuit]
  | _ => []

/-- The rule of a unary operator. -/
def unaryRule? (op : String) : Option UnaryRule :=
  match op with
  | "-" | "+" => some ⟨numericMask, .operand⟩
  | "not" | "!" => some ⟨Family.bool.bit, .bool⟩
  | _ => none

/-- The family of a type, under its mark. -/
def Arena.family (a : Arena) (id : TypeId) : Family :=
  match a.kindOf id with
  | .bool => .bool
  | .int => .int
  | .long => .long
  | .double => .double
  | .text => .text
  | _ => .any

end CoreCheck.Types

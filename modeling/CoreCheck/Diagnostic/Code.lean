import CoreCheck.Number.Decimal
import CoreCheck.Text.Label

/-!
# Diagnostic/Code — the stable numbers of the problems that can be reported

A code is a number; the thousands say what it is about: names and types, effects, capabilities or
sensitive data. Each known code has a name and a title, and is found by its identifier or by its
name without regard to case.
-/

namespace CoreCheck

/-- **A diagnostic code.** -/
structure Code where
  number : Nat
deriving DecidableEq, Inhabited

namespace Code

def unknown : Code := ⟨0⟩
def duplicateSymbol : Code := ⟨1001⟩
def undefinedSymbol : Code := ⟨1002⟩
def unknownType : Code := ⟨1003⟩
def typeMismatch : Code := ⟨1004⟩
def invalidOperands : Code := ⟨1005⟩
def arityMismatch : Code := ⟨1006⟩
def returnMismatch : Code := ⟨1007⟩
def notCallable : Code := ⟨1008⟩
def unknownField : Code := ⟨1009⟩
def missingField : Code := ⟨1010⟩
def nonBoolCondition : Code := ⟨1011⟩
def missingReturn : Code := ⟨1012⟩
def effectEscalation : Code := ⟨2001⟩
def effectUnused : Code := ⟨2002⟩
def capabilityDenied : Code := ⟨3001⟩
def capabilityUndeclared : Code := ⟨3002⟩
def piiLeak : Code := ⟨4001⟩
def piiDeclassified : Code := ⟨4002⟩

/-- What is known about a code. -/
structure Info where
  number : Nat
  name : String
  title : String

/-- The known codes in ascending order, with their names and titles. -/
def table : List Info := [
  ⟨1000, "SemaInfo", "Semantic information"⟩,
  ⟨1001, "DuplicateSymbol", "Duplicate symbol"⟩,
  ⟨1002, "UndefinedSymbol", "Undefined symbol"⟩,
  ⟨1003, "UnknownType", "Unknown type"⟩,
  ⟨1004, "TypeMismatch", "Type mismatch"⟩,
  ⟨1005, "InvalidOperands", "Invalid operands for operator"⟩,
  ⟨1006, "ArityMismatch", "Wrong number of arguments"⟩,
  ⟨1007, "ReturnTypeMismatch", "Return type mismatch"⟩,
  ⟨1008, "NotCallable", "Value is not callable"⟩,
  ⟨1009, "UnknownField", "Unknown field"⟩,
  ⟨1010, "MissingField", "Missing field"⟩,
  ⟨1011, "NonBoolCondition", "Condition is not Bool"⟩,
  ⟨1012, "MissingReturn", "Missing return in function"⟩,
  ⟨2000, "EffectInfo", "Effect information"⟩,
  ⟨2001, "EffectEscalation", "Computed effect exceeds declared effect"⟩,
  ⟨2002, "EffectUnused", "Declared effect is never used"⟩,
  ⟨3000, "CapabilityInfo", "Capability information"⟩,
  ⟨3001, "CapabilityDenied", "Capability denied by manifest"⟩,
  ⟨3002, "CapabilityUndeclared", "Capability not declared by function"⟩,
  ⟨4000, "PiiInfo", "PII information"⟩,
  ⟨4001, "PiiLeak", "Sensitive data reaches an effectful sink"⟩,
  ⟨4002, "PiiDeclassified", "Sensitive data declassified"⟩]

/-- The entry of a known code. -/
def info? (c : Code) : Option Info := table.find? (·.number = c.number)

/-- The stable identifier of a code, such as `SEM1002`. -/
def id (c : Code) : String :=
  let digits := String.ofList (padDigits 4 (digitsOf c.number))
  match c.number / 1000 with
  | 1 => "SEM" ++ digits
  | 2 => "EFF" ++ digits
  | 3 => "CAP" ++ digits
  | 4 => "PII" ++ digits
  | _ => "E0000"

/-- The name of a code. -/
def name (c : Code) : String := (c.info?.map Info.name).getD "Unknown"

/-- The title of a code. -/
def title (c : Code) : String := (c.info?.map Info.title).getD "Unknown error"

/-- Identifier and title. -/
def text (c : Code) : String := "[" ++ c.id ++ "]: " ++ c.title

/-- The known codes in ascending order. -/
def all : List Code := table.map fun i => ⟨i.number⟩

/-- **Finds a code** by its identifier or its name, ignoring case and blanks around it. -/
def find? (label : String) : Option Code :=
  let key := Text.labelKey label
  all.find? fun c => Text.labelKey c.id == key || Text.labelKey c.name == key

end Code

end CoreCheck

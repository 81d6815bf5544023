import CoreCheck.Document
import CoreCheck.Capability
import CoreCheck.Effect
import CoreCheck.Taint

/-!
# Ir/Contract — what a document may get wrong

A producer's document is refused at its first contract violation, which is reported with the path of
the offending node.
-/

namespace CoreCheck.Ir

open CoreCheck.Document (Step pathText)

/-- **A contract violation.** What was met instead is given by its kind. -/
inductive Violation where
  | invalidJson
  | invalidMsgpack
  | trailing
  | notObject (got : String)
  | missing (field : String)
  | notText (field got : String)
  | blankName (field : String)
  | notArray (field got : String)
  | itemNotText (got : String)
  | notInteger (field got : String)
  | outOfRange (field : String) (value : Int)
  | version (got : String)
  | unknownDecl (kind : String)
  | unknownStmt (kind : String)
  | unknownExpr (kind : String)
  | unknownPattern (kind : String)
  | unknownType (kind : String)
  | emptyTypeName
  | literalNotInteger (kind got : String)
  | literalNotNumber (got : String)
  | literalNotText (got : String)
  | literalNotBool (got : String)
  | notLevel (got : String)
  | effect (cause : Effect.Unknown)
  | capability (cause : Capability.Unknown)
  | level (cause : Level.Unknown)
deriving DecidableEq

/-- The only document version understood. -/
def supportedVersion : Nat := 1

/-- The wording of a violation. -/
def Violation.message : Violation → String
  | .invalidJson => "invalid JSON"
  | .invalidMsgpack => "invalid msgpack"
  | .trailing => "trailing data after the IR document"
  | .notObject got => s!"expected object, got {got}"
  | .missing field => "missing required field " ++ Text.quote field
  | .notText field got => "field " ++ Text.quote field ++ s!": expected string, got {got}"
  | .blankName field => "field " ++ Text.quote field ++ " must not be empty"
  | .notArray field got => "field " ++ Text.quote field ++ s!": expected array, got {got}"
  | .itemNotText got => s!"expected string, got {got}"
  | .notInteger field got => "field " ++ Text.quote field ++ s!": expected integer, got {got}"
  | .outOfRange field value =>
    "field " ++ Text.quote field ++ ": " ++ intText value ++ " out of range"
  | .version got => s!"unsupported IR version {got} (want {supportedVersion})"
  | .unknownDecl kind => "unknown declaration kind " ++ Text.quote kind
  | .unknownStmt kind => "unknown statement kind " ++ Text.quote kind
  | .unknownExpr kind => "unknown expression kind " ++ Text.quote kind
  | .unknownPattern kind => "unknown pattern kind " ++ Text.quote kind
  | .unknownType kind => "unknown type kind " ++ Text.quote kind
  | .emptyTypeName => "empty type name"
  | .literalNotInteger kind got => s!"{kind} literal: expected integer, got {got}"
  | .literalNotNumber got => s!"double literal: expected number, got {got}"
  | .literalNotText got => s!"string literal: expected string, got {got}"
  | .literalNotBool got => s!"bool literal: expected bool, got {got}"
  | .notLevel got => "field " ++ Text.quote "level" ++ s!": expected level, got {got}"
  | .effect cause => cause.message
  | .capability cause => cause.message
  | .level cause => cause.message

/-- **A refused document**: the input it came from, the place inside it and the violation. -/
structure ContractError where
  source : String
  path : List Step
  violation : Violation
deriving DecidableEq

/-- The wording of a refusal. -/
def ContractError.message (e : ContractError) : String :=
  let place := match e.path with
    | [] => "<root>"
    | p => pathText p
  (if e.source = "" then "" else e.source ++ ": ")
    ++ "core ir contract violation: " ++ place ++ ": " ++ e.violation.message

/-- A place inside a document: the input's name and the path from the root. -/
structure Place where
  source : String
  path : List Step := []

namespace Place

/-- The place of a field. -/
def key (p : Place) (k : String) : Place := { p with path := p.path ++ [.key k] }

/-- The place of an item. -/
def index (p : Place) (i : Nat) : Place := { p with path := p.path ++ [.index i] }

/-- Refuses the document at this place. -/
def fail {α : Type} (p : Place) (v : Violation) : Except ContractError α :=
  .error ⟨p.source, p.path, v⟩

end Place

end CoreCheck.Ir

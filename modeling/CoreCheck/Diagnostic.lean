import CoreCheck.Diagnostic.Code
import CoreCheck.Json
import CoreCheck.Span

/-!
# Diagnostic — problems found by a check, and collections of them

A diagnostic says how serious a problem is, what it is, where it was found and what may help. A bag
keeps diagnostics in the order in which they were found.
-/

namespace CoreCheck

/-- **How serious a problem is.** Ranks past the error are kept but have no name. -/
structure Severity where
  rank : Nat
deriving DecidableEq, Inhabited

namespace Severity

def info : Severity := ⟨0⟩
def warning : Severity := ⟨1⟩
def error : Severity := ⟨2⟩

/-- The name in upper case. -/
def text (s : Severity) : String :=
  match s.rank with
  | 0 => "INFO"
  | 1 => "WARNING"
  | 2 => "ERROR"
  | _ => "UNKNOWN"

/-- The name in lower case. -/
def label (s : Severity) : String :=
  match s.rank with
  | 0 => "info"
  | 1 => "warning"
  | 2 => "error"
  | _ => "unknown"

end Severity

/-- A remark that belongs to a diagnostic. -/
structure Note where
  span : Span
  message : String
deriving Inhabited

/-- **A problem found by a check.** -/
structure Diagnostic where
  severity : Severity
  code : Code
  message : String
  span : Span
  help : String := ""
  data : List (String × Json) := []
  notes : List Note := []
deriving Inhabited

namespace Diagnostic

/-- An error at a place. -/
def error (code : Code) (span : Span) (message : String) : Diagnostic :=
  { severity := .error, code, message, span }

/-- Sets one datum. -/
def withData (d : Diagnostic) (key : String) (value : Json) : Diagnostic :=
  { d with data := d.data.filter (·.1 != key) ++ [(key, value)] }

/-- Sets one textual datum. -/
def withText (d : Diagnostic) (key value : String) : Diagnostic := d.withData key (.str value)

/-- Sets the help text. -/
def withHelp (d : Diagnostic) (help : String) : Diagnostic := { d with help }

/-- Adds a note at the end. -/
def withNote (d : Diagnostic) (span : Span) (message : String) : Diagnostic :=
  { d with notes := d.notes ++ [⟨span, message⟩] }

/-- The data in the order of their keys. -/
def sortedData (d : Diagnostic) : List (String × Json) := d.data.mergeSort fun a b => a.1 ≤ b.1

end Diagnostic

/-- How many diagnostics there are of each severity. -/
structure Summary where
  total : Nat := 0
  error : Nat := 0
  warning : Nat := 0
  info : Nat := 0
deriving DecidableEq, Inhabited

/-- Counts one more diagnostic. Whatever is neither error nor warning counts as information. -/
def Summary.add (s : Summary) (d : Diagnostic) : Summary :=
  let s := { s with total := s.total + 1 }
  if d.severity = .error then { s with error := s.error + 1 }
  else if d.severity = .warning then { s with warning := s.warning + 1 }
  else { s with info := s.info + 1 }

/-- **A bag of diagnostics**, in the order of their emission. -/
abbrev Bag := List Diagnostic

namespace Bag

/-- Counts the diagnostics of a bag. -/
def summary (b : Bag) : Summary := b.foldl Summary.add {}

/-- Whether a bag holds an error or worse. -/
def hasErrors (b : Bag) : Bool := b.any (2 ≤ ·.severity.rank)

/-- Keeps the diagnostics with one of the given codes; no codes keep everything. -/
def keepCodes (b : Bag) (codes : List Code) : Bag :=
  if codes.isEmpty then b else b.filter (codes.contains ·.code)

end Bag

end CoreCheck

import CoreCheck.Diagnostic
import CoreCheck.Text.Blank
import CoreCheck.Text.Split

/-!
# Diagnostic/Short — one line for each diagnostic

A line holds severity, code, place and message; line breaks in a message become spaces.
-/

namespace CoreCheck

/-- A message on one line: each kind of line break becomes one space, and the ends are trimmed. -/
def oneLine (message : String) : String :=
  let rec go : List Char → List Char
    | [] => []
    | '\r' :: '\n' :: rest => ' ' :: go rest
    | '\r' :: rest => ' ' :: go rest
    | '\n' :: rest => ' ' :: go rest
    | c :: rest => c :: go rest
  Text.trim (String.ofList (go message.toList))

/-- A place as `file:line:column`; a dash when none is known. -/
def shortPlace (s : Span) : String :=
  if s.isZero then "-"
  else (if s.file = "" then "<input>" else s.file) ++ ":" ++ s.start.text

namespace Diagnostic

/-- The line of a diagnostic itself. -/
def headLine (d : Diagnostic) : String :=
  d.severity.label ++ " " ++ d.code.id ++ " " ++ shortPlace d.span ++ " " ++ oneLine d.message

/-- The line of a note. -/
def noteLine (d : Diagnostic) (n : Note) : String :=
  "note " ++ d.code.id ++ " " ++ shortPlace n.span ++ " " ++ oneLine n.message

/-- The lines of a diagnostic. -/
def lines (withNotes : Bool) (d : Diagnostic) : List String :=
  d.headLine :: if withNotes then d.notes.map d.noteLine else []

end Diagnostic

/-- **The short form of a bag**, without a line break at the end. -/
def Bag.short (b : Bag) (withNotes : Bool) : String :=
  Text.join "\n" (b.flatMap (Diagnostic.lines withNotes))

end CoreCheck

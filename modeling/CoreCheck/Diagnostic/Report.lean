import CoreCheck.Diagnostic
import CoreCheck.Diagnostic.Place
import CoreCheck.Json

/-!
# Diagnostic/Report — the report of a checked file as a document

A report names the file, lists its diagnostics and counts them. The list may be cut short; the
counts are those of the whole bag.
-/

namespace CoreCheck

/-- **How a report is built and written.** -/
structure ReportOptions where
  paths : PathView := {}
  /-- The largest number of diagnostics listed; zero means all. -/
  max : Nat := 0
  notes : Bool := false
  /-- Write the report over several lines. -/
  indent : Bool := false
deriving Inhabited

/-- A place in a report. -/
def Span.report (v : PathView) (s : Span) : Json :=
  .obj [("file", .str (v.show s.file)), ("startLine", .int s.start.line),
    ("startCol", .int s.start.col), ("endLine", .int s.stop.line), ("endCol", .int s.stop.col)]

/-- The member for a place, left out when none is known. -/
def Span.member (v : PathView) (s : Span) : Option (String × Json) :=
  if s.isZero then Option.none else some ("span", s.report v)

/-- A note in a report. -/
def Note.report (v : PathView) (n : Note) : Json :=
  Json.members [some ("message", .str n.message), n.span.member v]

/-- A diagnostic in a report. -/
def Diagnostic.report (o : ReportOptions) (d : Diagnostic) : Json :=
  Json.members [some ("severity", .str d.severity.label), some ("code", .str d.code.id),
    some ("name", .str d.code.name), some ("message", .str d.message), d.span.member o.paths,
    Json.nonempty "help" d.help,
    if d.data.isEmpty then none else some ("data", .obj d.sortedData),
    if o.notes && !d.notes.isEmpty then some ("notes", .arr (d.notes.map (Note.report o.paths)))
    else none]

/-- The counts in a report. -/
def Summary.report (s : Summary) : Json :=
  .obj [("total", .int s.total), ("error", .int s.error), ("warning", .int s.warning),
    ("info", .int s.info)]

namespace Bag

/-- The diagnostics that a report lists. -/
def listed (b : Bag) (o : ReportOptions) : List Json :=
  ((if o.max = 0 then b else b.take o.max).map (Diagnostic.report o))

/-- **The report of a bag.** -/
def report (b : Bag) (source : String) (o : ReportOptions) : Json :=
  .obj [("source", .str source), ("diagnostics", .arr (b.listed o)),
    ("summary", b.summary.report)]

/-- What is escaped in a report. -/
def reportEscapes : Json.Escapes := { markup := false, separators := true, letters := true }

/-- **The report as text**, with a line break at the end. -/
def reportText (b : Bag) (source : String) (o : ReportOptions) : String :=
  let r := b.report source o
  (if o.indent then r.indented reportEscapes 0 else r.compact reportEscapes) ++ "\n"

end Bag

end CoreCheck

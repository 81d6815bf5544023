import CoreCheck.Json
import CoreCheck.Path
import CoreCheck.Trace.Event

/-!
# Trace/Format — how traces are written

Three forms: lines for people, one JSON object a line, and structured log entries. A sink writes the
events of its level, numbering them from one.
-/

namespace CoreCheck.Trace

/-- **The form in which events are written.** -/
inductive Format where
  /-- Chosen by the name of the output. -/
  | auto
  | text
  | ndjson
  /-- Structured log entries. -/
  | log
deriving DecidableEq, Inhabited

namespace Format

/-- The name of a form. -/
def label : Format → String
  | .auto => "auto"
  | .text => "text"
  | .ndjson => "ndjson"
  | .log => "zap"

/-- The form with a given number. -/
def ofCode (n : Nat) : Format :=
  match n with
  | 1 => .text
  | 2 => .ndjson
  | 3 => .log
  | _ => .auto

/-- A word that names no form. -/
structure Unknown where
  word : String
deriving DecidableEq

/-- The wording of the failure. -/
def Unknown.message (e : Unknown) : String :=
  "invalid trace format: " ++ Text.quote e.word ++ " (expected: auto|text|ndjson|zap)"

/-- Reads a form; nothing means the automatic one. -/
def parse (s : String) : Except Unknown Format :=
  match Text.lower (Text.trim s) with
  | "" | "auto" => .ok .auto
  | "text" => .ok .text
  | "ndjson" | "json" => .ok .ndjson
  | "zap" => .ok .log
  | _ => .error ⟨s⟩

end Format

/-- Pads a text with spaces on the right, counting characters. -/
def padColumn (columns : Nat) (s : String) : String :=
  s ++ String.ofList (List.replicate (columns - s.length) ' ')

/-- The line of an event for people, up to the elapsed time of a span. -/
def Event.lineHead (e : Event) : String :=
  let number := String.ofList (padDigits 4 (digitsOf e.seq))
  let mark := if e.kind = .spanBegin then "→ " else if e.kind = .spanEnd then "← " else "• "
  let pairs := e.sortedExtra.map fun (k, v) => k ++ "=" ++ v
  "#" ++ number ++ " " ++ padColumn 6 e.grain.label ++ " "
    ++ String.ofList (List.replicate (2 * (e.grain.rank - 1)) ' ') ++ mark ++ e.name
    ++ (if e.detail = "" then "" else " (" ++ e.detail ++ ")")
    ++ (if pairs.isEmpty then "" else " \x7b" ++ Text.join ", " pairs ++ "\x7d")

/-- The line of an event for people. -/
def Event.line (e : Event) : String :=
  e.lineHead ++ (if e.kind = .spanEnd then " " ++ (e.elapsed.round 1000).text else "") ++ "\n"

/-- The escapes of one JSON object a line. -/
def ndjsonEscapes : Json.Escapes := { markup := true, separators := true, letters := true }

/-- The event as one JSON object a line. -/
def Event.ndjson (e : Event) : String :=
  let optional (key : String) (n : Int) : Option (String × Json) :=
    if n = 0 then none else some (key, .int n)
  (Json.members [
    some ("time", .str e.time.traceText),
    some ("seq", .int e.seq),
    some ("kind", .str e.kind.label),
    some ("scope", .str e.grain.label),
    optional "span_id" e.span,
    optional "parent_id" e.parent,
    some ("name", .str e.name),
    Json.nonempty "detail" e.detail,
    optional "elapsed_us" e.elapsed.micros,
    if e.extra.isEmpty then none
    else some ("extra", .obj (e.sortedExtra.map fun (k, v) => (k, .str v)))]).compact ndjsonEscapes
    ++ "\n"

/-- The escapes of a log entry. -/
def logEscapes : Json.Escapes := { markup := false, separators := false, letters := false }

/-- The event as a log entry, without the time of writing. Span ends are informational, all else is
for debugging. -/
def Event.logEntry (e : Event) : String :=
  let q := Json.quoted logEscapes
  let pair (k v : String) : String := q k ++ ":" ++ v
  let fields :=
    [pair "level" (q (if e.kind = .spanEnd then "info" else "debug")), pair "logger" (q "trace"),
      pair "msg" (q e.name), pair "kind" (q e.kind.label), pair "scope" (q e.grain.label)]
    ++ (if e.span = 0 then [] else [pair "span_id" (intText e.span)])
    ++ (if e.parent = 0 then [] else [pair "parent_id" (intText e.parent)])
    ++ (if e.detail = "" then [] else [pair "detail" (q e.detail)])
    ++ (if e.kind = .spanEnd then [pair "elapsed" e.elapsed.seconds.plainText] else [])
    ++ e.sortedExtra.map fun (k, v) => pair k (q v)
  "\x7b" ++ Text.join "," fields ++ "\x7d\n"

/-- The event in a form; the log form is left to log sinks. -/
def Event.render (e : Event) (f : Format) : String :=
  if f = .ndjson then e.ndjson else e.line

/-- **A sink**: where events of a level go, and in which form. -/
structure Sink where
  level : Level
  format : Format
deriving DecidableEq

namespace Sink

/-- The sink for a level, a form and the name of an output. The automatic form is chosen by the
extension of the name. -/
def make (level : Level) (format : Format) (path : String) : Sink :=
  ⟨level, if format = .auto then
      (if Text.spells (Path.extension path) ".ndjson" then .ndjson else .text)
    else format⟩

/-- **What a sink writes** for a list of events. -/
def write (s : Sink) (events : List Event) : String :=
  let kept := events.filter fun e => s.level.records e.grain
  let lines := kept.zipIdx.map fun (e, i) =>
    if s.format = .log then e.logEntry else { e with seq := i + 1 }.render s.format
  Text.join "" lines

end Sink

/-- The level of several sinks: the most verbose one. -/
def levelOf (sinks : List Sink) : Level :=
  sinks.foldl (fun l s => if l.rank < s.level.rank then s.level else l) .off

end CoreCheck.Trace

import CoreCheck.Build
import CoreCheck.CommandLine.Argument
import CoreCheck.Diagnostic.Pretty
import CoreCheck.Diagnostic.Report
import CoreCheck.Run
import CoreCheck.Trace.Format

/-!
# CommandLine — the commands of the program

Two commands: one checks files, one tells which build this is. What goes wrong with the command line
itself ends with status two and a hint, everything else that fails with status one; problems in
checked modules are part of the answer and not a failure.
-/

namespace CoreCheck.CommandLine

/-- **What a run of the program leaves**: its status and what it wrote. -/
structure Output where
  status : Nat := 0
  stdout : String := ""
  stderr : String := ""
deriving Inhabited

/-- **Why the program failed.** -/
inductive Failure where
  /-- The command line is at fault. -/
  | usage (message : String)
  | failed (message : String)

/-- The status and the lines for a failure. -/
def Failure.output : Failure → Output
  | .usage message =>
    { status := 2, stderr := Build.tool ++ ": " ++ message ++ "\nrun 'aster --help' for usage\n" }
  | .failed message => { status := 1, stderr := Build.tool ++ ": " ++ message ++ "\n" }

/-! ## Flags -/

def helpFlag : Flag := { name := "help", kind := .bool, short := some 'h' }
def colorFlag : Flag := { name := "color", kind := .text }

/-- The flags of the program without a command. -/
def rootFlags : List Flag :=
  [colorFlag, helpFlag, { name := "version", kind := .bool, short := some 'v' }]

/-- The flags of the command that checks files. -/
def checkFlags : List Flag := [
  colorFlag, helpFlag,
  { name := "format", kind := .text }, { name := "filter-codes", kind := .texts },
  { name := "manifest", kind := .text }, { name := "leak-threshold", kind := .text },
  { name := "warn-unused-effects", kind := .bool }, { name := "audit-pii", kind := .bool },
  { name := "jobs", kind := .int }, { name := "max-diagnostics", kind := .int },
  { name := "path-mode", kind := .text }, { name := "timings", kind := .bool },
  { name := "trace", kind := .text }, { name := "trace-level", kind := .text },
  { name := "trace-format", kind := .text }]

/-- The flags of the command that tells which build this is. -/
def versionFlags : List Flag := [colorFlag, helpFlag, { name := "format", kind := .text }]

/-- Whether output is coloured. -/
def colored (a : Arguments) (terminal : Bool) : Except Failure Bool :=
  let mode := (a.text? "color").getD "auto"
  match Text.lower mode with
  | "on" | "always" => .ok true
  | "off" | "never" => .ok false
  | "auto" | "" => .ok terminal
  | _ => .error (.usage
      ("invalid --color value " ++ Text.quote mode ++ " (expected auto|on|off)"))

/-! ## Checking files -/

/-- **How a check is written.** -/
structure Presentation where
  pretty : Bool
  format : String
  paths : PathMode
  max : Nat
  colored : Bool

/-- Reads how a check is to be written. -/
def presentation (a : Arguments) (terminal : Bool) : Except Failure Presentation := do
  let written := (a.text? "format").getD "json"
  let format := Text.lower written
  if format ≠ "json" && format ≠ "pretty" then
    throw (.usage ("unsupported format " ++ Text.quote written ++ " (must be json or pretty)"))
  let mode := (a.text? "path-mode").getD "auto"
  let paths ← match PathMode.parse? mode with
    | some p => pure p
    | none => throw (.usage ("invalid --path-mode value " ++ Text.quote mode))
  let max := (a.int? "max-diagnostics").getD 0
  if max < 0 then throw (.usage "--max-diagnostics must not be negative")
  return { pretty := format = "pretty", format, paths, max := max.toNat,
           colored := ← colored a terminal }

/-- Where a trace goes: to the error channel, or to a file. -/
structure TraceTarget where
  sink : Trace.Sink
  file : Option String

/-- Reads what is to be traced. A trace that is sent somewhere has at least the phases. -/
def traceTarget (a : Arguments) : Except Failure (Option TraceTarget) := do
  let level ← (Trace.Level.parse ((a.text? "trace-level").getD "off")).mapError (.usage ·.message)
  let format ← (Trace.Format.parse ((a.text? "trace-format").getD "auto")).mapError
    (.usage ·.message)
  let output := (a.text? "trace").getD ""
  let level := if level = .off && output ≠ "" then .phase else level
  if level = .off then return none
  return some ⟨.make level format output,
    if output = "" || output = "-" then none else some output⟩

/-- What the flags ask of a run. -/
def runFlags (a : Arguments) : Flags :=
  { manifest := a.text? "manifest", threshold := a.text? "leak-threshold",
    warnUnused := a.bool? "warn-unused-effects", audit := a.bool? "audit-pii",
    codes := a.texts "filter-codes", jobs := a.int? "jobs" }

/-- The reports of a run, one after the other. A single document is written over several lines. -/
def reports (p : Presentation) (view : PathView) (results : List FileResult) : String :=
  Text.join "" (results.map fun r =>
    if p.pretty then
      r.diagnostics.pretty r.path
        { paths := view, colored := p.colored, notes := true, help := true }
    else
      r.diagnostics.reportText r.path
        { paths := view, max := p.max, indent := results.length = 1 })

/-- **Checks files once everything about the command line is settled.** Answers what was written and
the trace of the run, if it came so far. -/
def checkFiles {m : Type → Type} [Monad m] (host : Host m) (a : Arguments) (p : Presentation) :
    m (Except Failure Output × Option Trace.Activity) := do
  let first := a.positional.headD ""
  let start := Path.absolute host.workdir (Path.directory first)
  match ← Project.discover host start with
  | .error e => return (.error (.failed e.message), none)
  | .ok config =>
    match Settings.resolve (runFlags a) host.environment config with
    | .error e =>
      return (.error (if e.isFlag then .usage e.message else .failed e.message), none)
    | .ok settings =>
      let (report, activity) ← runCheck host settings a.positional
      match report.outcome with
      | .error e => return (.error (.failed e.message), some activity)
      | .ok results =>
        let view : PathView :=
          { mode := p.paths, base := (config.map (·.root)).getD "", workdir := host.workdir }
        let (text, progress) ← report.progress.phase host "render" (pure (reports p view results))
          (fun _ => []) (fun _ => p.format)
        let timings := if (a.bool? "timings").getD false then progress.timer.summary else ""
        return (.ok { stdout := text, stderr := timings }, some activity)

/-- The output of a command that may have failed. -/
def settle : Except Failure Output → Output
  | .ok o => o
  | .error e => e.output

/-- The command that checks files. -/
def check {m : Type → Type} [Monad m] (host : Host m) (terminal : Bool) (a : Arguments) :
    m Output := do
  if a.positional.isEmpty then
    return (Failure.usage "typecheck requires at least one file").output
  match presentation a terminal, traceTarget a with
  | .error e, _ => return e.output
  | .ok _, .error e => return e.output
  | .ok p, .ok none => return settle (← checkFiles host a p).1
  | .ok p, .ok (some target) =>
    let created ← match target.file with
      | none => pure (.ok ())
      | some path => host.create path
    match created with
    | .error e =>
      return (Failure.failed ("failed to create tracer: open trace output: " ++ e.message)).output
    | .ok () =>
      let (outcome, activity) ← checkFiles host a p
      let trace := target.sink.write ((activity.map (·.events target.sink.level)).getD [])
      let out := settle outcome
      match target.file with
      | none => return { out with stderr := trace ++ out.stderr }
      | some path =>
        host.write path trace
        return out

/-! ## The build -/

/-- The command that tells which build this is. -/
def version (build : Build) (terminal : Bool) (a : Arguments) : Output :=
  if !a.positional.isEmpty then
    (Failure.usage ("unexpected arguments: " ++ Text.join " " a.positional)).output
  else
    let written := (a.text? "format").getD "pretty"
    match Text.lower written with
    | "json" => { stdout := build.document }
    | "pretty" | "" => settle ((colored a terminal).map fun c => { stdout := build.pretty c })
    | _ => (Failure.usage
        ("unsupported format " ++ Text.quote written ++ " (must be pretty or json)")).output

/-! ## Finding the command -/

/-- **The commands.** -/
inductive Command where
  | check | version | help | completion
deriving DecidableEq

/-- The name of a command. -/
def Command.name : Command → String
  | .check => "typecheck"
  | .version => "version"
  | .help => "help"
  | .completion => "completion"

/-- All commands. -/
def commands : List Command := [.check, .version, .help, .completion]

/-- Whether an argument before the command takes the next one with it. Only flags of the program
itself are known there, and none of them is a truth value. -/
def takesNext (s : String) : Bool :=
  match s.toList with
  | '-' :: '-' :: rest => !rest.isEmpty && !rest.contains '='
  | ['-', c] => c != '=' && c.toNat < 128
  | _ => false

/-- The arguments that are neither flags nor their values. A flag at the end takes nothing. -/
def words : List String → List String
  | [] => []
  | s :: rest =>
    if s = "--" then []
    else if takesNext s then
      match rest with
      | _ :: b :: more => words (b :: more)
      | _ => []
    else if s.toList.head? == some '-' || s = "" then words rest
    else s :: words rest

/-- The arguments without the first occurrence of a word. -/
def withoutFirst (word : String) : List String → List String
  | [] => []
  | s :: rest =>
    if s = "--" then s :: rest
    else if takesNext s then
      match rest with
      | [] => [s]
      | b :: more => s :: b :: withoutFirst word more
    else if s.toList.head? != some '-' && s = word then rest
    else s :: withoutFirst word rest

/-- The number of edits between two texts. -/
def distance (s t : List UInt8) : Nat :=
  let step (row : List Nat) (c : UInt8) : List Nat :=
    let rec go (left diagonal : Nat) : List UInt8 → List Nat → List Nat
      | d :: ds, up :: ups =>
        let here := if c = d then diagonal else 1 + min diagonal (min up left)
        here :: go here up ds ups
      | _, _ => []
    match row with
    | first :: rest => (first + 1) :: go (first + 1) first t rest
    | [] => []
  ((s.foldl step (List.range (t.length + 1))).getLast?).getD 0

/-- The commands that may have been meant by a word: those close to it, or beginning with it. -/
def suggestions (word : String) : List Command :=
  let typed := Text.lower word
  [Command.check, .version, .completion].filter fun c =>
    distance typed.toUTF8.toList c.name.toUTF8.toList ≤ 2
      || typed.toList.isPrefixOf c.name.toList

/-- The message for a word that names no command. -/
def unknownCommand (word : String) : String :=
  let meant := suggestions word
  "unknown command " ++ Text.quote word ++ " for " ++ Text.quote Build.tool
    ++ (if meant.isEmpty then ""
      else "\n\nDid you mean this?\n" ++ Text.join "" (meant.map fun c => "\t" ++ c.name ++ "\n"))

/-- A short description of the program. -/
def usage : String :=
  "Usage:\n  aster typecheck <file> [file...]\n  aster version\n"

/-- Runs a command once its arguments are read; help comes before everything else. -/
def withArguments {m : Type → Type} [Monad m] (known : List Flag) (args : List String)
    (run : Arguments → m Output) : m Output :=
  match Arguments.ofList known args with
  | .error e => return (Failure.usage e.message).output
  | .ok a => if (a.bool? "help").getD false then return { stdout := usage } else run a

/-- **Runs the program.** -/
def run {m : Type → Type} [Monad m] (host : Host m) (build : Build) (terminal : Bool)
    (args : List String) : m Output :=
  let root (args : List String) : m Output :=
    withArguments rootFlags args fun a =>
      if (a.bool? "version").getD false then
        return { stdout := Build.tool ++ " version " ++ build.normal.version ++ "\n" }
      else return { stdout := usage }
  match words args with
  | [] => root args
  | word :: _ =>
    match commands.find? (·.name = word) with
    | some .check => withArguments checkFlags (withoutFirst word args) (check host terminal)
    | some .version =>
      withArguments versionFlags (withoutFirst word args) fun a =>
        return version build terminal a
    | some _ => return { stdout := usage }
    | none => return (Failure.usage (unknownCommand word)).output

end CoreCheck.CommandLine

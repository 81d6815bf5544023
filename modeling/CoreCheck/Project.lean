import CoreCheck.Diagnostic.Code
import CoreCheck.Duration
import CoreCheck.Host
import CoreCheck.Path
import CoreCheck.Taint
import CoreCheck.Toml.Reader

/-!
# Project — the configuration file of a project

The nearest file of the fixed name, at or above a directory, configures a project. Names in it are
seen from the directory it lies in. Keys that no configuration has are errors, and so are values
that make no sense.
-/

namespace CoreCheck.Project

/-- The name of the configuration file. -/
def fileName : String := "aster.toml"

/-- **A configuration.** Values that were not given are empty; `isSet` tells them apart. -/
structure Config where
  path : String
  root : String
  /-- The name of the manifest, absolute unless it is blank. -/
  manifest : String
  /-- The threshold as it was written, and the level it stands for. -/
  threshold : String
  level : Level := .none
  warnUnused : Bool
  audit : Bool
  codes : List Code
  jobs : Int
  command : String
  args : List String
  timeout : Duration := ⟨0⟩
  document : Toml.Document
deriving Inhabited

/-- Whether the file gives a key. -/
def Config.isSet (c : Config) (key : Toml.Key) : Bool := c.document.isSet key

/-- What a configuration looks like. -/
def fields : List (String × Toml.Shape) := [
  ("typecheck", .record [("manifest", .text), ("leak_threshold", .text),
    ("warn_unused_effects", .bool), ("audit_pii", .bool), ("filter_codes", .texts),
    ("jobs", .int)]),
  ("frontend", .record [("command", .text), ("args", .texts), ("timeout", .text)])]

/-- **Why a file is no configuration.** -/
inductive ConfigCause where
  | malformed
  | unknownKeys (keys : List String)
  | threshold (cause : Level.Unknown)
  | unknownCode (name : String)
  | negativeJobs
  | timeout (written : String)
deriving DecidableEq

/-- Whether the cause is a value that was read but makes no sense. -/
def ConfigCause.isInvalid : ConfigCause → Bool
  | .unknownKeys _ | .unknownCode _ | .negativeJobs | .timeout _ => true
  | .malformed | .threshold _ => false

/-- **A configuration that cannot be used.** -/
inductive ConfigError where
  | unreadable (cause : FileError)
  | bad (path : String) (cause : ConfigCause)
deriving DecidableEq

/-- The wording of a cause. -/
def ConfigCause.message : ConfigCause → String
  | .malformed => "failed to parse TOML"
  | .unknownKeys keys => "invalid project config: unknown keys " ++ Text.join ", " keys
  | .threshold cause => "[typecheck].leak_threshold: " ++ cause.message
  | .unknownCode name =>
    "invalid project config: [typecheck].filter_codes: unknown code " ++ Text.quote name
  | .negativeJobs => "invalid project config: [typecheck].jobs must not be negative"
  | .timeout written => "invalid project config: [frontend].timeout " ++ Text.quote written

/-- The wording of the failure. -/
def ConfigError.message : ConfigError → String
  | .unreadable cause => "stat " ++ cause.path ++ ": " ++ cause.message
  | .bad path cause => path ++ ": " ++ cause.message

/-- A time limit: a duration above zero. -/
def timeout? (written : String) : Option Duration :=
  (Duration.parse? written).filter fun d => 0 < d.nanos

/-- The codes of a list of names. -/
def codesOf (names : List String) : Except ConfigCause (List Code) :=
  names.mapM fun name =>
    match Code.find? name with
    | some code => .ok code
    | none => .error (.unknownCode name)

/-- **The configuration in a document** that was read from a path. -/
def Config.ofDocument (path : String) (d : Toml.Document) : Except ConfigCause Config := do
  match d.strangers fields with
  | none => throw .malformed
  | some (key :: keys) => throw (.unknownKeys ((key :: keys).map Toml.keyText))
  | some [] => pure ()
  let check := Toml.Table.part d.root "typecheck"
  let frontend := Toml.Table.part d.root "frontend"
  let root := Path.directory path
  let manifest := Toml.Table.textOf check "manifest"
  let trimmed := Text.trim manifest
  let manifest :=
    if trimmed ≠ "" && !Path.isAbsolute trimmed then Path.append root trimmed else manifest
  let threshold := Toml.Table.textOf check "leak_threshold"
  let level ←
    if d.isSet ["typecheck", "leak_threshold"] then (Level.parse threshold).mapError .threshold
    else pure .none
  let codes ← codesOf (Toml.Table.textsOf check "filter_codes")
  let jobs := Toml.Table.intOf check "jobs"
  if jobs < 0 then throw .negativeJobs
  let written := Toml.Table.textOf frontend "timeout"
  let timeout ←
    if d.isSet ["frontend", "timeout"] then
      match timeout? (Text.trim written) with
      | some t => pure t
      | none => throw (.timeout written)
    else pure ⟨0⟩
  return { path, root, manifest, threshold, level, codes, jobs, timeout, document := d,
           warnUnused := Toml.Table.boolOf check "warn_unused_effects",
           audit := Toml.Table.boolOf check "audit_pii",
           command := Toml.Table.textOf frontend "command",
           args := Toml.Table.textsOf frontend "args" }

/-! ## Finding the file -/

/-- A directory and all directories above it, the nearest first. -/
def upwards (dir : String) : List String :=
  let parts := Path.parts dir
  (List.range (parts.length + 1)).reverse.map fun n => Path.ofParts true (parts.take n)

/-- The first directory of a list that holds the file. A directory of that name is passed over. -/
def findIn {m : Type → Type} [Monad m] (host : Host m) :
    List String → m (Except FileError (Option String))
  | [] => return .ok none
  | dir :: dirs => do
    let candidate := Path.append dir fileName
    match ← host.stat candidate with
    | .ok .regular => return .ok (some candidate)
    | .ok .directory => findIn host dirs
    | .error e => if e.cause = .notFound then findIn host dirs else return .error e

/-- **The nearest configuration file** at or above a directory. -/
def find {m : Type → Type} [Monad m] (host : Host m) (start : String) :
    m (Except FileError (Option String)) :=
  findIn host (upwards (Path.absolute host.workdir (if start = "" then "." else start)))

/-- Reads a configuration file. -/
def load {m : Type → Type} [Monad m] (host : Host m) (path : String) :
    m (Except ConfigError Config) := do
  match ← host.read path with
  | .error _ => return .error (.bad path .malformed)
  | .ok bytes =>
    match Toml.Document.ofBytes? bytes with
    | none => return .error (.bad path .malformed)
    | some d => return (Config.ofDocument path d).mapError (.bad path)

/-- **Finds and reads the configuration** for a directory, if there is one. -/
def discover {m : Type → Type} [Monad m] (host : Host m) (start : String) :
    m (Except ConfigError (Option Config)) := do
  match ← find host start with
  | .error e => return .error (.unreadable e)
  | .ok none => return .ok none
  | .ok (some path) => return (← load host path).map some

end CoreCheck.Project

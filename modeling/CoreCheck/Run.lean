import CoreCheck.Check.Batch
import CoreCheck.Ir.Load
import CoreCheck.Settings
import CoreCheck.Timer

/-!
# Run — checking files

A run loads the manifest and the modules, checks them and keeps the diagnostics that were asked for.
A file that cannot be loaded ends the run; problems in a module never do. Modules come from files
that hold them, or from source files by way of the frontend.
-/

namespace CoreCheck

/-! ## Modules from files -/

/-- **Why the frontend gave no module.** -/
inductive FrontendError where
  | notConfigured
  | timedOut (limit : Duration)
  /-- It failed; its complaint, or its status. -/
  | failed (complaint : String)
  | notStarted (command text : String)

/-- The wording of the failure. -/
def FrontendError.message : FrontendError → String
  | .notConfigured =>
    "no frontend configured (set " ++ Settings.frontendVariable ++ " or [frontend].command)"
  | .timedOut limit => "frontend timed out after " ++ limit.text
  | .failed complaint => "frontend failed: " ++ complaint
  | .notStarted command text => "run frontend " ++ Text.quote command ++ ": " ++ text

/-- **Runs the frontend on a source file** and answers what it wrote. -/
def Frontend.emit {m : Type → Type} [Monad m] (f : Frontend) (host : Host m) (path : String) :
    m (Except FrontendError (List UInt8)) := do
  if Text.isBlankText f.command then return .error .notConfigured
  match ← host.start f.command (f.args ++ [path]) f.timeout with
  | .timedOut => return .error (.timedOut f.timeout)
  | .notStarted text => return .error (.notStarted f.command text)
  | .exited 0 stdout _ => return .ok stdout
  | .exited code _ stderr =>
    let complaint := Text.trim (Text.ofBytes stderr)
    return .error (.failed (if complaint = "" then s!"exit status {code}" else complaint))

/-- **Why a file gave no module.** -/
inductive LoadError where
  | unreadable (cause : FileError)
  | noSource (cause : FileError)
  | frontend (path : String) (cause : FrontendError)
  | contract (cause : Ir.ContractError)

/-- The wording of the failure. -/
def LoadError.message : LoadError → String
  | .unreadable cause => "read core ir: " ++ cause.message
  | .noSource cause => "read source: " ++ cause.message
  | .frontend path cause => path ++ ": " ++ cause.message
  | .contract cause => cause.message

/-- Whether a file holds a module, by its extension. -/
def holdsModule (path : String) : Bool :=
  [".json", ".msgpack", ".mpk"].contains (Text.lower (Path.extension path))

/-- **Loads a module** from a file that holds one, or from a source file. -/
def loadModule {m : Type → Type} [Monad m] (host : Host m) (f : Frontend) (path : String) :
    m (Except LoadError Ir.Module) := do
  if holdsModule path then
    match ← host.read path with
    | .error e => return .error (.unreadable e)
    | .ok bytes => return (Ir.Module.ofBytes path bytes).mapError .contract
  else
    match ← host.stat path with
    | .error e => return .error (.noSource e)
    | .ok _ =>
      match ← f.emit host path with
      | .error e => return .error (.frontend path e)
      | .ok bytes => return (Ir.Module.ofJson path (Text.lossy bytes)).mapError .contract

/-- A file that could not be loaded. -/
structure LoadFailure where
  path : String
  cause : LoadError

/-- Loads modules in order, up to the first that fails. -/
def loadModules {m : Type → Type} [Monad m] (host : Host m) (f : Frontend) :
    List String → m (Except LoadFailure (List Ir.Module))
  | [] => return .ok []
  | path :: paths => do
    match ← loadModule host f path with
    | .error e => return .error ⟨path, e⟩
    | .ok mod => return (← loadModules host f paths).map (mod :: ·)

/-! ## The run -/

/-- **Why a run ended early.** -/
inductive RunError where
  | manifest (cause : ManifestError)
  | load (failure : LoadFailure)

/-- The wording of the failure. -/
def RunError.message : RunError → String
  | .manifest cause => "load capability manifest: " ++ cause.message
  | .load f => "load " ++ f.path ++ ": " ++ f.cause.message

/-- **What is known about one file**: its diagnostics, as far as they were asked for. -/
structure FileResult where
  path : String
  diagnostics : Bag
  functions : List Check.FunctionSummary
deriving Inhabited

/-- What a run did so far. -/
structure Progress where
  activities : List Trace.Activity := []
  timer : Timer := {}

/-- **Runs one phase**: times it and notes it, with what happened inside. -/
def Progress.phase {m : Type → Type} [Monad m] {α : Type} (p : Progress) (host : Host m)
    (name : String) (step : m α) (inside : α → List Trace.Activity) (note : α → String) :
    m (α × Progress) := do
  let began ← host.now
  let a ← step
  let ended ← host.now
  let (timer, index) := p.timer.start began name
  return (a,
    { activities := p.activities ++
        [.span .driver name (inside a) (note a) [] ⟨ended - began⟩]
      timer := timer.stop ended index (note a) })

/-- What a run leaves behind: its outcome, what it did, and how long it took. -/
structure RunReport where
  outcome : Except RunError (List FileResult)
  progress : Progress

/-- The phases of a run, one after the other. -/
def runPhases {m : Type → Type} [Monad m] (host : Host m) (s : Settings) (paths : List String) :
    m RunReport := do
  let (manifest, p) ← Progress.phase {} host "manifest" (s.loadManifest host) (fun _ => [])
    (fun _ => s.manifestPath)
  match manifest with
  | .error e => return ⟨.error (.manifest e), p⟩
  | .ok manifest =>
    let (modules, p) ← p.phase host "load" (loadModules host s.frontend paths) (fun _ => [])
      fun
        | .ok ms => s!"{ms.length} modules"
        | .error _ => "failed"
    match modules with
    | .error e => return ⟨.error (.load e), p⟩
    | .ok modules =>
      let o := s.checkOptions manifest
      let (results, p) ← p.phase host "check" (pure (modules.map (Check.checkModule o)))
        (fun _ => modules.map fun m => (Check.survey m).activity o) (fun _ => "")
      let (kept, p) ← p.phase host "filter"
        (pure ((paths.zip results).map fun (path, r) =>
          ({ path, diagnostics := r.diagnostics.keepCodes s.codes, functions := r.functions }
            : FileResult)))
        (fun _ => []) (fun _ => s!"{s.codes.length} codes")
      return ⟨.ok kept, p⟩

/-- **Checks files under settings.** -/
def runCheck {m : Type → Type} [Monad m] (host : Host m) (s : Settings) (paths : List String) :
    m (RunReport × Trace.Activity) := do
  let began ← host.now
  let report ← runPhases host s paths
  let ended ← host.now
  return (report, .span .driver "typecheck" report.progress.activities s!"{paths.length} files" []
    ⟨ended - began⟩)

end CoreCheck

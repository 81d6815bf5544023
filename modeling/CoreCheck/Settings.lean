import CoreCheck.Capability.ManifestText
import CoreCheck.Check.Options
import CoreCheck.Project

/-!
# Settings — what a run is asked to do

Settings come from the command line, the environment and the configuration file, in this order of
precedence; what none of them gives has a default.
-/

namespace CoreCheck

/-- **What the command line asks for**; what it leaves out is `none`. -/
structure Flags where
  manifest : Option String := none
  threshold : Option String := none
  warnUnused : Option Bool := none
  audit : Option Bool := none
  codes : List String := []
  jobs : Option Int := none
deriving Inhabited

/-- **The command that turns a source file into a module.** -/
structure Frontend where
  command : String := ""
  args : List String := []
  timeout : Duration := .ofSeconds 30
deriving Inhabited

/-- **What a run is asked to do.** -/
structure Settings where
  manifestPath : String := ""
  threshold : Level := .l2
  warnUnused : Bool := true
  audit : Bool := false
  codes : List Code := []
  jobs : Int := 0
  frontend : Frontend := {}
  config : Option Project.Config := none
deriving Inhabited

namespace Settings

/-! ## Variables of the environment -/

def manifestVariable : String := "ASTER_CAPS"
def frontendVariable : String := "ASTER_FRONTEND"
def timeoutVariable : String := "ASTER_FRONTEND_TIMEOUT"
def thresholdVariable : String := "ASTER_LEAK_THRESHOLD"

/-- A variable without the blanks around it; a blank one counts as not given. -/
def given? (env : String → Option String) (name : String) : Option String :=
  ((env name).map Text.trim).filter (· ≠ "")

/-- **Why settings cannot be used.** -/
inductive Fault where
  | variableThreshold (cause : Level.Unknown)
  | variableTimeout (written : String)
  | flagThreshold (cause : Level.Unknown)
  | flagJobs
  | flagCode (name : String)
deriving DecidableEq

/-- Whether the command line is at fault. -/
def Fault.isFlag : Fault → Bool
  | .flagThreshold _ | .flagJobs | .flagCode _ => true
  | _ => false

/-- The wording of the fault. -/
def Fault.message : Fault → String
  | .variableThreshold cause => thresholdVariable ++ ": " ++ cause.message
  | .variableTimeout written =>
    timeoutVariable ++ ": invalid setting: " ++ Text.quote written ++ " is not a positive duration"
  | .flagThreshold cause => "--leak-threshold: " ++ cause.message
  | .flagJobs => "--jobs: invalid setting: must not be negative"
  | .flagCode name =>
    "--filter-codes: invalid setting: unknown diagnostic code " ++ Text.quote name

/-! ## The three sources -/

/-- Settings with what a configuration gives. -/
def withConfig (s : Settings) (c : Project.Config) : Settings :=
  let isSet (part key : String) : Bool := c.isSet [part, key]
  { manifestPath := if isSet "typecheck" "manifest" then c.manifest else s.manifestPath
    threshold := if isSet "typecheck" "leak_threshold" then c.level else s.threshold
    warnUnused := if isSet "typecheck" "warn_unused_effects" then c.warnUnused else s.warnUnused
    audit := if isSet "typecheck" "audit_pii" then c.audit else s.audit
    codes := s.codes ++ c.codes
    jobs := if isSet "typecheck" "jobs" then c.jobs else s.jobs
    frontend :=
      { command := if isSet "frontend" "command" then c.command else s.frontend.command
        args := if isSet "frontend" "command" then c.args else s.frontend.args
        timeout := if isSet "frontend" "timeout" then c.timeout else s.frontend.timeout }
    config := some c }

/-- The threshold that a text gives, if it is given at all. -/
def readThreshold (refuse : Level.Unknown → Fault) (given : Option String) (other : Level) :
    Except Fault Level :=
  match given with
  | some t => (Level.parse t).mapError refuse
  | none => .ok other

/-- The command and the arguments that the words of a text give. -/
def readCommand (given : Option String) (other : String × List String) : String × List String :=
  match given.map Text.words with
  | some (command :: args) => (command, args)
  | _ => other

/-- The time limit that a text gives. -/
def readTimeout (given : Option String) (other : Duration) : Except Fault Duration :=
  match given with
  | some t =>
    match Project.timeout? t with
    | some d => .ok d
    | none => .error (.variableTimeout t)
  | none => .ok other

/-- Settings with what the environment gives. -/
def withEnvironment (s : Settings) (env : String → Option String) : Except Fault Settings := do
  let manifestPath := (given? env manifestVariable).getD s.manifestPath
  let threshold ← readThreshold .variableThreshold (given? env thresholdVariable) s.threshold
  let command := readCommand (given? env frontendVariable) (s.frontend.command, s.frontend.args)
  let timeout ← readTimeout (given? env timeoutVariable) s.frontend.timeout
  return { s with manifestPath, threshold, frontend := ⟨command.1, command.2, timeout⟩ }

/-- The codes of names, several of which may be joined by commas; blank ones are passed over. -/
def parseCodes (values : List String) : Except Fault (List Code) :=
  let names := ((values.flatMap (Text.split ',')).map Text.trim).filter (· ≠ "")
  names.mapM fun name =>
    match Code.find? name with
    | some code => .ok code
    | none => .error (.flagCode name)

/-- The number of checks at a time that a flag gives. -/
def readJobs (given : Option Int) (other : Int) : Except Fault Int :=
  match given with
  | some n => if n < 0 then .error .flagJobs else .ok n
  | none => .ok other

/-- The codes that a flag gives. -/
def readCodes (given : List String) (other : List Code) : Except Fault (List Code) :=
  if given.isEmpty then .ok other else parseCodes given

/-- Settings with what the command line gives. -/
def withFlags (s : Settings) (f : Flags) : Except Fault Settings := do
  let manifestPath := (f.manifest.map Text.trim).getD s.manifestPath
  let threshold ← readThreshold .flagThreshold f.threshold s.threshold
  let warnUnused := f.warnUnused.getD s.warnUnused
  let audit := f.audit.getD s.audit
  let jobs ← readJobs f.jobs s.jobs
  let codes ← readCodes f.codes s.codes
  return { s with manifestPath, threshold, warnUnused, audit, jobs, codes }

/-- **The settings of a run**: the command line wins over the environment, which wins over the
configuration. -/
def resolve (f : Flags) (env : String → Option String) (c : Option Project.Config) :
    Except Fault Settings := do
  let s := (c.map (withConfig {})).getD {}
  (← s.withEnvironment env).withFlags f

/-- The options of a check under these settings. -/
def checkOptions (s : Settings) (manifest : Option Manifest) : Check.Options :=
  { manifest, threshold := s.threshold, warnUnused := s.warnUnused, audit := s.audit }

end Settings

/-! ## Manifests from files -/

/-- **A manifest that cannot be loaded.** -/
inductive ManifestError where
  | unreadable (cause : FileError)
  | bad (path : String) (cause : Manifest.TextError)
deriving DecidableEq

/-- The wording of the failure. -/
def ManifestError.message : ManifestError → String
  | .unreadable cause => "read capability manifest: " ++ cause.message
  | .bad path cause => path ++ ": " ++ cause.message

/-- **Loads a manifest**, in the form that its name asks for. -/
def Manifest.load {m : Type → Type} [Monad m] (host : Host m) (path : String) :
    m (Except ManifestError Manifest) := do
  match ← host.read path with
  | .error e => return .error (.unreadable e)
  | .ok bytes =>
    return ((Manifest.ofBytes (.ofPath path) bytes).mapError (.bad path)).map
      fun manifest => { manifest with source := path }

/-- Loads the manifest that the environment names, if it names one. -/
def Manifest.loadGiven {m : Type → Type} [Monad m] (host : Host m) :
    m (Except ManifestError (Option Manifest)) := do
  match Settings.given? host.environment Settings.manifestVariable with
  | none => return .ok none
  | some path => return (← Manifest.load host path).map some

/-- Loads the manifest of the settings, if they name one. -/
def Settings.loadManifest {m : Type → Type} [Monad m] (s : Settings) (host : Host m) :
    m (Except ManifestError (Option Manifest)) := do
  if s.manifestPath = "" then return .ok none
  return (← Manifest.load host s.manifestPath).map some

end CoreCheck

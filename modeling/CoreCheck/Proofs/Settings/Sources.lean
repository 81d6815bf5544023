import CoreCheck.Proofs.Taint.Lattice
import CoreCheck.Settings

/-!
# Proofs/Settings/Sources — what each source has a say in

Three sources are merged one after the other.  One equation says what comes of it (`resolve_eq`): the
first fault, in the order in which the sources are read, ends the run, and otherwise each key has the
value of the first source that sets it.  A variable of the environment that is blank, and a key that
the configuration leaves out, set nothing.
-/

namespace CoreCheck

namespace Text

theorem wordsFrom_ne_nil {cs word : List Char} (h : word ≠ [] ∨ cs.all isBlank = false) :
    wordsFrom cs word ≠ [] := by
  induction cs generalizing word with
  | nil =>
    obtain h | h := h
    · simp [wordsFrom, h]
    · exact absurd h (by simp)
  | cons c cs ih =>
    rw [wordsFrom]
    by_cases hc : isBlank c = true
    · rw [if_pos hc]
      obtain rfl | hword := eq_or_ne word []
      · exact ih (.inr (by simpa [hc] using h))
      · rw [if_neg (by simpa using hword)]
        exact List.cons_ne_nil _ _
    · rw [if_neg hc]
      exact ih (.inl (List.cons_ne_nil _ _))

/-- **A text that is not blank has words.** -/
theorem words_ne_nil {s : String} (h : isBlankText s = false) : words s ≠ [] := fun hnil =>
  wordsFrom_ne_nil (.inr h) (List.map_eq_nil_iff.1 hnil)

end Text

namespace Settings

/-! ## Keys -/

/-- **What can be set.**  A command comes with its arguments. -/
inductive Key where
  | manifest | threshold | warnUnused | audit | codes | jobs | command | timeout
deriving DecidableEq

/-- The values that a key can have. -/
abbrev Key.Value : Key → Type
  | .manifest => String
  | .threshold => Level
  | .warnUnused => Bool
  | .audit => Bool
  | .codes => List Code
  | .jobs => Int
  | .command => String × List String
  | .timeout => Duration

/-- The value of a key that nothing sets. -/
def fallback : (k : Key) → k.Value
  | .manifest => ""
  | .threshold => Level.l2
  | .warnUnused => true
  | .audit => false
  | .codes => []
  | .jobs => (0 : Int)
  | .command => ("", [])
  | .timeout => Duration.ofSeconds 30

/-- The settings with a value for each key. -/
def ofValues (value : (k : Key) → k.Value) (config : Option Project.Config) : Settings where
  manifestPath := value .manifest
  threshold := value .threshold
  warnUnused := value .warnUnused
  audit := value .audit
  codes := value .codes
  jobs := value .jobs
  frontend := ⟨(value .command).1, (value .command).2, value .timeout⟩
  config := config

/-! ## The configuration -/

/-- **What a configuration sets a key to**, if it does. -/
def configured (c : Project.Config) : (k : Key) → Option k.Value
  | .manifest => if c.isSet ["typecheck", "manifest"] then some c.manifest else none
  | .threshold => if c.isSet ["typecheck", "leak_threshold"] then some c.level else none
  | .warnUnused => if c.isSet ["typecheck", "warn_unused_effects"] then some c.warnUnused else none
  | .audit => if c.isSet ["typecheck", "audit_pii"] then some c.audit else none
  | .codes => if c.codes = [] then none else some c.codes
  | .jobs => if c.isSet ["typecheck", "jobs"] then some c.jobs else none
  | .command => if c.isSet ["frontend", "command"] then some (c.command, c.args) else none
  | .timeout => if c.isSet ["frontend", "timeout"] then some c.timeout else none

/-- What a configuration sets a key to, if there is one and it does. -/
def configured? (c : Option Project.Config) (k : Key) : Option k.Value := c.bind (configured · k)

/-- **The settings of a configuration**: the defaults, where it sets nothing. -/
theorem withConfig_eq (c : Option Project.Config) : (c.map (withConfig {})).getD {}
    = ofValues (fun k => (configured? c k).getD (fallback k)) c := by
  cases c with
  | none => rfl
  | some c =>
    have hcodes : (if c.codes = [] then none else some c.codes).getD [] = c.codes := by
      split
      · next h => exact h.symm
      · rfl
    rw [Option.map_some, Option.getD_some, withConfig, ofValues]
    simp only [configured?, Option.bind_some, configured]
    congr 2
    case e_codes => exact hcodes.symm
    all_goals split <;> rfl

/-! ## The environment -/

/-- The variable of the environment that sets a key, if there is one. -/
def Key.name? : Key → Option String
  | .manifest => some manifestVariable
  | .threshold => some thresholdVariable
  | .command => some frontendVariable
  | .timeout => some timeoutVariable
  | _ => none

/-- Different keys have different variables. -/
theorem Key.eq_of_name? {k j : Key} {name : String} (hk : k.name? = some name)
    (hj : j.name? = some name) : k = j := by
  have hall : ∀ k j : Key, k.name?.isSome = true → k.name? = j.name? → k = j := by
    intro k j
    cases k <;> cases j <;> decide
  exact hall k j (by rw [hk]; rfl) (hk.trans hj.symm)

/-- The level that a text names. -/
def level? (text : String) : Option Level := (Level.parse text).toOption

/-- A command and its arguments, from the words of a text. -/
def command? (text : String) : Option (String × List String) :=
  match Text.words text with
  | [] => none
  | command :: args => some (command, args)

/-- What a variable with a text sets its key to. -/
def Key.read : (k : Key) → String → Option k.Value
  | .manifest => some
  | .threshold => level?
  | .command => command?
  | .timeout => Project.timeout?
  | _ => fun _ => none

/-- **What the environment sets a key to**, if it does. -/
def fromVariable? (env : String → Option String) (k : Key) : Option k.Value :=
  (k.name?.bind (given? env)).bind k.read

/-- Why a text names no level. -/
def notLevel? (text : String) : Option Level.Unknown :=
  match Level.parse text with
  | .ok _ => none
  | .error cause => some cause

/-- Why the threshold of the environment cannot be used. -/
def unreadable? (env : String → Option String) : Option Level.Unknown :=
  (given? env thresholdVariable).bind notLevel?

/-- The time limit of the environment, if it cannot be used. -/
def unusable? (env : String → Option String) : Option String :=
  (given? env timeoutVariable).filter fun t => (Project.timeout? t).isNone

/-- The fault of the environment. -/
def variableFault? (env : String → Option String) : Option Fault :=
  ((unreadable? env).map .variableThreshold).or ((unusable? env).map .variableTimeout)

theorem readThreshold_eq (refuse : Level.Unknown → Fault) (given : Option String) (other : Level) :
    readThreshold refuse given other = match given.bind notLevel? with
      | some cause => .error (refuse cause)
      | none => .ok ((given.bind level?).getD other) := by
  cases given with
  | none => rfl
  | some t =>
    rw [readThreshold, Option.bind_some, Option.bind_some, notLevel?, level?]
    cases Level.parse t <;> rfl

theorem readCommand_eq (given : Option String) (other : String × List String) :
    readCommand given other = (given.bind command?).getD other := by
  cases given with
  | none => rfl
  | some t =>
    rw [readCommand, Option.map_some, Option.bind_some, command?]
    cases Text.words t <;> rfl

theorem readTimeout_eq (given : Option String) (other : Duration) :
    readTimeout given other = match given.filter fun t => (Project.timeout? t).isNone with
      | some t => .error (.variableTimeout t)
      | none => .ok ((given.bind Project.timeout?).getD other) := by
  cases given with
  | none => rfl
  | some t =>
    rw [readTimeout, Option.filter_some, Option.bind_some]
    cases Project.timeout? t <;> rfl

/-- **The settings with what the environment sets**, unless it is at fault. -/
theorem withEnvironment_eq (value : (k : Key) → k.Value) (c : Option Project.Config)
    (env : String → Option String) :
    (ofValues value c).withEnvironment env = match variableFault? env with
      | some fault => .error fault
      | none => .ok (ofValues (fun k => (fromVariable? env k).getD (value k)) c) := by
  have hmanifest : given? env manifestVariable = fromVariable? env .manifest :=
    (Option.bind_fun_some _).symm
  rw [withEnvironment, hmanifest, readThreshold_eq, readCommand_eq, readTimeout_eq, variableFault?,
    unreadable?, unusable?]
  cases (given? env thresholdVariable).bind notLevel? with
  | some cause => rfl
  | none =>
    cases (given? env timeoutVariable).filter fun t => (Project.timeout? t).isNone <;> rfl

/-! ## The command line -/

/-- Whether the command line sets a key. -/
def Key.setBy (f : Flags) : Key → Bool
  | .manifest => f.manifest.isSome
  | .threshold => f.threshold.isSome
  | .warnUnused => f.warnUnused.isSome
  | .audit => f.audit.isSome
  | .codes => !f.codes.isEmpty
  | .jobs => f.jobs.isSome
  | .command => false
  | .timeout => false

/-- **What the command line sets a key to**, if it does. -/
def flagged? (f : Flags) : (k : Key) → Option k.Value
  | .manifest => f.manifest.map Text.trim
  | .threshold => f.threshold.bind level?
  | .warnUnused => f.warnUnused
  | .audit => f.audit
  | .codes => if f.codes.isEmpty then none else (parseCodes f.codes).toOption
  | .jobs => f.jobs
  | .command => none
  | .timeout => none

/-- The fault of a list of codes. -/
def codesFault? (names : List String) : Option Fault :=
  match parseCodes names with
  | .ok _ => none
  | .error fault => some fault

/-- The fault of the command line. -/
def flagFault? (f : Flags) : Option Fault :=
  ((f.threshold.bind notLevel?).map .flagThreshold).or
    ((if f.jobs.any (· < 0) then some .flagJobs else none).or
      (if f.codes.isEmpty then none else codesFault? f.codes))

theorem readJobs_eq (given : Option Int) (other : Int) :
    readJobs given other = match if given.any (· < 0) then some Fault.flagJobs else none with
      | some fault => .error fault
      | none => .ok (given.getD other) := by
  cases given with
  | none => rfl
  | some n =>
    rw [readJobs, Option.any_some]
    by_cases hn : n < 0 <;> simp [hn]

theorem readCodes_eq (given : List String) (other : List Code) :
    readCodes given other = match if given.isEmpty then none else codesFault? given with
      | some fault => .error fault
      | none => .ok ((if given.isEmpty then none else (parseCodes given).toOption).getD other) := by
  rw [readCodes]
  split
  · rfl
  · rw [codesFault?]
    cases parseCodes given <;> rfl

/-- **The settings with what the command line sets**, unless it is at fault. -/
theorem withFlags_eq (value : (k : Key) → k.Value) (c : Option Project.Config) (f : Flags) :
    (ofValues value c).withFlags f = match flagFault? f with
      | some fault => .error fault
      | none => .ok (ofValues (fun k => (flagged? f k).getD (value k)) c) := by
  rw [withFlags, readThreshold_eq, readJobs_eq, readCodes_eq, flagFault?]
  cases f.threshold.bind notLevel? with
  | some cause => rfl
  | none =>
    cases if f.jobs.any (· < 0) then some Fault.flagJobs else none with
    | some fault => rfl
    | none => cases if f.codes.isEmpty then none else codesFault? f.codes <;> rfl

/-! ## All three -/

/-- **The value of a key**: that of the first source that sets it. -/
def valueOf (f : Flags) (env : String → Option String) (c : Option Project.Config) (k : Key) :
    k.Value :=
  (flagged? f k).getD ((fromVariable? env k).getD ((configured? c k).getD (fallback k)))

/-- The first fault of the sources. -/
def fault? (f : Flags) (env : String → Option String) : Option Fault :=
  (variableFault? env).or (flagFault? f)

/-- **What comes of the three sources.** -/
theorem resolve_eq (f : Flags) (env : String → Option String) (c : Option Project.Config) :
    resolve f env c = match fault? f env with
      | some fault => .error fault
      | none => .ok (ofValues (valueOf f env c) c) := by
  rw [resolve, withConfig_eq]
  change (do (← (ofValues _ c).withEnvironment env).withFlags f) = _
  rw [withEnvironment_eq, fault?]
  cases variableFault? env with
  | some fault => rfl
  | none => exact withFlags_eq _ c f

end Settings

end CoreCheck

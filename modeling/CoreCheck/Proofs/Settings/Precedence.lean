import CoreCheck.Proofs.Settings.Sources

/-!
# Proofs/Settings/Precedence — what a source says counts only where no earlier source speaks

Two runs are compared that differ in what is said of one key by the sources after the first that sets
it.  They come to the same settings, or to the same fault, but for one case: a threshold of the
environment is read before the command line is asked, so one that names no level ends the run though
the command line has another (`precedence_iff_readable`).
-/

namespace CoreCheck.Settings

/-- **What comes of the sources**, less the configuration that is kept beside the settings. -/
def outcome (f : Flags) (env : String → Option String) (c : Option Project.Config) :
    Except Fault Settings :=
  (resolve f env c).map fun s => { s with config := none }

/-- Two environments that differ in one key at most. -/
def EnvironmentBut (k : Key) (env env' : String → Option String) : Prop :=
  ∀ name, k.name? ≠ some name → env name = env' name

/-- Two configurations that differ in one key at most. -/
def ConfigBut (k : Key) (c c' : Option Project.Config) : Prop :=
  ∀ j, j ≠ k → configured? c j = configured? c' j

/-- **The command line has the last word on a key**: nothing that the environment and the
configuration say of it matters. -/
def Overrides (f : Flags) (k : Key) : Prop :=
  ∀ env env' c c', EnvironmentBut k env env' → ConfigBut k c c' → outcome f env c = outcome f env' c'

/-! ## Sources that speak -/

theorem level?_isSome {t : String} (h : notLevel? t = none) : (level? t).isSome = true := by
  rw [level?]
  cases hparse : Level.parse t with
  | ok level => rfl
  | error cause => simp [notLevel?, hparse] at h

/-- **A command line that is not at fault gives each key that it sets a value.** -/
theorem flagged?_isSome {f : Flags} {k : Key} (hset : k.setBy f = true)
    (hfault : flagFault? f = none) : (flagged? f k).isSome = true := by
  obtain ⟨hlevel, hrest⟩ := Option.or_eq_none_iff.1 hfault
  obtain ⟨-, hcodes⟩ := Option.or_eq_none_iff.1 hrest
  cases k with
  | manifest => exact (Option.isSome_map).trans hset
  | threshold =>
    obtain ⟨t, ht⟩ := Option.isSome_iff_exists.1 hset
    rw [ht, Option.bind_some, Option.map_eq_none_iff] at hlevel
    rw [flagged?, ht, Option.bind_some]
    exact level?_isSome hlevel
  | warnUnused => exact hset
  | audit => exact hset
  | codes =>
    have hne : f.codes.isEmpty = false := by simpa [Key.setBy] using hset
    rw [hne, if_neg Bool.false_ne_true, codesFault?] at hcodes
    rw [flagged?, hne, if_neg Bool.false_ne_true]
    cases hparse : parseCodes f.codes with
    | ok codes => rfl
    | error fault => simp [hparse] at hcodes
  | jobs => exact hset
  | command => exact absurd hset Bool.false_ne_true
  | timeout => exact absurd hset Bool.false_ne_true

variable {f : Flags} {env env' : String → Option String} {c c' : Option Project.Config} {k : Key}

/-- What is given is not blank. -/
theorem command?_isSome {name t : String} (h : given? env name = some t) :
    (command? t).isSome = true := by
  obtain ⟨hmap, hne⟩ := Option.filter_eq_some_iff.1 h
  obtain ⟨s, -, rfl⟩ := Option.map_eq_some_iff.1 hmap
  have hwords := Text.words_ne_nil (Text.isBlankText_eq_false (Text.trim_trim s) (by simpa using hne))
  rw [command?]
  cases hw : Text.words (Text.trim s) with
  | nil => exact absurd hw hwords
  | cons command args => rfl

/-- **An environment that is not at fault gives each key that it sets a value.** -/
theorem fromVariable?_isSome {name : String} (hk : k.name? = some name)
    (hgiven : (given? env name).isSome = true) (hfault : variableFault? env = none) :
    (fromVariable? env k).isSome = true := by
  obtain ⟨hlevel, htime⟩ := Option.or_eq_none_iff.1 hfault
  obtain ⟨t, ht⟩ := Option.isSome_iff_exists.1 hgiven
  rw [fromVariable?, hk, Option.bind_some, ht, Option.bind_some]
  cases k with
  | manifest => rfl
  | threshold =>
    obtain rfl := Option.some.inj hk
    rw [unreadable?, ht, Option.bind_some, Option.map_eq_none_iff] at hlevel
    exact level?_isSome hlevel
  | command => exact command?_isSome ht
  | timeout =>
    obtain rfl := Option.some.inj hk
    rw [unusable?, ht, Option.map_eq_none_iff, Option.filter_some] at htime
    cases hparse : Project.timeout? t with
    | some d => exact congrArg Option.isSome hparse
    | none => simp [hparse] at htime
  | warnUnused => cases hk
  | audit => cases hk
  | codes => cases hk
  | jobs => cases hk

/-! ## Two runs -/

theorem outcome_eq : outcome f env c = match fault? f env with
    | some fault => .error fault
    | none => .ok (ofValues (valueOf f env c) none) := by
  rw [outcome, resolve_eq]
  cases fault? f env <;> rfl

/-- Runs with the same fault come to the same, and so do runs without one if each key has the same
value. -/
theorem outcome_congr (hfault : fault? f env = fault? f env')
    (hvalue : fault? f env = none → ∀ j, valueOf f env c j = valueOf f env' c' j) :
    outcome f env c = outcome f env' c' := by
  rw [outcome_eq, outcome_eq, ← hfault]
  cases h : fault? f env with
  | some fault => rfl
  | none => rw [funext (hvalue h)]

/-- A source that speaks leaves those after it nothing to say. -/
theorem getD_congr_of_isSome {α : Type} {o : Option α} (h : o.isSome = true) (a b : α) :
    o.getD a = o.getD b := by
  obtain ⟨v, rfl⟩ := Option.isSome_iff_exists.1 h
  rfl

theorem EnvironmentBut.given? (h : EnvironmentBut k env env') {j : Key} (hjk : j ≠ k)
    {name : String} (hj : j.name? = some name) :
    Settings.given? env name = Settings.given? env' name := by
  rw [Settings.given?, Settings.given?, h name fun hk => hjk (Key.eq_of_name? hj hk)]

theorem EnvironmentBut.fromVariable? (h : EnvironmentBut k env env') {j : Key} (hjk : j ≠ k) :
    Settings.fromVariable? env j = Settings.fromVariable? env' j := by
  rw [Settings.fromVariable?, Settings.fromVariable?]
  cases hj : j.name? with
  | none => rfl
  | some name => rw [Option.bind_some, Option.bind_some, h.given? hjk hj]

/-- The faults of two environments are the same if their thresholds can be read alike. -/
theorem EnvironmentBut.variableFault? (h : EnvironmentBut k env env') (hk : k ≠ .timeout)
    (hread : k = .threshold → unreadable? env = unreadable? env') :
    Settings.variableFault? env = Settings.variableFault? env' := by
  have hthreshold : unreadable? env = unreadable? env' := by
    by_cases hkt : k = .threshold
    · exact hread hkt
    · rw [unreadable?, unreadable?, h.given? (j := .threshold) (Ne.symm hkt) rfl]
  rw [Settings.variableFault?, Settings.variableFault?, hthreshold, unusable?, unusable?,
    h.given? (j := .timeout) (Ne.symm hk) rfl]

/-- What ends the reading of a list is the fault of one of its members. -/
theorem exists_error_of_mapM {α β ε : Type} {g : α → Except ε β} {xs : List α} {e : ε}
    (h : xs.mapM g = .error e) : ∃ x ∈ xs, g x = .error e := by
  induction xs with
  | nil => cases h
  | cons x xs ih =>
    rw [List.mapM_cons] at h
    cases hx : g x with
    | error other =>
      rw [hx] at h
      cases h
      exact ⟨x, .head _, hx⟩
    | ok y =>
      cases hxs : xs.mapM g with
      | error other =>
        rw [hx, hxs] at h
        cases h
        obtain ⟨x', hmem, hx'⟩ := ih hxs
        exact ⟨x', .tail _ hmem, hx'⟩
      | ok ys =>
        rw [hx, hxs] at h
        cases h

/-- A fault of a list of codes is one of the command line. -/
theorem isFlag_of_parseCodes {values : List String} {fault : Fault}
    (h : parseCodes values = .error fault) : fault.isFlag = true := by
  obtain ⟨name, -, hname⟩ := exists_error_of_mapM h
  split at hname
  · cases hname
  · cases hname
    rfl

theorem isFlag_of_flagFault? {fault : Fault} (h : flagFault? f = some fault) :
    fault.isFlag = true := by
  obtain h | ⟨-, h⟩ := Option.or_eq_some_iff.1 h
  · obtain ⟨cause, -, rfl⟩ := Option.map_eq_some_iff.1 h
    rfl
  obtain h | ⟨-, h⟩ := Option.or_eq_some_iff.1 h
  · obtain rfl : Fault.flagJobs = fault := by
      split at h
      · exact Option.some.inj h
      · cases h
    rfl
  · split at h
    · cases h
    · rw [codesFault?] at h
      cases hparse : parseCodes f.codes with
      | ok codes => simp [hparse] at h
      | error other =>
        rw [hparse] at h
        exact Option.some.inj h ▸ isFlag_of_parseCodes hparse

/-- **A threshold of the environment that names no level ends every run**, and what ends a run in this
way is such a threshold. -/
theorem fault?_eq_variableThreshold {cause : Level.Unknown} :
    fault? f env = some (.variableThreshold cause) ↔ unreadable? env = some cause := by
  rw [fault?, variableFault?]
  cases hread : unreadable? env with
  | some other => simp
  | none =>
    refine iff_of_false (fun h => ?_) (Option.some_ne_none _).symm
    obtain h | ⟨-, h⟩ := Option.or_eq_some_iff.1 h
    · obtain ⟨t, -, ht⟩ := Option.map_eq_some_iff.1 h
      cases ht
    · exact Bool.noConfusion (isFlag_of_flagFault? h)

/-- Runs that come to the same have thresholds of the environment that can be read alike. -/
theorem unreadable?_congr (h : outcome f env c = outcome f env' c') :
    unreadable? env = unreadable? env' := by
  have hfault : ∀ fault, fault? f env = some fault ↔ fault? f env' = some fault := by
    intro fault
    rw [outcome_eq, outcome_eq] at h
    cases hf : fault? f env <;> cases hf' : fault? f env' <;> simp_all
  ext cause
  rw [← fault?_eq_variableThreshold, hfault, fault?_eq_variableThreshold]

/-! ## Precedence -/

/-- **What the command line sets counts alone**, unless a threshold is at fault in one environment
only. -/
theorem outcome_congr_of_setBy (hset : k.setBy f = true) (henv : EnvironmentBut k env env')
    (hconfig : ConfigBut k c c') (hread : k = .threshold → unreadable? env = unreadable? env') :
    outcome f env c = outcome f env' c' := by
  have hk : k ≠ .timeout := fun h => by
    subst h
    cases hset
  refine outcome_congr (by rw [fault?, fault?, henv.variableFault? hk hread]) fun hfault j => ?_
  by_cases hj : j = k
  · subst hj
    exact getD_congr_of_isSome (flagged?_isSome hset (Option.or_eq_none_iff.1 hfault).2) _ _
  · rw [valueOf, valueOf, henv.fromVariable? hj, hconfig j hj]

/-- **What the environment sets, the configuration does not.** -/
theorem outcome_congr_of_given {name : String} (hk : k.name? = some name)
    (hgiven : (given? env name).isSome = true) (hconfig : ConfigBut k c c') :
    outcome f env c = outcome f env c' := by
  refine outcome_congr rfl fun hfault j => ?_
  by_cases hj : j = k
  · subst hj
    have hsome := fromVariable?_isSome hk hgiven (Option.or_eq_none_iff.1 hfault).1
    exact congrArg (flagged? f j).getD (getD_congr_of_isSome hsome _ _)
  · rw [valueOf, valueOf, hconfig j hj]

/-- **The command line overrides the environment, which overrides the configuration, but for a
threshold of the environment that names no level.**  What the command line sets, the other sources do
not change, and what a variable that is not blank sets, the configuration does not.  For a threshold on
the command line, runs that differ in what is said of it elsewhere come to the same exactly if the
environments have the same fault in their thresholds, or both have none. -/
theorem precedence_iff_readable (f : Flags) :
    (∀ k, k.setBy f = true → k ≠ .threshold → Overrides f k) ∧
    (f.threshold.isSome = true → ∀ env env' c c', EnvironmentBut .threshold env env' →
      ConfigBut .threshold c c' →
        (outcome f env c = outcome f env' c' ↔ unreadable? env = unreadable? env')) ∧
    ∀ k name, k.name? = some name → ∀ env c c', (given? env name).isSome = true →
      ConfigBut k c c' → outcome f env c = outcome f env c' :=
  ⟨fun _ hset hk _ _ _ _ henv hconfig =>
      outcome_congr_of_setBy hset henv hconfig fun h => absurd h hk,
    fun hset _ _ _ _ henv hconfig => ⟨unreadable?_congr, fun h =>
      outcome_congr_of_setBy (k := .threshold) hset henv hconfig fun _ => h⟩,
    fun _ _ hk _ _ _ hgiven hconfig => outcome_congr_of_given hk hgiven hconfig⟩

/-- The environment of a single variable. -/
def onlyVariable (name text : String) : String → Option String :=
  fun other => if other = name then some text else none

theorem environmentBut_onlyVariable {name : String} (hk : k.name? = some name) (text : String) :
    EnvironmentBut k (onlyVariable name text) fun _ => none :=
  fun _ hother => if_neg fun h : _ = name => hother (hk.trans (congrArg some h.symm))

/-- A manifest of the command line does without that of the environment, and a threshold of the
environment without that of the configuration. -/
theorem precedence_iff_readable_manifestAndThreshold :
    outcome { manifest := some "m.toml" } (onlyVariable manifestVariable "e.toml") none =
      outcome { manifest := some "m.toml" } (fun _ => none) none ∧
    outcome {} (onlyVariable thresholdVariable " L1 ") (some { (default : Project.Config) with
        level := .l3
        document := { root := [("typecheck", .table [("leak_threshold", .text "L3")])] } }) =
      outcome {} (onlyVariable thresholdVariable " L1 ") none := by
  refine ⟨(precedence_iff_readable { manifest := some "m.toml" }).1 .manifest rfl (by decide) _ _
      none none (environmentBut_onlyVariable rfl "e.toml") fun _ _ => rfl,
    (precedence_iff_readable {}).2.2 .threshold _ rfl _ _ _ (by decide +kernel) fun j hj => ?_⟩
  cases j with
  | threshold => exact absurd rfl hj
  | manifest => decide +kernel
  | warnUnused => decide +kernel
  | audit => decide +kernel
  | codes => rfl
  | jobs => decide +kernel
  | command => decide +kernel
  | timeout => decide +kernel

/-- **A threshold on the command line does not override one of the environment that names no
level.** -/
theorem not_overrides_unknownLevel :
    ¬ (Key.threshold.setBy { threshold := some "L1" } = true →
      Overrides { threshold := some "L1" } .threshold) := by
  intro hstrict
  have h := hstrict rfl _ _ none none
    (environmentBut_onlyVariable (k := .threshold) rfl "L9") fun _ _ => rfl
  exact absurd (unreadable?_congr h) (by decide +kernel)

end CoreCheck.Settings

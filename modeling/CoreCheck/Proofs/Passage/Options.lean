import CoreCheck.Proofs.Levels.Read
import CoreCheck.Proofs.Passage.Independence
import CoreCheck.Proofs.Walk.Verdict

/-!
# Proofs/Passage/Options — options choose what is reported, and nothing else

What is seen in a body does not depend on options; they only choose which of it become diagnostics.
Each option has a code of its own.  So changing one of them drops or adds diagnostics of that code,
and leaves the others, their order, what is learned about functions and the names of types alone.
-/

namespace CoreCheck

namespace Diagnostic

/-- The level that the data of a diagnostic name. -/
def level? (d : Diagnostic) : Option Level :=
  match d.data.lookup "level" with
  | some (.str label) => (Level.parse label).toOption
  | _ => none

/-- Whether a diagnostic is a leak of data of a level below a threshold. -/
def isLeakBelow (threshold : Level) (d : Diagnostic) : Bool :=
  d.code = .piiLeak && d.level?.any fun level => !decide (threshold ≤ level)

end Diagnostic

namespace Check

open CoreCheck.Scope CoreCheck.Ir

/-! ## Dropping diagnostics -/

/-- **What other options drop**: diagnostics of one code, which is not about names and types.  Each
part of the verdict on some calls, and on a body, is left with those that are kept. -/
structure Drops (sites : CallSite → Prop) (code : Code) (keep : Diagnostic → Bool) (o o' : Options) :
    Prop where
  special : code.isSemantic = false
  other : ∀ {d : Diagnostic}, d.code ≠ code → keep d = true
  denied : ∀ {site}, sites site → ∀ c, Check.denied o' site c = (Check.denied o site c).filter keep
  undeclared : ∀ fn site c, Check.undeclared fn site c = (Check.undeclared fn site c).filter keep
  leaked : ∀ {site}, sites site → Check.leaked o' site = (Check.leaked o site).filter keep
  cleared : ∀ fn span target taint, Check.cleared o' fn span target taint
    = (Check.cleared o fn span target taint).filter keep
  effect : ∀ fn seen, effectVerdict o' fn seen = (effectVerdict o fn seen).filter keep

namespace Drops

variable {sites : CallSite → Prop} {code : Code} {keep : Diagnostic → Bool} {o o' : Options}
  {m : Module}

theorem semantic (h : Drops sites code keep o o') {d : Diagnostic} (hd : d.code.isSemantic = true) :
    keep d = true :=
  h.other fun hc => Bool.noConfusion ((hc ▸ hd).symm.trans h.special)

theorem observation (h : Drops sites code keep o o') (fn : Judged) {obs : Observation}
    (hplain : obs.isPlain = true) (hsites : ∀ site, obs = .call site → sites site) :
    obs.diagnostics o' fn = (obs.diagnostics o fn).filter keep := by
  cases obs with
  | problem d => exact (List.filter_eq_self.2 (List.forall_mem_singleton.2 (h.semantic hplain))).symm
  | call site =>
    rw [Observation.diagnostics, Observation.diagnostics, List.filter_append,
      h.leaked (hsites site rfl)]
    cases site.capability with
    | none => rfl
    | some c =>
      dsimp only
      rw [List.filter_append, h.denied (hsites site rfl), ← h.undeclared]
  | clears span target taint => exact h.cleared fn span target taint
  | suspends span cause => rfl
  | visits keyword about => rfl

theorem body (h : Drops sites code keep o o') {b : Body} (hb : b ∈ (survey m).bodies)
    (hsites : ∀ site, .call site ∈ b.log → sites site) :
    b.diagnostics o' = (b.diagnostics o).filter keep := by
  rw [Body.diagnostics, Body.diagnostics, bodyDiagnostics, bodyDiagnostics, List.filter_append,
    List.filter_flatMap, h.effect]
  refine congrArg (· ++ _) (List.flatMap_congr fun obs hobs => ?_)
  exact h.observation _ ((grows_body hb).2 obs hobs) fun site he => hsites site (he ▸ hobs)

/-- **A whole check** under the other options is the check with the same diagnostics dropped. -/
theorem check (h : Drops sites code keep o o')
    (hsites : ∀ b ∈ (survey m).bodies, ∀ site, .call site ∈ b.log → sites site) :
    (checkModule o' m).diagnostics = (checkModule o m).diagnostics.filter keep := by
  rw [checkModule, checkModule, diagnostics_checkReporting, diagnostics_checkReporting,
    List.filter_flatMap]
  refine List.flatMap_congr fun e he => ?_
  rw [List.filter_append]
  have hproblems : ((survey m).problemsOf e.1.2).filter keep = (survey m).problemsOf e.1.2 :=
    List.filter_eq_self.2 fun d hd =>
      h.semantic (Code.isSemantic_of_isLocal (isLocal_of_mem_problemsOf hd))
  have hbody : (Passage.surveyed m e).toList.flatMap (Body.diagnostics o')
      = ((Passage.surveyed m e).toList.flatMap (Body.diagnostics o)).filter keep := by
    rw [List.filter_flatMap]
    refine List.flatMap_congr fun b hb => ?_
    have hmem : b ∈ (survey m).bodies := by
      rw [Passage.bodies_survey]
      exact List.mem_filterMap.2 ⟨e, he, Option.mem_toList.1 hb⟩
    exact h.body hmem (hsites b hmem)
  rw [hproblems, hbody]

end Drops

/-! ## One option at a time -/

section Kept

variable {code : Code} {keep : Diagnostic → Bool} {ds : List Diagnostic}
  (hkeep : ∀ {d : Diagnostic}, d.code ≠ code → keep d = true)

include hkeep

/-- Diagnostics of another code are kept. -/
theorem kept_of_code (other : Code) (h : ∀ d ∈ ds, d.code = other) (hne : other ≠ code) :
    ds = ds.filter keep :=
  (List.filter_eq_self.2 fun d hd => hkeep ((h d hd).trans_ne hne)).symm

theorem kept_denied (hne : .capabilityDenied ≠ code) (o : Options) (site : CallSite)
    (c : Capability) : denied o site c = (denied o site c).filter keep :=
  kept_of_code hkeep _ (fun _ => code_of_mem_denied) hne

theorem kept_undeclared (hne : .capabilityUndeclared ≠ code) (fn : Judged) (site : CallSite)
    (c : Capability) : undeclared fn site c = (undeclared fn site c).filter keep :=
  kept_of_code hkeep _ (fun _ => code_of_mem_undeclared) hne

theorem kept_leaked (hne : .piiLeak ≠ code) (o : Options) (site : CallSite) :
    leaked o site = (leaked o site).filter keep :=
  kept_of_code hkeep _ (fun _ => code_of_mem_leaked) hne

theorem kept_cleared (hne : .piiDeclassified ≠ code) (o : Options) (fn : Judged) (span : Span)
    (target : String) (taint : Option Taint) :
    cleared o fn span target taint = (cleared o fn span target taint).filter keep :=
  kept_of_code hkeep _ (fun _ => code_of_mem_cleared) hne

theorem kept_effect (hne : .effectEscalation ≠ code) (hne' : .effectUnused ≠ code) (o : Options)
    (fn : Judged) (seen : Running) :
    effectVerdict o fn seen = (effectVerdict o fn seen).filter keep := by
  refine (List.filter_eq_self.2 fun d hd => hkeep ?_).symm
  obtain hc | hc := code_of_mem_effectVerdict hd
  · exact hc.trans_ne hne
  · exact hc.trans_ne hne'

end Kept

/-- Diagnostics of the code itself are dropped. -/
theorem dropped_of_code {code : Code} {ds : List Diagnostic} (h : ∀ d ∈ ds, d.code = code) :
    [] = ds.filter (·.code ≠ code) :=
  (List.filter_eq_nil_iff.2 fun d hd => by simpa using h d hd).symm

section Each

variable (o : Options)

/-- A manifest that allows everything. -/
def allowing : Manifest := { allowed := .ofList Capability.all }

theorem usable_allowing (c : Capability) : Manifest.usable (some allowing) c = true := by
  cases c <;> rfl

/-- **The manifest** only has a say in what is denied. -/
theorem drops_manifest : Drops (fun _ => True) .capabilityDenied (·.code ≠ .capabilityDenied) o
    { o with manifest := some allowing } where
  special := by decide
  other := decide_eq_true
  denied site c := (if_pos (usable_allowing c)).trans (dropped_of_code fun _ => code_of_mem_denied)
  undeclared := kept_undeclared decide_eq_true (by decide)
  leaked _ := kept_leaked decide_eq_true (by decide) o _
  cleared := kept_cleared decide_eq_true (by decide) o
  effect := kept_effect decide_eq_true (by decide) (by decide) o

/-- **Asking for unused effects** only has a say in them. -/
theorem drops_unused : Drops (fun _ => True) .effectUnused (·.code ≠ .effectUnused)
    { o with warnUnused := true } { o with warnUnused := false } where
  special := by decide
  other := decide_eq_true
  denied _ := kept_denied decide_eq_true (by decide) o _
  undeclared := kept_undeclared decide_eq_true (by decide)
  leaked _ := kept_leaked decide_eq_true (by decide) o _
  cleared := kept_cleared decide_eq_true (by decide) o
  effect fn seen := by
    unfold effectVerdict
    dsimp only
    split
    · refine kept_of_code decide_eq_true .effectEscalation (fun d hd => ?_) (by decide)
      obtain rfl := List.mem_singleton.1 hd
      split <;> rfl
    · rw [if_neg (by simp)]
      split
      · rfl
      · rfl

/-- **Auditing** only has a say in removals of taint. -/
theorem drops_audit : Drops (fun _ => True) .piiDeclassified (·.code ≠ .piiDeclassified)
    { o with audit := true } { o with audit := false } where
  special := by decide
  other := decide_eq_true
  denied _ := kept_denied decide_eq_true (by decide) o _
  undeclared := kept_undeclared decide_eq_true (by decide)
  leaked _ := kept_leaked decide_eq_true (by decide) o _
  cleared _ _ _ _ := dropped_of_code fun _ => code_of_mem_cleared
  effect := kept_effect decide_eq_true (by decide) (by decide) o

/-- A level that has a name is read back from it. -/
theorem parse_label {l : Level} (hl : l.Named) :
    (Level.parse l.label).toOption = some l := by
  obtain rfl | rfl | rfl := hl
  · decide +kernel
  · decide +kernel
  · decide +kernel

/-- **A leak names the level of what leaks**, if the level has a name. -/
theorem level?_of_mem_leaked {site : CallSite} {d : Diagnostic} (hd : d ∈ leaked o site)
    (hlevel : (Taint.levelOf site.taint).Named) : d.level? = some (Taint.levelOf site.taint) := by
  unfold leaked at hd
  dsimp only at hd
  split at hd
  · obtain rfl := List.mem_singleton.1 hd
    rw [Diagnostic.level?]
    simp only [Diagnostic.withText, Diagnostic.withData, Diagnostic.withHelp, Diagnostic.error]
    simp [parse_label hlevel]
  · cases hd

theorem reaches_of_mem_leaked {site : CallSite} {d : Diagnostic} (hd : d ∈ leaked o site) :
    (Taint.levelOf site.taint).reaches o.leakLevel = true := by
  unfold leaked at hd
  dsimp only at hd
  split at hd
  · next h => exact (Bool.and_eq_true_iff.1 h).2
  · cases hd

/-- **A higher threshold** drops the leaks below it, where levels have names. -/
theorem drops_threshold {threshold : Level}
    (hle : o.leakLevel ≤ { o with threshold }.leakLevel) :
    Drops (fun site => Taint.levelOf site.taint = .none ∨ (Taint.levelOf site.taint).Named)
      .piiLeak (!·.isLeakBelow { o with threshold }.leakLevel) o { o with threshold } := by
  have hother : ∀ {d : Diagnostic}, d.code ≠ .piiLeak →
      (!d.isLeakBelow { o with threshold }.leakLevel) = true := by
    intro d hd
    simp [Diagnostic.isLeakBelow, hd]
  refine ⟨by decide, hother, fun _ => kept_denied hother (by decide) o _,
    kept_undeclared hother (by decide), fun {site} hsite => ?_,
    kept_cleared hother (by decide) o, kept_effect hother (by decide) (by decide) o⟩
  -- a leak is below the higher threshold exactly when its level does not reach that
  have hbelow : ∀ d ∈ leaked o site, d.isLeakBelow { o with threshold }.leakLevel
      = !(Taint.levelOf site.taint).reaches { o with threshold }.leakLevel := by
    intro d hd
    obtain ⟨hne, -⟩ := Bool.and_eq_true_iff.1 (reaches_of_mem_leaked o hd)
    have hnone : Taint.levelOf site.taint ≠ .none := of_decide_eq_true hne
    rw [Diagnostic.isLeakBelow, code_of_mem_leaked hd,
      level?_of_mem_leaked o hd (hsite.resolve_left hnone), Level.reaches]
    simp [hnone]
  cases hreach : (Taint.levelOf site.taint).reaches { o with threshold }.leakLevel with
  | true =>
    have hlow : (Taint.levelOf site.taint).reaches o.leakLevel = true := by
      obtain ⟨hne, hhigh⟩ := Bool.and_eq_true_iff.1 hreach
      exact Bool.and_eq_true_iff.2 ⟨hne, decide_eq_true (Nat.le_trans hle (of_decide_eq_true hhigh))⟩
    have hsame : leaked { o with threshold } site = leaked o site := by
      rw [leaked, leaked, hreach, hlow]
    rw [hsame]
    refine (List.filter_eq_self.2 fun d hd => ?_).symm
    rw [hbelow d hd, hreach]
    rfl
  | false =>
    have hno : leaked { o with threshold } site = [] := by
      rw [leaked, hreach, Bool.and_false]
      rfl
    rw [hno]
    refine (List.filter_eq_nil_iff.2 fun d hd => ?_).symm
    rw [hbelow d hd, hreach]
    decide

end Each

/-- **Options are independent of each other.**  In every module that was read from a document: the
manifest only has a say in which capabilities are denied; a higher threshold drops just the leaks of
levels below it; without a warning about unused effects, or without an audit, just those diagnostics
are missing.  What is learned about functions and what the names of types stand for never depends on
options. -/
theorem options_orthogonal {source : String} {v : Document.Value} {m : Module}
    (hm : Module.ofDocument source v = .ok m) (o : Options) :
    (∀ manifest, (checkModule { o with manifest } m).diagnostics.filter (·.code ≠ .capabilityDenied)
      = (checkModule o m).diagnostics.filter (·.code ≠ .capabilityDenied)) ∧
    (∀ threshold, o.leakLevel ≤ { o with threshold }.leakLevel →
      (checkModule { o with threshold } m).diagnostics = (checkModule o m).diagnostics.filter
        (!·.isLeakBelow { o with threshold }.leakLevel)) ∧
    (checkModule { o with warnUnused := false } m).diagnostics
      = (checkModule { o with warnUnused := true } m).diagnostics.filter
        (·.code ≠ .effectUnused) ∧
    (checkModule { o with audit := false } m).diagnostics
      = (checkModule { o with audit := true } m).diagnostics.filter (·.code ≠ .piiDeclassified) ∧
    ∀ o', (checkModule o' m).functions = (checkModule o m).functions ∧
      (checkModule o' m).labels = (checkModule o m).labels := by
  refine ⟨fun manifest => ?_, fun threshold hle => ?_, ?_, ?_, fun o' => ⟨?_, ?_⟩⟩
  · -- both are the diagnostics under a manifest that allows everything
    exact ((drops_manifest { o with manifest }).check fun _ _ _ _ => trivial).symm.trans
      ((drops_manifest o).check fun _ _ _ _ => trivial)
  · refine (drops_threshold o hle).check fun b hb site hsite => ?_
    exact (level_of_call hb hsite).imp_right (namesLevels_of_ofDocument hm _)
  · exact (drops_unused o).check fun _ _ _ _ => trivial
  · exact (drops_audit o).check fun _ _ _ _ => trivial
  · exact (functions_checkReporting _ _ o' m).trans (functions_checkReporting _ _ o m).symm
  · exact (labels_checkReporting _ _ o' m).trans (labels_checkReporting _ _ o m).symm

/-- A function that writes sensitive data to a log. -/
def writesMail : Module :=
  moduleOf [.func <| funcOf "f" [("x", .pii {} (.name {} "Text") .l1 "mail")] none .io
    [.eval {} (.call {} "Log.write" [.name {} "x"] none none)]]

/-- The document of that module. -/
def mailDocument : Document.Value :=
  .object [("version", .number (.integer 1)), ("name", .text "m"), ("decls", .array [.object [
    ("kind", .text "func"), ("name", .text "f"), ("effect", .text "io"),
    ("params", .array [.object [("name", .text "x"), ("type", .object [
      ("kind", .text "pii"), ("type", .text "Text"), ("level", .text "L1"),
      ("category", .text "mail")])]]),
    ("body", .array [.object [("kind", .text "expr"), ("expr", .object [
      ("kind", .text "call"), ("target", .text "Log.write"),
      ("args", .array [.object [("kind", .text "name"), ("name", .text "x")]])])]])]])]

/-- **Data of the lowest level leaks below the usual threshold only.** -/
theorem options_orthogonal_writesMail :
    Module.ofDocument "" mailDocument = .ok writesMail ∧
      (checkModule { threshold := .l1 } writesMail).diagnostics.map (·.code) = [.piiLeak] ∧
      (checkModule {} writesMail).diagnostics = (checkModule { threshold := .l1 }
        writesMail).diagnostics.filter (!·.isLeakBelow .l2) := by
  have hread : Module.ofDocument "" mailDocument = .ok writesMail := rfl
  exact ⟨hread, by decide +kernel,
    (options_orthogonal hread { threshold := .l1 }).2.1 .l2 (by decide)⟩

end Check

end CoreCheck

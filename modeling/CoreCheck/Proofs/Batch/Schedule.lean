import CoreCheck.Check.Batch
import CoreCheck.Proofs.Passage.Order
import Mathlib.Algebra.Ring.Nat
import Mathlib.Logic.Relation

/-!
# Proofs/Batch/Schedule — a batch in any order

    waiting ──submit──▸ submitted ──begin──▸ running ──finish──▸ done
                            └───────refuse──▸ refused

The modules of a batch are checked by tasks that share a number of places.  Tasks take their places,
begin and finish in any order, and the context of the call may be cancelled between any two steps; a
task that begins afterwards is refused.  When all tasks are over, a batch with a refused task fails,
and any other reports what its tasks wrote down, in the order of the modules.

`Batch.Step` is one step, and `Batch.Inv` what every step keeps.  So whatever the order, a batch ends
as if its modules had been checked one after the other (`batch_in_any_order`).
-/

namespace CoreCheck.Check

open CoreCheck.Ir

/-! ## The result of a check does not depend on who is told -/

/-- **A module is checked alike, whoever is told of its diagnostics.** -/
theorem result_checkReporting {σ : Type} (r : Reporter σ) (told : σ) (o : Options) (m : Module) :
    (checkReporting r told o m).1 = checkModule o m := by
  have hstate : (Passage.complete r o m told).state
      = (Passage.complete (fun _ _ => ()) o m ()).state :=
    (Passage.state_upTo _ (Nat.le_refl _)).trans (Passage.state_upTo _ (Nat.le_refl _)).symm
  have hbag : (Passage.complete r o m told).bag
      = (Passage.complete (fun _ _ => ()) o m ()).bag :=
    (Passage.bag_upTo _).trans (Passage.bag_upTo _).symm
  have hbodies : (Passage.complete r o m told).bodies
      = (Passage.complete (fun _ _ => ()) o m ()).bodies :=
    (Passage.visited_complete m r o told).bodies.trans
      (Passage.visited_complete m (fun _ _ => ()) o ()).bodies.symm
  change (Passage.complete r o m told).result m = (Passage.complete (fun _ _ => ()) o m ()).result m
  rw [Passage.result, Passage.result, hstate, hbag, hbodies]

/-! ## Steps -/

/-- **How far the task of a module has come.** -/
inductive Phase where
  /-- It has no place yet. -/
  | waiting
  /-- It has a place, and has not looked at the context. -/
  | submitted
  /-- It found the context alive, and checks its module. -/
  | running
  /-- It has written its result. -/
  | done
  /-- It found the context cancelled, and answered an error. -/
  | refused
deriving DecidableEq

/-- Whether a task has a place. -/
def Phase.isActive : Phase → Bool
  | .submitted | .running => true
  | _ => false

/-- Whether a task has answered. -/
def Phase.isOver : Phase → Bool
  | .done | .refused => true
  | _ => false

/-- The steps that a task has to go. -/
def Phase.left : Phase → Nat
  | .waiting => 3
  | .submitted => 2
  | .running => 1
  | .done | .refused => 0

/-- **Where a call stands.** -/
inductive Stage where
  /-- Tasks are under way. -/
  | working
  /-- The tasks are over, and some diagnostics are still to be reported. -/
  | reporting (rest : List Diagnostic)
  | failed
  | returned (results : List Result)

/-- Whether the call has ended. -/
def Stage.isOver : Stage → Bool
  | .failed | .returned _ => true
  | _ => false

/-- **A batch under way**: for every module its task and the place for its result, whether the
context of the call was cancelled, and what the reporter has made of diagnostics so far. -/
structure Batch (σ : Type) where
  phases : List Phase
  slots : List Result
  cancelled : Bool
  told : σ
  stage : Stage := .working

namespace Batch

variable {σ : Type}

/-- A batch of which no task has a place. -/
def start (ms : List (Option Module)) (cancelled : Bool) (told : σ) : Batch σ :=
  { phases := ms.map fun _ => .waiting, slots := ms.map fun _ => {}, cancelled, told }

/-- How many tasks have places. -/
def active (b : Batch σ) : Nat := b.phases.countP (·.isActive)

/-- Whether there is a place for one more task; without a positive number of places there always
is. -/
def HasRoom (jobs : Int) (b : Batch σ) : Prop := 0 < jobs → (b.active : Int) < jobs

/-- Whether a task that begins finds the context cancelled: by the caller, or because another task
was refused. -/
def IsExpired (b : Batch σ) : Prop := b.cancelled = true ∨ .refused ∈ b.phases

instance (jobs : Int) (b : Batch σ) : Decidable (b.HasRoom jobs) :=
  inferInstanceAs (Decidable (0 < jobs → (b.active : Int) < jobs))

instance (b : Batch σ) : Decidable b.IsExpired :=
  inferInstanceAs (Decidable (b.cancelled = true ∨ .refused ∈ b.phases))

/-- A task goes on. -/
def advance (b : Batch σ) (i : Nat) (p : Phase) : Batch σ := { b with phases := b.phases.set i p }

/-- A task writes the result of its module. -/
def write (b : Batch σ) (i : Nat) (result : Result) : Batch σ :=
  { b with slots := b.slots.set i result }

/-- **One step of a batch.** -/
inductive Step (o : Options) (ms : List (Option Module)) (jobs : Int) (r : Reporter σ) :
    Batch σ → Batch σ → Prop
  | cancel {b : Batch σ} : b.cancelled = false → Step o ms jobs r b { b with cancelled := true }
  | submit {b : Batch σ} {i : Nat} : b.stage = .working → b.phases[i]? = some .waiting →
      b.HasRoom jobs → Step o ms jobs r b (b.advance i .submitted)
  | begin {b : Batch σ} {i : Nat} : b.stage = .working → b.phases[i]? = some .submitted →
      ¬b.IsExpired → Step o ms jobs r b (b.advance i .running)
  | refuse {b : Batch σ} {i : Nat} : b.stage = .working → b.phases[i]? = some .submitted →
      b.IsExpired → Step o ms jobs r b (b.advance i .refused)
  | finish {b : Batch σ} {i : Nat} {m : Option Module} : b.stage = .working →
      b.phases[i]? = some .running → ms[i]? = some m →
      Step o ms jobs r b ((b.write i (checkModule? o m)).advance i .done)
  | fail {b : Batch σ} : b.stage = .working → (∀ p ∈ b.phases, p.isOver = true) →
      .refused ∈ b.phases → Step o ms jobs r b { b with stage := .failed }
  | collect {b : Batch σ} : b.stage = .working → (∀ p ∈ b.phases, p.isOver = true) →
      .refused ∉ b.phases → Step o ms jobs r b { b with stage := .reporting (allDiagnostics b.slots) }
  | report {b : Batch σ} {d : Diagnostic} {rest : List Diagnostic} :
      b.stage = .reporting (d :: rest) →
      Step o ms jobs r b { b with told := r b.told d, stage := .reporting rest }
  | deliver {b : Batch σ} : b.stage = .reporting [] →
      Step o ms jobs r b { b with stage := .returned b.slots }

/-- A run of a batch, from any state of it to any later one. -/
abbrev Run (o : Options) (ms : List (Option Module)) (jobs : Int) (r : Reporter σ) :
    Batch σ → Batch σ → Prop := Relation.ReflTransGen (Step o ms jobs r)

/-! ## The invariant -/

/-- What the stage of a batch says of what was told and of the results. -/
def Tells (o : Options) (ms : List (Option Module)) (r : Reporter σ) (told : σ) (b : Batch σ) :
    Stage → Prop
  | .working => b.told = told
  | .reporting rest => (∀ p ∈ b.phases, p = .done) ∧ b.slots = checkModules o ms ∧
      ∃ sent, sent ++ rest = allDiagnostics (checkModules o ms) ∧ b.told = sent.foldl r told
  | .failed => b.told = told ∧ .refused ∈ b.phases
  | .returned results => (∀ p ∈ b.phases, p = .done) ∧ results = checkModules o ms ∧
      b.told = (allDiagnostics (checkModules o ms)).foldl r told

/-- **What every step keeps**, from a context that was cancelled or not, and a reporter that was told
nothing. -/
structure Inv (o : Options) (ms : List (Option Module)) (jobs : Int) (r : Reporter σ)
    (cancelled : Bool) (told : σ) (b : Batch σ) : Prop where
  tasks : b.phases.length = ms.length
  places : b.slots.length = ms.length
  written : ∀ (i : Nat) (m : Option Module), b.phases[i]? = some .done → ms[i]? = some m →
    b.slots[i]? = some (checkModule? o m)
  refused : .refused ∈ b.phases → b.cancelled = true
  limit : 0 < jobs → (b.active : Int) ≤ jobs
  late : cancelled = true → b.cancelled = true ∧ ∀ p ∈ b.phases, p ≠ .running ∧ p ≠ .done
  tells : b.Tells o ms r told b.stage

section Invariant

variable {o : Options} {ms : List (Option Module)} {jobs : Int} {r : Reporter σ}
  {cancelled : Bool} {told : σ} {b b' : Batch σ}

theorem inv_start : Inv o ms jobs r cancelled told (start ms cancelled told) where
  tasks := List.length_map _
  places := List.length_map _
  written i m hp := by
    have hwait := List.mem_of_getElem? hp
    simp [start] at hwait
  refused h := by simp [start] at h
  limit h := by
    have hnone : (start ms cancelled told).active = 0 := by simp [active, start, Phase.isActive]
    rw [hnone]
    exact Int.le_of_lt h
  late h := ⟨h, by simp [start]⟩
  tells := rfl

/-- How many tasks have places when one goes on. -/
theorem active_advance {i : Nat} {p : Phase} (hp : b.phases[i]? = some p) (q : Phase) :
    (b.advance i q).active + p.isActive.toNat = b.active + q.isActive.toNat := by
  obtain ⟨hi, rfl⟩ := List.getElem?_eq_some_iff.1 hp
  have hpos : b.phases[i].isActive = true → 0 < b.phases.countP (·.isActive) := fun h =>
    List.countP_pos_iff.2 ⟨_, List.getElem_mem hi, h⟩
  rw [active, active, advance, List.countP_set hi]
  cases hact : b.phases[i].isActive with
  | false => cases q.isActive <;> rfl
  | true =>
    have := hpos hact
    cases q.isActive <;> simp only [if_true, Bool.false_eq_true, if_false, Bool.toNat_true,
      Bool.toNat_false] <;> omega

/-- What another task has come to does not change when one goes on. -/
theorem phase_advance {i j : Nat} {p q : Phase} (h : (b.advance i q).phases[j]? = some p)
    (hne : p ≠ q) : b.phases[j]? = some p := by
  rw [advance, List.getElem?_set] at h
  split at h
  · split at h
    · exact absurd (Option.some.inj h).symm hne
    · exact nomatch h
  · exact h

theorem mem_advance {i : Nat} {p q : Phase} (h : p ∈ (b.advance i q).phases) :
    p ∈ b.phases ∨ p = q := by
  obtain h | h := List.mem_or_eq_of_mem_set h
  · exact .inl h
  · exact .inr h

/-- While the tasks work, nothing is told. -/
theorem tells_of_working {b' : Batch σ} (h : b.Tells o ms r told b.stage)
    (hstage : b.stage = .working) (hstage' : b'.stage = b.stage) (htold : b'.told = b.told) :
    b'.Tells o ms r told b'.stage := by
  rw [hstage] at h
  rw [hstage', hstage]
  exact htold.trans h

/-- **A task goes on** while its result is not touched. -/
theorem Inv.advance (h : Inv o ms jobs r cancelled told b) (hstage : b.stage = .working) {i : Nat}
    {q : Phase} (hdone : q ≠ .done)
    (hrefused : q = .refused → b.cancelled = true)
    (hlimit : 0 < jobs → ((b.advance i q).active : Int) ≤ jobs)
    (hlate : q = .running → b.cancelled = false) :
    Inv o ms jobs r cancelled told (b.advance i q) where
  tasks := List.length_set.trans h.tasks
  places := h.places
  written j m hj := h.written j m (phase_advance hj hdone.symm)
  refused hmem := (mem_advance hmem).elim h.refused fun hq => hrefused hq.symm
  limit := hlimit
  late hc := by
    obtain ⟨hcancelled, hphases⟩ := h.late hc
    refine ⟨hcancelled, fun x hx => ?_⟩
    obtain hx | rfl := mem_advance hx
    · exact hphases x hx
    · refine ⟨fun hrun => ?_, hdone⟩
      exact absurd (hcancelled.symm.trans (hlate hrun)) Bool.noConfusion
  tells := tells_of_working h.tells hstage rfl rfl

/-- **A task writes its own result** and is done. -/
theorem Inv.finish (h : Inv o ms jobs r cancelled told b) (hstage : b.stage = .working) {i : Nat}
    {m : Option Module} (hp : b.phases[i]? = some .running) (hm : ms[i]? = some m) :
    Inv o ms jobs r cancelled told ((b.write i (checkModule? o m)).advance i .done) where
  tasks := List.length_set.trans h.tasks
  places := List.length_set.trans h.places
  written j m' hj hm' := by
    change (b.slots.set i (checkModule? o m))[j]? = _
    by_cases hij : i = j
    · subst hij
      obtain rfl := Option.some.inj (hm.symm.trans hm')
      have hi : i < b.slots.length := h.places ▸ (List.getElem?_eq_some_iff.1 hm).1
      rw [List.getElem?_set_self hi]
    · rw [List.getElem?_set_ne hij]
      refine h.written j m' ?_ hm'
      rwa [Batch.advance, List.getElem?_set_ne hij] at hj
  refused hmem := (mem_advance hmem).elim h.refused fun hq => nomatch hq
  limit hjobs := by
    have hact := active_advance hp .done
    have hle := h.limit hjobs
    change ((b.advance i .done).active : Int) ≤ jobs
    simp only [Phase.isActive, Bool.toNat_true, Bool.toNat_false] at hact
    omega
  late hc := by
    obtain ⟨-, hphases⟩ := h.late hc
    exact absurd rfl (hphases _ (List.mem_of_getElem? hp)).1
  tells := tells_of_working h.tells hstage rfl rfl

/-- **When all tasks are done, every place holds the result of its own module.** -/
theorem Inv.slots_eq (h : Inv o ms jobs r cancelled told b) (hdone : ∀ p ∈ b.phases, p = .done) :
    b.slots = checkModules o ms := by
  refine List.ext_getElem? fun i => ?_
  rw [checkModules, List.getElem?_map]
  cases hm : ms[i]? with
  | none =>
    rw [Option.map_none, List.getElem?_eq_none]
    exact h.places ▸ List.getElem?_eq_none_iff.1 hm
  | some m =>
    have hi : i < b.phases.length := h.tasks ▸ (List.getElem?_eq_some_iff.1 hm).1
    refine h.written i m ?_ hm
    rw [List.getElem?_eq_getElem hi, hdone _ (List.getElem_mem hi)]

/-- Only the stage changes, and what was told. -/
theorem Inv.turn (h : Inv o ms jobs r cancelled told b) {told' : σ} {stage : Stage}
    (htells : ({ b with told := told', stage } : Batch σ).Tells o ms r told stage) :
    Inv o ms jobs r cancelled told { b with told := told', stage } :=
  ⟨h.tasks, h.places, h.written, h.refused, h.limit, h.late, htells⟩

/-- **Every step keeps the invariant.** -/
theorem Inv.step (h : Inv o ms jobs r cancelled told b) (hstep : Step o ms jobs r b b') :
    Inv o ms jobs r cancelled told b' := by
  have htells := h.tells
  cases hstep with
  | cancel hc =>
    refine ⟨h.tasks, h.places, h.written, fun _ => rfl, h.limit, fun hcan => ⟨rfl, (h.late hcan).2⟩, ?_⟩
    change Tells o ms r told _ b.stage
    generalize b.stage = stage at htells ⊢
    cases stage <;> exact htells
  | submit hstage hp hroom =>
    refine h.advance hstage (by decide) (fun hq => nomatch hq) (fun hjobs => ?_)
      fun hq => nomatch hq
    have hact := active_advance hp .submitted
    have hlt := hroom hjobs
    simp only [Phase.isActive, Bool.toNat_true, Bool.toNat_false] at hact
    omega
  | begin hstage hp hlive =>
    refine h.advance hstage (by decide) (fun hq => nomatch hq) (fun hjobs => ?_)
      fun _ => Bool.eq_false_iff.2 fun hc => hlive (.inl hc)
    have hact := active_advance hp .running
    have hle := h.limit hjobs
    simp only [Phase.isActive, Bool.toNat_true] at hact
    omega
  | refuse hstage hp hexpired =>
    refine h.advance hstage (by decide) (fun _ => hexpired.elim id h.refused) (fun hjobs => ?_)
      fun hq => nomatch hq
    have hact := active_advance hp .refused
    have hle := h.limit hjobs
    simp only [Phase.isActive, Bool.toNat_true, Bool.toNat_false] at hact
    omega
  | finish hstage hp hm => exact h.finish hstage hp hm
  | fail hstage _ hmem =>
    rw [hstage] at htells
    exact h.turn ⟨htells, hmem⟩
  | collect hstage hover hnone =>
    rw [hstage] at htells
    have hdone : ∀ p ∈ b.phases, p = .done := by
      intro p hp
      have hpover := hover p hp
      cases p with
      | done => rfl
      | refused => exact absurd hp hnone
      | _ => exact nomatch hpover
    have hslots := h.slots_eq hdone
    exact h.turn ⟨hdone, hslots, [], by rw [hslots]; rfl, htells⟩
  | report hstage =>
    rw [hstage] at htells
    obtain ⟨hdone, hslots, sent, hsent, htold⟩ := htells
    refine h.turn ⟨hdone, hslots, sent ++ [_], by rw [List.append_assoc]; exact hsent, ?_⟩
    rw [List.foldl_append, ← htold]
    rfl
  | deliver hstage =>
    rw [hstage] at htells
    obtain ⟨hdone, hslots, sent, hsent, htold⟩ := htells
    rw [List.append_nil] at hsent
    exact h.turn ⟨hdone, hslots, hsent ▸ htold⟩

/-- **Every run keeps the invariant.** -/
theorem inv_run (h : Run o ms jobs r (start ms cancelled told) b) :
    Inv o ms jobs r cancelled told b := by
  induction h with
  | refl => exact inv_start
  | tail _ hstep ih => exact ih.step hstep

end Invariant

/-! ## Every run ends -/

section Progress

variable {o : Options} {ms : List (Option Module)} {jobs : Int} {r : Reporter σ}
  {cancelled : Bool} {told : σ} {b b' : Batch σ}

/-- The steps that all tasks have to go. -/
def left (b : Batch σ) : Nat := (b.phases.map Phase.left).sum

theorem left_advance {i : Nat} {p : Phase} (hp : b.phases[i]? = some p) (q : Phase) :
    (b.advance i q).left + p.left = b.left + q.left := by
  change ((b.phases.set i q).map Phase.left).sum + _ = (b.phases.map Phase.left).sum + _
  generalize b.phases = l at hp ⊢
  induction l generalizing i with
  | nil => exact nomatch hp
  | cons x l ih =>
    cases i with
    | zero =>
      obtain rfl := Option.some.inj hp
      simp only [List.set_cons_zero, List.map_cons, List.sum_cons]
      omega
    | succ i =>
      have hrest := ih hp
      simp only [List.set_cons_succ, List.map_cons, List.sum_cons]
      omega

/-- The steps that a batch can go at most, when this many diagnostics have to be reported. -/
def ahead (total : Nat) (b : Batch σ) : Nat :=
  (!b.cancelled).toNat + match b.stage with
    | .working => b.left + total + 2
    | .reporting rest => rest.length + 1
    | .failed | .returned _ => 0

theorem ahead_working (hw : b.stage = .working) (total : Nat) :
    b.ahead total = (!b.cancelled).toNat + (b.left + total + 2) := by rw [ahead, hw]

/-- **Every step brings a batch nearer to its end.** -/
theorem Inv.ahead_lt (h : Inv o ms jobs r cancelled told b) (hstep : Step o ms jobs r b b') :
    b'.ahead (allDiagnostics (checkModules o ms)).length
      < b.ahead (allDiagnostics (checkModules o ms)).length := by
  generalize htotal : (allDiagnostics (checkModules o ms)).length = total
  -- a task that goes on has fewer steps left, wherever results are written
  have hgo : ∀ {slots : List Result} {i : Nat} {p q : Phase}, b.stage = .working →
      b.phases[i]? = some p → q.left < p.left →
      (({ b with slots } : Batch σ).advance i q).ahead total < b.ahead total := by
    intro slots i p q hw hp hlt
    have hleft : (({ b with slots } : Batch σ).advance i q).left + p.left = b.left + q.left :=
      left_advance (b := { b with slots }) hp q
    have hstill : (({ b with slots } : Batch σ).advance i q).ahead total
        = (!b.cancelled).toNat + ((({ b with slots } : Batch σ).advance i q).left + total + 2) :=
      ahead_working (b := ({ b with slots } : Batch σ).advance i q) hw total
    rw [hstill, ahead_working hw]
    omega
  cases hstep with
  | cancel hc =>
    rw [ahead, ahead, hc]
    exact Nat.add_lt_add_right Nat.zero_lt_one _
  | submit hw hp _ => exact hgo hw hp (by decide)
  | begin hw hp _ => exact hgo hw hp (by decide)
  | refuse hw hp _ => exact hgo hw hp (by decide)
  | finish hw hp _ => exact hgo hw hp (by decide)
  | fail hw _ _ =>
    rw [ahead, ahead_working hw]
    exact Nat.add_lt_add_left (Nat.succ_pos _) _
  | collect hw hover hnone =>
    have hinv := h.step (.collect hw hover hnone)
    have hslots : b.slots = checkModules o ms := hinv.tells.2.1
    rw [ahead, ahead_working hw, hslots]
    dsimp only
    omega
  | report hw =>
    rw [ahead, ahead, hw]
    exact Nat.add_lt_add_left (Nat.lt_succ_self _) _
  | deliver hw =>
    rw [ahead, ahead, hw]
    exact Nat.add_lt_add_left (Nat.succ_pos _) _

/-- **A batch that has not ended can go on**, without anybody cancelling it. -/
theorem Inv.progress (h : Inv o ms jobs r cancelled told b) (hover : b.stage.isOver = false) :
    ∃ b', Step o ms jobs r b b' ∧ b'.cancelled = b.cancelled := by
  cases hs : b.stage with
  | failed => rw [hs] at hover; exact nomatch hover
  | returned results => rw [hs] at hover; exact nomatch hover
  | reporting rest =>
    cases rest with
    | nil => exact ⟨_, .deliver hs, rfl⟩
    | cons d rest => exact ⟨_, .report hs, rfl⟩
  | working =>
    by_cases hrun : .running ∈ b.phases
    · obtain ⟨i, hi⟩ := List.mem_iff_getElem?.1 hrun
      have hlt : i < ms.length := h.tasks ▸ (List.getElem?_eq_some_iff.1 hi).1
      exact ⟨_, .finish hs hi (List.getElem?_eq_getElem hlt), rfl⟩
    by_cases hsub : .submitted ∈ b.phases
    · obtain ⟨i, hi⟩ := List.mem_iff_getElem?.1 hsub
      by_cases hexpired : b.IsExpired
      · exact ⟨_, .refuse hs hi hexpired, rfl⟩
      · exact ⟨_, .begin hs hi hexpired, rfl⟩
    by_cases hwait : .waiting ∈ b.phases
    · obtain ⟨i, hi⟩ := List.mem_iff_getElem?.1 hwait
      refine ⟨_, .submit hs hi fun hjobs => ?_, rfl⟩
      -- no task has a place, so there is one
      have hnone : b.active = 0 := by
        refine List.countP_eq_zero.2 fun p hp hact => ?_
        cases p with
        | submitted => exact hsub hp
        | running => exact hrun hp
        | _ => exact nomatch hact
      rw [hnone]
      exact hjobs
    · have hall : ∀ p ∈ b.phases, p.isOver = true := by
        intro p hp
        cases p with
        | done | refused => rfl
        | waiting => exact absurd hp hwait
        | submitted => exact absurd hp hsub
        | running => exact absurd hp hrun
      by_cases hmem : .refused ∈ b.phases
      · exact ⟨_, .fail hs hall hmem, rfl⟩
      · exact ⟨_, .collect hs hall hmem, rfl⟩

/-- **Every batch can be brought to its end.** -/
theorem Inv.ends (h : Inv o ms jobs r cancelled told b) :
    ∃ b', Run o ms jobs r b b' ∧ b'.stage.isOver = true ∧ b'.cancelled = b.cancelled := by
  induction hn : b.ahead (allDiagnostics (checkModules o ms)).length using Nat.strongRecOn
    generalizing b with
  | _ n ih =>
    cases hover : b.stage.isOver with
    | true => exact ⟨b, .refl, hover, rfl⟩
    | false =>
      obtain ⟨b₁, hstep, hc⟩ := h.progress hover
      obtain ⟨b', hrun, hend, hc'⟩ := ih _ (hn ▸ h.ahead_lt hstep) (h.step hstep) rfl
      exact ⟨b', hrun.head hstep, hend, hc'.trans hc⟩

/-- **No batch goes on forever.** -/
theorem no_endless_run (f : Nat → Batch σ) (hstart : f 0 = start ms cancelled told) :
    ¬∀ n, Step o ms jobs r (f n) (f (n + 1)) := by
  intro hsteps
  have hinv : ∀ n, Inv o ms jobs r cancelled told (f n) := by
    intro n
    induction n with
    | zero => exact hstart ▸ inv_start
    | succ n ih => exact ih.step (hsteps n)
  have hlt := fun n => (hinv n).ahead_lt (hsteps n)
  generalize (allDiagnostics (checkModules o ms)).length = total at hlt
  have hbound : ∀ n, (f n).ahead total + n ≤ (f 0).ahead total := by
    intro n
    induction n with
    | zero => exact Nat.le_refl _
    | succ n ih =>
      have := hlt n
      omega
  have := hbound ((f 0).ahead total + 1)
  omega

end Progress

/-! ## The outcome -/

section Outcome

variable (o : Options) (ms : List (Option Module)) (jobs : Int) (r : Reporter σ)
  (cancelled : Bool) (told : σ)

/-- **What a batch answers** when its context is cancelled before it starts or not at all. -/
theorem outcome_eq_checkBatch {b : Batch σ} (h : Run o ms jobs r (start ms cancelled told) b)
    (hc : b.cancelled = cancelled) :
    (b.stage = .failed → checkBatch o cancelled ms = .error .beforeStart) ∧
      ∀ results, b.stage = .returned results → checkBatch o cancelled ms = .ok results := by
  have hinv := inv_run h
  have htells := hinv.tells
  constructor
  · intro hs
    rw [hs] at htells
    have hcancelled : cancelled = true := hc ▸ hinv.refused htells.2
    have hne : ms ≠ [] := by
      rintro rfl
      exact absurd (List.eq_nil_of_length_eq_zero hinv.tasks ▸ htells.2) List.not_mem_nil
    rw [checkBatch, hcancelled, if_pos (by simpa using hne)]
  · intro results hs
    rw [hs] at htells
    obtain ⟨hdone, rfl, -⟩ := htells
    cases hcan : cancelled with
    | false => rfl
    | true =>
      -- nothing can be done in a context that was cancelled from the start
      have hphases : b.phases = [] := by
        refine List.eq_nil_iff_forall_not_mem.2 fun p hp => ?_
        exact ((hinv.late hcan).2 p hp).2 (hdone p hp)
      have hnil : ms = [] := List.eq_nil_of_length_eq_zero (hinv.tasks ▸ by rw [hphases]; rfl)
      rw [hnil]
      rfl

/-- **A batch is checked alike in any order.**  At no time more tasks have places than there are.  A
batch fails only when its context was cancelled, and then nothing was told.  A batch that returns has
for every module the result that the module has when it is checked alone, whoever is told then, and
its reporter was told of the diagnostics of all results in the order of the modules.  And from
wherever it has come to, a batch can be brought to its end. -/
theorem batch_in_any_order {b : Batch σ} (h : Run o ms jobs r (start ms cancelled told) b) :
    (0 < jobs → (b.active : Int) ≤ jobs) ∧
    (b.stage = .failed → b.cancelled = true ∧ b.told = told) ∧
    (∀ results, b.stage = .returned results →
      results.length = ms.length ∧
      (∀ (i : Nat) (m : Module), ms[i]? = some (some m) →
        ∀ (τ : Type) (alone : Reporter τ) (t : τ),
          results[i]? = some (checkReporting alone t o m).1) ∧
      (∀ i : Nat, ms[i]? = some none → results[i]? = some {}) ∧
      b.told = (results.flatMap Result.diagnostics).foldl r told) ∧
    ∃ b', Run o ms jobs r b b' ∧ b'.stage.isOver = true := by
  have hinv := inv_run h
  have htells := hinv.tells
  refine ⟨hinv.limit, fun hs => ?_, fun results hs => ?_, ?_⟩
  · rw [hs] at htells
    exact ⟨hinv.refused htells.2, htells.1⟩
  · rw [hs] at htells
    obtain ⟨-, rfl, htold⟩ := htells
    have hget : ∀ (i : Nat) (m : Option Module), ms[i]? = some m →
        (checkModules o ms)[i]? = some (checkModule? o m) := fun i m hm => by
      rw [checkModules, List.getElem?_map, hm]
      rfl
    refine ⟨List.length_map _, fun i m hm τ alone t => ?_, fun i hm => hget i none hm, htold⟩
    rw [hget i _ hm, result_checkReporting]
    rfl
  · obtain ⟨b', hrun, hend, -⟩ := hinv.ends
    exact ⟨b', hrun, hend⟩

end Outcome

section Runs

/-- **What is still to be reported** can be reported, one diagnostic after the other. -/
theorem run_reports {σ : Type} {o : Options} {ms : List (Option Module)} {jobs : Int}
    {r : Reporter σ} (rest : List Diagnostic) {b : Batch σ} (hs : b.stage = .reporting rest) :
    Run o ms jobs r b { b with told := rest.foldl r b.told, stage := .reporting [] } := by
  induction rest generalizing b with
  | nil =>
    rw [List.foldl_nil, ← hs]
  | cons d rest ih => exact .head (.report hs) (ih rfl)

/-- A module with one function, which mentions a name that stands for nothing. -/
def mentions (name : String) : Module :=
  moduleOf [.func <| funcOf "f" [] none .pure [.eval {} (.name {} name)]]

/-- Two modules, and between them a place without a module. -/
def threePlaces : List (Option Module) := [some (mentions "x"), none, some (mentions "y")]

/-- A reporter that keeps a list. -/
def listing : Reporter (List Diagnostic) := fun l d => l ++ [d]

theorem foldl_listing (ds l : List Diagnostic) : ds.foldl listing l = l ++ ds := by
  induction ds generalizing l with
  | nil => exact (List.append_nil l).symm
  | cons d ds ih => exact (ih _).trans (List.append_assoc l [d] ds)

/-- The last task begins and ends first, and the one between them gets its place. -/
theorem run_returned : ∃ b, Run {} threePlaces 2 listing (start threePlaces false []) b ∧
    b.stage = .returned (checkModules {} threePlaces) := by
  have h₁ : Run {} threePlaces 2 listing (start threePlaces false []) _ :=
    .single (.submit (i := 2) rfl rfl (by decide))
  have h₂ := h₁.tail (.submit (i := 0) rfl rfl (by decide))
  have h₃ := h₂.tail (.begin (i := 2) rfl rfl (by decide))
  have h₄ := h₃.tail (.begin (i := 0) rfl rfl (by decide))
  have h₅ := h₄.tail (.finish (i := 2) rfl rfl rfl)
  have h₆ := h₅.tail (.submit (i := 1) rfl rfl (by decide))
  have h₇ := h₆.tail (.begin (i := 1) rfl rfl (by decide))
  have h₈ := h₇.tail (.finish (i := 1) rfl rfl rfl)
  have h₉ := h₈.tail (.finish (i := 0) rfl rfl rfl)
  have h₁₀ := h₉.tail (.collect rfl (by decide) (by decide))
  exact ⟨_, (h₁₀.trans (run_reports _ rfl)).tail (.deliver rfl), rfl⟩

/-- The call is cancelled after the first of its tasks has ended. -/
theorem run_failed : ∃ b, Run {} threePlaces 1 listing (start threePlaces false []) b ∧
    b.stage = .failed := by
  have h₁ : Run {} threePlaces 1 listing (start threePlaces false []) _ :=
    .single (.submit (i := 0) rfl rfl (by decide))
  have h₂ := h₁.tail (.begin (i := 0) rfl rfl (by decide))
  have h₃ := h₂.tail (.finish (i := 0) rfl rfl rfl)
  have h₄ := h₃.tail (.cancel rfl)
  have h₅ := h₄.tail (.submit (i := 1) rfl rfl (by decide))
  have h₆ := h₅.tail (.refuse (i := 1) rfl rfl (by decide))
  have h₇ := h₆.tail (.submit (i := 2) rfl rfl (by decide))
  have h₈ := h₇.tail (.refuse (i := 2) rfl rfl (by decide))
  exact ⟨_, h₈.tail (.fail rfl (by decide) (by decide)), rfl⟩

/-- **Both outcomes occur**, and are as they should be: what is found in the first module is told
first, although the last one was checked before it. -/
theorem batch_in_any_order_threePlaces :
    (∃ b, Run {} threePlaces 2 listing (start threePlaces false []) b ∧
      b.stage = .returned (checkModules {} threePlaces) ∧
      b.told = (checkModules {} threePlaces).flatMap Result.diagnostics ∧
      b.told.map (·.message) = ["undefined name \"x\"", "undefined name \"y\""]) ∧
    ∃ b, Run {} threePlaces 1 listing (start threePlaces false []) b ∧
      b.stage = .failed ∧ b.cancelled = true ∧ b.told = [] := by
  constructor
  · obtain ⟨b, hrun, hs⟩ := run_returned
    have htold := ((batch_in_any_order {} threePlaces 2 listing false [] hrun).2.2.1 _ hs).2.2.2
    rw [foldl_listing, List.nil_append] at htold
    refine ⟨b, hrun, hs, htold, ?_⟩
    rw [htold]
    decide +kernel
  · obtain ⟨b, hrun, hs⟩ := run_failed
    exact ⟨b, hrun, hs, (batch_in_any_order {} threePlaces 1 listing false [] hrun).2.1 hs⟩

end Runs

end Batch

end CoreCheck.Check

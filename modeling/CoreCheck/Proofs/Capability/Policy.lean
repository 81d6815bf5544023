import CoreCheck.Capability.Manifest
import Mathlib.Data.List.Basic

/-!
# Proofs/Capability/Policy — what two lists of labels allow

One equation says what becomes of two label lists (`ofLabels_eq`): the first label that names no
capability refuses them, that of the allow list before that of the deny list, and without one the
lists are taken for what they name.  All that a policy promises is read off it.  A label counts by
what it names, wherever and however often it stands; more denials allow less, and more permissions
deny less.
-/

namespace CoreCheck

/-- The first item with a property is one that stands there for the first time. -/
theorem find?_eraseDups {α : Type} [DecidableEq α] (p : α → Bool) (xs : List α) :
    xs.eraseDups.find? p = xs.find? p := by
  match xs with
  | [] => rfl
  | x :: xs =>
    rw [List.eraseDups_cons, List.find?_cons, List.find?_cons, find?_eraseDups p (xs.filter _),
      List.find?_filter]
    split
    · rfl
    · next hx =>
      -- an item without the property can be left out
      refine congrArg (List.find? · xs) (funext fun y => ?_)
      obtain rfl | hne := eq_or_ne y x
      · simp [hx]
      · simp [hne]
termination_by xs.length
decreasing_by exact Nat.lt_succ_of_le (List.length_filter_le _ _)

namespace Capability

/-- The capabilities that the labels of a list name. -/
def named (labels : List String) : List Capability := labels.filterMap fun l => (parse l).toOption

/-- The first label of a list that names no capability. -/
def firstUnknown? (labels : List String) : Option String :=
  labels.find? fun l => (parse l).toOption.isNone

/-- **A label names a capability, or is unknown as it is written.** -/
theorem parse_cases (l : String) : (∃ c, parse l = .ok c) ∨ parse l = .error ⟨l⟩ := by
  rw [parse]
  split
  · next c _ => exact .inl ⟨c, rfl⟩
  · exact .inr rfl

theorem mem_named {labels : List String} {c : Capability} :
    c ∈ named labels ↔ ∃ l ∈ labels, parse l = .ok c := by
  rw [named, List.mem_filterMap]
  refine exists_congr fun l => and_congr_right fun _ => ?_
  obtain ⟨d, hd⟩ | hl := parse_cases l
  · simp [hd, Except.toOption]
  · simp [hl, Except.toOption]

theorem firstUnknown?_eq_none {labels : List String} :
    firstUnknown? labels = none ↔ ∀ l ∈ labels, ∃ c, parse l = .ok c := by
  rw [firstUnknown?, List.find?_eq_none]
  refine forall₂_congr fun l _ => ?_
  obtain ⟨d, hd⟩ | hl := parse_cases l
  · simp [hd, Except.toOption]
  · simp [hl, Except.toOption]

/-- **What becomes of a list of labels.** -/
theorem parseList_eq (labels : List String) :
    parseList labels = match firstUnknown? labels with
      | some l => .error ⟨l⟩
      | none => .ok (named labels) := by
  rw [parseList]
  induction labels with
  | nil => rfl
  | cons l ls ih =>
    rw [List.mapM_cons, ih]
    obtain ⟨c, hc⟩ | hl := parse_cases l
    · have hfirst : firstUnknown? (l :: ls) = firstUnknown? ls := by
        simp [firstUnknown?, hc, Except.toOption]
      have hnamed : named (l :: ls) = c :: named ls := by simp [named, hc, Except.toOption]
      rw [hc, hfirst, hnamed]
      cases firstUnknown? ls <;> rfl
    · have hfirst : firstUnknown? (l :: ls) = some l := by
        simp [firstUnknown?, hl, Except.toOption]
      rw [hl, hfirst]
      rfl

end Capability

namespace Manifest

open Capability

/-- **What becomes of two lists of labels.** -/
theorem ofLabels_eq (allow deny : List String) :
    ofLabels allow deny = match firstUnknown? allow, firstUnknown? deny with
      | some l, _ => .error ⟨.allow, ⟨l⟩⟩
      | none, some l => .error ⟨.deny, ⟨l⟩⟩
      | none, none => .ok (ofLists (named allow) (named deny)) := by
  rw [ofLabels, parseList_eq, parseList_eq]
  cases firstUnknown? allow <;> cases firstUnknown? deny <;> rfl

variable {allow deny : List String}

theorem ofLabels_eq_ok_iff {m : Manifest} : ofLabels allow deny = .ok m ↔
    firstUnknown? allow = none ∧ firstUnknown? deny = none ∧
      m = ofLists (named allow) (named deny) := by
  rw [ofLabels_eq]
  cases firstUnknown? allow <;> cases firstUnknown? deny <;> simp [eq_comm]

/-- **Which two lists are refused**, and for which label. -/
theorem ofLabels_eq_error_iff {e : Refused} : ofLabels allow deny = .error e ↔
    (∃ l, firstUnknown? allow = some l ∧ e = ⟨.allow, ⟨l⟩⟩) ∨
      firstUnknown? allow = none ∧ ∃ l, firstUnknown? deny = some l ∧ e = ⟨.deny, ⟨l⟩⟩ := by
  rw [ofLabels_eq]
  cases firstUnknown? allow <;> cases firstUnknown? deny <;> simp [eq_comm]

/-- A capability is usable under two lists exactly when they are read and it is named by the allow
list only. -/
theorem usable_ofLabels {c : Capability} : usable (ofLabels allow deny).toOption c = true ↔
    firstUnknown? allow = none ∧ firstUnknown? deny = none ∧ c ∈ named allow ∧ c ∉ named deny := by
  rw [ofLabels_eq]
  cases firstUnknown? allow with
  | some l => simp [usable, Except.toOption]
  | none =>
    cases firstUnknown? deny with
    | some l => simp [usable, Except.toOption]
    | none => simp [usable, Except.toOption, allows_ofLists]

/-- Lists of the same labels make the same manifest. -/
theorem ofLists_named_congr {allow' deny' : List String} (ha : ∀ l, l ∈ allow' ↔ l ∈ allow)
    (hd : ∀ l, l ∈ deny' ↔ l ∈ deny) :
    ofLists (named allow') (named deny') = ofLists (named allow) (named deny) := by
  have hset : ∀ {xs ys : List String}, (∀ l, l ∈ xs ↔ l ∈ ys) →
      Set.ofList (named xs) = Set.ofList (named ys) := fun h =>
    Set.ofList_congr fun c => by
      rw [mem_named, mem_named]
      simp only [h]
  rw [ofLists, ofLists, hset ha, hset hd]

/-- **Labels that are given again change nothing.** -/
theorem ofLabels_eraseDups (allow deny : List String) :
    ofLabels allow.eraseDups deny.eraseDups = ofLabels allow deny := by
  rw [ofLabels_eq, ofLabels_eq, firstUnknown?, find?_eraseDups, firstUnknown?, find?_eraseDups,
    ofLists_named_congr (fun _ => List.mem_eraseDups) (fun _ => List.mem_eraseDups)]
  rfl

/-- **Only which labels there are counts**, up to the one that is named in a refusal. -/
theorem ofLabels_congr {allow' deny' : List String} (ha : ∀ l, l ∈ allow' ↔ l ∈ allow)
    (hd : ∀ l, l ∈ deny' ↔ l ∈ deny) :
    (ofLabels allow' deny').mapError Refused.side = (ofLabels allow deny).mapError Refused.side := by
  have hnone : ∀ {xs ys : List String}, (∀ l, l ∈ xs ↔ l ∈ ys) →
      (firstUnknown? xs = none ↔ firstUnknown? ys = none) := fun h => by
    rw [firstUnknown?_eq_none, firstUnknown?_eq_none]
    simp only [h]
  have ha' := hnone ha
  have hd' := hnone hd
  rw [ofLabels_eq, ofLabels_eq, ofLists_named_congr ha hd]
  generalize firstUnknown? allow = u at ha' ⊢
  generalize firstUnknown? allow' = u' at ha' ⊢
  generalize firstUnknown? deny = v at hd' ⊢
  generalize firstUnknown? deny' = v' at hd' ⊢
  cases u with
  | some l =>
    obtain ⟨k, rfl⟩ := Option.ne_none_iff_exists'.1 fun h => nomatch ha'.1 h
    rfl
  | none =>
    obtain rfl := ha'.2 rfl
    cases v with
    | some l =>
      obtain ⟨k, rfl⟩ := Option.ne_none_iff_exists'.1 fun h => nomatch hd'.1 h
      rfl
    | none =>
      obtain rfl := hd'.2 rfl
      rfl

/-- A list that is read is also read without some of its labels. -/
theorem firstUnknown?_of_subset {xs ys : List String} (h : xs ⊆ ys)
    (hys : firstUnknown? ys = none) : firstUnknown? xs = none :=
  firstUnknown?_eq_none.2 fun l hl => firstUnknown?_eq_none.1 hys l (h hl)

theorem named_subset {xs ys : List String} (h : xs ⊆ ys) : named xs ⊆ named ys := fun c hc => by
  obtain ⟨l, hl, hlc⟩ := mem_named.1 hc
  exact mem_named.2 ⟨l, h hl, hlc⟩

/-- **A policy denies by default, and deny wins.**  Two label lists make a manifest exactly when
every label names a capability.  It allows just what is named under allow and not under deny, in
whatever order and however often.  A label more under deny allows nothing, and one more under allow
denies nothing.  Lists that make no manifest are refused for the first label that names nothing, and
that of the allow list comes first. -/
theorem policy_of_labels (allow deny : List String) :
    ((∃ m, ofLabels allow deny = .ok m) ↔ ∀ l ∈ allow ++ deny, ∃ c, parse l = .ok c) ∧
    (∀ m, ofLabels allow deny = .ok m → ∀ c, m.allows c = true ↔
      (∃ l ∈ allow, parse l = .ok c) ∧ ¬ ∃ l ∈ deny, parse l = .ok c) ∧
    (∀ allow' deny', (∀ l, l ∈ allow' ↔ l ∈ allow) → (∀ l, l ∈ deny' ↔ l ∈ deny) →
      (ofLabels allow' deny').mapError Refused.side = (ofLabels allow deny).mapError Refused.side) ∧
    ofLabels allow.eraseDups deny.eraseDups = ofLabels allow deny ∧
    (∀ deny', deny ⊆ deny' → ∀ c, usable (ofLabels allow deny').toOption c = true →
      usable (ofLabels allow deny).toOption c = true) ∧
    (∀ allow' m', allow ⊆ allow' → ofLabels allow' deny = .ok m' →
      ∀ c, usable (ofLabels allow deny).toOption c = true → m'.allows c = true) ∧
    ∀ e, ofLabels allow deny = .error e ↔
      (∃ l, firstUnknown? allow = some l ∧ e = ⟨.allow, ⟨l⟩⟩ ∧
        e.message = "capabilities.allow: unknown capability: " ++ Text.quote l) ∨
      firstUnknown? allow = none ∧ ∃ l, firstUnknown? deny = some l ∧ e = ⟨.deny, ⟨l⟩⟩ ∧
        e.message = "capabilities.deny: unknown capability: " ++ Text.quote l := by
  refine ⟨?_, fun m hm c => ?_, fun _ _ => ofLabels_congr, ofLabels_eraseDups allow deny,
    fun deny' hsub c hc => ?_, fun allow' m' hsub hm' c hc => ?_, fun e => ?_⟩
  · -- lists that are read have no unknown label
    simp only [ofLabels_eq_ok_iff, exists_and_left, exists_eq, and_true, firstUnknown?_eq_none,
      List.forall_mem_append]
  · obtain ⟨-, -, rfl⟩ := ofLabels_eq_ok_iff.1 hm
    rw [allows_ofLists, mem_named, mem_named]
  · obtain ⟨hallow, hdeny, hin, hout⟩ := usable_ofLabels.1 hc
    exact usable_ofLabels.2 ⟨hallow, firstUnknown?_of_subset hsub hdeny, hin,
      fun hmem => hout (named_subset hsub hmem)⟩
  · obtain ⟨-, -, rfl⟩ := ofLabels_eq_ok_iff.1 hm'
    obtain ⟨-, -, hin, hout⟩ := usable_ofLabels.1 hc
    exact (allows_ofLists _ _ c).2 ⟨named_subset hsub hin, hout⟩
  · rw [ofLabels_eq_error_iff]
    constructor
    · rintro (⟨l, hl, rfl⟩ | ⟨hnone, l, hl, rfl⟩)
      · exact .inl ⟨l, hl, rfl, rfl⟩
      · exact .inr ⟨hnone, l, hl, rfl, rfl⟩
    · rintro (⟨l, hl, rfl, -⟩ | ⟨hnone, l, hl, rfl, -⟩)
      · exact .inl ⟨l, hl, rfl⟩
      · exact .inr ⟨hnone, l, hl, rfl⟩

/-- A short form is allowed, and what is denied under another name is not. -/
theorem policy_of_labels_shortForms :
    ∃ m, ofLabels ["Http", " AI", "db"] ["SQL"] = .ok m ∧
      m.allows .aiModel = true ∧ ¬ m.allows .sql = true := by
  obtain ⟨hread, hallows, -⟩ := policy_of_labels ["Http", " AI", "db"] ["SQL"]
  have hai : parse " AI" = .ok .aiModel := by decide +kernel
  have hsql : parse "SQL" = .ok .sql := by decide +kernel
  have hknown : ∀ l ∈ ["Http", " AI", "db"] ++ ["SQL"], ∃ c, parse l = .ok c := by
    rw [← firstUnknown?_eq_none]
    decide +kernel
  obtain ⟨m, hm⟩ := hread.2 hknown
  refine ⟨m, hm, (hallows m hm .aiModel).2 ⟨⟨" AI", by decide, hai⟩, ?_⟩, fun h => ?_⟩
  · rintro ⟨l, hl, hlc⟩
    obtain rfl := List.mem_singleton.1 hl
    exact nomatch hsql.symm.trans hlc
  · exact ((hallows m hm .sql).1 h).2 ⟨"SQL", List.mem_singleton_self _, hsql⟩

end Manifest

end CoreCheck

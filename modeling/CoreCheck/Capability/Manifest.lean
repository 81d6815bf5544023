import CoreCheck.Capability

/-!
# Capability/Manifest — which capabilities a run may use

The policy denies by default. A capability is usable exactly when the manifest lists it under allow
and not under deny; where no manifest is loaded, nothing is usable.
-/

namespace CoreCheck

/-- **An allow and deny list**, with the file it was read from, if any. -/
structure Manifest where
  allowed : Capability.Set := {}
  denied : Capability.Set := {}
  source : String := ""
deriving Inhabited

namespace Manifest

/-- The manifest of two lists of capabilities. -/
def ofLists (allow deny : List Capability) : Manifest :=
  { allowed := .ofList allow, denied := .ofList deny }

/-- **Whether a capability may be used.** What is denied is refused first; only then is membership in
an allow list asked for, and an empty one allows nothing. -/
def allows (m : Manifest) (c : Capability) : Bool :=
  if m.denied.has c then false
  else if m.allowed.isEmpty then false
  else m.allowed.has c

/-- The capabilities listed on both sides. -/
def overlap (m : Manifest) : Capability.Set := m.allowed.inter m.denied

/-- Whether a capability may be used under a manifest that may be missing. -/
def usable (m : Option Manifest) (c : Capability) : Bool := m.any (·.allows c)

/-- The side of a manifest that holds an unknown label. -/
inductive Side where
  | allow | deny
deriving DecidableEq

/-- The reason why two label lists make no manifest. -/
structure Refused where
  side : Side
  cause : Capability.Unknown
deriving DecidableEq

/-- The wording of the reason. -/
def Refused.message (r : Refused) : String :=
  (match r.side with
    | .allow => "capabilities.allow: "
    | .deny => "capabilities.deny: ") ++ r.cause.message

/-- **The manifest of two label lists.** The allow list is read first. -/
def ofLabels (allow deny : List String) : Except Refused Manifest := do
  let a ← (Capability.parseList allow).mapError (⟨.allow, ·⟩)
  let d ← (Capability.parseList deny).mapError (⟨.deny, ·⟩)
  return ofLists a d

/-- **Deny wins, and only what is allowed is usable.** An empty allow list needs no rule of its own,
for it has no members. -/
theorem allows_iff (m : Manifest) (c : Capability) :
    m.allows c = true ↔ m.allowed.has c = true ∧ m.denied.has c = false := by
  rw [allows]
  split
  · next hdeny => simp [hdeny]
  · next hdeny =>
    split
    · next hempty =>
      have hnot : ¬ m.allowed.has c = true := fun h => by
        rw [Capability.Set.isEmpty_of_has h] at hempty
        exact Bool.noConfusion hempty
      simp [hnot]
    · simp [hdeny]

theorem allows_ofLists (allow deny : List Capability) (c : Capability) :
    (ofLists allow deny).allows c = true ↔ c ∈ allow ∧ c ∉ deny := by
  rw [allows_iff]
  simp [ofLists]

end Manifest

end CoreCheck

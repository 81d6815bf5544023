import CoreCheck.Number.Power
import CoreCheck.Text.Label
import CoreCheck.Text.Quoted
import CoreCheck.Text.Split

/-!
# Capability — the closed vocabulary of external privileges

A capability is one of seven named privileges. Sets of them are kept as the bits of a number, and are
always listed in the order of the vocabulary.
-/

namespace CoreCheck

/-- **An external privilege.** -/
inductive Capability where
  | http | sql | time | files | secrets | aiModel | cpu
deriving DecidableEq, Inhabited

namespace Capability

/-- The vocabulary in its fixed order. -/
def all : List Capability := [.http, .sql, .time, .files, .secrets, .aiModel, .cpu]

/-- The number of a capability; zero stands for none. -/
def code : Capability → Nat
  | .http => 1
  | .sql => 2
  | .time => 3
  | .files => 4
  | .secrets => 5
  | .aiModel => 6
  | .cpu => 7

/-- The capability with a given number. -/
def ofCode? (n : Nat) : Option Capability := all.find? (·.code = n)

/-- The name of a capability in messages. -/
def label : Capability → String
  | .http => "Http"
  | .sql => "Sql"
  | .time => "Time"
  | .files => "Files"
  | .secrets => "Secrets"
  | .aiModel => "AiModel"
  | .cpu => "Cpu"

/-- The name of a capability number, also of one outside the vocabulary. -/
def codeLabel (n : Nat) : String :=
  match ofCode? n with
  | some c => c.label
  | none => if n = 0 then "Invalid" else s!"Capability({n})"

/-- A label that names no capability. -/
structure Unknown where
  label : String
deriving DecidableEq

/-- The wording of the failure. -/
def Unknown.message (e : Unknown) : String := "unknown capability: " ++ Text.quote e.label

/-- The labels of the vocabulary, folded: the names and five short forms. -/
def ofKey? (key : String) : Option Capability :=
  match key with
  | "http" | "network" => some .http
  | "sql" | "db" => some .sql
  | "time" | "clock" => some .time
  | "files" | "fs" => some .files
  | "secrets" => some .secrets
  | "aimodel" | "ai" => some .aiModel
  | "cpu" => some .cpu
  | _ => none

/-- Reads a label, ignoring case and blanks around it. -/
def parse (label : String) : Except Unknown Capability :=
  match ofKey? (Text.labelKey label) with
  | some c => .ok c
  | none => .error ⟨label⟩

/-- Reads every label; the first unknown one is the failure. -/
def parseList (labels : List String) : Except Unknown (List Capability) :=
  labels.mapM parse

/-- Different capabilities have different numbers. -/
theorem code_inj {c d : Capability} : c.code = d.code ↔ c = d :=
  ⟨by cases c <;> cases d <;> decide, congrArg code⟩

/-- **A set of capabilities**, as the bits of a number: the bit with the number of a capability says
whether it is a member. -/
structure Set where
  bits : Nat
deriving DecidableEq

namespace Set

/-- The set without members. -/
def empty : Set := ⟨0⟩

/-- Whether a capability is a member. -/
def has (s : Set) (c : Capability) : Bool := s.bits.testBit c.code

/-- One more member. -/
def insert (s : Set) (c : Capability) : Set := ⟨s.bits ||| pow2 c.code⟩

/-- The set with the members of a list. -/
def ofList (cs : List Capability) : Set := cs.foldl insert empty

/-- The members of both sets. -/
def inter (s t : Set) : Set := ⟨s.bits &&& t.bits⟩

/-- The members in the order of the vocabulary. -/
def members (s : Set) : List Capability := all.filter s.has

/-- Whether there is no member. -/
def isEmpty (s : Set) : Bool := s.bits == 0

/-- The names of the members. -/
def labels (s : Set) : List String := s.members.map label

/-- The form `{A, B}`. -/
def text (s : Set) : String := "\x7b" ++ Text.join ", " s.labels ++ "\x7d"

instance : Inhabited Set := ⟨empty⟩
instance : EmptyCollection Set := ⟨empty⟩

@[simp] theorem has_empty (c : Capability) : empty.has c = false := Nat.zero_testBit _

/-- A bit of a set with one more member. -/
theorem testBit_insert (s : Set) (c : Capability) (n : Nat) :
    (s.insert c).bits.testBit n = (decide (c.code = n) || s.bits.testBit n) := by
  rw [insert, Nat.testBit_or, Bool.or_comm]
  exact congrArg (· || _) Nat.testBit_two_pow

@[simp] theorem has_insert (s : Set) (c d : Capability) :
    (s.insert c).has d = (d == c || s.has d) := by
  rw [has, testBit_insert, has, Bool.beq_eq_decide_eq]
  simp only [code_inj, eq_comm]

@[simp] theorem has_inter (s t : Set) (c : Capability) :
    (s.inter t).has c = (s.has c && t.has c) := Nat.testBit_and ..

/-- A bit of a set made from a list belongs to a capability of the list. -/
theorem testBit_ofList (cs : List Capability) (n : Nat) :
    (ofList cs).bits.testBit n = cs.any (·.code = n) := by
  suffices h : ∀ s : Set, (cs.foldl insert s).bits.testBit n
      = (cs.any (·.code = n) || s.bits.testBit n) by
    rw [ofList, h, empty, Nat.zero_testBit, Bool.or_false]
  induction cs with
  | nil => exact fun s => rfl
  | cons c cs ih =>
    intro s
    rw [List.foldl_cons, ih, testBit_insert, List.any_cons, ← Bool.or_assoc, Bool.or_comm (cs.any _)]

@[simp] theorem has_ofList (cs : List Capability) (c : Capability) :
    (ofList cs).has c = cs.contains c := by
  rw [has, testBit_ofList, Bool.eq_iff_iff, List.any_eq_true, List.contains_iff_mem]
  simp [code_inj]

/-- **Lists of the same capabilities make the same set.** -/
theorem ofList_congr {cs ds : List Capability} (h : ∀ c, c ∈ cs ↔ c ∈ ds) : ofList cs = ofList ds := by
  have hbits : (ofList cs).bits = (ofList ds).bits := Nat.eq_of_testBit_eq fun n => by
    rw [testBit_ofList, testBit_ofList, Bool.eq_iff_iff, List.any_eq_true, List.any_eq_true]
    simp only [h]
  exact congrArg mk hbits

theorem isEmpty_of_has {s : Set} {c : Capability} (h : s.has c = true) : s.isEmpty = false := by
  refine beq_eq_false_iff_ne.2 fun h0 => ?_
  rw [has, h0, Nat.zero_testBit] at h
  exact Bool.noConfusion h

theorem mem_members (s : Set) (c : Capability) : c ∈ s.members ↔ s.has c = true := by
  simp only [members, List.mem_filter]
  exact ⟨fun h => h.2, fun h => ⟨by cases c <;> decide, h⟩⟩

end Set

end Capability

end CoreCheck

import CoreCheck.Duration

/-!
# Timer — how long the phases of a run take

Phases keep the order in which they were begun. A phase is closed once; closing it again, or closing
one that does not exist, changes nothing.
-/

namespace CoreCheck

/-- One timed step. -/
structure Phase where
  name : String
  start : Int
  length : Duration := ⟨0⟩
  note : String := ""
  closed : Bool := false
deriving Inhabited

/-- **The phases of a run.** -/
structure Timer where
  phases : Array Phase := #[]
deriving Inhabited

namespace Timer

/-- Begins a phase at a time; its number is the count of the phases before it. -/
def start (t : Timer) (now : Int) (name : String) : Timer × Nat :=
  (⟨t.phases.push { name, start := now }⟩, t.phases.size)

/-- Closes a phase at a time. -/
def stop (t : Timer) (now : Int) (index : Int) (note : String) : Timer :=
  if index < 0 then t
  else
    ⟨t.phases.modify index.toNat fun p =>
      if p.closed then p else { p with length := ⟨now - p.start⟩, note, closed := true }⟩

/-- The time of all phases together. -/
def total (t : Timer) : Duration := ⟨t.phases.toList.foldr (fun p n => p.length.nanos + n) 0⟩

/-- A text in a column of a given width, on its left or its right side. -/
def column (columns : Nat) (left : Bool) (s : String) : String :=
  let pad := String.ofList (List.replicate (columns - s.length) ' ')
  if left then s ++ pad else pad ++ s

/-- One line of the table: a name and a number of milliseconds. -/
def row (name milliseconds : String) : String :=
  "  " ++ column 24 true name ++ " " ++ column 8 false milliseconds ++ " ms"

/-- The milliseconds of a duration with two places. -/
def places (d : Duration) : String := d.millis.fixed 2

/-- **The table of the phases**, with a rule for writing times. -/
def table (t : Timer) (line : String → Duration → String) : String :=
  let lines := t.phases.toList.map fun p =>
    line p.name p.length ++ (if p.note = "" then "" else "  // " ++ p.note) ++ "\n"
  "timings:\n" ++ lines.foldl (· ++ ·) "" ++ line "total" t.total ++ "\n"

/-- The table of the phases. -/
def summary (t : Timer) : String := t.table fun name d => row name (places d)

end Timer

end CoreCheck

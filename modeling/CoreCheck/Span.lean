/-!
# Span — places in a source file

A position is a line and a column, both counted from one; a span is a region between two positions
of a file. Spans are optional everywhere, so the span without a file and with both positions zero
means that no place is known.
-/

namespace CoreCheck

/-- A line and a column, counted from one; both zero when unknown. -/
structure Position where
  line : Nat := 0
  col : Nat := 0
deriving DecidableEq, Inhabited

namespace Position

/-- Whether the position was never set. -/
def isZero (p : Position) : Bool := p.line == 0 && p.col == 0

/-- Positions are ordered by line, then by column. -/
def before (p q : Position) : Bool :=
  if p.line = q.line then p.col < q.col else p.line < q.line

/-- The form `line:column`. -/
def text (p : Position) : String := s!"{p.line}:{p.col}"

end Position

/-- A region of a source file. -/
structure Span where
  file : String := ""
  start : Position := {}
  stop : Position := {}
deriving DecidableEq, Inhabited

namespace Span

/-- The span that says nothing. -/
def none : Span := {}

/-- Whether no place is known. -/
def isZero (s : Span) : Bool := s.file == "" && s.start.isZero && s.stop.isZero

/-- The form `file:start-stop`; a missing file reads as the input. -/
def text (s : Span) : String :=
  if s.isZero then "<unknown>"
  else
    let file := if s.file == "" then "<input>" else s.file
    s!"{file}:{s.start.text}-{s.stop.text}"

/-- **The smallest span over both.** Spans of different files are not merged: the first wins. -/
def cover (s t : Span) : Span :=
  if t.isZero then s
  else if s.isZero then t
  else if s.file ≠ t.file then s
  else
    { s with
      start := if t.start.before s.start then t.start else s.start
      stop := if s.stop.before t.stop then t.stop else s.stop }

/-- The span itself, or the fallback when it says nothing. -/
def orElse (s fallback : Span) : Span := if s.isZero then fallback else s

theorem isZero_iff (s : Span) : s.isZero = true ↔ s = Span.none := by
  obtain ⟨file, ⟨l, c⟩, ⟨l', c'⟩⟩ := s
  simp [isZero, Position.isZero, Span.none, and_assoc]

@[simp] theorem none_orElse (t : Span) : Span.none.orElse t = t := rfl

@[simp] theorem orElse_none (s : Span) : s.orElse Span.none = s := by
  unfold orElse
  split
  · next h => exact ((isZero_iff s).mp h).symm
  · rfl

end Span

end CoreCheck

import CoreCheck.Duration
import CoreCheck.Instant
import CoreCheck.Text.Blank
import CoreCheck.Text.Label
import CoreCheck.Text.Quoted

/-!
# Trace/Event — what a trace records, and how much of it

An event marks the beginning or the end of a span, or a single point. Its grain says how coarse it
is; the level of a trace says down to which grain events are recorded. Kinds, grains and levels are
kept by number, and numbers outside the vocabulary are unknown.
-/

namespace CoreCheck.Trace

/-- **What an event marks.** -/
structure Kind where
  code : Nat
deriving DecidableEq, Inhabited

namespace Kind

def spanBegin : Kind := ⟨1⟩
def spanEnd : Kind := ⟨2⟩
def point : Kind := ⟨3⟩

/-- The name of a kind. -/
def label (k : Kind) : String :=
  match k.code with
  | 1 => "begin"
  | 2 => "end"
  | 3 => "point"
  | _ => "unknown"

end Kind

/-- **How coarse an event is**; smaller is coarser. -/
structure Grain where
  rank : Nat
deriving DecidableEq, Inhabited

namespace Grain

def driver : Grain := ⟨1⟩
def module : Grain := ⟨2⟩
def decl : Grain := ⟨3⟩
def node : Grain := ⟨4⟩

/-- The name of a grain. -/
def label (g : Grain) : String :=
  match g.rank with
  | 1 => "driver"
  | 2 => "module"
  | 3 => "decl"
  | 4 => "node"
  | _ => "unknown"

end Grain

/-- **How much is recorded.** -/
structure Level where
  rank : Nat
deriving DecidableEq, Inhabited

namespace Level

def off : Level := ⟨0⟩
def phase : Level := ⟨1⟩
def detail : Level := ⟨2⟩
def debug : Level := ⟨3⟩

/-- The name of a level. -/
def label (l : Level) : String :=
  match l.rank with
  | 0 => "off"
  | 1 => "phase"
  | 2 => "detail"
  | 3 => "debug"
  | _ => "unknown"

/-- Whether events of a grain are recorded at a level. -/
def records (l : Level) (g : Grain) : Bool :=
  match l.rank with
  | 1 => g.rank ≤ Grain.driver.rank
  | 2 => g.rank ≤ Grain.decl.rank
  | 3 => true
  | _ => false

/-- Whether anything is recorded at all. -/
def isOn (l : Level) : Bool := 0 < l.rank

/-- A word that names no level. -/
structure Unknown where
  word : String
deriving DecidableEq

/-- The wording of the failure. -/
def Unknown.message (e : Unknown) : String :=
  "invalid trace level: " ++ Text.quote e.word ++ " (expected: off|phase|detail|debug)"

/-- Reads a level; nothing means off. -/
def parse (s : String) : Except Unknown Level :=
  match Text.lower (Text.trim s) with
  | "off" | "" => .ok off
  | "phase" => .ok phase
  | "detail" => .ok detail
  | "debug" => .ok debug
  | _ => .error ⟨s⟩

end Level

/-- **One record of a trace.** Span number zero means none. -/
structure Event where
  time : Instant := ⟨0, 0⟩
  seq : Nat := 0
  kind : Kind
  grain : Grain
  span : Nat := 0
  parent : Nat := 0
  name : String
  detail : String := ""
  elapsed : Duration := ⟨0⟩
  extra : List (String × String) := []
deriving Inhabited

/-- The extra pairs in the order of their keys. -/
def Event.sortedExtra (e : Event) : List (String × String) :=
  e.extra.mergeSort fun x y => x.1 ≤ y.1

/-- **A growing trace**: the level, the last span number given out, and the events so far. -/
structure Recorder where
  level : Level
  lastSpan : Nat := 0
  events : Array Event := #[]
deriving Inhabited

/-- An open span; number zero when it is not recorded. -/
structure OpenSpan where
  id : Nat
  parent : Nat
  grain : Grain
  name : String

namespace Recorder

/-- Begins a span under a parent, if its grain is recorded. -/
def start (r : Recorder) (parent : Nat) (grain : Grain) (name : String) : Recorder × OpenSpan :=
  if r.level.records grain then
    let id := r.lastSpan + 1
    let e : Event := { kind := .spanBegin, grain, span := id, parent, name }
    ({ r with lastSpan := id, events := r.events.push e }, ⟨id, parent, grain, name⟩)
  else (r, ⟨0, parent, grain, name⟩)

/-- Ends a span; the end of a span that is not recorded is not recorded either. -/
def stop (r : Recorder) (s : OpenSpan) (detail : String) (extra : List (String × String))
    (elapsed : Duration) : Recorder :=
  if s.id = 0 then r
  else
    let e : Event :=
      { kind := .spanEnd, grain := s.grain, span := s.id, parent := s.parent, name := s.name,
        detail, elapsed, extra }
    { r with events := r.events.push e }

/-- Records a point, if its grain is recorded. -/
def point (r : Recorder) (parent : Nat) (grain : Grain) (name detail : String) : Recorder :=
  if r.level.records grain then
    { r with events := r.events.push { kind := .point, grain, parent, name, detail } }
  else r

end Recorder

/-- The span under which the parts of an open span are recorded: itself, or what it stands under
when it is not recorded. -/
def OpenSpan.inner (s : OpenSpan) (outer : Nat) : Nat := if s.id = 0 then outer else s.id

end CoreCheck.Trace

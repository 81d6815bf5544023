import CoreCheck.Trace.Event

/-!
# Trace/Activity — what happened, as a tree

An activity is a single point or a span with activities inside. Recording walks the tree and writes
down the events that the level asks for; each span that is recorded gets the next number.
-/

namespace CoreCheck.Trace

/-- **What happened**: a point, or a span and what happened in it. -/
inductive Activity where
  | point (grain : Grain) (name detail : String)
  | span (grain : Grain) (name : String) (inside : List Activity) (detail : String)
      (extra : List (String × String)) (elapsed : Duration)
deriving Inhabited

mutual

/-- **Records an activity** under a parent span. -/
def Recorder.record (r : Recorder) (parent : Nat) : Activity → Recorder
  | .point grain name detail => r.point parent grain name detail
  | .span grain name inside detail extra elapsed =>
    let (r, s) := r.start parent grain name
    (Recorder.recordAll r (s.inner parent) inside).stop s detail extra elapsed

/-- Records activities in order. -/
def Recorder.recordAll (r : Recorder) (parent : Nat) : List Activity → Recorder
  | [] => r
  | a :: as => Recorder.recordAll (Recorder.record r parent a) parent as

end

/-- The events of an activity at a level. -/
def Activity.events (a : Activity) (level : Level) : List Event :=
  (Recorder.record { level } 0 a).events.toList

end CoreCheck.Trace

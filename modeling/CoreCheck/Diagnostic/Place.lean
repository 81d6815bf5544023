import CoreCheck.Path
import CoreCheck.Span

/-!
# Diagnostic/Place — how file names are shown

File names are shown as they came, absolute, relative to a base directory, or by their last
component.
-/

namespace CoreCheck

/-- **How file names are shown.** -/
inductive PathMode where
  | auto | absolute | relative | basename
deriving DecidableEq, Inhabited

namespace PathMode

/-- The number of a mode. -/
def code : PathMode → Nat
  | .auto => 0
  | .absolute => 1
  | .relative => 2
  | .basename => 3

/-- Reads a mode; nothing means to show names as they came. -/
def parse? (s : String) : Option PathMode :=
  match s with
  | "" | "auto" => some .auto
  | "absolute" | "abs" => some .absolute
  | "relative" | "rel" => some .relative
  | "basename" | "base" => some .basename
  | _ => none

end PathMode

/-- **How and from where file names are shown.** -/
structure PathView where
  mode : PathMode := .auto
  /-- The directory that relative names are relative to. -/
  base : String := ""
  /-- The directory that absolute names are completed with. -/
  workdir : String := "/"
deriving Inhabited

/-- A file name as it is shown; the empty name stays empty. -/
def PathView.show (v : PathView) (path : String) : String :=
  if path = "" then ""
  else
    match v.mode with
    | .auto => path
    | .absolute => Path.absolute v.workdir path
    | .relative => if Path.isAbsolute path then Path.relative path v.base else path
    | .basename => Path.base path

end CoreCheck

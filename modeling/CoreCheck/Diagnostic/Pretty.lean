import CoreCheck.Diagnostic
import CoreCheck.Diagnostic.Place
import CoreCheck.Text.Style
import CoreCheck.Text.Width

/-!
# Diagnostic/Pretty — diagnostics for people to read

Each diagnostic has a line with its place, severity, code and message, followed by its notes and its
help; the places form a column as wide as the widest of them. A last line counts the problems.
-/

namespace CoreCheck

open CoreCheck.Text (Style)

/-- **How diagnostics are shown.** -/
structure PrettyOptions where
  paths : PathView := {}
  colored : Bool := false
  /-- The largest width of a message; zero or less means no limit. -/
  width : Int := 0
  notes : Bool := false
  help : Bool := false
deriving Inhabited

/-! ## Styles -/

def errorStyle : Style := [.red, .bold]
def warningStyle : Style := [.yellow, .bold]
def infoStyle : Style := [.cyan, .bold]
def codeStyle : Style := [.magenta]
def placeStyle : Style := [.bold]
def noteStyle : Style := [.blue]
def helpStyle : Style := [.green]

/-- The style of a severity. -/
def Severity.style (s : Severity) : Style :=
  if s = .error then errorStyle else if s = .warning then warningStyle else infoStyle

namespace PrettyOptions

/-- A place; without a file of its own it is in the checked file. -/
def place (o : PrettyOptions) (source : String) (s : Span) : String :=
  if s.isZero then o.paths.show source
  else o.paths.show (if s.file = "" then source else s.file) ++ ":" ++ s.start.text

/-- A message cut to the wanted width. -/
def cut (o : PrettyOptions) (message : String) : String :=
  if o.width ≤ 0 || Text.width message ≤ o.width.toNat then message
  else Text.truncate message o.width.toNat (if o.width ≤ 3 then "" else "...")

/-- The lines of a diagnostic, its place padded to a width. -/
def lines (o : PrettyOptions) (source : String) (column : Nat) (d : Diagnostic) : List String :=
  let indent := String.ofList (List.replicate (column + 2) ' ')
  let head := placeStyle.paint o.colored (Text.padRight (o.place source d.span) column) ++ "  "
    ++ d.severity.style.paint o.colored d.severity.text ++ " "
    ++ codeStyle.paint o.colored d.code.id ++ " " ++ d.code.name ++ ": " ++ o.cut d.message
  let note (n : Note) : String :=
    indent ++ noteStyle.paint o.colored "note:" ++ " "
      ++ (if n.span.isZero then "" else o.place source n.span ++ ": ") ++ n.message
  head :: ((if o.notes then d.notes.map note else [])
    ++ (if o.help && d.help ≠ "" then
        [indent ++ helpStyle.paint o.colored "help:" ++ " " ++ d.help]
      else []))

/-- A count with its noun. -/
def counted (n : Nat) (noun : String) : String :=
  if n = 1 then "1 " ++ noun else s!"{n} " ++ noun ++ "s"

/-- The line that counts the problems. -/
def lastLine (o : PrettyOptions) (source : String) (s : Summary) : String :=
  if s.total = 0 then placeStyle.paint o.colored (source ++ ": no problems")
  else
    placeStyle.paint o.colored source ++ ": "
      ++ errorStyle.paint o.colored (counted s.error "error") ++ ", "
      ++ warningStyle.paint o.colored (counted s.warning "warning") ++ ", "
      ++ infoStyle.paint o.colored (counted s.info "info")

end PrettyOptions

/-- **The readable form of a bag.** -/
def Bag.pretty (b : Bag) (source : String) (o : PrettyOptions) : String :=
  let column := (b.map fun d => Text.width (o.place source d.span)).foldl max 0
  let lines := b.flatMap (o.lines source column) ++ [o.lastLine source b.summary]
  String.join (lines.map (· ++ "\n"))

end CoreCheck

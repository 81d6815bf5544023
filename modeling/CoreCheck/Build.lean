import CoreCheck.Json
import CoreCheck.Text.Blank
import CoreCheck.Text.Style

/-!
# Build — which build of the program this is
-/

namespace CoreCheck

open CoreCheck.Text (Style)

/-- **The identity of a build.** -/
structure Build where
  version : String := "0.1.0-dev"
  commit : String := ""
  date : String := ""
deriving Inhabited

namespace Build

/-- The name of the program. -/
def tool : String := "aster"

/-- A build with the blanks around its parts removed; without a version it is a development
build. -/
def normal (b : Build) : Build :=
  let version := Text.trim b.version
  { version := if version = "" then "dev" else version, commit := Text.trim b.commit,
    date := Text.trim b.date }

def majorStyle : Style := [.yellow, .bold]
def minorStyle : Style := [.green, .bold]
def patchStyle : Style := [.blue, .bold]

/-- **A version with its three numbers in colours.** A version that does not have three numbers
stays as it is. -/
def styled (version : String) (colored : Bool) : String :=
  let mark (c : Char) : Bool := c = '-' || c = '+'
  let core := String.ofList (version.toList.takeWhile (!mark ·))
  let suffix := String.ofList (version.toList.dropWhile (!mark ·))
  match Text.split '.' core with
  | [major, minor, patch] =>
    majorStyle.paint colored major ++ "." ++ minorStyle.paint colored minor ++ "."
      ++ patchStyle.paint colored patch ++ suffix
  | _ => version

/-- The identity for people to read. -/
def pretty (b : Build) (colored : Bool) : String :=
  let b := b.normal
  tool ++ " " ++ (if colored then styled b.version true else b.version) ++ "\n"
    ++ (if b.commit = "" then "" else "commit: " ++ b.commit ++ "\n")
    ++ (if b.date = "" then "" else "built:  " ++ b.date ++ "\n")

/-- The identity as a document. -/
def document (b : Build) : String :=
  let b := b.normal
  (Json.members [some ("tool", .str tool), some ("version", .str b.version),
    Json.nonempty "git_commit" b.commit, Json.nonempty "build_date" b.date]).indented
    { markup := true, separators := true, letters := true } 0 ++ "\n"

end Build

end CoreCheck

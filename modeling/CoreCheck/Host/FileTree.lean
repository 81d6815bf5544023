import CoreCheck.Host
import CoreCheck.Path

/-!
# Host/FileTree — files and directories in memory

Files are named by the components of their absolute names; a directory is there when it was made or
when something lies below it. Names are followed component by component, as a machine does it: every
component but the last must be a directory.
-/

namespace CoreCheck

/-- **Files and directories**, by the components of their absolute names. -/
structure FileTree where
  files : List (List String × List UInt8) := []
  directories : List (List String) := []
deriving Inhabited

namespace FileTree

/-- The components of a name that are not empty. -/
def components (path : String) : List String := (Text.split '/' path).filter (· ≠ "")

/-- Adds a file. -/
def addFile (t : FileTree) (path : String) (bytes : List UInt8) : FileTree :=
  let key := Path.parts path
  { t with files := (t.files.filter (·.1 != key)) ++ [(key, bytes)] }

/-- Adds a directory. -/
def addDirectory (t : FileTree) (path : String) : FileTree :=
  { t with directories := t.directories ++ [Path.parts path] }

/-- Whether there is a directory; the root always is one. -/
def isDirectory (t : FileTree) (at_ : List String) : Bool :=
  at_.isEmpty || t.directories.any at_.isPrefixOf
    || t.files.any fun f => at_.isPrefixOf f.1 && at_ != f.1

/-- What a place holds. -/
def kindAt? (t : FileTree) (at_ : List String) : Option FileKind :=
  if (t.files.lookup at_).isSome then some .regular
  else if t.isDirectory at_ then some .directory
  else none

/-- Follows components from a place that holds something. -/
def follow (t : FileTree) (at_ : List String) : List String → Except FileCause (List String)
  | [] => .ok at_
  | c :: cs =>
    match t.kindAt? at_ with
    | none => .error .notFound
    | some .regular => .error .notDirectory
    | some .directory =>
      if c = "." then t.follow at_ cs
      else if c = ".." then t.follow at_.dropLast cs
      else t.follow (at_ ++ [c]) cs

/-- **The place of a name**, seen from a directory. The place itself need not hold anything; a slash
at the end asks for a directory. -/
def locate (t : FileTree) (workdir path : String) : Except FileCause (List String) := do
  if path = "" then throw .notFound
  let start := if Path.isAbsolute path then [] else Path.parts workdir
  let place ← t.follow start (components path)
  if path.toList.getLast? = some '/' && t.kindAt? place = some .regular then throw .notDirectory
  return place

/-- What a name stands for. -/
def stat (t : FileTree) (workdir path : String) : Except FileError FileKind :=
  (do
    let place ← t.locate workdir path
    match t.kindAt? place with
    | some kind => return kind
    | none => throw FileCause.notFound).mapError (⟨"stat", path, ·⟩)

/-- The bytes of a file. -/
def read (t : FileTree) (workdir path : String) : Except FileError (List UInt8) := do
  let place ← (t.locate workdir path).mapError (⟨"open", path, ·⟩)
  match t.files.lookup place with
  | some bytes => return bytes
  | none =>
    if t.isDirectory place then throw ⟨"read", path, .isDirectory⟩
    else throw ⟨"open", path, .notFound⟩

/-- Creates an empty file, in place of one that is there. -/
def create (t : FileTree) (workdir path : String) : Except FileError FileTree := do
  let place ← (t.locate workdir path).mapError (⟨"open", path, ·⟩)
  if t.isDirectory place then throw ⟨"open", path, .isDirectory⟩
  if !t.isDirectory place.dropLast then throw ⟨"open", path, .notFound⟩
  return { t with files := (t.files.filter (·.1 != place)) ++ [(place, [])] }

/-- Gives a file new contents; a name that stands for no file is passed over. -/
def write (t : FileTree) (workdir path : String) (bytes : List UInt8) : FileTree :=
  match t.locate workdir path with
  | .ok place => { t with files := t.files.map fun f => if f.1 = place then (place, bytes) else f }
  | .error _ => t

end FileTree

end CoreCheck

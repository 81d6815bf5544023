import CoreCheck.Text.Split

/-!
# Path — slash-separated file names

File names are handled by their components. Cleaning a name removes empty and `.` components and
resolves `..` against the component before it, so two clean names are equal exactly when they name
the same place without looking at the file system.
-/

namespace CoreCheck.Path

open CoreCheck.Text (split join)

/-- Whether a name starts at the root. -/
def isAbsolute (path : String) : Bool := path.toList.head? == some '/'

/-- One component met while cleaning; the stack holds the components so far, last one first. -/
def push (rooted : Bool) (stack : List String) (part : String) : List String :=
  if part = "" ∨ part = "." then stack
  else if part = ".." then
    match stack with
    | [] => if rooted then [] else [".."]
    | top :: rest => if top = ".." then ".." :: stack else rest
  else part :: stack

/-- The components of a name after cleaning. -/
def parts (path : String) : List String :=
  ((split '/' path).foldl (push (isAbsolute path)) []).reverse

/-- A name from its root mark and its components; a name without components is `.` or the root. -/
def ofParts (rooted : Bool) (components : List String) : String :=
  if rooted then "/" ++ join "/" components
  else if components.isEmpty then "." else join "/" components

/-- **The shortest name of the same place.** -/
def clean (path : String) : String := ofParts (isAbsolute path) (parts path)

/-- Puts two names together and cleans the result; empty names are left out. -/
def append (base name : String) : String :=
  if base = "" then (if name = "" then "" else clean name)
  else if name = "" then clean base
  else clean (base ++ "/" ++ name)

/-- A name seen from a directory: absolute names stay. -/
def absolute (workdir path : String) : String :=
  if isAbsolute path then clean path else append workdir path

/-- The characters after the last slash. -/
def lastChars (path : String) : List Char :=
  (path.toList.reverse.takeWhile (· != '/')).reverse

/-- The directory part of a name, cleaned. -/
def directory (path : String) : String :=
  clean (String.ofList ((path.toList.reverse.dropWhile (· != '/')).reverse))

/-- The last component of a name; `.` for the empty name and `/` for slashes only. -/
def base (path : String) : String :=
  if path = "" then "."
  else
    let trimmed := (path.toList.reverse.dropWhile (· == '/')).reverse
    if trimmed.isEmpty then "/" else String.ofList (lastChars (String.ofList trimmed))

/-- The extension of a name with its dot, or the empty text. -/
def extension (path : String) : String :=
  let name := (lastChars path).reverse
  if name.contains '.' then String.ofList ((name.takeWhile (· != '.')).reverse.cons '.') else ""

/-- What is left of two lists behind the front that they have in common. -/
def dropCommon : List String → List String → List String × List String
  | b :: bs, p :: ps => if b = p then dropCommon bs ps else (b :: bs, p :: ps)
  | bs, ps => (bs, ps)

/-- **The name of `path` seen from `base`**: up from `base` to the last directory that both lie in,
and from there down to `path`. There is none if only one of the two starts at the root, or if the way
up would have to undo a `..`. -/
def seenFrom? (base path : String) : Option String :=
  if isAbsolute base != isAbsolute path then none
  else
    let (up, down) := dropCommon (parts base) (parts path)
    if up.contains ".." then none
    else some (ofParts false (up.map (fun _ => "..") ++ down))

/-- **An absolute path is shown as it is seen from a base directory**, unless the way there goes up.
That is told from how the relative name starts: one that starts with two dots is not used. -/
def relative (path base : String) : String :=
  if path = "" || base = "" || !isAbsolute path then path
  else
    match seenFrom? base path with
    | some name => if "..".toList.isPrefixOf name.toList then path else name
    | none => path

end CoreCheck.Path

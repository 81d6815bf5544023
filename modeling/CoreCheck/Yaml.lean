import CoreCheck.Document.JsonText
import CoreCheck.Text.Utf8

/-!
# Yaml — the plain part of YAML

Maps and lists, in blocks or in brackets, over plain and quoted scalars, with comments and a mark at
the start of the document. A scalar keeps its text; whether it was quoted decides if it can stand
for nothing at all. Anchors, tags and scalars over several lines are not read.
-/

namespace CoreCheck.Yaml

open CoreCheck.Document.JsonText (hexValue?)

/-- **A value of a document.** -/
inductive Value where
  | plain (s : String)
  | quoted (s : String)
  | list (items : List Value)
  | map (members : List (String × Value))
deriving Inhabited

/-- Whether a value is nothing: left out, or written as such. -/
def Value.isNull : Value → Bool
  | .plain s => ["", "~", "null", "Null", "NULL"].contains s
  | _ => false

/-! ## Lines -/

/-- Spaces and tabs. -/
def isSpace (c : Char) : Bool := c == ' ' || c == '\t'

/-- The rest of a text after the end of its line. -/
def nextLine (cs : List Char) : List Char := (cs.dropWhile (· != '\n')).drop 1

/-- Whether the rest of a line is blank or a comment. -/
def endsLine (cs : List Char) : Bool :=
  match cs.dropWhile isSpace with
  | [] => true
  | c :: _ => c == '\n' || c == '#'

/-- The rest of a text after a line that has nothing more to say. A comment needs a blank before
it. -/
def lineEnd? (cs : List Char) : Option (List Char) :=
  match cs with
  | '#' :: _ => none
  | cs => if endsLine cs then some (nextLine cs) else none

/-- Whether a line starts with a mark of three characters that ends there or before a blank. -/
def hasMark (mark : String) (cs : List Char) : Bool :=
  mark.toList.isPrefixOf cs &&
    match cs.drop 3 with
    | [] => true
    | c :: _ => isSpace c || c == '\n'

/-- **What comes next at the start of a line.** -/
inductive Next where
  /-- The end of the document. -/
  | done
  /-- A line with its indentation, from its first character that is not a space. -/
  | line (indent : Nat) (text : List Char)
  | malformed

/-- The next line that is neither blank nor a comment. -/
def next : Nat → List Char → Next
  | 0, _ => .malformed
  | fuel + 1, cs =>
    if cs.isEmpty || hasMark "---" cs || hasMark "..." cs then .done
    else if endsLine cs then next fuel (nextLine cs)
    else
      let indent := (cs.takeWhile (· == ' ')).length
      let text := cs.drop indent
      if text.head? == some '\t' then .malformed else .line indent text

/-! ## Scalars -/

/-- The character of an escape after its backslash, with the rest of the text. -/
def escape? : List Char → Option (Char × List Char)
  | '0' :: r => some (Char.ofNat 0, r)
  | 'a' :: r => some (Char.ofNat 7, r)
  | 'b' :: r => some (Char.ofNat 8, r)
  | 't' :: r => some ('\t', r)
  | '\t' :: r => some ('\t', r)
  | 'n' :: r => some ('\n', r)
  | 'v' :: r => some (Char.ofNat 11, r)
  | 'f' :: r => some (Char.ofNat 12, r)
  | 'r' :: r => some ('\r', r)
  | 'e' :: r => some (Char.ofNat 27, r)
  | ' ' :: r => some (' ', r)
  | '"' :: r => some ('"', r)
  | '/' :: r => some ('/', r)
  | '\\' :: r => some ('\\', r)
  | 'N' :: r => some (Char.ofNat 0x85, r)
  | '_' :: r => some (Char.ofNat 0xA0, r)
  | 'L' :: r => some (Char.ofNat 0x2028, r)
  | 'P' :: r => some (Char.ofNat 0x2029, r)
  | 'x' :: r => hex 2 r
  | 'u' :: r => hex 4 r
  | 'U' :: r => hex 8 r
  | _ => none
where
  /-- A character by a number of hexadecimal digits. -/
  hex (n : Nat) (r : List Char) : Option (Char × List Char) :=
    if r.length < n then none
    else
      match (r.take n).mapM hexValue? with
      | none => none
      | some ds =>
        let code := ds.foldl (fun n d => n * 16 + d) 0
        if code.isValidChar then some (Char.ofNat code, r.drop n) else none

/-- Reads a scalar in double quotes after its opening quote, on one line. -/
def doubleTail : Nat → List Char → List Char → Option (String × List Char)
  | 0, _, _ => none
  | _, _, [] => none
  | _, acc, '"' :: rest => some (String.ofList acc.reverse, rest)
  | fuel + 1, acc, '\\' :: rest => do
    let (c, rest) ← escape? rest
    doubleTail fuel (c :: acc) rest
  | fuel + 1, acc, c :: rest => if c == '\n' then none else doubleTail fuel (c :: acc) rest

/-- Reads a scalar in single quotes after its opening quote, on one line; a quote inside is written
twice. -/
def singleTail (acc : List Char) : List Char → Option (String × List Char)
  | [] => none
  | '\'' :: '\'' :: rest => singleTail ('\'' :: acc) rest
  | '\'' :: rest => some (String.ofList acc.reverse, rest)
  | c :: rest => if c == '\n' then none else singleTail (c :: acc) rest

/-- Reads a quoted scalar. -/
def quoted? : List Char → Option (String × List Char)
  | '"' :: rest => doubleTail (rest.length + 1) [] rest
  | '\'' :: rest => singleTail [] rest
  | _ => none

/-- Whether a text may begin a plain scalar. -/
def startsPlain : List Char → Bool
  | [] => false
  | c :: rest =>
    if c == '-' || c == '?' || c == ':' then
      match rest with
      | [] => false
      | d :: _ => !(isSpace d || d == '\n')
    else !(",[]\x7b\x7d#&*!|>'\"%@\x60\n".toList.contains c)

/-- Whether a colon ends a key: a blank, a line end or, inside brackets, a bracket follows. -/
def endsKey (flow : Bool) : List Char → Bool
  | [] => true
  | c :: _ => isSpace c || c == '\n' || (flow && ",[]\x7b\x7d".toList.contains c)

/-- Takes the characters of a plain scalar, up to a line end, a comment, a colon that ends a key
and, inside brackets, a bracket or comma. -/
def plainChars (flow blank : Bool) : List Char → List Char × List Char
  | [] => ([], [])
  | c :: rest =>
    if c == '\n' || (c == '#' && blank) || (c == ':' && endsKey flow rest)
        || (flow && ",[]\x7b\x7d".toList.contains c) then ([], c :: rest)
    else
      let (taken, left) := plainChars flow (isSpace c) rest
      (c :: taken, left)

/-- Reads a plain scalar; blanks at its end do not belong to it. -/
def plain? (flow : Bool) (cs : List Char) : Option (String × List Char) :=
  if startsPlain cs then
    let (taken, left) := plainChars flow false cs
    let trimmed := (taken.reverse.dropWhile isSpace).reverse
    some (String.ofList trimmed, taken.drop trimmed.length ++ left)
  else none

/-- Reads the key of a map, with its colon. -/
def key? (flow : Bool) (cs : List Char) : Option (String × List Char) := do
  let (key, rest) ← match quoted? cs with
    | some r => some r
    | none => plain? flow cs
  match rest.dropWhile isSpace with
  | ':' :: rest => if endsKey flow rest then some (key, rest) else none
  | _ => none

/-! ## Brackets -/

/-- The rest of a text after blanks, line ends and comments. -/
def skipFlow : Nat → List Char → List Char
  | 0, cs => cs
  | fuel + 1, cs =>
    match cs.dropWhile fun c => isSpace c || c == '\n' with
    | '#' :: rest => skipFlow fuel (rest.dropWhile (· != '\n'))
    | rest => rest

mutual

/-- Reads a value inside brackets. -/
def flow? : Nat → List Char → Option (Value × List Char)
  | 0, _ => none
  | fuel + 1, cs =>
    match cs with
    | '[' :: rest => flowItems? fuel [] rest
    | '\x7b' :: rest => flowMembers? fuel [] rest
    | cs =>
      match quoted? cs with
      | some (s, rest) => some (.quoted s, rest)
      | none => (plain? true cs).map fun (s, rest) => (.plain s, rest)

/-- Reads the items of a list up to its closing bracket. -/
def flowItems? : Nat → List Value → List Char → Option (Value × List Char)
  | 0, _, _ => none
  | fuel + 1, acc, cs =>
    match skipFlow (cs.length + 1) cs with
    | ']' :: rest => some (.list acc.reverse, rest)
    | cs =>
      match flow? fuel cs with
      | none => none
      | some (v, rest) =>
        match skipFlow (rest.length + 1) rest with
        | ',' :: rest => flowItems? fuel (v :: acc) rest
        | ']' :: rest => some (.list (v :: acc).reverse, rest)
        | _ => none

/-- Reads the members of a map up to its closing bracket; a key alone stands for nothing. -/
def flowMembers? : Nat → List (String × Value) → List Char → Option (Value × List Char)
  | 0, _, _ => none
  | fuel + 1, acc, cs =>
    match skipFlow (cs.length + 1) cs with
    | '\x7d' :: rest => some (.map acc.reverse, rest)
    | cs =>
      match flowMember? fuel cs with
      | none => none
      | some (member, rest) =>
        match skipFlow (rest.length + 1) rest with
        | ',' :: rest => flowMembers? fuel (member :: acc) rest
        | '\x7d' :: rest => some (.map (member :: acc).reverse, rest)
        | _ => none

/-- Reads one member of a map in brackets. -/
def flowMember? : Nat → List Char → Option ((String × Value) × List Char)
  | 0, _ => none
  | fuel + 1, cs =>
    let keyed := match cs with
      | '"' :: _ =>
        -- Behind a quoted key the colon needs no blank after it.
        match quoted? cs with
        | some (key, rest) =>
          match skipFlow (rest.length + 1) rest with
          | ':' :: rest => some (key, rest)
          | _ => none
        | none => none
      | _ => key? true cs
    match keyed with
    | some (key, rest) =>
      match skipFlow (rest.length + 1) rest with
      | ',' :: rest => some ((key, .plain ""), ',' :: rest)
      | '\x7d' :: rest => some ((key, .plain ""), '\x7d' :: rest)
      | rest => (flow? fuel rest).map fun (v, rest) => ((key, v), rest)
    | none => (plain? true cs).map fun (key, rest) => ((key, .plain ""), rest)

end

/-! ## Blocks -/

/-- Whether a line holds an item of a list. -/
def isDash : List Char → Bool
  | '-' :: rest => rest.isEmpty || rest.head?.any fun c => isSpace c || c == '\n'
  | _ => false

/-- Reads a value that ends with its line. -/
def inline? (cs : List Char) : Option (Value × List Char) := do
  let (v, rest) ← match cs with
    | '[' :: _ => flow? (2 * cs.length + 2) cs
    | '\x7b' :: _ => flow? (2 * cs.length + 2) cs
    | cs =>
      match quoted? cs with
      | some (s, rest) => some (.quoted s, rest)
      | none => (plain? false cs).map fun (s, rest) => (.plain s, rest)
  return (v, ← lineEnd? rest)

mutual

/-- Reads the value of a block that is indented at least so far; what is indented less leaves
nothing. -/
def block? : Nat → Nat → List Char → Option (Value × List Char)
  | 0, _, _ => none
  | fuel + 1, least, cs =>
    match next (cs.length + 1) cs with
    | .done => some (.plain "", cs)
    | .malformed => none
    | .line indent text =>
      if indent < least then some (.plain "", cs)
      else if isDash text then items? fuel indent [] cs
      else if (key? false text).isSome then members? fuel indent [] cs
      else inline? text

/-- Reads the items of a list at an indentation. -/
def items? : Nat → Nat → List Value → List Char → Option (Value × List Char)
  | 0, _, _, _ => none
  | fuel + 1, indent, acc, cs =>
    match next (cs.length + 1) cs with
    | .malformed => none
    | .line n text =>
      if n = indent && isDash text then
        match block? fuel (indent + 1) (List.replicate (indent + 1) ' ' ++ text.drop 1) with
        | none => none
        | some (v, rest) => items? fuel indent (v :: acc) rest
      else if indent < n then none
      else some (.list acc.reverse, cs)
    | .done => some (.list acc.reverse, cs)

/-- Reads the members of a map at an indentation. The value of a key may be a list at the same
indentation. -/
def members? : Nat → Nat → List (String × Value) → List Char → Option (Value × List Char)
  | 0, _, _, _ => none
  | fuel + 1, indent, acc, cs =>
    match next (cs.length + 1) cs with
    | .malformed => none
    | .done => some (.map acc.reverse, cs)
    | .line n text =>
      if n < indent then some (.map acc.reverse, cs)
      else if indent < n then none
      else
        match key? false text with
        | none => none
        | some (key, rest) =>
          match memberValue? fuel indent rest with
          | none => none
          | some (v, rest) => members? fuel indent ((key, v) :: acc) rest

/-- Reads the value after a key. -/
def memberValue? : Nat → Nat → List Char → Option (Value × List Char)
  | 0, _, _ => none
  | fuel + 1, indent, cs =>
    if endsLine cs then
      let rest := nextLine cs
      match next (rest.length + 1) rest with
      | .line n text =>
        if n = indent && isDash text then items? fuel indent [] rest
        else block? fuel (indent + 1) rest
      | _ => block? fuel (indent + 1) rest
    else inline? (cs.dropWhile isSpace)

end

/-- Line ends written with a carriage return become plain ones. -/
def plainLines : List Char → List Char
  | [] => []
  | '\r' :: '\n' :: rest => '\n' :: plainLines rest
  | '\r' :: rest => '\n' :: plainLines rest
  | c :: rest => c :: plainLines rest

/-- What follows the mark at the start of a document. The mark counts as blanks, so that a value
may stand on its line. -/
def afterStart : Nat → List Char → List Char
  | 0, cs => cs
  | fuel + 1, cs =>
    if hasMark "---" cs then "   ".toList ++ cs.drop 3
    else if !cs.isEmpty && (endsLine cs || cs.head? == some '%') then afterStart fuel (nextLine cs)
    else cs

/-- **Reads the first document of a text**, or answers `none` when it is not well formed. An empty
document is nothing. -/
def ofChars? (cs : List Char) : Option Value := do
  let cs := plainLines cs
  let cs := afterStart (cs.length + 1) cs
  let (v, rest) ← block? (2 * cs.length + 4) 0 cs
  match next (rest.length + 1) rest with
  | .done => some v
  | _ => none

/-- Reads a document from bytes, which must be UTF-8; a mark at the front is skipped. -/
def ofBytes? (bytes : List UInt8) : Option Value :=
  if Text.isValidUtf8 bytes then
    match Text.lossy bytes with
    | c :: rest => if c.toNat = 0xFEFF then ofChars? rest else ofChars? (c :: rest)
    | [] => some (.plain "")
  else none

end CoreCheck.Yaml

import CoreCheck.Text.Utf8
import CoreCheck.Toml.Lexeme

/-!
# Toml/Reader — from text to tables

A text is read as a list of statements, table headers and assignments, and the statements are then
carried out in order. A key is defined once, with two exceptions: a table that only came about on
the way to another key may still be given its own header, and an array gives way to a later value as
any value gives way to a later array.
-/

namespace CoreCheck.Toml

/-! ## Statements -/

/-- **A value as it is written.** -/
inductive Written where
  | text (s : String)
  | int (n : Int)
  | bool (b : Bool)
  | other
  | array (items : List Written)
  /-- A table on one line. -/
  | inline (members : List (Key × Written))
deriving Inhabited

/-- **A line of a document.** -/
inductive Statement where
  | header (key : Key)
  /-- A header that may be repeated. -/
  | repeated (key : Key)
  | assign (key : Key) (value : Written)

/-- The characters that end a word. -/
def endsWord (c : Char) : Bool := " \t\n\r,]\x7d#".toList.contains c

/-- Reads a word: a truth value, a number or a date. -/
def word? (cs : List Char) : Option (Written × List Char) :=
  let word := cs.takeWhile (!endsWord ·)
  let rest := cs.drop word.length
  if word == "true".toList then some (.bool true, rest)
  else if word == "false".toList then some (.bool false, rest)
  else
    match int? word with
    | some n => some (.int n, rest)
    | none => if isFraction word || isDate word then some (.other, rest) else none

mutual

/-- Reads a value. -/
def value? : Nat → List Char → Option (Written × List Char)
  | 0, _ => none
  | fuel + 1, cs =>
    match cs with
    | [] => none
    | '[' :: rest => items? fuel [] rest
    | '\x7b' :: rest =>
      match skipSpace rest with
      | '\x7d' :: rest => some (.inline [], rest)
      | rest => members? fuel [] rest
    | c :: rest =>
      if c == '"' || c == '\'' then (string? (c :: rest)).map fun (s, r) => (.text s, r)
      else word? (c :: rest)

/-- Reads the items of an array up to its closing bracket; they may stand on lines of their own. -/
def items? : Nat → List Written → List Char → Option (Written × List Char)
  | 0, _, _ => none
  | fuel + 1, acc, cs =>
    match skipLines (cs.length + 1) cs with
    | ']' :: rest => some (.array acc.reverse, rest)
    | cs =>
      match value? fuel cs with
      | none => none
      | some (v, rest) =>
        match skipLines (rest.length + 1) rest with
        | ',' :: rest => items? fuel (v :: acc) rest
        | ']' :: rest => some (.array (v :: acc).reverse, rest)
        | _ => none

/-- Reads the members of a table on one line up to its closing bracket. -/
def members? : Nat → List (Key × Written) → List Char → Option (Written × List Char)
  | 0, _, _ => none
  | fuel + 1, acc, cs =>
    match key? (cs.length + 1) cs with
    | some (key, '=' :: rest) =>
      match value? fuel (skipSpace rest) with
      | none => none
      | some (v, rest) =>
        match skipSpace rest with
        | ',' :: rest => members? fuel ((key, v) :: acc) rest
        | '\x7d' :: rest => some (.inline ((key, v) :: acc).reverse, rest)
        | _ => none
    | _ => none

end

/-- Reads one statement with the end of its line. -/
def statement? (cs : List Char) : Option (Statement × List Char) :=
  match cs with
  | '[' :: '[' :: rest => do
    match ← key? (rest.length + 1) rest with
    | (key, ']' :: ']' :: rest) => return (.repeated key, ← lineEnd? rest)
    | _ => none
  | '[' :: rest => do
    match ← key? (rest.length + 1) rest with
    | (key, ']' :: rest) => return (.header key, ← lineEnd? rest)
    | _ => none
  | cs => do
    match ← key? (cs.length + 1) cs with
    | (key, '=' :: rest) =>
      let (v, rest) ← value? (2 * rest.length + 2) (skipSpace rest)
      return (.assign key v, ← lineEnd? rest)
    | _ => none

/-- Reads all statements. -/
def statements? : Nat → List Char → Option (List Statement)
  | 0, _ => none
  | fuel + 1, cs =>
    match skipLines (cs.length + 1) cs with
    | [] => if cs.contains '#' && (lastComment? cs).isNone then none else some []
    | cs => do
      let (s, rest) ← statement? cs
      return s :: (← statements? fuel rest)
where
  /-- Whether all comments in what is left are well formed. -/
  lastComment? (cs : List Char) : Option Unit :=
    if cs.any fun c => isControl c && c != '\n' && c != '\r' then none else some ()

/-! ## Carrying statements out -/

/-- Sets a member of a table, at the end if it is new. -/
def setMember (t : Table) (key : String) (v : Value) : Table :=
  match t with
  | [] => [(key, v)]
  | (k, w) :: rest => if k = key then (k, v) :: rest else (k, w) :: setMember rest key v

/-- Changes the table at a path. Of repeated tables the last one is meant. -/
def changeAt : Key → (Table → Option Table) → Table → Option Table
  | [], f, t => f t
  | k :: ks, f, t =>
    match t.lookup k with
    | some (.table u) => (changeAt ks f u).map fun u => setMember t k (.table u)
    | some (.tables us) =>
      match us.reverse with
      | last :: before => (changeAt ks f last).map fun u =>
          setMember t k (.tables (before.reverse ++ [u]))
      | [] => none
    | _ => none

/-- **A document under construction**, with the tables that only came about on the way and the keys
that hold arrays. -/
structure Builder where
  document : Document := {}
  implicit : List Key := []
  arrays : List Key := []

namespace Builder

/-- Whether the table at a path has a member. -/
def has (b : Builder) (context : Key) (key : String) : Bool :=
  (changeAt context (fun t => if (t.lookup key).isSome then some t else none)
    b.document.root).isSome

/-- Sets a member of the table at a path. A member that is there already is replaced if it counts as
an array; it stays if it is a table that only came about on the way, which then counts as defined;
otherwise it is an error. -/
def put (b : Builder) (context : Key) (key : String) (v : Value) : Option Builder :=
  let path := context ++ [key]
  if b.has context key && !b.arrays.contains path then
    if b.implicit.contains path then some { b with implicit := b.implicit.erase path } else none
  else
    (changeAt context (fun t => some (setMember t key v)) b.document.root).map fun root =>
      { b with document := { b.document with root },
               implicit := if b.has context key then b.implicit.erase path else b.implicit }

/-- Notes whether a key counts as an array. -/
def counts (b : Builder) (path : Key) (array : Bool) : Builder :=
  { b with arrays := if array then path :: b.arrays.erase path else b.arrays.erase path }

/-- Makes sure that there is a table at a path; a new one only came about on the way. -/
def passThrough (b : Builder) (context : Key) (key : String) : Option Builder :=
  (changeAt context (fun t =>
    match t.lookup key with
    | none => some (setMember t key (.table []))
    | some (.table _) | some (.tables _) => some t
    | some _ => none) b.document.root).map fun root =>
      { b with
        document := { b.document with root }
        implicit := if b.has context key then b.implicit else (context ++ [key]) :: b.implicit }

/-- Makes sure of all tables on the way to a key. -/
def passAll (b : Builder) (context : Key) : Key → Option Builder
  | [] => some b
  | k :: ks => (b.passThrough context k).bind fun b => b.passAll (context ++ [k]) ks

/-- Opens the table of a header. -/
def openTable (b : Builder) (key : Key) : Option Builder := do
  let parent := key.dropLast
  let b ← b.passAll [] parent
  let b ← b.put parent (key.getLast?.getD "") (.table [])
  return { b.counts key false with
    document := { b.document with keys := b.document.keys ++ [key] } }

/-- Opens one more table of a repeated header. -/
def openRepeated (b : Builder) (key : Key) : Option Builder := do
  let parent := key.dropLast
  let name := key.getLast?.getD ""
  let b ← b.passAll [] parent
  let root ← changeAt parent (fun t =>
    match t.lookup name with
    | none => some (setMember t name (.tables [[]]))
    | some (.tables us) => some (setMember t name (.tables (us ++ [[]])))
    | some _ => none) b.document.root
  return { b with document := { root, keys := b.document.keys ++ [key] } }

/-- Notes that a key was written. -/
def note (b : Builder) (key : Key) : Builder :=
  { b with document := { b.document with keys := b.document.keys ++ [key] } }

/-- Makes the tables of a dotted key. Each counts as being on the way once more, so that a later
header may still define it. -/
def dotted (b : Builder) (context : Key) : Key → Option Builder
  | [] => some b
  | k :: ks =>
    let path := context ++ [k]
    (({ b with implicit := path :: b.implicit.erase path }).put context k (.table [])).bind
      fun b => b.dotted path ks

mutual

/-- Carries out an assignment. -/
def assign (b : Builder) (context key : Key) : Written → Option Builder
  | .inline members => do
    let parent := context ++ key.dropLast
    let name := key.getLast?.getD ""
    let b ← b.dotted context key.dropLast
    let b := b.note (parent ++ [name])
    if b.has parent name then none
    else
      let b ← b.put parent name (.table [])
      assignAll b (parent ++ [name]) members
  | .array items => do
    let parent := context ++ key.dropLast
    let name := key.getLast?.getD ""
    let b ← b.dotted context key.dropLast
    ((b.note (parent ++ [name])).counts (parent ++ [name]) true).put parent name
      (.array (plainAll items))
  | v => do
    let parent := context ++ key.dropLast
    let name := key.getLast?.getD ""
    let b ← b.dotted context key.dropLast
    let b ← (b.note (parent ++ [name])).put parent name (plain v)
    return b.counts (parent ++ [name]) false

/-- Carries out the assignments of a table on one line. -/
def assignAll (b : Builder) (context : Key) : List (Key × Written) → Option Builder
  | [] => some b
  | (key, v) :: rest => (assign b context key v).bind fun b => assignAll b context rest

/-- The value of a written value that is no table of its own. -/
def plain : Written → Value
  | .text s => .text s
  | .int n => .int n
  | .bool b => .bool b
  | .other => .other
  | .array items => .array (plainAll items)
  | .inline _ => .table []

/-- The values of an array. -/
def plainAll : List Written → List Value
  | [] => []
  | v :: rest => plain v :: plainAll rest

end

/-- Carries statements out in order, under the header met last. -/
def run (b : Builder) (context : Key) : List Statement → Option Builder
  | [] => some b
  | .header key :: rest => (b.openTable key).bind fun b => b.run key rest
  | .repeated key :: rest => (b.openRepeated key).bind fun b => b.run key rest
  | .assign key v :: rest => (b.assign context key v).bind fun b => b.run context rest

end Builder

/-- **Reads a document**, or answers `none` when the text is not well formed. -/
def Document.ofChars? (cs : List Char) : Option Document := do
  let statements ← statements? (cs.length + 1) cs
  return (← Builder.run {} [] statements).document

/-- Reads a document from bytes, which must be UTF-8; a mark at the front is skipped. -/
def Document.ofBytes? (bytes : List UInt8) : Option Document :=
  if Text.isValidUtf8 bytes then
    match Text.lossy bytes with
    | c :: rest => if c.toNat = 0xFEFF then ofChars? rest else ofChars? (c :: rest)
    | [] => some {}
  else none

end CoreCheck.Toml

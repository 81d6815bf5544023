import CoreCheck.Text.Label
import CoreCheck.Text.Quoted
import CoreCheck.Text.Split

/-!
# Toml — configuration files as tables

A TOML document is a table of values, some of them tables again. Besides the values the document
remembers which keys were written, in order, so that keys nobody asked for can be named. A shape
says what a part of a document should look like; known keys match it in any case.
-/

namespace CoreCheck.Toml

/-- A dotted key, as its parts. -/
abbrev Key := List String

/-- Whether a character may stand in a key without quotes. -/
def isBare (c : Char) : Bool := c.isAlphanum || c == '_' || c == '-'

/-- One character of a key in quotes. -/
def escapeKeyChar (c : Char) : List Char :=
  match c with
  | '"' => ['\\', '"']
  | '\\' => ['\\', '\\']
  | '\n' => ['\\', 'n']
  | '\r' => ['\\', 'r']
  | '\t' => ['\\', 't']
  | _ =>
    if c.toNat = 8 then ['\\', 'b']
    else if c.toNat = 12 then ['\\', 'f']
    else if c.toNat < 0x20 || c.toNat = 0x7f then '\\' :: 'u' :: Text.hexDigits 4 c.toNat
    else [c]

/-- A part of a key as it is shown, in quotes where it needs them. -/
def partText (s : String) : String :=
  if s ≠ "" && s.toList.all isBare then s
  else String.ofList ('"' :: (s.toList.flatMap escapeKeyChar ++ ['"']))

/-- A key as it is shown. -/
def keyText (k : Key) : String := Text.join "." (k.map partText)

/-- **A value of a document.** -/
inductive Value where
  | text (s : String)
  | int (n : Int)
  | bool (b : Bool)
  /-- A fraction or a date, of which nothing is used. -/
  | other
  | array (items : List Value)
  | table (members : List (String × Value))
  /-- Tables that were written under one repeated header. -/
  | tables (items : List (List (String × Value)))
deriving Inhabited

/-- A table: its keys with their values. -/
abbrev Table := List (String × Value)

/-- **A document**: its values, and every key that was written, in order. -/
structure Document where
  root : Table := []
  keys : List Key := []
deriving Inhabited

/-- The value at a path of keys. -/
def Table.at? (t : Table) : Key → Option Value
  | [] => some (.table t)
  | k :: ks =>
    match t.lookup k, ks with
    | none, _ => none
    | some v, [] => some v
    | some (.table u), ks => Table.at? u ks
    | some _, _ :: _ => none

/-- Whether a key was written, in exactly this spelling. -/
def Document.isSet (d : Document) (k : Key) : Bool := (Table.at? d.root k).isSome

/-! ## Shapes -/

/-- **What a part of a document should look like.** -/
inductive Shape where
  | text | texts | int | bool
  | record (fields : List (String × Shape))

/-- A field and what it should look like: the one of the same spelling, else one that differs in
case only. -/
def field? (fields : List (String × Shape)) (key : String) : Option Shape :=
  match fields.lookup key with
  | some s => some s
  | none => (fields.find? fun f => Text.spells key f.1).map (·.2)

/-- Whether a value is a text. -/
def Value.isText : Value → Bool
  | .text _ => true
  | _ => false

mutual

/-- **The keys of a value that its shape knows**, or `none` when the value has another shape. The
shape is taken apart with the value, so the nesting of the value ends the walk. -/
def known (path : Key) : Value → Shape → Option (List Key)
  | .text _, .text => some []
  | .int _, .int => some []
  | .bool _, .bool => some []
  | .array items, .texts => if items.all Value.isText then some [] else none
  | .table members, .record fields => knownMembers path fields members
  | _, _ => none

/-- The known keys of the members of a table. -/
def knownMembers (path : Key) (fields : List (String × Shape)) :
    List (String × Value) → Option (List Key)
  | [] => some []
  | (key, v) :: rest =>
    match field? fields key with
    | none => knownMembers path fields rest
    | some shape =>
      match known (path ++ [key]) v shape, knownMembers path fields rest with
      | some inner, some more => some ((path ++ [key]) :: (inner ++ more))
      | _, _ => none

end

/-- **The keys of a document that its shape does not know**, in the order in which they were
written; `none` when a known key has a value of another shape. -/
def Document.strangers (d : Document) (fields : List (String × Shape)) : Option (List Key) :=
  (knownMembers [] fields d.root).map fun ks => d.keys.filter (!ks.contains ·)

/-! ## Known values -/

/-- The value of a known key, in any case. -/
def Table.field? (t : Table) (name : String) : Option Value :=
  match t.lookup name with
  | some v => some v
  | none => (t.find? fun m => Text.spells m.1 name).map (·.2)

/-- The table of a known key; without one it is empty. -/
def Table.part (t : Table) (name : String) : Table :=
  match Table.field? t name with
  | some (.table u) => u
  | _ => []

/-- The text of a known key. -/
def Table.textOf (t : Table) (name : String) : String :=
  match Table.field? t name with
  | some (.text s) => s
  | _ => ""

/-- The texts of a known key. -/
def Table.textsOf (t : Table) (name : String) : List String :=
  match Table.field? t name with
  | some (.array items) => items.filterMap fun
    | .text s => some s
    | _ => none
  | _ => []

/-- The truth value of a known key. -/
def Table.boolOf (t : Table) (name : String) : Bool :=
  match Table.field? t name with
  | some (.bool b) => b
  | _ => false

/-- The number of a known key. -/
def Table.intOf (t : Table) (name : String) : Int :=
  match Table.field? t name with
  | some (.int n) => n
  | _ => 0

end CoreCheck.Toml

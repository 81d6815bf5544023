import CoreCheck.Document
import CoreCheck.Text.Utf8

/-!
# Document/JsonText — documents written as JSON

Reads the JSON grammar strictly. Numbers keep their text, and containers nest up to ten thousand
deep. What a key written twice means is for the caller to say: mostly its last value counts. A
surrogate escape without its partner stands for the replacement character.
-/

namespace CoreCheck.Document.JsonText

/-- The white space of the format. -/
def isSpace (c : Char) : Bool := c == ' ' || c == '\t' || c == '\r' || c == '\n'

/-- Drops white space at the front. -/
def skip (cs : List Char) : List Char := cs.dropWhile isSpace

/-- The value of a hexadecimal digit. -/
def hexValue? (c : Char) : Option Nat :=
  if isDigit c then some (c.toNat - 48)
  else if 'a' ≤ c && c ≤ 'f' then some (c.toNat - 87)
  else if 'A' ≤ c && c ≤ 'F' then some (c.toNat - 55)
  else none

/-- The number of four hexadecimal digits. -/
def hexUnit? (a b c d : Char) : Option Nat := do
  let w ← hexValue? a
  let x ← hexValue? b
  let y ← hexValue? c
  let z ← hexValue? d
  return ((w * 16 + x) * 16 + y) * 16 + z

/-- A piece of a string: a character, or a code unit given by an escape. -/
inductive Piece where
  | char (c : Char)
  | unit (n : Nat)

/-- The characters of a string: two escapes that form a surrogate pair are one character. -/
def joinPieces : List Piece → List Char
  | [] => []
  | .char c :: rest => c :: joinPieces rest
  | .unit hi :: .unit lo :: rest =>
    if 0xD800 ≤ hi && hi < 0xDC00 && 0xDC00 ≤ lo && lo < 0xE000 then
      Char.ofNat (0x10000 + (hi - 0xD800) * 0x400 + (lo - 0xDC00)) :: joinPieces rest
    else if 0xD800 ≤ hi && hi < 0xE000 then Text.replacement :: joinPieces (.unit lo :: rest)
    else Char.ofNat hi :: joinPieces (.unit lo :: rest)
  | .unit n :: rest =>
    (if 0xD800 ≤ n && n < 0xE000 then Text.replacement else Char.ofNat n) :: joinPieces rest

/-- Reads a string after its opening quote; the pieces so far are in reverse. -/
def stringTail (acc : List Piece) : List Char → Option (String × List Char)
  | [] => none
  | '"' :: rest => some (String.ofList (joinPieces acc.reverse), rest)
  | '\\' :: 'u' :: a :: b :: c :: d :: rest =>
    match hexUnit? a b c d with
    | some n => stringTail (.unit n :: acc) rest
    | none => none
  | '\\' :: e :: rest =>
    match e with
    | '"' => stringTail (.char '"' :: acc) rest
    | '\\' => stringTail (.char '\\' :: acc) rest
    | '/' => stringTail (.char '/' :: acc) rest
    | 'b' => stringTail (.char (Char.ofNat 8) :: acc) rest
    | 'f' => stringTail (.char (Char.ofNat 12) :: acc) rest
    | 'n' => stringTail (.char '\n' :: acc) rest
    | 'r' => stringTail (.char '\r' :: acc) rest
    | 't' => stringTail (.char '\t' :: acc) rest
    | _ => none
  | c :: rest => if c.toNat < 0x20 || c == '\\' then none else stringTail (.char c :: acc) rest

/-- Reads at least one digit. -/
def digits1? (cs : List Char) : Option (List Char × List Char) :=
  let ds := cs.takeWhile isDigit
  if ds.isEmpty then none else some (ds, cs.dropWhile isDigit)

/-- The whole part of a number: a lone zero, or digits that do not start with one. -/
def wholePart? (cs : List Char) : Option (List Char × List Char) :=
  match cs with
  | '0' :: rest => some (['0'], rest)
  | cs => digits1? cs

/-- The fraction of a number, if there is one. -/
def fractionPart? (cs : List Char) : Option (List Char × List Char) :=
  match cs with
  | '.' :: rest => do
    let (ds, rest) ← digits1? rest
    return ('.' :: ds, rest)
  | cs => some ([], cs)

/-- The exponent of a number, if there is one. -/
def exponentPart? (cs : List Char) : Option (List Char × List Char) :=
  match cs with
  | e :: rest =>
    if e == 'e' || e == 'E' then
      match rest with
      | '+' :: r => do
        let (ds, r) ← digits1? r
        return (e :: '+' :: ds, r)
      | '-' :: r => do
        let (ds, r) ← digits1? r
        return (e :: '-' :: ds, r)
      | r => do
        let (ds, r) ← digits1? r
        return (e :: ds, r)
    else some ([], cs)
  | [] => some ([], [])

/-- Reads a number and keeps its text. -/
def number? (cs : List Char) : Option (Value × List Char) := do
  let (sign, cs) := match cs with
    | '-' :: r => (['-'], r)
    | r => ([], r)
  let (whole, cs) ← wholePart? cs
  let (frac, cs) ← fractionPart? cs
  let (exp, cs) ← exponentPart? cs
  return (.number (.written (String.ofList (sign ++ whole ++ frac ++ exp))), cs)

/-- Drops a fixed word from the front. -/
def word? (w : List Char) (v : Value) (cs : List Char) : Option (Value × List Char) :=
  if w.isPrefixOf cs then some (v, cs.drop w.length) else none

/-- How deep containers may nest. -/
def maxDepth : Nat := 10000

/-- How one more member is put to the members so far. -/
abbrev Adding := List (String × Value) → String → Value → List (String × Value)

mutual
/-- Reads one value; `depth` counts the containers around it. Every call takes a character or
follows one that did, so the length of the text bounds the calls. -/
def value? (add : Adding) : Nat → Nat → List Char → Option (Value × List Char)
  | 0, _, _ => none
  | fuel + 1, depth, cs =>
    match skip cs with
    | [] => none
    | '"' :: rest => (stringTail [] rest).map fun (s, r) => (.text s, r)
    | '[' :: rest =>
      if maxDepth ≤ depth then none
      else
        match skip rest with
        | ']' :: r => some (.array [], r)
        | r => items? add fuel (depth + 1) [] r
    | '\x7b' :: rest =>
      if maxDepth ≤ depth then none
      else
        match skip rest with
        | '\x7d' :: r => some (.object [], r)
        | r => members? add fuel (depth + 1) [] r
    | 't' :: rest => word? ['r', 'u', 'e'] (.bool true) rest
    | 'f' :: rest => word? ['a', 'l', 's', 'e'] (.bool false) rest
    | 'n' :: rest => word? ['u', 'l', 'l'] .null rest
    | c :: rest => number? (c :: rest)
/-- Reads the items of a list up to its closing bracket; those so far are in reverse. -/
def items? (add : Adding) : Nat → Nat → List Value → List Char → Option (Value × List Char)
  | 0, _, _, _ => none
  | fuel + 1, depth, acc, cs =>
    match value? add fuel depth cs with
    | none => none
    | some (v, rest) =>
      match skip rest with
      | ',' :: r => items? add fuel depth (v :: acc) r
      | ']' :: r => some (.array (v :: acc).reverse, r)
      | _ => none
/-- Reads the members of an object up to its closing bracket. -/
def members? (add : Adding) :
    Nat → Nat → List (String × Value) → List Char → Option (Value × List Char)
  | 0, _, _, _ => none
  | fuel + 1, depth, acc, cs =>
    match skip cs with
    | '"' :: r =>
      match stringTail [] r with
      | none => none
      | some (key, r) =>
        match skip r with
        | ':' :: r =>
          match value? add fuel depth r with
          | none => none
          | some (v, rest) =>
            match skip rest with
            | ',' :: r => members? add fuel depth (add acc key v) r
            | '\x7d' :: r => some (.object (add acc key v), r)
            | _ => none
        | _ => none
    | _ => none
end

/-- Reads the value at the front of a text, with what follows it. -/
def front? (add : Adding) (cs : List Char) : Option (Value × List Char) :=
  value? add (2 * cs.length + 2) 0 cs

/-- The outcome of reading a text that should hold one document. -/
inductive Outcome where
  | document (v : Value)
  | invalid
  | trailing

/-- **Reads a text that holds one document** and nothing after it but white space. -/
def readWith (add : Adding) (cs : List Char) : Outcome :=
  match front? add cs with
  | none => .invalid
  | some (v, rest) => if (skip rest).isEmpty then .document v else .trailing

/-- Reads a document in which the last value of a key counts. -/
def read (cs : List Char) : Outcome := readWith setField cs

/-- Reads a document and keeps every member, also those of one key. -/
def readAll (cs : List Char) : Outcome := readWith (fun ms key v => ms ++ [(key, v)]) cs

end CoreCheck.Document.JsonText

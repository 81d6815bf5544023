import CoreCheck.Instant
import CoreCheck.Number.Binary64
import CoreCheck.Text.Split

/-!
# Document — trees of values as other programs write them

A document is a tree of nulls, booleans, numbers, texts, lists and objects. Numbers remember how
they were written, since only some of them count as integers: a number written in decimal counts
when its text is a plain integer, a binary one when its value is whole. A path of keys and indices
names a place inside a document.
-/

namespace CoreCheck.Document

/-- **A number as it was written.** -/
inductive Number where
  /-- In decimal, by its text. -/
  | written (text : String)
  /-- As a binary integer. -/
  | integer (value : Int)
  | double (x : Binary64)
  | single (bits : UInt32)
deriving DecidableEq

/-- The reading of a decimal number: sign, digits and power of ten. -/
structure Written where
  negative : Bool
  digits : List Char
  exponent : Int

/-- Splits the text of a decimal number. -/
def Written.ofChars (cs : List Char) : Written :=
  let (negative, cs) := match cs with
    | '-' :: r => (true, r)
    | r => (false, r)
  let whole := cs.takeWhile isDigit
  let rest := cs.dropWhile isDigit
  let (frac, rest) := match rest with
    | '.' :: r => (r.takeWhile isDigit, r.dropWhile isDigit)
    | r => ([], r)
  let exp : Int := match rest with
    | _ :: r => (readInt? r).getD 0
    | [] => 0
  ⟨negative, whole ++ frac, exp - frac.length⟩

namespace Number

/-- The integer that a number counts as, if it fits 64 bits. -/
def toInt? : Number → Option Int
  | .written t => (readInt? t.toList).filter fitsInt64
  | .integer n => if fitsInt64 n then some n else none
  | .double x => x.toInt?.bind fun n =>
      if fitsInt64 n then some n
      else if n = 9223372036854775808 then some (-9223372036854775808)
      else none
  | .single _ => none

/-- The double that a number stands for; decimals past the largest double stand for none. -/
def toDouble? : Number → Option Binary64
  | .written t =>
    let w := Written.ofChars t.toList
    Binary64.ofDecimal? w.negative (natOfDigits w.digits) w.exponent
  | .integer n => if fitsInt64 n then some (.ofInt n) else none
  | .double x => some x
  | .single b => some (.ofSingle b)

/-- The number in a message. -/
def text : Number → String
  | .written t => t
  | .integer n => intText n
  | .double x => x.general
  | .single b => Binary64.generalSingle b

end Number

/-- **A document.** -/
inductive Value where
  | null
  | bool (b : Bool)
  | number (n : Number)
  | text (s : String)
  | bytes (data : List UInt8)
  | instant (t : Instant)
  | array (items : List Value)
  | object (fields : List (String × Value))
deriving Inhabited

/-- A step from a value to a value inside it. -/
inductive Step where
  | key (name : String)
  | index (i : Nat)
deriving DecidableEq

/-- The written form of a path: keys divided by dots, indices in brackets. -/
def pathText : List Step → String
  | [] => ""
  | .key k :: rest => k ++ tailText rest
  | .index i :: rest => s!"[{i}]" ++ tailText rest
where
  tailText : List Step → String
    | [] => ""
    | .key k :: rest => "." ++ k ++ tailText rest
    | .index i :: rest => s!"[{i}]" ++ tailText rest

/-- The value of a key. -/
def field? (fields : List (String × Value)) (key : String) : Option Value :=
  fields.lookup key

/-- Sets a key, whether it is there or not. -/
def setField (fields : List (String × Value)) (key : String) (v : Value) : List (String × Value) :=
  match fields with
  | [] => [(key, v)]
  | (k, w) :: rest => if k = key then (key, v) :: rest else (k, w) :: setField rest key v

namespace Value

/-- What a value is called in messages. -/
def kindName : Value → String
  | .null => "null"
  | .text _ => "string"
  | .bool _ => "bool"
  | .array _ => "array"
  | .object _ => "object"
  | _ => "number"

/-- Whether a value is null. -/
def isNull : Value → Bool
  | .null => true
  | _ => false

/-- The value that a path leads to. -/
def at? (v : Value) : List Step → Option Value
  | [] => some v
  | .key k :: rest =>
    match v with
    | .object fields => (field? fields k).bind (at? · rest)
    | _ => none
  | .index i :: rest =>
    match v with
    | .array items => items[i]?.bind (at? · rest)
    | _ => none

mutual
/-- A value in a message: texts bare, lists in brackets, objects as a map by sorted keys. -/
def message : Value → String
  | .null => "<nil>"
  | .bool true => "true"
  | .bool false => "false"
  | .number n => n.text
  | .text s => s
  | .bytes data => "[" ++ Text.join " " (data.map fun b => intText b.toNat) ++ "]"
  | .instant t => t.plainText
  | .array items => "[" ++ Text.join " " (messages items) ++ "]"
  | .object fields =>
    let entries := (fieldMessages fields).mergeSort fun a b => a.1 ≤ b.1
    "map[" ++ Text.join " " (entries.map fun (k, v) => k ++ ":" ++ v) ++ "]"
/-- The items of a list in a message. -/
def messages : List Value → List String
  | [] => []
  | v :: rest => message v :: messages rest
/-- The fields of an object in a message. -/
def fieldMessages : List (String × Value) → List (String × String)
  | [] => []
  | (k, v) :: rest => (k, message v) :: fieldMessages rest
end

end Value

end CoreCheck.Document

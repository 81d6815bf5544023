import CoreCheck.Document.JsonText
import CoreCheck.Toml

/-!
# Toml/Lexeme — the smallest parts of a TOML text

White space, comments, strings, numbers and keys. Each reader answers what it read and the rest of
the text.
-/

namespace CoreCheck.Toml

open CoreCheck.Document.JsonText (hexValue?)

/-- The rest of a text after spaces and tabs. -/
def skipSpace (cs : List Char) : List Char := cs.dropWhile fun c => c == ' ' || c == '\t'

/-- Control characters, which may stand nowhere but for tabs and line ends. -/
def isControl (c : Char) : Bool := (c.toNat < 0x20 && c != '\t') || c.toNat == 0x7F

/-- The rest of a text after a line end, which it must start with. -/
def newline? : List Char → Option (List Char)
  | '\n' :: rest => some rest
  | '\r' :: '\n' :: rest => some rest
  | _ => none

/-- The rest of a text after a comment, if it starts with one. The line end stays. -/
def comment? : List Char → Option (List Char)
  | '#' :: rest =>
    let body := rest.takeWhile fun c => c != '\n' && c != '\r'
    if body.any isControl then none else some (rest.drop body.length)
  | cs => some cs

/-- The rest of a text after the end of a line: blanks, a comment, and a line end unless the text
ends there. -/
def lineEnd? (cs : List Char) : Option (List Char) :=
  match comment? (skipSpace cs) with
  | none => none
  | some [] => some []
  | some rest => newline? rest

/-- The rest of a text after blanks, comments and line ends. A comment that is not well formed ends
the text, so that what follows fails. -/
def skipLines : Nat → List Char → List Char
  | 0, cs => cs
  | fuel + 1, cs =>
    match skipSpace cs with
    | '#' :: rest =>
      match comment? ('#' :: rest) with
      | some rest => skipLines fuel rest
      | none => []
    | rest =>
      match newline? rest with
      | some rest => skipLines fuel rest
      | none => rest

/-- A character by its number, if there is one. -/
def charOf? (n : Nat) : Option Char := if n.isValidChar then some (Char.ofNat n) else none

/-- A character given by a number of hexadecimal digits. -/
def hexChar? (digits : List Char) : Option Char := do
  let ns ← digits.mapM hexValue?
  charOf? (ns.foldl (fun n d => n * 16 + d) 0)

/-- The character of an escape after its backslash, with the rest of the text. -/
def escape? : List Char → Option (Char × List Char)
  | 'b' :: rest => some (Char.ofNat 8, rest)
  | 't' :: rest => some ('\t', rest)
  | 'n' :: rest => some ('\n', rest)
  | 'f' :: rest => some (Char.ofNat 12, rest)
  | 'r' :: rest => some ('\r', rest)
  | '"' :: rest => some ('"', rest)
  | '\\' :: rest => some ('\\', rest)
  | 'u' :: rest =>
    if rest.length < 4 then none else (hexChar? (rest.take 4)).map (·, rest.drop 4)
  | 'U' :: rest =>
    if rest.length < 8 then none else (hexChar? (rest.take 8)).map (·, rest.drop 8)
  | _ => none

/-- Reads a string on one line after its opening quote; the characters so far are in reverse. -/
def basicTail : Nat → List Char → List Char → Option (String × List Char)
  | 0, _, _ => none
  | _, _, [] => none
  | _, acc, '"' :: rest => some (String.ofList acc.reverse, rest)
  | fuel + 1, acc, '\\' :: rest => do
    let (c, rest) ← escape? rest
    basicTail fuel (c :: acc) rest
  | fuel + 1, acc, c :: rest => if isControl c then none else basicTail fuel (c :: acc) rest

/-- Reads a string without escapes on one line after its opening quote. -/
def literalTail (cs : List Char) : Option (String × List Char) :=
  let body := cs.takeWhile (· != '\'')
  match cs.drop body.length with
  | '\'' :: rest => if body.any isControl then none else some (String.ofList body, rest)
  | _ => none

/-- Reads a string over several lines after its opening quotes. Three quotes end it; up to two more
belong to it. A backslash at the end of a line takes the blanks that follow with it. -/
def blockTail (quote : Char) (escapes : Bool) :
    Nat → List Char → List Char → Option (String × List Char)
  | 0, _, _ => none
  | fuel + 1, acc, cs =>
    match cs with
    | [] => none
    | c :: rest =>
      if c == quote && [quote, quote].isPrefixOf rest then
        let more := ((rest.drop 2).takeWhile (· == quote)).take 2
        some (String.ofList (acc.reverse ++ more), rest.drop (2 + more.length))
      else if escapes && c == '\\' then
        match newline? (skipSpace rest) with
        | some _ => blockTail quote escapes fuel acc
            (rest.dropWhile fun c => c == ' ' || c == '\t' || c == '\n' || c == '\r')
        | none =>
          match escape? rest with
          | some (e, rest) => blockTail quote escapes fuel (e :: acc) rest
          | none => none
      else
        match newline? cs with
        | some after => blockTail quote escapes fuel ('\n' :: acc) after
        | none => if isControl c then none else blockTail quote escapes fuel (c :: acc) rest

/-- The rest of a text without a line end at its front. -/
def afterNewline (cs : List Char) : List Char := (newline? cs).getD cs

/-- Reads a string of any of the four kinds. -/
def string? : List Char → Option (String × List Char)
  | '"' :: '"' :: '"' :: rest => blockTail '"' true (rest.length + 1) [] (afterNewline rest)
  | '\'' :: '\'' :: '\'' :: rest => blockTail '\'' false (rest.length + 1) [] (afterNewline rest)
  | '"' :: rest => basicTail (rest.length + 1) [] rest
  | '\'' :: rest => literalTail rest
  | _ => none

/-! ## Keys -/

/-- Reads one part of a key. -/
def keyPart? : List Char → Option (String × List Char)
  | '"' :: rest => basicTail (rest.length + 1) [] rest
  | '\'' :: rest => literalTail rest
  | cs =>
    let body := cs.takeWhile isBare
    if body.isEmpty then none else some (String.ofList body, cs.drop body.length)

/-- Reads a dotted key. -/
def key? : Nat → List Char → Option (Key × List Char)
  | 0, _ => none
  | fuel + 1, cs => do
    let (part, rest) ← keyPart? (skipSpace cs)
    match skipSpace rest with
    | '.' :: rest =>
      let (parts, rest) ← key? fuel rest
      return (part :: parts, rest)
    | rest => return ([part], rest)

/-! ## Numbers -/

/-- The digits of a number without the underscores between them. An underscore needs a digit on
each side. -/
def ungroup? (ok : Char → Bool) : Bool → List Char → Option (List Char)
  | after, [] => if after then some [] else none
  | after, '_' :: rest => if after then ungroup? ok false rest else none
  | _, c :: rest => if ok c then (ungroup? ok true rest).map (c :: ·) else none

/-- The value of digits in a base. -/
def digitsIn? (base : Nat) (cs : List Char) : Option Nat := do
  let ns ← (← ungroup? (fun c => (hexValue? c).any (· < base)) false cs).mapM hexValue?
  return ns.foldl (fun n d => n * base + d) 0

/-- Reads a whole number that fits 64 bits. -/
def int? (cs : List Char) : Option Int := do
  let n ← match cs with
    | '0' :: 'x' :: ds => (digitsIn? 16 ds).map Int.ofNat
    | '0' :: 'o' :: ds => (digitsIn? 8 ds).map Int.ofNat
    | '0' :: 'b' :: ds => (digitsIn? 2 ds).map Int.ofNat
    | '-' :: ds => if plainStart ds then (digitsIn? 10 ds).map fun n => -(n : Int) else none
    | '+' :: ds => if plainStart ds then (digitsIn? 10 ds).map Int.ofNat else none
    | ds => if plainStart ds then (digitsIn? 10 ds).map Int.ofNat else none
  if fitsInt64 n then some n else none
where
  /-- Only the number zero starts with a zero. -/
  plainStart : List Char → Bool
    | '0' :: _ :: _ => false
    | _ => true

/-- Whether a word is a number with a fraction or an exponent, or one of the special numbers. -/
def isFraction (cs : List Char) : Bool :=
  let unsigned := match cs with
    | '+' :: r => r
    | '-' :: r => r
    | r => r
  if unsigned == ['i', 'n', 'f'] || unsigned == ['n', 'a', 'n'] then true
  else
    let isE (c : Char) : Bool := c == 'e' || c == 'E'
    let head := unsigned.takeWhile fun c => !isE c
    let tail := unsigned.drop head.length
    let whole := head.takeWhile (· != '.')
    let frac := head.drop whole.length
    let digits (ds : List Char) : Bool := (ungroup? isDigit false ds).isSome
    let exponent := match tail with
      | [] => true
      | _ :: '+' :: ds => digits ds
      | _ :: '-' :: ds => digits ds
      | _ :: ds => digits ds
    digits whole && int?.plainStart whole && exponent
      && (match frac with
        | [] => !tail.isEmpty
        | _ :: ds => digits ds)

/-- Whether a word has the form of a date or a time of day. -/
def isDate (cs : List Char) : Bool :=
  let mark (i : Nat) (c : Char) : Bool := cs[i]? == some c
  let allowed := cs.all fun c => isDigit c || "-:.TtZz+".toList.contains c
  allowed && ((mark 4 '-' && mark 7 '-' && 10 ≤ cs.length) || (mark 2 ':' && 8 ≤ cs.length))

end CoreCheck.Toml

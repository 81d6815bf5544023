import CoreCheck.Document
import CoreCheck.Text.Utf8

/-!
# Document/Msgpack — documents written as MessagePack

Reads one value from the front of a byte list; what follows it is ignored. Keys of maps are texts.
Of the extension types only timestamps are known.
-/

namespace CoreCheck.Document.Msgpack

/-- Takes a fixed count of bytes from the front. -/
def take? (n : Nat) (bs : List UInt8) : Option (List UInt8 × List UInt8) :=
  if bs.length < n then none else some (bs.take n, bs.drop n)

/-- The number of bytes in big-endian order. -/
def natOf (bs : List UInt8) : Nat := bs.foldl (fun n b => n * 256 + b.toNat) 0

/-- Reads a number of `n` bytes. -/
def nat? (n : Nat) (bs : List UInt8) : Option (Nat × List UInt8) :=
  (take? n bs).map fun (data, rest) => (natOf data, rest)

/-- A number of `n` bytes as a signed one. -/
def signedOf (n value : Nat) : Int :=
  if value < pow2 (8 * n - 1) then value else (value : Int) - pow2 (8 * n)

/-- Reads an unsigned integer of `n` bytes. -/
def unsigned? (n : Nat) (bs : List UInt8) : Option (Value × List UInt8) :=
  (nat? n bs).map fun (v, rest) => (.number (.integer v), rest)

/-- Reads a signed integer of `n` bytes. -/
def signed? (n : Nat) (bs : List UInt8) : Option (Value × List UInt8) :=
  (nat? n bs).map fun (v, rest) => (.number (.integer (signedOf n v)), rest)

/-- The length of the text or byte string that a code opens. -/
def lengthOf? (code : UInt8) (bs : List UInt8) : Option (Nat × List UInt8) :=
  if code = 0xC0 then some (0, bs)
  else if 0xA0 ≤ code && code ≤ 0xBF then some (code.toNat - 0xA0, bs)
  else if code = 0xD9 || code = 0xC4 then nat? 1 bs
  else if code = 0xDA || code = 0xC5 then nat? 2 bs
  else if code = 0xDB || code = 0xC6 then nat? 4 bs
  else none

/-- Reads the text that a code opens. -/
def text? (code : UInt8) (bs : List UInt8) : Option (String × List UInt8) := do
  let (n, bs) ← lengthOf? code bs
  let (data, rest) ← take? n bs
  return (Text.ofBytes data, rest)

/-- Reads the byte string that a code opens. -/
def bytes? (code : UInt8) (bs : List UInt8) : Option (Value × List UInt8) := do
  let (n, bs) ← lengthOf? code bs
  let (data, rest) ← take? n bs
  return (.bytes data, rest)

/-- A timestamp from its four, eight or twelve bytes. -/
def timestamp? (data : List UInt8) : Option Value :=
  match data.length with
  | 4 => some (.instant ⟨natOf data, 0⟩)
  | 8 =>
    let n := natOf data
    some (.instant ⟨(n % pow2 34 : Nat), n / pow2 34⟩)
  | 12 => some (.instant ⟨signedOf 8 (natOf (data.drop 4)), natOf (data.take 4)⟩)
  | _ => none

/-- Reads an extension of `n` bytes, its type first. -/
def extension? (n : Nat) (bs : List UInt8) : Option (Value × List UInt8) :=
  match bs with
  | [] => none
  | kind :: bs =>
    if kind = 0xFF then do
      let (data, rest) ← take? n bs
      let v ← timestamp? data
      return (v, rest)
    else none

/-- Reads an extension whose length takes `n` bytes. -/
def sizedExtension? (n : Nat) (bs : List UInt8) : Option (Value × List UInt8) := do
  let (size, bs) ← nat? n bs
  extension? size bs

mutual
/-- Reads one value. A value takes a byte at least, so the length of the input bounds the calls. -/
def value? : Nat → List UInt8 → Option (Value × List UInt8)
  | _, [] => none
  | 0, _ => none
  | fuel + 1, code :: bs =>
    if code ≤ 0x7F then some (.number (.integer code.toNat), bs)
    else if 0xE0 ≤ code then some (.number (.integer ((code.toNat : Int) - 256)), bs)
    else if code ≤ 0x8F then fields? fuel (code.toNat - 0x80) [] bs
    else if code ≤ 0x9F then items? fuel (code.toNat - 0x90) [] bs
    else if code ≤ 0xBF then (text? code bs).map fun (s, r) => (.text s, r)
    else
      match code.toNat with
      | 0xC0 => some (.null, bs)
      | 0xC2 => some (.bool false, bs)
      | 0xC3 => some (.bool true, bs)
      | 0xC4 | 0xC5 | 0xC6 => bytes? code bs
      | 0xC7 => sizedExtension? 1 bs
      | 0xC8 => sizedExtension? 2 bs
      | 0xC9 => sizedExtension? 4 bs
      | 0xCA => (nat? 4 bs).map fun (v, r) => (.number (.single v.toUInt32), r)
      | 0xCB => (nat? 8 bs).map fun (v, r) => (.number (.double ⟨v.toUInt64⟩), r)
      | 0xCC => unsigned? 1 bs
      | 0xCD => unsigned? 2 bs
      | 0xCE => unsigned? 4 bs
      | 0xCF => unsigned? 8 bs
      | 0xD0 => signed? 1 bs
      | 0xD1 => signed? 2 bs
      | 0xD2 => signed? 4 bs
      | 0xD3 => signed? 8 bs
      | 0xD4 => extension? 1 bs
      | 0xD5 => extension? 2 bs
      | 0xD6 => extension? 4 bs
      | 0xD7 => extension? 8 bs
      | 0xD8 => extension? 16 bs
      | 0xD9 | 0xDA | 0xDB => (text? code bs).map fun (s, r) => (.text s, r)
      | 0xDC =>
        match nat? 2 bs with
        | some (n, r) => items? fuel n [] r
        | none => none
      | 0xDD =>
        match nat? 4 bs with
        | some (n, r) => items? fuel n [] r
        | none => none
      | 0xDE =>
        match nat? 2 bs with
        | some (n, r) => fields? fuel n [] r
        | none => none
      | 0xDF =>
        match nat? 4 bs with
        | some (n, r) => fields? fuel n [] r
        | none => none
      | _ => none
/-- Reads a fixed count of items; those so far are in reverse. -/
def items? : Nat → Nat → List Value → List UInt8 → Option (Value × List UInt8)
  | _, 0, acc, bs => some (.array acc.reverse, bs)
  | 0, _ + 1, _, _ => none
  | fuel + 1, n + 1, acc, bs =>
    match value? fuel bs with
    | some (v, rest) => items? fuel n (v :: acc) rest
    | none => none
/-- Reads a fixed count of fields. -/
def fields? : Nat → Nat → List (String × Value) → List UInt8 → Option (Value × List UInt8)
  | _, 0, acc, bs => some (.object acc, bs)
  | 0, _ + 1, _, _ => none
  | fuel + 1, n + 1, acc, bs =>
    match bs with
    | [] => none
    | code :: bs =>
      match text? code bs with
      | none => none
      | some (key, bs) =>
        match value? fuel bs with
        | some (v, rest) => fields? fuel n (setField acc key v) rest
        | none => none
end

/-- **Reads the document at the front of a byte list.** -/
def read? (bs : List UInt8) : Option Value := (value? (2 * bs.length + 2) bs).map (·.1)

end CoreCheck.Document.Msgpack

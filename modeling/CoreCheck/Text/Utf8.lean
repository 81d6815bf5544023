/-!
# Text/Utf8 — characters from bytes

Bytes are read as UTF-8. A byte that does not start a valid sequence stands for the replacement
character on its own, so reading never fails and always goes on with the next byte.
-/

namespace CoreCheck.Text

/-- Whether a byte continues a sequence. -/
def isContinuation (b : UInt8) : Bool := 0x80 ≤ b && b ≤ 0xBF

/-- The low six bits of a continuation byte. -/
def continuationBits (b : UInt8) : Nat := b.toNat % 64

/-- The replacement character. -/
def replacement : Char := Char.ofNat 0xFFFD

/-- The character at the front of a byte list and how many bytes beyond the first it takes, or
`none` when no valid sequence starts there. -/
def decodeFront? (a : UInt8) (rest : List UInt8) : Option (Char × Nat) :=
  if a < 0x80 then some (Char.ofNat a.toNat, 0)
  else if 0xC2 ≤ a && a ≤ 0xDF then
    match rest with
    | b :: _ =>
      if isContinuation b then some (Char.ofNat ((a.toNat - 0xC0) * 64 + continuationBits b), 1)
      else none
    | _ => none
  else if 0xE0 ≤ a && a ≤ 0xEF then
    match rest with
    | b :: c :: _ =>
      let low : UInt8 := if a = 0xE0 then 0xA0 else 0x80
      let high : UInt8 := if a = 0xED then 0x9F else 0xBF
      if low ≤ b && b ≤ high && isContinuation c then
        some (Char.ofNat ((a.toNat - 0xE0) * 4096 + continuationBits b * 64 + continuationBits c), 2)
      else none
    | _ => none
  else if 0xF0 ≤ a && a ≤ 0xF4 then
    match rest with
    | b :: c :: d :: _ =>
      let low : UInt8 := if a = 0xF0 then 0x90 else 0x80
      let high : UInt8 := if a = 0xF4 then 0x8F else 0xBF
      if low ≤ b && b ≤ high && isContinuation c && isContinuation d then
        some (Char.ofNat ((a.toNat - 0xF0) * 262144 + continuationBits b * 4096
          + continuationBits c * 64 + continuationBits d), 3)
      else none
    | _ => none
  else none

/-- Reads bytes as characters; the first argument counts bytes already taken. -/
def lossyFrom : Nat → List UInt8 → List Char
  | _, [] => []
  | skip + 1, _ :: rest => lossyFrom skip rest
  | 0, a :: rest =>
    match decodeFront? a rest with
    | some (c, n) => c :: lossyFrom n rest
    | none => replacement :: lossyFrom 0 rest

/-- **The characters of a byte list**, with the replacement character for invalid bytes. -/
def lossy (bytes : List UInt8) : List Char := lossyFrom 0 bytes

/-- Whether every byte belongs to a valid sequence; the first argument counts bytes taken. -/
def validFrom : Nat → List UInt8 → Bool
  | _, [] => true
  | skip + 1, _ :: rest => validFrom skip rest
  | 0, a :: rest =>
    match decodeFront? a rest with
    | some (_, n) => validFrom n rest
    | none => false

/-- Whether a byte list is valid UTF-8. -/
def isValidUtf8 (bytes : List UInt8) : Bool := validFrom 0 bytes

/-- The text of a byte list. -/
def ofBytes (bytes : List UInt8) : String := String.ofList (lossy bytes)

end CoreCheck.Text

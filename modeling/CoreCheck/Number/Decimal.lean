import CoreCheck.Number.Power

/-!
# Number/Decimal — digits and decimal texts

Reading and writing whole numbers in base ten, and the digit form of a positive decimal: the digits
of `0.d₁d₂…` together with the power of ten it is scaled by.
-/

namespace CoreCheck

/-- The decimal digits of a number, as characters. -/
def digitsOf (n : Nat) : List Char := Nat.toDigits 10 n

/-- Whether a character is one of the ten digits. -/
def isDigit (c : Char) : Bool := '0' ≤ c && c ≤ '9'

/-- The number that a list of digits stands for. -/
def natOfDigits (cs : List Char) : Nat := cs.foldl (fun n c => n * 10 + (c.toNat - 48)) 0

/-- Pads a digit list with zeros on the left. -/
def padDigits (places : Nat) (cs : List Char) : List Char :=
  List.replicate (places - cs.length) '0' ++ cs

/-- The written form of a whole number. -/
def intText (n : Int) : String :=
  if n < 0 then String.ofList ('-' :: digitsOf n.natAbs) else String.ofList (digitsOf n.natAbs)

/-- The least and greatest signed 64-bit numbers bound what counts as an integer of a document. -/
def fitsInt64 (n : Int) : Bool := -9223372036854775808 ≤ n && n < 9223372036854775808

/-- Reads a signed whole number in base ten: an optional sign and at least one digit. -/
def readInt? (cs : List Char) : Option Int :=
  match cs with
  | '-' :: rest =>
    if !rest.isEmpty && rest.all isDigit then some (-(natOfDigits rest : Int)) else none
  | '+' :: rest => if !rest.isEmpty && rest.all isDigit then some (natOfDigits rest : Int) else none
  | rest => if !rest.isEmpty && rest.all isDigit then some (natOfDigits rest : Int) else none

/-- Drops the zeros at the end of a digit list. -/
def dropTrailingZeros (cs : List Char) : List Char := (cs.reverse.dropWhile (· == '0')).reverse

/-- **A positive decimal** `0.d₁d₂… · 10^point`, by its digits and the place of its point. -/
structure Decimal where
  digits : List Char
  point : Int
deriving DecidableEq

namespace Decimal

/-- The positional form, without an exponent. -/
def plain (d : Decimal) : List Char :=
  if d.point ≤ 0 then
    '0' :: '.' :: (List.replicate d.point.natAbs '0' ++ d.digits)
  else
    let p := d.point.toNat
    let whole := d.digits.take p ++ List.replicate (p - d.digits.length) '0'
    let frac := d.digits.drop p
    if frac.isEmpty then whole else whole ++ '.' :: frac

/-- The form with an exponent of at least `places` digits and always a sign. -/
def scientific (d : Decimal) (places : Nat) : List Char :=
  let exp := d.point - 1
  let mantissa := match d.digits with
    | [] => ['0']
    | [c] => [c]
    | c :: rest => c :: '.' :: rest
  mantissa ++ 'e' :: (if exp < 0 then '-' else '+') :: padDigits places (digitsOf exp.natAbs)

end Decimal

end CoreCheck

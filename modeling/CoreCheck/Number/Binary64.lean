import CoreCheck.Number.Decimal

/-!
# Number/Binary64 — double precision numbers by their bits

A double is kept as its 64 bits. Reading a decimal, dividing and printing are all done in exact
arithmetic on natural numbers: one function rounds a quotient to the nearest double, a tie going to
the even mantissa, and one finds the fewest digits that read back as the same double.
-/

namespace CoreCheck

/-- **A double precision number**, by its bits. -/
structure Binary64 where
  bits : UInt64
deriving DecidableEq, Inhabited

/-- A positive number `mantissa · 2^exponent`. -/
structure Scaled where
  mantissa : Nat
  exponent : Int
deriving DecidableEq

namespace Scaled

/-- The number as a quotient of two naturals. -/
def ratio (s : Scaled) : Nat × Nat :=
  if 0 ≤ s.exponent then (s.mantissa * pow2 s.exponent.toNat, 1)
  else (s.mantissa, pow2 s.exponent.natAbs)

end Scaled

/-- Rounds a quotient to the nearest natural, a tie going to the even one. -/
def roundDiv (num den : Nat) : Nat :=
  let q := num / den
  let r := num % den
  if 2 * r < den then q
  else if den < 2 * r then q + 1
  else if q % 2 = 0 then q else q + 1

/-- The quotient after division by a power of two, which may be negative. -/
def scaleRatio (num den : Nat) (e : Int) : Nat × Nat :=
  if 0 ≤ e then (num, den * pow2 e.toNat) else (num * pow2 e.natAbs, den)

namespace Binary64

/-- The zero with a given sign. -/
def zero (negative : Bool) : Binary64 := ⟨if negative then 0x8000000000000000 else 0⟩

/-- Puts a sign on the bits of a nonnegative number. -/
def withSign (negative : Bool) (magnitude : Nat) : Binary64 :=
  ⟨(magnitude + if negative then pow2 63 else 0).toUInt64⟩

/-- **The nearest double of a quotient**, or `none` when it is past the largest one. -/
def ofRatio? (negative : Bool) (num den : Nat) : Option Binary64 :=
  if num = 0 then some (zero negative)
  else
    let top : Int := (Nat.log2 num : Int) - Nat.log2 den
    let guess := max (top - 52) (-1074)
    let (n0, d0) := scaleRatio num den guess
    let e := if n0 / d0 < pow2 52 ∧ -1074 < guess then guess - 1 else guess
    let (n, d) := scaleRatio num den e
    let m := roundDiv n d
    let (m, e) := if m = pow2 53 then (pow2 52, e + 1) else (m, e)
    if 971 < e then none
    else if m < pow2 52 then some (withSign negative m)
    else some (withSign negative ((e + 1075).toNat * pow2 52 + (m - pow2 52)))

/-- The nearest double of a whole number of at most 64 bits. -/
def ofInt (n : Int) : Binary64 := (ofRatio? (n < 0) n.natAbs 1).getD (zero false)

/-- The nearest double of `digits · 10^exp`; exponents far out of range are not multiplied out. -/
def ofDecimal? (negative : Bool) (digits : Nat) (exp : Int) : Option Binary64 :=
  if digits = 0 then some (zero negative)
  else
    let size : Int := (digitsOf digits).length + exp
    if 400 < size then none
    else if size < -400 then some (zero negative)
    else if 0 ≤ exp then ofRatio? negative (digits * pow10 exp.toNat) 1
    else ofRatio? negative digits (pow10 exp.natAbs)

/-- Whether the sign bit is set. -/
def isNegative (x : Binary64) : Bool := x.bits.toNat ≥ pow2 63

/-- The biased exponent. -/
def biased (x : Binary64) : Nat := x.bits.toNat / pow2 52 % pow2 11

/-- The stored mantissa. -/
def fraction (x : Binary64) : Nat := x.bits.toNat % pow2 52

/-- Whether the number is neither infinite nor a NaN. -/
def isFinite (x : Binary64) : Bool := x.biased != 2047

/-- The size of a finite number, exactly. -/
def magnitude (x : Binary64) : Scaled :=
  if x.biased = 0 then ⟨x.fraction, -1074⟩ else ⟨x.fraction + pow2 52, (x.biased : Int) - 1075⟩

/-- The whole number that a finite double is, if it is one. -/
def toInt? (x : Binary64) : Option Int :=
  if !x.isFinite then none
  else
    let (num, den) := x.magnitude.ratio
    if num % den = 0 then
      some (if x.isNegative then -((num / den : Nat) : Int) else ((num / den : Nat) : Int))
    else none

/-- A single precision number seen as a double, by its bits. -/
def ofSingle (bits : UInt32) : Binary64 :=
  let n := bits.toNat
  let negative : Bool := n ≥ pow2 31
  let biased : Nat := n / pow2 23 % pow2 8
  let frac : Nat := n % pow2 23
  if biased = 255 then withSign negative (2047 * pow2 52 + frac * pow2 29)
  else
    let s : Scaled := if biased = 0 then ⟨frac, -149⟩ else ⟨frac + pow2 23, (biased : Int) - 150⟩
    (ofRatio? negative s.ratio.1 s.ratio.2).getD (zero negative)

/-- The place of the point of a quotient: the least `p` with `num / den < 10^p`. The first argument
bounds the search for quotients below one tenth. -/
def pointBelow : Nat → Nat → Nat → Int
  | 0, _, _ => 0
  | fuel + 1, num, den => if den ≤ num * 10 then 0 else pointBelow fuel (num * 10) den - 1

/-- The least `p` with `num / den < 10^p`. -/
def pointOf (num den : Nat) : Int :=
  if den ≤ num then (digitsOf (num / den)).length else pointBelow 400 num den

/-- The interval of reals that round to a positive double, its ends scaled by `4 · 2^exponent`, and
whether the ends belong to it. -/
structure Interval where
  low : Scaled
  high : Scaled
  closed : Bool

/-- The rounding interval of a positive number with `precision` mantissa bits, whose least
exponent is `least`. -/
def intervalOf (s : Scaled) (precision : Nat) (least : Int) : Interval :=
  let m := s.mantissa
  let e := s.exponent - 2
  let below := if m = pow2 (precision - 1) ∧ least < s.exponent then 1 else 2
  ⟨⟨4 * m - below, e⟩, ⟨4 * m + 2, e⟩, m % 2 = 0⟩

/-- Compares a decimal `k · 10^p` with a scaled number. -/
def compareDecimal (k : Nat) (p : Int) (s : Scaled) : Ordering :=
  let (num, den) := s.ratio
  if 0 ≤ p then compare (k * pow10 p.toNat * den) num
  else compare (k * den) (num * pow10 p.natAbs)

/-- Whether a decimal `k · 10^p` lies in the interval. -/
def Interval.holds (i : Interval) (k : Nat) (p : Int) : Bool :=
  (match compareDecimal k p i.low with
    | .gt => true
    | .eq => i.closed
    | .lt => false) &&
  (match compareDecimal k p i.high with
    | .lt => true
    | .eq => i.closed
    | .gt => false)

/-- Searches the decimals of `n` digits, then of more, for one in the interval: of the two
neighbours of the number the nearer, if both read back. -/
def shortestFrom (num den : Nat) (i : Interval) (point : Int) : Nat → Nat → List Char × Int
  | 0, n => (digitsOf (roundDiv (num * pow10 n) den), point)
  | fuel + 1, n =>
    let p : Int := point - n
    let (sn, sd) := if 0 ≤ p then (num, den * pow10 p.toNat) else (num * pow10 p.natAbs, den)
    let k := sn / sd
    let down := i.holds k p && k != 0
    let up := i.holds (k + 1) p
    let pick (d : Nat) : List Char × Int :=
      let ds := digitsOf d
      (ds, p + ds.length)
    if down && up then (if 2 * (sn % sd) ≤ sd then pick k else pick (k + 1))
    else if down then pick k
    else if up then pick (k + 1)
    else shortestFrom num den i point fuel (n + 1)

/-- **The fewest digits that read back** as the positive number, nearest to it among those. -/
def shortestOf (s : Scaled) (precision : Nat) (least : Int) : Decimal :=
  let (num, den) := s.ratio
  let (digits, point) :=
    shortestFrom num den (intervalOf s precision least) (pointOf num den) 17 1
  ⟨dropTrailingZeros digits, point⟩

/-- The fewest digits of a positive finite double. -/
def shortest (x : Binary64) : Decimal := shortestOf x.magnitude 53 (-1074)

/-- Puts a minus sign in front of the text of a negative number. -/
def signed (x : Binary64) (text : List Char) : String :=
  String.ofList (if x.isNegative then '-' :: text else text)

/-- The text of a number that is not finite. -/
def specialText (x : Binary64) : String :=
  if x.fraction ≠ 0 then "NaN" else if x.isNegative then "-Inf" else "+Inf"

/-- The general form of the fewest digits: with an exponent from `10^6` on and below `10^-4`. -/
def generalDigits (d : Decimal) : List Char :=
  if d.point - 1 < -4 ∨ 6 ≤ d.point - 1 then d.scientific 2 else d.plain

/-- The general form of a double, with the fewest digits that read back. -/
def general (x : Binary64) : String :=
  if !x.isFinite then x.specialText
  else if x.magnitude.mantissa = 0 then x.signed ['0']
  else x.signed (generalDigits x.shortest)

/-- The general form of a single precision number. -/
def generalSingle (bits : UInt32) : String :=
  let x := ofSingle bits
  let n := bits.toNat
  let biased : Nat := n / pow2 23 % pow2 8
  let frac : Nat := n % pow2 23
  if biased = 255 then x.specialText
  else if biased = 0 ∧ frac = 0 then x.signed ['0']
  else
    let s : Scaled := if biased = 0 then ⟨frac, -149⟩ else ⟨frac + pow2 23, (biased : Int) - 150⟩
    x.signed (generalDigits (shortestOf s 24 (-149)))

/-- The positional form of a double, never with an exponent. -/
def plainText (x : Binary64) : String :=
  if !x.isFinite then x.specialText
  else if x.magnitude.mantissa = 0 then x.signed ['0']
  else x.signed x.shortest.plain

/-- The form of a double in a JSON document: positional from `10^-6` up to below `10^21`. -/
def jsonText (x : Binary64) : String :=
  if x.magnitude.mantissa = 0 then x.signed ['0']
  else
    let d := x.shortest
    if d.point - 1 < -6 ∨ 21 ≤ d.point - 1 then x.signed (d.scientific 1) else x.signed d.plain

/-- The form of a finite double with a fixed number of places, the exact value rounded. -/
def fixed (x : Binary64) (places : Nat) : String :=
  let (num, den) := x.magnitude.ratio
  let cs := padDigits (places + 1) (digitsOf (roundDiv (num * pow10 places) den))
  let whole := cs.take (cs.length - places)
  x.signed (if places = 0 then whole else whole ++ '.' :: cs.drop (cs.length - places))

/-- The double nearest to the quotient of two positive finite doubles, or of products of such. -/
def ofScaledRatio? (num den : Scaled) : Option Binary64 :=
  let (a, b) := num.ratio
  let (c, d) := den.ratio
  ofRatio? false (a * d) (b * c)

end Binary64

end CoreCheck

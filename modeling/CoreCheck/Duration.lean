import CoreCheck.Number.Binary64

/-!
# Duration — spans of time in nanoseconds

A duration is a signed count of nanoseconds that fits 64 bits. Its text uses hours, minutes and
seconds, or the largest smaller unit for times below a second; it is read back from any sequence of
decimal numbers with units.
-/

namespace CoreCheck

/-- **A signed number of nanoseconds.** -/
structure Duration where
  nanos : Int
deriving DecidableEq, Inhabited

namespace Duration

def ofSeconds (n : Int) : Duration := ⟨n * 1000000000⟩

/-- The fraction digits of a number below `10^places`, without trailing zeros, point included. -/
def fractionText (n places : Nat) : List Char :=
  match dropTrailingZeros (padDigits places (digitsOf n)) with
  | [] => []
  | ds => '.' :: ds

/-- A number scaled down by `10^places`, without trailing zeros. -/
def scaledText (n places : Nat) : List Char :=
  digitsOf (n / pow10 places) ++ fractionText (n % pow10 places) places

/-- The text of a duration without its sign. -/
def absText (n : Nat) : List Char :=
  if n = 0 then ['0', 's']
  else if n < 1000 then scaledText n 0 ++ ['n', 's']
  else if n < 1000000 then scaledText n 3 ++ ['µ', 's']
  else if n < 1000000000 then scaledText n 6 ++ ['m', 's']
  else
    let seconds := n / 1000000000
    let rest := digitsOf (seconds % 60) ++ fractionText (n % 1000000000) 9 ++ ['s']
    let minutes := seconds / 60
    if minutes = 0 then rest
    else
      let rest := digitsOf (minutes % 60) ++ 'm' :: rest
      let hours := minutes / 60
      if hours = 0 then rest else digitsOf hours ++ 'h' :: rest

/-- **The text of a duration**, such as `1h2m3.5s` or `1.5ms`. -/
def text (d : Duration) : String :=
  String.ofList (if d.nanos < 0 then '-' :: absText d.nanos.natAbs else absText d.nanos.natAbs)

/-- The greatest number of nanoseconds that fits 64 bits. -/
def maxNanos : Nat := pow2 63 - 1

/-- Rounds to a multiple of a positive unit, halves away from zero, staying within 64 bits. -/
def round (d : Duration) (unit : Nat) : Duration :=
  let n := d.nanos.natAbs
  let r := n % unit
  let size := if 2 * r < unit then n - r else n + (unit - r)
  if d.nanos < 0 then ⟨-(min size (maxNanos + 1) : Nat)⟩ else ⟨(min size maxNanos : Nat)⟩

/-- The whole microseconds of a duration, cut toward zero. -/
def micros (d : Duration) : Int := Int.tdiv d.nanos 1000

/-- The milliseconds of a duration as a double: the nanoseconds as a double, divided. -/
def millis (d : Duration) : Binary64 :=
  let n := (Binary64.ofInt d.nanos.natAbs).magnitude
  let q := (Binary64.ofScaledRatio? n ⟨1000000, 0⟩).getD (.zero false)
  if d.nanos < 0 then .withSign true q.bits.toNat else q

/-- The seconds of a duration as a double: the nanoseconds as a double, divided. -/
def seconds (d : Duration) : Binary64 :=
  let n := (Binary64.ofInt d.nanos.natAbs).magnitude
  let q := (Binary64.ofScaledRatio? n ⟨1000000000, 0⟩).getD (.zero false)
  if d.nanos < 0 then .withSign true q.bits.toNat else q

/-- The nanoseconds of a unit. -/
def unit? (cs : List Char) : Option Nat :=
  match String.ofList cs with
  | "ns" => some 1
  | "us" | "µs" | "μs" => some 1000
  | "ms" => some 1000000
  | "s" => some 1000000000
  | "m" => some 60000000000
  | "h" => some 3600000000000
  | _ => none

/-- The digits after a point, as far as they fit 63 bits, and their scale. -/
def fractionOf : List Char → Nat → Nat → Nat × Nat
  | [], x, scale => (x, scale)
  | c :: rest, x, scale =>
    if maxNanos / 10 < x then (x, scale)
    else
      let y := x * 10 + (c.toNat - 48)
      if pow2 63 < y then (x, scale) else fractionOf rest y (scale * 10)

/-- The nanoseconds of a fraction `x / scale` of a unit, through double precision arithmetic: the
unit is divided by the scale, the product rounded and cut. -/
def fractionNanos (x scale unit : Nat) : Nat :=
  let u := ((Binary64.ofRatio? false unit scale).getD (.zero false)).magnitude
  let f := (Binary64.ofInt x).magnitude
  let p := ((Binary64.ofScaledRatio? ⟨f.mantissa * u.mantissa, f.exponent + u.exponent⟩ ⟨1, 0⟩).getD
    (.zero false)).magnitude.ratio
  p.1 / p.2

/-- Whether a character may stand in a number. -/
def inNumber (c : Char) : Bool := isDigit c || c == '.'

/-- Reads one number with its unit: its nanoseconds and what follows. -/
def readPart? (cs : List Char) : Option (Nat × List Char) :=
  let whole := cs.takeWhile isDigit
  let rest := cs.dropWhile isDigit
  let v := natOfDigits whole
  let (frac, rest) := match rest with
    | '.' :: r => (r.takeWhile isDigit, r.dropWhile isDigit)
    | r => ([], r)
  if (whole.isEmpty && frac.isEmpty) || pow2 63 < v then none
  else
    match unit? (rest.takeWhile (!inNumber ·)) with
    | none => none
    | some u =>
      if pow2 63 / u < v then none
      else
        let (x, scale) := fractionOf frac 0 1
        let n := v * u + (if x = 0 then 0 else fractionNanos x scale u)
        if pow2 63 < n then none else some (n, rest.dropWhile (!inNumber ·))

/-- Reads the numbers with units one after another, adding up. Each takes a character at least, so
the length of the text bounds their number. -/
def readParts? : Nat → Nat → List Char → Option Nat
  | _, total, [] => some total
  | 0, _, _ => none
  | fuel + 1, total, cs => do
    let (n, rest) ← readPart? cs
    if pow2 63 < total + n then none else readParts? fuel (total + n) rest

/-- **Reads a duration**: an optional sign, then numbers with units, or a lone zero. -/
def parse? (s : String) : Option Duration :=
  let (negative, cs) := match s.toList with
    | '-' :: r => (true, r)
    | '+' :: r => (false, r)
    | r => (false, r)
  if cs = ['0'] then some ⟨0⟩
  else if cs.isEmpty then none
  else do
    let n ← readParts? cs.length 0 cs
    if negative then some ⟨-(n : Int)⟩
    else if maxNanos < n then none else some ⟨n⟩

end Duration

end CoreCheck

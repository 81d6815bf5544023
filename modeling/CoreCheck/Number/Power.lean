/-!
# Number/Power — powers of two and of ten

The two bases that written numbers and words of memory are counted in.
-/

namespace CoreCheck

/-- The power of two with an exponent: how many words of that many bits there are. -/
def pow2 (n : Nat) : Nat := Nat.pow 2 n

/-- The power of ten with an exponent: how many texts of that many digits there are. -/
def pow10 (n : Nat) : Nat := Nat.pow 10 n

end CoreCheck

import Mathlib.Algebra.Ring.Nat
import Mathlib.Data.List.TakeWhile
import CoreCheck.Document

/-!
# Proofs/Document/Integers — whole numbers in both forms

A whole number stands in a document by its decimal text or in binary.  As an integer it counts alike
in both forms.  As a double its text counts for every number of at most 64 bits.
-/

namespace CoreCheck

/-! ## Decimal texts -/

theorem natOfDigits_digitsOf (n : Nat) : natOfDigits (digitsOf n) = n := by
  have hstep : (fun (n : Nat) (c : Char) => n * 10 + (c.toNat - 48)) =
      fun n c => 10 * n + (c.toNat - '0'.toNat) := by
    funext n c
    rw [Nat.mul_comm]
    rfl
  rw [natOfDigits, hstep, ← Nat.ofDigitChars_eq_foldl]
  exact Nat.ofDigitChars_ten_toDigits

theorem isDigit_of_mem_digitsOf {n : Nat} {c : Char} (h : c ∈ digitsOf n) : isDigit c = true := by
  have hdigit := Nat.isDigit_of_mem_toDigits (by decide) (by decide) h
  simpa [isDigit, Char.isDigit, Char.le_def] using hdigit

theorem digitsOf_ne_nil (n : Nat) : digitsOf n ≠ [] := Nat.toDigits_ne_nil

/-- The first digit is no sign. -/
theorem exists_digitsOf (n : Nat) : ∃ c cs, digitsOf n = c :: cs ∧ c ≠ '-' ∧ c ≠ '+' := by
  obtain ⟨c, cs, hcs⟩ := List.exists_cons_of_ne_nil (digitsOf_ne_nil n)
  have hc : isDigit c = true := isDigit_of_mem_digitsOf (n := n) (hcs ▸ .head _)
  refine ⟨c, cs, hcs, ?_, ?_⟩ <;>
    · rintro rfl
      exact absurd hc (by decide)

theorem toList_intText (n : Int) :
    (intText n).toList = if n < 0 then '-' :: digitsOf n.natAbs else digitsOf n.natAbs := by
  rw [intText]
  split <;> exact String.toList_ofList

/-- **The text of a whole number reads as that number.** -/
theorem readInt?_intText (n : Int) : readInt? (intText n).toList = some n := by
  have hall : (digitsOf n.natAbs).all isDigit = true :=
    List.all_eq_true.2 fun _ hc => isDigit_of_mem_digitsOf hc
  have hne : (!(digitsOf n.natAbs).isEmpty) = true := by simp [digitsOf_ne_nil]
  rw [toList_intText]
  split
  · rw [readInt?, hall, hne, natOfDigits_digitsOf]
    exact congrArg some (by omega)
  · obtain ⟨c, cs, hcs, hminus, hplus⟩ := exists_digitsOf n.natAbs
    rw [hcs] at hall hne ⊢
    rw [readInt?]
    · rw [hall, hne, ← hcs, natOfDigits_digitsOf]
      exact congrArg some (by omega)
    · rintro rest ⟨rfl, -⟩
      exact hminus rfl
    · rintro rest ⟨rfl, -⟩
      exact hplus rfl

/-! ## Nearest doubles -/

namespace Binary64

/-- A number of at most 64 bits is not past the largest double. -/
theorem isSome_ofRatio? (negative : Bool) {n : Nat} (h : n < 2 ^ 64) :
    (ofRatio? negative n 1).isSome = true := by
  rw [ofRatio?]
  split
  · rfl
  · next hn =>
    have hlog : Nat.log2 n < 64 := (Nat.log2_lt hn).2 h
    have hone : Nat.log2 1 = 0 := by decide
    dsimp only
    -- the exponent starts at no more than 11 and grows by at most one
    generalize hguess : max ((Nat.log2 n : Int) - Nat.log2 1 - 52) (-1074) = guess
    generalize scaleRatio n 1 guess = first
    generalize he : (if first.1 / first.2 < pow2 52 ∧ -1074 < guess then guess - 1 else guess) = e
    generalize roundDiv (scaleRatio n 1 e).1 (scaleRatio n 1 e).2 = m
    generalize hpair : (if m = pow2 53 then (pow2 52, e + 1) else (m, e)) = pair
    have hsmall : e ≤ 11 := by split at he <;> omega
    have hexp : pair.2 ≤ 12 := by
      split at hpair <;>
        · subst hpair
          dsimp only
          omega
    rw [if_neg (by omega)]
    split <;> rfl

theorem ofRatio?_eq_ofInt {n : Int} (h : n.natAbs < 2 ^ 64) :
    ofRatio? (n < 0) n.natAbs 1 = some (ofInt n) := by
  obtain ⟨x, hx⟩ := Option.isSome_iff_exists.1 (isSome_ofRatio? (n < 0) h)
  rw [ofInt, hx]
  rfl

/-- **A decimal without fraction and exponent is nearest to the double of that number.** -/
theorem ofDecimal?_eq_ofInt {n : Int} (h : n.natAbs < 2 ^ 64) :
    ofDecimal? (n < 0) n.natAbs 0 = some (ofInt n) := by
  rw [ofDecimal?]
  split
  · next hn =>
    rw [← ofRatio?_eq_ofInt h, hn]
    rfl
  · have hlen : (digitsOf n.natAbs).length ≤ 20 :=
      (Nat.length_toDigits_le_iff (by decide) (by decide)).2 (Nat.lt_trans h (by decide))
    have hone : n.natAbs * pow10 (0 : Int).toNat = n.natAbs := Nat.mul_one _
    dsimp only
    rw [if_neg (by omega), if_neg (by omega), if_pos (by decide), hone]
    exact ofRatio?_eq_ofInt h

end Binary64

namespace Document

theorem Written.ofChars_intText (n : Int) :
    Written.ofChars (intText n).toList = ⟨decide (n < 0), digitsOf n.natAbs, 0⟩ := by
  have hall : ∀ c ∈ digitsOf n.natAbs, isDigit c = true := fun _ hc => isDigit_of_mem_digitsOf hc
  have htake := List.takeWhile_eq_self_iff.2 hall
  have hdrop := List.dropWhile_eq_nil_iff.2 hall
  rw [toList_intText]
  split
  · next hn => simp [Written.ofChars, htake, hdrop, hn]
  · next hn =>
    obtain ⟨c, cs, hcs, hminus, -⟩ := exists_digitsOf n.natAbs
    rw [hcs] at htake hdrop ⊢
    simp [Written.ofChars, htake, hdrop, hn, hminus]

namespace Number

/-- **As an integer, a whole number counts alike in both forms.** -/
theorem toInt?_written (n : Int) : (written (intText n)).toInt? = (integer n).toInt? := by
  rw [toInt?, toInt?, readInt?_intText, Option.filter]

/-- **As a double, the text of a whole number stands for the nearest one.** -/
theorem toDouble?_written {n : Int} (h : n.natAbs < 2 ^ 64) :
    (written (intText n)).toDouble? = some (.ofInt n) := by
  rw [toDouble?, Written.ofChars_intText]
  dsimp only
  rw [natOfDigits_digitsOf]
  exact Binary64.ofDecimal?_eq_ofInt h

end Number

end Document

end CoreCheck

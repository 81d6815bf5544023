import CoreCheck.Text.Split
import Mathlib.Data.List.Basic

/-!
# Proofs/Text/Pieces — cutting what was joined

A text that is put together at a separator is cut there, and within the pieces wherever they hold the
separator themselves.  So pieces without it are read back, and every separator inside a piece gives
one piece more.
-/

namespace CoreCheck.Text

theorem splitChars_append (sep : Char) (as bs : List Char) :
    splitChars sep (as ++ sep :: bs) = splitChars sep as ++ splitChars sep bs := by
  induction as with
  | nil => simp [splitChars]
  | cons a as ih =>
    rw [List.cons_append, splitChars, splitChars, ih]
    split
    · rfl
    · cases hs : splitChars sep as with
      | nil => exact absurd hs (splitChars_ne_nil sep as)
      | cons piece pieces => rfl

theorem notMem_of_mem_splitChars {sep : Char} {cs piece : List Char}
    (h : piece ∈ splitChars sep cs) : sep ∉ piece := by
  induction cs generalizing piece with
  | nil =>
    obtain rfl := List.mem_singleton.1 h
    exact List.not_mem_nil
  | cons c cs ih =>
    rw [splitChars] at h
    split at h
    · obtain rfl | h := List.mem_cons.1 h
      · exact List.not_mem_nil
      · exact ih h
    · next hne =>
      split at h
      · obtain rfl := List.mem_singleton.1 h
        simpa using Ne.symm hne
      · next first rest hs =>
        obtain rfl | h := List.mem_cons.1 h
        · have hfirst := ih (hs ▸ List.mem_cons_self)
          simpa [hfirst] using Ne.symm hne
        · exact ih (hs ▸ List.mem_cons_of_mem _ h)

/-- A text without the separator is not cut. -/
theorem splitChars_of_notMem {sep : Char} {cs : List Char} (h : sep ∉ cs) :
    splitChars sep cs = [cs] := by
  induction cs with
  | nil => rfl
  | cons c cs ih =>
    obtain ⟨hne, hrest⟩ := List.ne_and_not_mem_of_not_mem_cons h
    rw [splitChars, if_neg (Ne.symm hne), ih hrest]

theorem split_of_notMem {sep : Char} {s : String} (h : sep ∉ s.toList) : split sep s = [s] := by
  rw [split, splitChars_of_notMem h, List.map_singleton, String.ofList_toList]

theorem length_split (sep : Char) (s : String) : (split sep s).length = s.toList.count sep + 1 := by
  rw [split, List.length_map, length_splitChars]

section Separator

variable {sep : Char} {text : String} (hsep : text.toList = [sep])

include hsep

/-- **A text that is put together at the separator is cut there.** -/
theorem split_append (a b : String) : split sep (a ++ text ++ b) = split sep a ++ split sep b := by
  have hchars : (a ++ text ++ b).toList = a.toList ++ sep :: b.toList := by simp [hsep]
  rw [split, hchars, splitChars_append, List.map_append]
  rfl

/-- **What was joined is cut between the pieces and within them.** -/
theorem split_join_eq_flatMap : ∀ {pieces : List String}, pieces ≠ [] →
    split sep (join text pieces) = pieces.flatMap (split sep)
  | [], h => absurd rfl h
  | [p], _ => by
    rw [join, String.intercalate_singleton, List.flatMap_singleton]
  | p :: q :: ps, _ => by
    rw [join, String.intercalate_cons_cons, split_append hsep, List.flatMap_cons]
    exact congrArg (split sep p ++ ·) (split_join_eq_flatMap (List.cons_ne_nil q ps))

/-- **Pieces without the separator are read back** from the text that they make. -/
theorem split_join {pieces : List String} (hne : pieces ≠ [])
    (h : ∀ p ∈ pieces, sep ∉ p.toList) : split sep (join text pieces) = pieces := by
  rw [split_join_eq_flatMap hsep hne, List.flatMap_congr fun p hp => split_of_notMem (h p hp),
    List.flatMap_singleton']

/-- **Every separator inside a piece gives one piece more.** -/
theorem length_split_join {pieces : List String} (hne : pieces ≠ []) :
    (split sep (join text pieces)).length
      = pieces.length + (pieces.flatMap String.toList).count sep := by
  rw [split_join_eq_flatMap hsep hne]
  clear hne
  induction pieces with
  | nil => rfl
  | cons p ps ih =>
    rw [List.flatMap_cons, List.flatMap_cons, List.length_append, List.count_append, ih,
      length_split, List.length_cons]
    omega

end Separator

end CoreCheck.Text

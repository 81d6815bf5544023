/-!
# Text/Split — cutting a text at a separator

`split` cuts at every occurrence of a separator, so a text without one is a single piece and the
pieces put back together with the separator between them are the text.
-/

namespace CoreCheck.Text

/-- Cuts a character list at every `sep`. There is always at least one piece. -/
def splitChars (sep : Char) : List Char → List (List Char)
  | [] => [[]]
  | c :: rest =>
    if c = sep then [] :: splitChars sep rest
    else
      match splitChars sep rest with
      | [] => [[c]]
      | piece :: pieces => (c :: piece) :: pieces

/-- Cuts a text at every `sep`. -/
def split (sep : Char) (s : String) : List String := (splitChars sep s.toList).map String.ofList

/-- Puts texts together with `sep` between them. -/
def join (sep : String) (pieces : List String) : String := String.intercalate sep pieces

theorem splitChars_ne_nil (sep : Char) (cs : List Char) : splitChars sep cs ≠ [] := by
  induction cs with
  | nil => simp [splitChars]
  | cons c rest ih =>
    rw [splitChars]
    split
    · simp
    · split <;> simp

/-- **One piece more than there are separators.** -/
theorem length_splitChars (sep : Char) (cs : List Char) :
    (splitChars sep cs).length = cs.count sep + 1 := by
  induction cs with
  | nil => rfl
  | cons c rest ih =>
    rw [splitChars]
    by_cases h : c = sep
    · subst h
      simp [ih]
    · rw [if_neg h, List.count_cons_of_ne h, ← ih]
      cases hs : splitChars sep rest with
      | nil => exact absurd hs (splitChars_ne_nil sep rest)
      | cons piece pieces => simp

/-- Whether `part` occurs in a character list. -/
def occursIn (part : List Char) : List Char → Bool
  | [] => part.isEmpty
  | c :: rest => part.isPrefixOf (c :: rest) || occursIn part rest

/-- Replaces every occurrence of a nonempty text, from the left and without overlap. The first
argument counts characters still covered by the occurrence just replaced. -/
def replaceChars (part new : List Char) : Nat → List Char → List Char
  | _, [] => []
  | skip + 1, _ :: rest => replaceChars part new skip rest
  | 0, c :: rest =>
    if part.isPrefixOf (c :: rest) then new ++ replaceChars part new (part.length - 1) rest
    else c :: replaceChars part new 0 rest

end CoreCheck.Text

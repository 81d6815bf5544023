/-!
# Text/Blank — white space and trimming

Blank characters are those of the Unicode property White_Space. Labels, names and settings are read
after the blanks around them are removed; a name that is blank throughout counts as empty.
-/

namespace CoreCheck.Text

/-- **Blank characters**: the Unicode property White_Space. -/
def isBlank (c : Char) : Bool :=
  let n := c.toNat
  (0x09 ≤ n && n ≤ 0x0D) || n == 0x20 || n == 0x85 || n == 0xA0 || n == 0x1680 ||
    (0x2000 ≤ n && n ≤ 0x200A) || n == 0x2028 || n == 0x2029 || n == 0x202F || n == 0x205F ||
    n == 0x3000

/-- Removes the blanks at both ends of a character list. -/
def trimChars (cs : List Char) : List Char :=
  ((cs.dropWhile isBlank).reverse.dropWhile isBlank).reverse

/-- Removes the blanks at both ends of a text. -/
def trim (s : String) : String := String.ofList (trimChars s.toList)

/-- Whether a text holds nothing but blanks. -/
def isBlankText (s : String) : Bool := s.toList.all isBlank

/-- Splits a character list at every run of blanks, dropping empty words. -/
def wordsFrom : List Char → List Char → List (List Char)
  | [], word => if word.isEmpty then [] else [word.reverse]
  | c :: rest, word =>
    if isBlank c then
      if word.isEmpty then wordsFrom rest [] else word.reverse :: wordsFrom rest []
    else wordsFrom rest (c :: word)

/-- The words of a text: its longest runs without a blank. -/
def words (s : String) : List String := (wordsFrom s.toList []).map String.ofList

/-- Dropping blanks leaves nothing exactly when all characters are blank. -/
theorem dropWhile_isBlank_eq_nil (cs : List Char) :
    cs.dropWhile isBlank = [] ↔ cs.all isBlank = true := by
  induction cs with
  | nil => simp
  | cons c rest ih => by_cases h : isBlank c = true <;> simp [h, ih]

/-- What is left after dropping blanks does not start with one. -/
theorem dropWhile_isBlank_head (cs : List Char) (c : Char) (rest : List Char)
    (h : cs.dropWhile isBlank = c :: rest) : isBlank c = false := by
  induction cs with
  | nil => simp at h
  | cons d ds ih =>
    by_cases hd : isBlank d = true
    · exact ih (by simpa [hd] using h)
    · rw [List.dropWhile_cons_of_neg hd] at h
      obtain ⟨rfl, -⟩ := List.cons.inj h
      simpa using hd

/-- **A text trims to nothing exactly when it is blank throughout.** -/
theorem trimChars_eq_nil_iff (cs : List Char) : trimChars cs = [] ↔ cs.all isBlank = true := by
  rw [trimChars, List.reverse_eq_nil_iff, dropWhile_isBlank_eq_nil, List.all_reverse,
    ← dropWhile_isBlank_eq_nil cs]
  constructor
  · intro h
    cases hd : cs.dropWhile isBlank with
    | nil => rfl
    | cons c rest =>
      have hc := dropWhile_isBlank_head cs c rest hd
      simp [hd, hc] at h
  · intro h
    simp [h]

end CoreCheck.Text

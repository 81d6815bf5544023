import CoreCheck.Text.Blank

/-!
# Text/Label — comparing labels without regard to case

Every label of the vocabulary is written in ASCII. Two foldings are used to compare an input with
one: full case folding, under which a ligature or a sharp s stands for the letters it folds to, and
plain lower-casing. Both are given here as far as they reach ASCII. A character that maps to
something outside ASCII is kept, since no label contains such a character either way.
-/

namespace CoreCheck.Text

/-- The lower-case letter of an ASCII capital; any other character is kept. -/
def lowerAscii (c : Char) : Char :=
  if 'A' ≤ c ∧ c ≤ 'Z' then Char.ofNat (c.toNat + 32) else c

/-- **Full case folding** of one character, as far as it lands in ASCII. -/
def foldChar (c : Char) : List Char :=
  match c.toNat with
  | 0xDF | 0x1E9E => ['s', 's']
  | 0x17F => ['s']
  | 0x212A => ['k']
  | 0xFB00 => ['f', 'f']
  | 0xFB01 => ['f', 'i']
  | 0xFB02 => ['f', 'l']
  | 0xFB03 => ['f', 'f', 'i']
  | 0xFB04 => ['f', 'f', 'l']
  | 0xFB05 | 0xFB06 => ['s', 't']
  | _ => [lowerAscii c]

/-- The key under which a label is looked up: trimmed and case-folded. -/
def labelKey (s : String) : String :=
  String.ofList ((trimChars s.toList).flatMap foldChar)

/-- **Lower-casing** of one character, as far as it lands in ASCII. -/
def lowerChar (c : Char) : Char :=
  match c.toNat with
  | 0x130 => 'i'
  | 0x212A => 'k'
  | _ => lowerAscii c

/-- Lower-cases a text that is compared with ASCII words. -/
def lower (s : String) : String := String.ofList (s.toList.map lowerChar)

/-- The letter that a character counts as when letters are compared one by one. -/
def letterOf (c : Char) : Char :=
  match c.toNat with
  | 0x17F => 's'
  | 0x212A => 'k'
  | _ => lowerAscii c

/-- Whether a text spells an ASCII word in any case, letter by letter. -/
def spells (s word : String) : Bool := s.toList.map letterOf == word.toList.map letterOf

end CoreCheck.Text

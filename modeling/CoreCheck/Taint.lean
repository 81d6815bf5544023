import CoreCheck.Text.Label
import CoreCheck.Text.Quoted
import CoreCheck.Text.Split

/-!
# Taint — how sensitive a value is

A value that holds personal data carries a sensitivity level and a set of categories. Taints are
joined by taking the higher level and all categories of both, so joining never lowers a level and
never loses a category. A value without taint is `none`.
-/

namespace CoreCheck

/-- **A sensitivity level.** Rank zero means not sensitive; ranks one to three are named. -/
structure Level where
  rank : Nat
deriving DecidableEq, Inhabited

namespace Level

def none : Level := ⟨0⟩
def l1 : Level := ⟨1⟩
def l2 : Level := ⟨2⟩
def l3 : Level := ⟨3⟩

instance : LE Level := ⟨fun a b => a.rank ≤ b.rank⟩
instance (a b : Level) : Decidable (a ≤ b) := inferInstanceAs (Decidable (a.rank ≤ b.rank))

/-- The name of a level. -/
def label (l : Level) : String :=
  match l.rank with
  | 1 => "L1"
  | 2 => "L2"
  | 3 => "L3"
  | _ => "none"

/-- The higher of two levels. -/
def max (a b : Level) : Level := if b.rank < a.rank then a else b

/-- Whether a level reaches a threshold. A value that is not sensitive never does. -/
def reaches (l threshold : Level) : Bool := l ≠ none && threshold ≤ l

/-- A label that names no level. -/
structure Unknown where
  label : String
deriving DecidableEq

/-- The wording of the failure. -/
def Unknown.message (e : Unknown) : String := "unknown pii level: " ++ Text.quote e.label

/-- Reads a level by its name or its number, ignoring case and blanks around it. -/
def parse (label : String) : Except Unknown Level :=
  match Text.labelKey label with
  | "l1" | "1" => .ok l1
  | "l2" | "2" => .ok l2
  | "l3" | "3" => .ok l3
  | _ => .error ⟨label⟩

theorem rank_max (a b : Level) : (max a b).rank = Nat.max a.rank b.rank := by
  unfold Level.max
  split <;> simp [Nat.max_def] <;> omega

end Level

/-- Inserts a category into a sorted list without repeats. -/
def insertCategory (c : String) : List String → List String
  | [] => [c]
  | d :: rest =>
    if c < d then c :: d :: rest
    else if c = d then d :: rest
    else d :: insertCategory c rest

/-- A list of categories, sorted and without repeats. -/
def sortCategories (cs : List String) : List String := cs.foldr insertCategory []

/-- The first place, of those from `lo` to `hi`, whose category does not come before a given one.
The half that cannot hold it is dropped at each step. -/
def searchFrom (cs : List String) (c : String) (lo hi : Nat) : Nat :=
  if lo < hi then
    let mid := (lo + hi) / 2
    if cs.getD mid "" < c then searchFrom cs c (mid + 1) hi else searchFrom cs c lo mid
  else lo
termination_by hi - lo

/-- **The taint of a value**: the highest level met and all categories met, sorted. -/
structure Taint where
  level : Level
  categories : List String
deriving DecidableEq, Inhabited

namespace Taint

/-- A taint from raw categories: they are trimmed, blank ones dropped, and repeats merged. -/
def make (level : Level) (categories : List String) : Taint :=
  ⟨level, sortCategories ((categories.map Text.trim).filter (· ≠ ""))⟩

/-- Whether a category is present. The list is sorted, so it is searched by halves. -/
def has (t : Taint) (category : String) : Bool :=
  t.categories[searchFrom t.categories category 0 t.categories.length]? == some category

/-- The form `level{a,b}`. -/
def text (t : Taint) : String :=
  t.level.label ++ "\x7b" ++ Text.join "," t.categories ++ "\x7d"

/-- The join of two taints. -/
def join (a b : Taint) : Taint :=
  ⟨a.level.max b.level, sortCategories (a.categories ++ b.categories)⟩

/-- **The join of what two values carry**; a value without taint adds nothing. -/
def merge : Option Taint → Option Taint → Option Taint
  | none, b => b
  | a, none => a
  | some a, some b => if a = b then some a else some (a.join b)

/-- The join of what all values carry, from the left. -/
def mergeAll (ts : List (Option Taint)) : Option Taint := ts.foldl merge none

/-- The level of what a value carries. -/
def levelOf (t : Option Taint) : Level := (t.map Taint.level).getD Level.none

/-- The categories of what a value carries. -/
def categoriesOf (t : Option Taint) : List String := (t.map Taint.categories).getD []

/-- The written form of what a value carries. -/
def textOf (t : Option Taint) : String := (t.map Taint.text).getD "none"

/-- Whether a value carries a category. -/
def hasCategory (t : Option Taint) (category : String) : Bool := t.any (·.has category)

@[simp] theorem merge_none_left (t : Option Taint) : merge none t = t := by
  cases t <;> rfl

@[simp] theorem merge_none_right (t : Option Taint) : merge t none = t := by
  cases t <;> rfl

end Taint

end CoreCheck

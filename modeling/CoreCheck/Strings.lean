/-!
# Strings — a pool that numbers texts

Each text gets a number when it is first met and keeps it. Number zero is the empty text.
-/

namespace CoreCheck

/-- **A pool of texts**, numbered from zero in the order in which they were met. -/
structure Strings where
  all : Array String := #[""]
deriving Inhabited, DecidableEq

namespace Strings

/-- The number of a text, if it was met. -/
def find? (p : Strings) (s : String) : Option Nat := p.all.idxOf? s

/-- Numbers a text; a text already met keeps its number. -/
def intern (p : Strings) (s : String) : Strings × Nat :=
  match p.find? s with
  | some i => (p, i)
  | none => (⟨p.all.push s⟩, p.all.size)

/-- The text of a number. -/
def lookup? (p : Strings) (id : Nat) : Option String := p.all[id]?

/-- How many texts there are. -/
def size (p : Strings) : Nat := p.all.size

/-- A text is known once it was numbered. -/
theorem mem_intern_self (p : Strings) (s : String) : s ∈ (p.intern s).1.all := by
  rw [intern]
  split
  · next h =>
    rw [find?, Array.idxOf?_eq_map_finIdxOf?_val, Option.map_eq_some_iff] at h
    obtain ⟨j, hj, -⟩ := h
    rw [← (Array.finIdxOf?_eq_some_iff.1 hj).1]
    exact Array.getElem_mem j.isLt
  · exact Array.mem_push_self

/-- Known texts stay known. -/
theorem mem_intern {p : Strings} {t : String} (h : t ∈ p.all) (s : String) :
    t ∈ (p.intern s).1.all := by
  rw [intern]
  split
  · exact h
  · exact Array.mem_push_of_mem _ h

end Strings

end CoreCheck

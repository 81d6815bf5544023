import CoreCheck.Strings

/-!
# Proofs/Strings — numbers of a pool stay with their texts

A text keeps its number when the pool grows, and two texts never share one.
-/

namespace CoreCheck

/-- What a search by value finds is that value. -/
theorem getElem?_of_idxOf? {α : Type} [BEq α] [LawfulBEq α] {xs : Array α} {x : α} {i : Nat}
    (h : xs.idxOf? x = some i) : xs[i]? = some x := by
  rw [Array.idxOf?_eq_map_finIdxOf?_val, Option.map_eq_some_iff] at h
  obtain ⟨j, hj, rfl⟩ := h
  rw [Array.getElem?_eq_getElem j.isLt]
  exact congrArg some (Array.finIdxOf?_eq_some_iff.1 hj).1

namespace Strings

/-- A pool extends another when texts keep their numbers. -/
def Extends (p q : Strings) : Prop := ∀ s n, p.find? s = some n → q.find? s = some n

theorem Extends.refl (p : Strings) : p.Extends p := fun _ _ h => h

theorem Extends.trans {p q r : Strings} (h : p.Extends q) (h' : q.Extends r) : p.Extends r :=
  fun s n hs => h' s n (h s n hs)

theorem getElem?_of_find? {p : Strings} {s : String} {n : Nat} (h : p.find? s = some n) :
    p.all[n]? = some s := getElem?_of_idxOf? h

theorem lt_size_of_find? {p : Strings} {s : String} {n : Nat} (h : p.find? s = some n) :
    n < p.size := (Array.getElem?_eq_some_iff.1 (getElem?_of_find? h)).1

/-- A known text has a number. -/
theorem exists_find? {p : Strings} {s : String} (h : s ∈ p.all) : ∃ n, p.find? s = some n := by
  refine Option.ne_none_iff_exists'.1 fun hnone => ?_
  exact Array.idxOf?_eq_none_iff.1 hnone h

theorem mem_of_find? {p : Strings} {s : String} {n : Nat} (h : p.find? s = some n) : s ∈ p.all :=
  Array.mem_of_getElem? (getElem?_of_find? h)

/-- Known texts stay known. -/
theorem Extends.mem {p q : Strings} (h : p.Extends q) {s : String} (hs : s ∈ p.all) :
    s ∈ q.all := by
  obtain ⟨n, hn⟩ := exists_find? hs
  exact mem_of_find? (h s n hn)

/-- **Two texts never share a number.** -/
theorem find?_inj {p : Strings} {s s' : String} {n : Nat} (h : p.find? s = some n)
    (h' : p.find? s' = some n) : s = s' :=
  Option.some.inj ((getElem?_of_find? h).symm.trans (getElem?_of_find? h'))

theorem find?_push (p : Strings) (s t : String) :
    Strings.find? ⟨p.all.push s⟩ t
      = (p.find? t).or (if s = t then some p.all.size else none) := by
  obtain ⟨⟨l⟩⟩ := p
  simp only [find?, List.push_toArray, List.idxOf?_toArray, List.idxOf?, List.findIdx?_append,
    List.size_toArray]
  by_cases h : s = t <;> simp [h]

/-- A text has a number once it was numbered. -/
theorem find?_intern (p : Strings) (s : String) :
    (p.intern s).1.find? s = some (p.intern s).2 := by
  rw [intern]
  split
  · next h => exact h
  · next h => rw [find?_push, h]; simp

theorem extends_intern (p : Strings) (s : String) : p.Extends (p.intern s).1 := by
  intro t n ht
  rw [intern]
  split
  · exact ht
  · rw [find?_push, ht]
    rfl

/-- Numbering a text changes no other: what was unknown stays so. -/
theorem find?_intern_of_ne (p : Strings) {s t : String} (hne : t ≠ s) :
    (p.intern s).1.find? t = p.find? t := by
  rw [intern]
  split
  · rfl
  · rw [find?_push, if_neg (Ne.symm hne), Option.or_none]

/-- A text that is new gets a number that was not given out. -/
theorem intern_of_find?_none {p : Strings} {s : String} (h : p.find? s = none) :
    (p.intern s).2 = p.size := by
  rw [intern, h]
  rfl

theorem size_le_intern (p : Strings) (s : String) : p.size ≤ (p.intern s).1.size := by
  rw [intern]
  split
  · exact Nat.le_refl _
  · simp [size]

end Strings

end CoreCheck

import CoreCheck.Path
import CoreCheck.Proofs.Text.Pieces

/-!
# Proofs/Files/Cleaned — the components of a clean name

Cleaning a name that starts at the root leaves plain components only: none is empty, a dot or two
dots.  Plain components are what cleaning leaves as it is, so the components of a clean name are read
back from its text (`parts_ofParts`), and cleaning twice is cleaning once.
-/

namespace CoreCheck.Path

open CoreCheck.Text (split join)

/-! ## Plain components -/

/-- **A plain component**: it names something, and neither the directory itself nor the one above. -/
structure Plain (part : String) : Prop where
  ne_empty : part ≠ ""
  ne_dot : part ≠ "."
  ne_dots : part ≠ ".."
  noSlash : '/' ∉ part.toList

variable {path : String} {ps : List String}

theorem Plain.exists_cons {part : String} (h : Plain part) : ∃ c cs, part.toList = c :: cs :=
  List.exists_cons_of_ne_nil fun hnil => h.ne_empty (String.toList_eq_nil_iff.1 hnil)

theorem push_plain {part : String} (h : Plain part) (rooted : Bool) (stack : List String) :
    push rooted stack part = part :: stack := by
  rw [push.eq_def, if_neg (not_or.2 ⟨h.ne_empty, h.ne_dot⟩), if_neg h.ne_dots]

theorem foldl_push_plain (h : ∀ p ∈ ps, Plain p) (rooted : Bool) (stack : List String) :
    ps.foldl (push rooted) stack = ps.reverse ++ stack := by
  induction ps generalizing stack with
  | nil => rfl
  | cons p ps ih =>
    rw [List.foldl_cons, push_plain (h p (.head _)), ih fun q hq => h q (.tail _ hq)]
    simp

/-- **One component more leaves plain components**, when the name starts at the root. -/
theorem plain_push {stack : List String} (h : ∀ p ∈ stack, Plain p) {part : String}
    (hpart : '/' ∉ part.toList) : ∀ p ∈ push true stack part, Plain p := by
  rw [push.eq_def]
  split
  · exact h
  · next hkeep =>
    obtain ⟨hempty, hdot⟩ := not_or.1 hkeep
    split
    · cases stack with
      | nil => exact fun p hp => absurd hp List.not_mem_nil
      | cons top rest =>
        -- the component before it is not two dots, so it is taken back
        intro p hp
        change p ∈ if top = ".." then ".." :: top :: rest else rest at hp
        rw [if_neg (h top (.head _)).ne_dots] at hp
        exact h p (.tail _ hp)
    · next hdots => exact List.forall_mem_cons.2 ⟨⟨hempty, hdot, hdots, hpart⟩, h⟩

theorem plain_foldl_push {stack : List String} (h : ∀ p ∈ stack, Plain p)
    (hps : ∀ p ∈ ps, '/' ∉ p.toList) : ∀ p ∈ ps.foldl (push true) stack, Plain p := by
  induction ps generalizing stack with
  | nil => exact h
  | cons p ps ih =>
    exact ih (plain_push h (hps p (.head _))) fun q hq => hps q (.tail _ hq)

/-- **Cleaning leaves plain components** of a name that starts at the root. -/
theorem plain_parts (h : isAbsolute path = true) : ∀ p ∈ parts path, Plain p := by
  rw [parts, h]
  refine fun p hp => plain_foldl_push (fun q hq => absurd hq List.not_mem_nil) (fun q hq => ?_) p
    (List.mem_reverse.1 hp)
  obtain ⟨cs, hcs, rfl⟩ := List.mem_map.1 hq
  rw [String.toList_ofList]
  exact Text.notMem_of_mem_splitChars hcs

/-! ## Names of plain components -/

theorem isAbsolute_append (base : String) {rest : String} (h : isAbsolute base = true) :
    isAbsolute (base ++ rest) = true := by
  rw [isAbsolute, beq_iff_eq] at h ⊢
  rw [String.toList_append, List.head?_append, h]
  rfl

/-- What a name that starts at the root is, cut at its slashes. -/
theorem split_ofParts (h : ∀ p ∈ ps, Plain p) :
    split '/' (ofParts true ps) = "" :: if ps = [] then [""] else ps := by
  have hroot : ofParts true ps = "" ++ "/" ++ join "/" ps := by
    rw [ofParts, if_pos rfl, String.empty_append]
  rw [hroot, Text.split_append rfl]
  cases ps with
  | nil => rfl
  | cons p ps =>
    rw [Text.split_join rfl (List.cons_ne_nil p ps) fun q hq => (h q hq).noSlash, if_neg (by simp)]
    rfl

theorem isAbsolute_ofParts (ps : List String) : isAbsolute (ofParts true ps) = true := by
  rw [ofParts, if_pos rfl]
  exact isAbsolute_append "/" rfl

/-- **Plain components are read back** from the name that they make. -/
theorem parts_ofParts (h : ∀ p ∈ ps, Plain p) : parts (ofParts true ps) = ps := by
  rw [parts, isAbsolute_ofParts, split_ofParts h, List.foldl_cons]
  change List.reverse ((if ps = [] then [""] else ps).foldl (push true) []) = ps
  split
  · next hnil => exact hnil.symm
  · rw [foldl_push_plain h, List.append_nil, List.reverse_reverse]

theorem clean_absolute (h : isAbsolute path = true) : clean path = ofParts true (parts path) := by
  rw [clean, h]

theorem parts_clean (h : isAbsolute path = true) : parts (clean path) = parts path := by
  rw [clean_absolute h, parts_ofParts (plain_parts h)]

/-- **Cleaning twice is cleaning once.** -/
theorem clean_clean (h : isAbsolute path = true) : clean (clean path) = clean path := by
  have hclean : isAbsolute (clean path) = true := by
    rw [clean_absolute h]
    exact isAbsolute_ofParts _
  rw [clean_absolute hclean, parts_clean h, clean_absolute h]

/-- **The components of a name as it is written**: what stands between its slashes. -/
def components (path : String) : List String := (split '/' path).filter (· ≠ "")

/-- The components of a clean name are those that cleaning left. -/
theorem components_clean (h : isAbsolute path = true) : components (clean path) = parts path := by
  have hplain := plain_parts h
  have hfilter : (parts path).filter (· ≠ "") = parts path :=
    List.filter_eq_self.2 fun p hp => decide_eq_true (hplain p hp).ne_empty
  rw [clean_absolute h, components, split_ofParts hplain]
  split
  · next hnil =>
    rw [hnil]
    rfl
  · exact hfilter

end CoreCheck.Path

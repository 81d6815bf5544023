import CoreCheck.Proofs.Files.Cleaned

/-!
# Proofs/Files/Relative — which paths are shown relative to a base

A path lies inside a base when the components of the clean base are a front of those of the clean
path.  Whether it does is told from the text of the relative name: a way that goes up starts with two
dots.  So does the name of a directory that itself starts with two dots, and this is the only case in
which a path inside the base is not shown relative to it (`shownFrom_iff_not_dotted`).
-/

namespace CoreCheck.Path

open CoreCheck.Text (split join)

/-- **A path lies inside a base**: it is the base or lies below it, component by component. -/
def Inside (base path : String) : Prop := components (clean base) <+: components (clean path)

instance (base path : String) : Decidable (Inside base path) :=
  inferInstanceAs (Decidable (components (clean base) <+: components (clean path)))

/-- **Below the base stands a name that starts with two dots.** -/
def Dotted (base path : String) : Prop :=
  ∃ name rest, components (clean path) = components (clean base) ++ (".." ++ name) :: rest

theorem Dotted.inside {base path : String} (h : Dotted base path) : Inside base path := by
  obtain ⟨name, rest, hrest⟩ := h
  exact ⟨_, hrest.symm⟩

/-! ## The common front -/

theorem dropCommon_append (bs rest : List String) : dropCommon bs (bs ++ rest) = ([], rest) := by
  induction bs with
  | nil => cases rest <;> rfl
  | cons b bs ih => rw [List.cons_append, dropCommon, if_pos rfl, ih]

theorem exists_front (bs ps : List String) :
    ∃ front, bs = front ++ (dropCommon bs ps).1 ∧ ps = front ++ (dropCommon bs ps).2 := by
  fun_induction dropCommon bs ps with
  | case1 bs b ps ih =>
    obtain ⟨front, hbs, hps⟩ := ih
    exact ⟨b :: front, congrArg (b :: ·) hbs, congrArg (b :: ·) hps⟩
  | case2 => exact ⟨[], rfl, rfl⟩
  | case3 => exact ⟨[], rfl, rfl⟩

/-- There is a way up exactly from what is not a front. -/
theorem dropCommon_fst_ne_nil {bs ps : List String} (h : ¬ bs <+: ps) :
    (dropCommon bs ps).1 ≠ [] := by
  intro hnil
  obtain ⟨front, hbs, hps⟩ := exists_front bs ps
  rw [hnil, List.append_nil] at hbs
  subst hbs
  exact h ⟨_, hps.symm⟩

/-! ## How a relative name starts -/

/-- Whether a name starts with two dots. -/
def startsUp (name : String) : Bool := "..".toList.isPrefixOf name.toList

/-- The text of a relative name: its first component, and the others behind a slash. -/
theorem toList_ofParts_cons (part : String) (ps : List String) :
    (ofParts false (part :: ps)).toList
      = part.toList ++ if ps = [] then [] else '/' :: (join "/" ps).toList := by
  change (join "/" (part :: ps)).toList = _
  cases ps with
  | nil => rw [if_pos rfl, List.append_nil, join, String.intercalate_singleton]
  | cons q qs =>
    rw [if_neg (List.cons_ne_nil q qs), join, String.intercalate_cons_cons, String.append_assoc,
      String.toList_append, String.toList_append]
    rfl

theorem startsUp_dots (names : List String) : startsUp (ofParts false (".." :: names)) = true := by
  rw [startsUp, toList_ofParts_cons]
  exact List.isPrefixOf_iff_prefix.2 (List.prefix_append ..)

/-- **Of plain components it is the first that starts with two dots.** -/
theorem startsUp_cons {part : String} (h : Plain part) (ps : List String) :
    startsUp (ofParts false (part :: ps)) = true ↔ ∃ name, part = ".." ++ name := by
  have hdots : "..".toList = ['.', '.'] := rfl
  rw [startsUp, toList_ofParts_cons, hdots, List.isPrefixOf_iff_prefix]
  constructor
  · intro hstart
    obtain ⟨c, cs, hcs⟩ := h.exists_cons
    rw [hcs, List.cons_append] at hstart
    obtain ⟨rfl, htail⟩ := List.cons_prefix_cons.1 hstart
    cases cs with
    | nil =>
      -- a single dot is no plain component
      exact absurd (String.toList_inj.1 hcs) h.ne_dot
    | cons d ds =>
      obtain ⟨rfl, -⟩ := List.cons_prefix_cons.1 htail
      refine ⟨String.ofList ds, String.toList_inj.1 ?_⟩
      rw [hcs, String.toList_append, hdots, String.toList_ofList]
      rfl
  · rintro ⟨name, rfl⟩
    rw [String.toList_append, List.append_assoc, hdots]
    exact List.prefix_append ..

section Absolute

variable {base path : String}

theorem ne_empty_of_isAbsolute (h : isAbsolute path = true) : path ≠ "" := by
  rintro rfl
  exact Bool.noConfusion h

/-! ## The way from the base -/

theorem inside_iff (hb : isAbsolute base = true) (hp : isAbsolute path = true) :
    Inside base path ↔ ∃ rest, parts path = parts base ++ rest := by
  rw [Inside, components_clean hb, components_clean hp]
  exact exists_congr fun rest => eq_comm

theorem dotted_iff (hb : isAbsolute base = true) (hp : isAbsolute path = true) :
    Dotted base path ↔ ∃ name rest, parts path = parts base ++ (".." ++ name) :: rest := by
  rw [Dotted, components_clean hb, components_clean hp]

theorem seenFrom?_absolute (hb : isAbsolute base = true) (hp : isAbsolute path = true) :
    seenFrom? base path = some (ofParts false
      ((dropCommon (parts base) (parts path)).1.map (fun _ => "..") ++
        (dropCommon (parts base) (parts path)).2)) := by
  have hup : (dropCommon (parts base) (parts path)).1.contains ".." = false := by
    obtain ⟨front, hfront, -⟩ := exists_front (parts base) (parts path)
    refine Bool.eq_false_iff.2 fun hmem => ?_
    have hin := List.mem_append_right front (List.contains_iff_mem.1 hmem)
    exact (plain_parts hb ".." (hfront ▸ hin)).ne_dots rfl
  rw [seenFrom?, hb, hp]
  exact if_neg (hup ▸ Bool.false_ne_true)

theorem seenFrom?_inside (hb : isAbsolute base = true) (hp : isAbsolute path = true)
    {rest : List String} (h : parts path = parts base ++ rest) :
    seenFrom? base path = some (ofParts false rest) := by
  rw [seenFrom?_absolute hb hp, h, dropCommon_append]
  rfl

/-- **The way to a path that does not lie inside goes up.** -/
theorem seenFrom?_outside (hb : isAbsolute base = true) (hp : isAbsolute path = true)
    (h : ¬ Inside base path) : ∃ name, seenFrom? base path = some name ∧ startsUp name = true := by
  have hne : (dropCommon (parts base) (parts path)).1 ≠ [] :=
    dropCommon_fst_ne_nil fun ⟨rest, hrest⟩ => h ((inside_iff hb hp).2 ⟨rest, hrest.symm⟩)
  obtain ⟨up, ups, hups⟩ := List.exists_cons_of_ne_nil hne
  refine ⟨_, seenFrom?_absolute hb hp, ?_⟩
  rw [hups]
  exact startsUp_dots _

theorem relative_of_seenFrom? (hb : isAbsolute base = true) (hp : isAbsolute path = true)
    {name : String} (h : seenFrom? base path = some name) :
    relative path base = if startsUp name then path else name := by
  rw [relative, h, if_neg (by simp [ne_empty_of_isAbsolute hb, ne_empty_of_isAbsolute hp, hp])]
  rfl

/-! ## Back to the path -/

theorem isAbsolute_ofParts_false {ps : List String} (h : ∀ p ∈ ps, Plain p) :
    isAbsolute (ofParts false ps) = false := by
  cases ps with
  | nil => rfl
  | cons p ps =>
    have hp := h p (.head _)
    obtain ⟨c, cs, hcs⟩ := hp.exists_cons
    have hc : c ≠ '/' := fun heq => hp.noSlash (hcs ▸ heq ▸ List.mem_cons_self)
    rw [isAbsolute, toList_ofParts_cons, hcs, List.cons_append, List.head?_cons]
    exact beq_eq_false_iff_ne.2 fun heq => hc (Option.some.inj heq)

/-- The components of a relative name are put behind those of the base. -/
theorem parts_append (hb : isAbsolute base = true) {rest : List String}
    (h : ∀ p ∈ rest, Plain p) :
    parts (base ++ "/" ++ ofParts false rest) = parts base ++ rest := by
  have hpush : ∀ stack : List String, (split '/' (ofParts false rest)).foldl (push true) stack
      = rest.reverse ++ stack := by
    intro stack
    cases rest with
    | nil => rfl
    | cons p ps =>
      change (split '/' (join "/" (p :: ps))).foldl (push true) stack = _
      rw [Text.split_join rfl (List.cons_ne_nil p ps) fun q hq => (h q hq).noSlash, foldl_push_plain h]
  rw [parts, String.append_assoc, isAbsolute_append base hb, ← String.append_assoc,
    Text.split_append rfl, List.foldl_append, hpush, List.reverse_append, List.reverse_reverse, parts, hb]

/-- **From the base, a relative name leads to what its components say.** -/
theorem clean_append_ofParts (hb : isAbsolute base = true) {rest : List String}
    (h : ∀ p ∈ rest, Plain p) :
    clean (append base (ofParts false rest)) = ofParts true (parts base ++ rest) := by
  have hne : ofParts false rest ≠ "" := by
    intro hempty
    cases rest with
    | nil => exact absurd hempty (by decide)
    | cons p ps =>
      have hsplit : split '/' (join "/" (p :: ps)) = p :: ps :=
        Text.split_join rfl (List.cons_ne_nil p ps) fun q hq => (h q hq).noSlash
      change join "/" (p :: ps) = "" at hempty
      rw [hempty] at hsplit
      exact (h p (.head _)).ne_empty (List.cons.inj hsplit).1.symm
  have habs : isAbsolute (base ++ "/" ++ ofParts false rest) = true := by
    rw [String.append_assoc]
    exact isAbsolute_append base hb
  rw [append, if_neg (ne_empty_of_isAbsolute hb), if_neg hne, clean_clean habs, clean_absolute habs,
    parts_append hb h]

end Absolute

/-- **A path is shown relative to a base exactly when it lies inside**: a relative name leads from the
base to the path, and any other path is shown as it is. -/
structure ShownFrom (base path : String) : Prop where
  inside : Inside base path → isAbsolute (relative path base) = false ∧
    clean (append base (relative path base)) = clean path
  outside : ¬ Inside base path → relative path base = path

section Absolute

variable {base path : String}

/-- What is shown of a path inside the base: the components below the base, unless they start with
two dots. -/
theorem relative_inside (hb : isAbsolute base = true) (hp : isAbsolute path = true)
    {rest : List String} (h : parts path = parts base ++ rest) :
    (startsUp (ofParts false rest) = true ↔ Dotted base path) ∧
      relative path base = if startsUp (ofParts false rest) then path else ofParts false rest := by
  refine ⟨?_, relative_of_seenFrom? hb hp (seenFrom?_inside hb hp h)⟩
  rw [dotted_iff hb hp, h]
  simp only [List.append_cancel_left_eq]
  cases rest with
  | nil => exact ⟨fun h => absurd h (by decide), fun ⟨_, _, h⟩ => nomatch h⟩
  | cons p ps =>
    have hplain := plain_parts hp p (h ▸ List.mem_append_right _ List.mem_cons_self)
    rw [startsUp_cons hplain]
    exact ⟨fun ⟨name, hname⟩ => ⟨name, ps, hname ▸ rfl⟩,
      fun ⟨name, _, h⟩ => ⟨name, (List.cons.inj h).1⟩⟩

theorem relative_outside (hb : isAbsolute base = true) (hp : isAbsolute path = true)
    (h : ¬ Inside base path) : relative path base = path := by
  obtain ⟨name, hname, hup⟩ := seenFrom?_outside hb hp h
  rw [relative_of_seenFrom? hb hp hname, if_pos hup]

/-- **Paths inside the base are shown relative to it, and only those, exactly unless a name that
starts with two dots stands below the base.**  Then the path is shown as it is, though it lies
inside. -/
theorem shownFrom_iff_not_dotted (hb : isAbsolute base = true) (hp : isAbsolute path = true) :
    (ShownFrom base path ↔ ¬ Dotted base path) ∧
      (Dotted base path → Inside base path ∧ relative path base = path) := by
  refine ⟨⟨fun hshown hdot => ?_, fun hdot => ⟨fun hin => ?_, relative_outside hb hp⟩⟩,
    fun hdot => ⟨hdot.inside, ?_⟩⟩
  · -- shown as it is, the path is not relative
    obtain ⟨rest, hrest⟩ := (inside_iff hb hp).1 hdot.inside
    obtain ⟨hup, hrel⟩ := relative_inside hb hp hrest
    have habs := (hshown.inside hdot.inside).1
    rw [hrel, if_pos (hup.2 hdot), hp] at habs
    exact Bool.noConfusion habs
  · obtain ⟨rest, hrest⟩ := (inside_iff hb hp).1 hin
    obtain ⟨hup, hrel⟩ := relative_inside hb hp hrest
    have hplain : ∀ p ∈ rest, Plain p := fun p hp' =>
      plain_parts hp p (hrest ▸ List.mem_append_right _ hp')
    rw [hrel, if_neg (mt hup.1 hdot), clean_append_ofParts hb hplain, ← hrest, clean_absolute hp]
    exact ⟨isAbsolute_ofParts_false hplain, rfl⟩
  · obtain ⟨rest, hrest⟩ := (inside_iff hb hp).1 hdot.inside
    obtain ⟨hup, hrel⟩ := relative_inside hb hp hrest
    rw [hrel, if_pos (hup.2 hdot)]

end Absolute

/-- A name that has to be cleaned first is shown relative to a base that has to be cleaned as well. -/
theorem shownFrom_iff_not_dotted_mainFile :
    isAbsolute "/work/./app/" = true ∧ isAbsolute "/work//app/src/../main.json" = true ∧
      (ShownFrom "/work/./app/" "/work//app/src/../main.json" ↔
        ¬ Dotted "/work/./app/" "/work//app/src/../main.json") ∧
      relative "/work//app/src/../main.json" "/work/./app/" = "main.json" :=
  ⟨by decide, by decide, (shownFrom_iff_not_dotted (by decide) (by decide)).1, by decide +kernel⟩

/-- **A directory whose name starts with two dots is taken for a way up.** -/
theorem not_shownFrom_dottedDirectory : ¬ ShownFrom "/work" "/work/..data/main.json" := fun h =>
  absurd (h.inside (by decide +kernel)).1 (by decide +kernel)

end CoreCheck.Path

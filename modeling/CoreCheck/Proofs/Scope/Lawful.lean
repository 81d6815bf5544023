import CoreCheck.Proofs.Scope.View
import CoreCheck.Scope.Validate

/-!
# Proofs/Scope/Lawful — tables without a broken law

The laws that `Table.validate` looks for, as an invariant: scopes and their parents agree, every
symbol is where its scope says, and the open scopes form a chain that is as deep as it is long.
Opening and leaving a scope, binding a name and changing a symbol in place all keep it.
-/

namespace CoreCheck.Scope

/-- **A scope later on**: it stands where it stood, and may list more. -/
structure Frame.Grown (f g : Frame) : Prop where
  parent_eq : g.parent = f.parent
  depth_eq : g.depth = f.depth
  children : ∀ c ∈ f.children, c ∈ g.children
  symbols : ∀ k ∈ f.symbols, k ∈ g.symbols

theorem Frame.Grown.refl (f : Frame) : f.Grown f := ⟨rfl, rfl, fun _ h => h, fun _ h => h⟩

/-- **The laws of one scope**, with its number. -/
structure Frame.Lawful (t : Table) (id : Nat) (f : Frame) : Prop where
  kind : f.kind ≠ .invalid
  parent : f.parent ≠ 0 → ∃ p, t.frame? f.parent = some p ∧ f.parent < id ∧ id ∈ p.children ∧
    f.depth = p.depth + 1
  children : ∀ c ∈ f.children, ∃ g, t.frame? c = some g ∧ g.parent = id
  counted : f.names.length = f.symbols.length
  names : ∀ e ∈ f.names, ∃ sym, t.symbol? e.2 = some sym ∧ sym.scope = id ∧ sym.name = e.1

namespace Table

/-- **Open scopes, innermost first**: each lies in the next one, as deep as there are others. -/
def Chained (t : Table) : List Nat → Prop
  | [] => True
  | id :: rest =>
    (∃ f, t.frame? id = some f ∧ f.parent = rest.headD 0 ∧ f.depth = rest.length) ∧ t.Chained rest

/-- **A lawful table.** -/
structure Lawful (t : Table) : Prop extends Sound t where
  frames : ∀ {id f}, t.frame? id = some f → f.Lawful t id
  listed : ∀ {id sym}, t.symbol? id = some sym →
    ∃ f, t.frame? sym.scope = some f ∧ id ∈ f.symbols
  chained : t.Chained t.stack

/-- The scopes of a table are there later on. -/
def Framed (t t' : Table) : Prop :=
  ∀ id f, t.frame? id = some f → ∃ g, t'.frame? id = some g ∧ f.Grown g

theorem Chained.mono {t t' : Table} (h : t.Framed t') : ∀ {ids : List Nat}, t.Chained ids →
    t'.Chained ids
  | [], _ => trivial
  | _ :: _, ⟨⟨_, hf, hparent, hdepth⟩, hrest⟩ =>
    have ⟨g, hg, hgrown⟩ := h _ _ hf
    ⟨⟨g, hg, hgrown.parent_eq.trans hparent, hgrown.depth_eq.trans hdepth⟩, Chained.mono h hrest⟩

/-- The links of a scope lead to the same places later on. -/
theorem Frame.Lawful.later {t t' : Table} {id : Nat} {f g : Frame} (hf : f.Lawful t id)
    (h : t.Framed t') (hkind : g.kind = f.kind) (hgrown : f.Grown g)
    (hchildren : ∀ c ∈ g.children, c ∈ f.children ∨ ∃ x, t'.frame? c = some x ∧ x.parent = id)
    (hcounted : g.names.length = g.symbols.length)
    (hnames : ∀ e ∈ g.names, ∃ sym, t'.symbol? e.2 = some sym ∧ sym.scope = id ∧ sym.name = e.1) :
    g.Lawful t' id where
  kind := hkind ▸ hf.kind
  parent hne := by
    rw [hgrown.parent_eq] at hne ⊢
    obtain ⟨p, hp, hlt, hmem, hdepth⟩ := hf.parent hne
    obtain ⟨q, hq, hpq⟩ := h _ _ hp
    exact ⟨q, hq, hlt, hpq.children id hmem, by rw [hgrown.depth_eq, hpq.depth_eq, hdepth]⟩
  children c hc := by
    obtain hc | hc := hchildren c hc
    · obtain ⟨x, hx, hparent⟩ := hf.children c hc
      obtain ⟨y, hy, hxy⟩ := h _ _ hx
      exact ⟨y, hy, hxy.parent_eq.trans hparent⟩
    · exact hc
  counted := hcounted
  names := hnames

theorem Framed.of_frame?_eq {t t' : Table} (h : ∀ id, t'.frame? id = t.frame? id) : t.Framed t' :=
  fun _ _ hf => ⟨_, (h _).trans hf, .refl _⟩

/-! ## The empty table -/

theorem frame?_initial {id : Nat} {f : Frame} (h : Table.initial.frame? id = some f) :
    id = root ∧ f = { kind := .module, parent := 0, depth := 0 } := by
  cases id with
  | zero => exact nomatch h
  | succ i =>
    cases i with
    | zero => exact ⟨rfl, (Option.some.inj h).symm⟩
    | succ i => exact nomatch h

theorem lawful_initial : Table.initial.Lawful where
  toSound := sound_initial
  frames h := by
    obtain ⟨rfl, rfl⟩ := frame?_initial h
    exact ⟨by decide, fun h => absurd rfl h, (fun _ hc => nomatch hc), rfl, fun _ he => nomatch he⟩
  listed {id sym} h := by
    cases id <;> exact nomatch h
  chained := ⟨⟨_, rfl, rfl, rfl⟩, trivial⟩

/-! ## Opening and leaving scopes -/

theorem frame?_push (t : Table) (frame : Frame) (stack : List Nat) (id : Nat) :
    ({ t with frames := t.frames.push frame, stack } : Table).frame? id
      = if id = t.frames.size + 1 then some frame else t.frame? id := by
  unfold frame?
  by_cases hid : id = 0
  · subst hid
    simp
  · have hiff : id - 1 = t.frames.size ↔ id = t.frames.size + 1 := by omega
    simp only [hid, if_false, Array.getElem?_push, hiff]

theorem le_size_of_frame? {t : Table} {id : Nat} {f : Frame} (h : t.frame? id = some f) :
    id ≤ t.frames.size := by
  rw [frame?] at h
  split at h
  · simp at h
  · have := (Array.getElem?_eq_some_iff.1 h).1
    omega

section Open

variable {t : Table}

theorem Sound.current_le (h : t.Sound) : t.current ≤ t.frames.size := by
  obtain ⟨f, hf⟩ := h.frame_current
  exact le_size_of_frame? hf

theorem Sound.frame?_enter (h : t.Sound) (kind : ScopeKind) (span : Span) (id : Nat) :
    (t.enter kind span).1.frame? id =
      if id = t.frames.size + 1 then
        some { kind, parent := t.current, depth := t.stack.length, span }
      else if id = t.current then
        (t.frame? id).map fun f => { f with children := f.children ++ [t.frames.size + 1] }
      else t.frame? id := by
  have hcur := h.current_le
  unfold Table.enter
  rw [frame?_updateFrame, frame?_push]
  by_cases hid : id = t.frames.size + 1
  · have hne : t.current ≠ id := by omega
    rw [if_neg hne, if_pos hid, if_pos hid]
  · simp only [if_neg hid, eq_comm]

theorem Sound.framed_enter (h : t.Sound) (kind : ScopeKind) (span : Span) :
    t.Framed (t.enter kind span).1 := by
  intro id f hf
  have hle := le_size_of_frame? hf
  rw [h.frame?_enter, if_neg (by omega), hf]
  split
  · exact ⟨_, rfl, rfl, rfl, fun c hc => List.mem_append_left _ hc, fun _ hk => hk⟩
  · exact ⟨f, rfl, .refl f⟩

/-- The innermost scope is as deep as there are scopes around it. -/
theorem Sound.depth_current (h : t.Sound) (hc : t.Chained t.stack) {p : Frame}
    (hp : t.frame? t.current = some p) : (t.stack.length : Int) = p.depth + 1 := by
  cases hs : t.stack with
  | nil => exact absurd hs h.rooted
  | cons top rest =>
    rw [hs] at hc
    obtain ⟨⟨f, hf, -, hdepth⟩, -⟩ := hc
    rw [current_of_stack hs] at hp
    obtain rfl := Option.some.inj (hf.symm.trans hp)
    rw [hdepth, List.length_cons]
    exact Int.natCast_succ _

/-- The new scope lies in the innermost one and is as deep as there are scopes around it. -/
theorem Sound.chained_enter (h : t.Sound) (hc : t.Chained t.stack) (kind : ScopeKind)
    (span : Span) : (t.enter kind span).1.Chained (t.enter kind span).1.stack := by
  rw [stack_enter]
  refine ⟨⟨{ kind, parent := t.current, depth := t.stack.length, span }, ?_, rfl, rfl⟩,
    hc.mono (h.framed_enter kind span)⟩
  exact (h.frame?_enter kind span _).trans (if_pos rfl)

/-- **Opening a scope keeps the laws.** -/
theorem Lawful.enter (h : t.Lawful) {kind : ScopeKind} (hkind : kind ≠ .invalid) (span : Span) :
    (t.enter kind span).1.Lawful where
  toSound := h.toSound.enter kind span
  frames {id g} hg := by
    have hframed := h.framed_enter kind span
    have hcur := h.current_le
    obtain ⟨p, hp⟩ := h.frame_current
    have hnew := h.frame?_enter kind span (t.frames.size + 1)
    rw [if_pos rfl] at hnew
    rw [h.frame?_enter] at hg
    split at hg
    · next hid =>
      -- the new scope lies in the one that was innermost
      obtain rfl := Option.some.inj hg
      refine ⟨hkind, fun _ => ?_, (fun _ hc => nomatch hc), rfl, fun _ he => nomatch he⟩
      have hdepth := h.depth_current h.chained hp
      refine ⟨{ p with children := p.children ++ [t.frames.size + 1] }, ?_, ?_, ?_, hdepth⟩
      · change (t.enter kind span).1.frame? t.current = _
        rw [h.frame?_enter, if_neg (by omega), if_pos rfl, hp]
        rfl
      · exact hid ▸ Nat.lt_succ_of_le hcur
      · exact hid ▸ List.mem_append_right _ (List.mem_singleton.2 rfl)
    · split at hg
      · next hid =>
        subst hid
        rw [hp] at hg
        obtain rfl := Option.some.inj hg
        have hl := h.frames hp
        refine Frame.Lawful.later hl hframed rfl
          ⟨rfl, rfl, fun c hc => List.mem_append_left _ hc, fun _ hk => hk⟩ (fun c hc => ?_)
          hl.counted fun e he => ?_
        · refine (List.mem_append.1 hc).imp_right fun hc => ?_
          rw [List.mem_singleton.1 hc]
          exact ⟨_, hnew, rfl⟩
        · rw [symbol?_enter]
          exact hl.names e he
      · have hl := h.frames hg
        refine Frame.Lawful.later hl hframed rfl (.refl g) (fun _ hc => .inl hc) hl.counted
          fun e he => ?_
        rw [symbol?_enter]
        exact hl.names e he
  listed {id sym} hs := by
    rw [symbol?_enter] at hs
    obtain ⟨f, hf, hmem⟩ := h.listed hs
    obtain ⟨g, hg, hgrown⟩ := h.framed_enter kind span _ _ hf
    exact ⟨g, hg, hgrown.symbols id hmem⟩
  chained := h.chained_enter h.chained kind span

theorem chained_exit (hc : t.Chained t.stack) {top next : Nat} {rest : List Nat}
    (hs : t.stack = top :: next :: rest) :
    ({ t with stack := next :: rest } : Table).Chained (next :: rest) := by
  rw [hs] at hc
  have hframed : t.Framed { t with stack := next :: rest } := Framed.of_frame?_eq fun _ => rfl
  exact Chained.mono hframed hc.2

/-- **Leaving a scope keeps the laws.** -/
theorem Lawful.exit (h : t.Lawful) {top next : Nat} {rest : List Nat}
    (hs : t.stack = top :: next :: rest) : ({ t with stack := next :: rest } : Table).Lawful where
  toSound := h.toSound.exit hs
  frames hf :=
    have hl := h.frames hf
    ⟨hl.kind, hl.parent, hl.children, hl.counted, hl.names⟩
  listed := h.listed
  chained := chained_exit h.chained hs

/-! ## Binding a name and changing a symbol -/

theorem frame?_bound (t : Table) (name : String) (sym : Symbol) (id : Nat) :
    (t.bound name sym).frame? id =
      if id = t.current then (t.frame? id).map fun f =>
        { f with symbols := f.symbols ++ [t.symbols.size + 1],
                 names := f.names ++ [((t.strings.intern name).2, t.symbols.size + 1)] }
      else t.frame? id := by
  unfold bound
  rw [frame?_updateFrame]
  simp only [eq_comm]
  rfl

theorem framed_bound (t : Table) (name : String) (sym : Symbol) : t.Framed (t.bound name sym) := by
  intro id f hf
  rw [frame?_bound, hf]
  split
  · exact ⟨_, rfl, rfl, rfl, fun _ hc => hc, fun k hk => List.mem_append_left _ hk⟩
  · exact ⟨f, rfl, .refl f⟩

/-- **Binding a name keeps the laws.** -/
theorem Lawful.bound (h : t.Lawful) {name : String} (sym : Symbol)
    (hfree : t.inFrame? t.current (t.strings.intern name).2 = none) :
    (t.bound name sym).Lawful where
  toSound := h.toSound.bound sym hfree
  frames {id g} hg := by
    have hframed := framed_bound t name sym
    have hold : ∀ {f : Frame}, f.Lawful t id → ∀ e ∈ f.names,
        ∃ s, (t.bound name sym).symbol? e.2 = some s ∧ s.scope = id ∧ s.name = e.1 := by
      intro f hl e he
      obtain ⟨s, hs, hplace⟩ := hl.names e he
      exact ⟨s, symbol?_bound_of_some hs name sym, hplace⟩
    rw [frame?_bound] at hg
    split at hg
    · next hid =>
      subst hid
      obtain ⟨f, hf, rfl⟩ := Option.map_eq_some_iff.1 hg
      have hl := h.frames hf
      refine Frame.Lawful.later hl hframed rfl
        ⟨rfl, rfl, fun _ hc => hc, fun k hk => List.mem_append_left _ hk⟩ (fun _ hc => .inl hc)
        (by simp [hl.counted]) fun e he => ?_
      obtain he | he := List.mem_append.1 he
      · exact hold hl e he
      · rw [List.mem_singleton.1 he, symbol?_bound, if_pos rfl]
        exact ⟨_, rfl, rfl, rfl⟩
    · have hl := h.frames hg
      exact Frame.Lawful.later hl hframed rfl (.refl g) (fun _ hc => .inl hc) hl.counted (hold hl)
  listed {id s} hs := by
    rw [symbol?_bound] at hs
    split at hs
    · next hid =>
      obtain rfl := Option.some.inj hs
      obtain ⟨f, hf⟩ := h.frame_current
      refine ⟨_, (frame?_bound t name sym t.current).trans (by rw [if_pos rfl, hf]; rfl), ?_⟩
      exact hid ▸ List.mem_append_right _ (List.mem_singleton.2 rfl)
    · obtain ⟨f, hf, hmem⟩ := h.listed hs
      obtain ⟨g, hg, hgrown⟩ := framed_bound t name sym _ _ hf
      exact ⟨g, hg, hgrown.symbols id hmem⟩
  chained := by
    rw [stack_bound]
    exact h.chained.mono (framed_bound t name sym)

theorem frame?_updateSymbol (t : Table) (id : Nat) (f : Symbol → Symbol) (scope : Nat) :
    (t.updateSymbol id f).frame? scope = t.frame? scope := by
  unfold frame?
  rw [frames_updateSymbol]

/-- **Changing a symbol in place keeps the laws**, when it stays where it is. -/
theorem Lawful.updateSymbol (h : t.Lawful) (id : Nat) {f : Symbol → Symbol}
    (hf : ∀ s, (f s).scope = s.scope ∧ (f s).name = s.name) : (t.updateSymbol id f).Lawful where
  toSound := h.toSound.updateSymbol id hf
  frames {scope g} hg := by
    have hframed : t.Framed (t.updateSymbol id f) := Framed.of_frame?_eq (frame?_updateSymbol t id f)
    rw [frame?_updateSymbol] at hg
    have hl := h.frames hg
    refine Frame.Lawful.later hl hframed rfl (.refl g) (fun _ hc => .inl hc) hl.counted
      fun e he => ?_
    obtain ⟨s, hs, hscope, hname⟩ := hl.names e he
    rw [symbol?_updateSymbol, hs]
    split
    · exact ⟨f s, rfl, (hf s).1.trans hscope, (hf s).2.trans hname⟩
    · exact ⟨s, rfl, hscope, hname⟩
  listed {other s} hs := by
    rw [symbol?_updateSymbol] at hs
    have hold : ∃ s', t.symbol? other = some s' ∧ s.scope = s'.scope := by
      split at hs
      · obtain ⟨s', hs', rfl⟩ := Option.map_eq_some_iff.1 hs
        exact ⟨s', hs', (hf s').1⟩
      · exact ⟨s, hs, rfl⟩
    obtain ⟨s', hs', hscope⟩ := hold
    rw [frame?_updateSymbol, hscope]
    exact h.listed hs'
  chained := by
    rw [stack_updateSymbol]
    exact h.chained.mono (Framed.of_frame?_eq (frame?_updateSymbol t id f))

/-! ## Nothing is broken -/

theorem parentProblems_eq_nil {id : Nat} {f : Frame} (h : f.Lawful t id) :
    t.parentProblems id f = [] := by
  rw [parentProblems]
  split
  · rfl
  · next hne =>
    obtain ⟨p, hp, hlt, hmem, hdepth⟩ := h.parent hne
    rw [hp]
    simp [Nat.ne_of_lt hlt, hmem, hdepth]

theorem frameProblems_eq_nil {id : Nat} {f : Frame} (h : f.Lawful t id) :
    t.frameProblems id f = [] := by
  rw [frameProblems, if_neg h.kind, parentProblems_eq_nil h, if_neg fun hne => hne h.counted]
  simp only [List.nil_append, List.append_nil, List.append_eq_nil_iff, List.map_eq_nil_iff,
    List.filter_eq_nil_iff]
  refine ⟨fun c hc => ?_, fun e he => ?_⟩
  · obtain ⟨g, hg, hparent⟩ := h.children c hc
    simp [hg, hparent]
  · obtain ⟨sym, hsym, hscope, hname⟩ := h.names e he
    simp [hsym, hscope, hname]

theorem symbolProblems_eq_nil (h : t.Lawful) {id : Nat} {sym : Symbol}
    (hs : t.symbol? id = some sym) : t.symbolProblems id sym = [] := by
  obtain ⟨f, hf, hmem⟩ := h.listed hs
  rw [symbolProblems, hf]
  simp [hmem]

/-- One more scope inside the last one. -/
theorem stackProblems_concat (t : Table) (outer inner : Nat) : ∀ (ids : List Nat) (level : Nat),
    (t.frame? inner).any (·.parent = outer) = true →
    t.stackProblems level (ids ++ [outer, inner]) = t.stackProblems level (ids ++ [outer])
  | [], level, h => by simp [stackProblems, h]
  | [id], level, h => by simp [stackProblems, h]
  | id :: id' :: ids, level, h => by
    have hrest := stackProblems_concat t outer inner (id' :: ids) (level + 1) h
    simp only [List.cons_append, stackProblems] at hrest ⊢
    rw [hrest]

/-- The open scopes are in order, read from the outermost on. -/
theorem stackProblems_eq_nil (level : Nat) : ∀ {ids : List Nat}, t.Chained ids →
    t.stackProblems level ids.reverse = []
  | [], _ => rfl
  | [_], _ => rfl
  | inner :: outer :: rest, ⟨⟨f, hf, hparent, _⟩, hrest⟩ => by
    have hin : (t.frame? inner).any (·.parent = outer) = true := by simpa [hf] using hparent
    rw [List.reverse_cons, List.reverse_cons, List.append_assoc]
    have houter := stackProblems_eq_nil level hrest
    rw [List.reverse_cons] at houter
    exact (stackProblems_concat t outer inner rest.reverse level hin).trans houter

/-- **A lawful table has no problem.** -/
theorem Lawful.validate_eq_nil (h : t.Lawful) : t.validate = [] := by
  rw [validate, stackProblems_eq_nil 1 h.chained, List.append_nil, List.append_eq_nil_iff]
  constructor
  · refine List.flatMap_eq_nil_iff.2 fun e he => frameProblems_eq_nil (h.frames ?_)
    rw [frame?, if_neg (Nat.succ_ne_zero _), ← Array.getElem?_toList]
    exact List.mem_zipIdx_iff_getElem?.1 he
  · refine List.flatMap_eq_nil_iff.2 fun e he => symbolProblems_eq_nil h ?_
    rw [symbol?, if_neg (Nat.succ_ne_zero _), ← Array.getElem?_toList]
    exact List.mem_zipIdx_iff_getElem?.1 he

end Open

end Table

end CoreCheck.Scope

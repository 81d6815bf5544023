import CoreCheck.Proofs.Scope.Calls

/-!
# Proofs/Scope/Layers — a table is a stack of maps from names to symbols

`Layers` keeps the open scopes only, innermost first, each with its names as texts and the symbols
they stand for; scopes that were left are forgotten.  It answers every call as a table does, though
a table numbers scopes, symbols and names, keeps all of them, and finds what is open by a separate
stack.  What happens between opening a scope and leaving it cannot be seen afterwards.
-/

namespace CoreCheck.Scope

/-- **An open scope**: its number, and its names with what they stand for. -/
structure Layer where
  scope : Nat
  names : List (String × Binding) := []

/-- **A stack of maps**, innermost first, and how many scopes and symbols there were so far. -/
structure Layers where
  stack : List Layer
  scopes : Nat
  symbols : Nat

namespace Layers

/-- Only the module's scope is open, and nothing is bound. -/
def initial : Layers := ⟨[{ scope := Table.root }], 1, 0⟩

/-- What a name stands for in the innermost scope alone. -/
def local? (r : Layers) (name : String) : Option Binding :=
  r.stack.head?.bind (·.names.lookup name)

/-- The innermost binding of a name. -/
def lookup? (r : Layers) (name : String) : Option Binding := r.stack.findSome? (·.names.lookup name)

/-- Opens a scope without names. -/
def enter (r : Layers) : Layers :=
  { r with stack := { scope := r.scopes + 1 } :: r.stack, scopes := r.scopes + 1 }

/-- What a symbol becomes when it is bound in the innermost scope. -/
def place (r : Layers) (name : String) (sym : Symbol) : Binding :=
  ⟨r.symbols + 1, name, { sym with
    name := 0
    scope := (r.stack.head?.map (·.scope)).getD 0
    depth := (r.stack.length : Int) - 1 }⟩

/-- Binds a name in the innermost scope. -/
def bind (r : Layers) (name : String) (b : Binding) : Layers :=
  match r.stack with
  | [] => r
  | top :: rest =>
    { r with
      stack := { top with names := (name, b) :: top.names } :: rest
      symbols := r.symbols + 1 }

/-- **How a stack of maps answers a call.** -/
def step (r : Layers) : Op → Layers × Answer
  | .enter _ _ => (r.enter, .entered (r.scopes + 1))
  | .exit asked =>
    match r.stack with
    | top :: next :: rest =>
      if top.scope = asked then ({ r with stack := next :: rest }, .left)
      else (r, .mismatch (.notInnermost asked top.scope))
    | _ => (r, .mismatch (.noneOpen asked))
  | .define name sym =>
    match r.local? name with
    | some b => (r, .duplicate ⟨name, b.id, b.symbol.span⟩)
    | none => (r.bind name (r.place name sym), .defined (r.symbols + 1))
  | .lookup name => (r, .found ((r.lookup? name).map (·.id)) (r.lookup? name))
  | .lookupLocal name => (r, .found ((r.local? name).map (·.id)) (r.local? name))
  | .number _ => (r, .done)

end Layers

/-! ## What a scope of a table binds -/

namespace Table

/-- The number of the symbol that a name stands for in a scope. -/
def idIn? (t : Table) (scope : Nat) (name : String) : Option Nat :=
  (t.strings.find? name).bind fun n => t.inFrame? scope n

/-- What a name stands for in a scope. -/
def seen? (t : Table) (scope : Nat) (name : String) : Option Binding :=
  (t.idIn? scope name).bind fun id =>
    (t.symbol? id).map fun s => ⟨id, name, { s with name := 0 }⟩

section Seen

variable {t : Table}

theorem lookupId?_eq (t : Table) (name : String) :
    t.lookupId? name = t.stack.findSome? (t.idIn? · name) := by
  unfold lookupId? idIn?
  cases t.strings.find? name with
  | none => exact (List.findSome?_eq_none_iff.2 fun _ _ => rfl).symm
  | some n => rfl

theorem idIn?_enter (t : Table) (kind : ScopeKind) (span : Span) (scope : Nat) (name : String) :
    (t.enter kind span).1.idIn? scope name = t.idIn? scope name := by
  unfold idIn?
  rw [strings_enter]
  simp only [inFrame?_enter]

theorem seen?_enter (t : Table) (kind : ScopeKind) (span : Span) (scope : Nat) (name : String) :
    (t.enter kind span).1.seen? scope name = t.seen? scope name := by
  unfold seen?
  rw [idIn?_enter]
  simp only [symbol?_enter]

variable (h : t.Sound)

include h

/-- What is found in a scope is known by the name that was looked for. -/
theorem Sound.binding?_of_idIn? {scope id : Nat} {name : String}
    (hi : t.idIn? scope name = some id) : t.binding? id = t.seen? scope name := by
  obtain ⟨n, hn, hid⟩ := Option.bind_eq_some_iff.1 hi
  obtain ⟨s, hs, -, hname⟩ := h.placed hid
  have htext : t.nameOf s = name := by
    rw [nameOf, Strings.lookup?, hname, Strings.getElem?_of_find? hn]
    rfl
  rw [seen?, hi, binding?, hs, Option.bind_some, hs, Option.map_some, Option.map_some, htext]

omit h in
theorem symbol_of_seen? {scope : Nat} {name : String} {b : Binding}
    (hb : t.seen? scope name = some b) :
    ∃ s, t.symbol? b.id = some s ∧ b.symbol = { s with name := 0 } := by
  obtain ⟨id, -, hid⟩ := Option.bind_eq_some_iff.1 hb
  obtain ⟨s, hs, rfl⟩ := Option.map_eq_some_iff.1 hid
  exact ⟨s, hs, rfl⟩

theorem Sound.idIn?_eq (scope : Nat) (name : String) :
    t.idIn? scope name = (t.seen? scope name).map (·.id) := by
  cases hi : t.idIn? scope name with
  | none => simp [seen?, hi]
  | some id =>
    obtain ⟨n, -, hid⟩ := Option.bind_eq_some_iff.1 hi
    obtain ⟨s, hs⟩ := h.symbol_of_inFrame hid
    simp [seen?, hi, hs]

/-- A scope that is not there binds nothing. -/
theorem Sound.seen?_of_size_lt {scope : Nat} (hs : t.frames.size < scope) (name : String) :
    t.seen? scope name = none := by
  have hid : (t.idIn? scope name).isSome = false := by
    rw [idIn?, ← h.isSome_names, names_of_size_lt hs]
    rfl
  rw [seen?, Option.isNone_iff_eq_none.1 (Option.isSome_eq_false_iff.1 hid)]
  rfl

theorem Sound.idIn?_numbering (text : String) (scope : Nat) (name : String) :
    (t.numbering text).idIn? scope name = t.idIn? scope name := by
  rw [idIn?, strings_numbering]
  by_cases hname : name = text
  · subst hname
    rw [Strings.find?_intern, Option.bind_some]
    exact h.inFrame?_intern scope name
  · rw [Strings.find?_intern_of_ne _ hname]
    rfl

theorem Sound.seen?_numbering (text : String) (scope : Nat) (name : String) :
    (t.numbering text).seen? scope name = t.seen? scope name := by
  rw [seen?, h.idIn?_numbering]
  rfl

theorem Sound.idIn?_bound {name : String} (sym : Symbol)
    (hfree : t.inFrame? t.current (t.strings.intern name).2 = none) (scope : Nat) (m : String) :
    (t.bound name sym).idIn? scope m
      = if scope = t.current ∧ m = name then some (t.symbols.size + 1) else t.idIn? scope m := by
  have hnumbered := h.idIn?_numbering name scope m
  rw [idIn?, strings_numbering] at hnumbered
  rw [idIn?, strings_bound, ← hnumbered]
  cases hn : (t.strings.intern name).1.find? m with
  | none =>
    rw [if_neg]
    · rfl
    · rintro ⟨-, rfl⟩
      simp [Strings.find?_intern] at hn
  | some n =>
    -- the name has the number that was given to it, and no other has
    have hiff : n = (t.strings.intern name).2 ↔ m = name := by
      constructor
      · rintro rfl
        exact Strings.find?_inj hn (Strings.find?_intern _ _)
      · rintro rfl
        exact Option.some.inj (hn.symm.trans (Strings.find?_intern _ _))
    rw [Option.bind_some, h.inFrame?_bound sym hfree]
    simp only [hiff]
    rfl

/-- **Binding a name changes what it stands for in the innermost scope, and nothing else.** -/
theorem Sound.seen?_bound {name : String} (sym : Symbol)
    (hfree : t.inFrame? t.current (t.strings.intern name).2 = none) (scope : Nat) (m : String) :
    (t.bound name sym).seen? scope m
      = if scope = t.current ∧ m = name
        then some ⟨t.symbols.size + 1, m, { t.place name sym with name := 0 }⟩
        else t.seen? scope m := by
  rw [seen?, h.idIn?_bound sym hfree]
  split
  · rw [Option.bind_some, symbol?_bound, if_pos rfl, Option.map_some]
  · rw [seen?]
    cases hi : t.idIn? scope m with
    | none => rfl
    | some id =>
      obtain ⟨n, -, hid⟩ := Option.bind_eq_some_iff.1 hi
      obtain ⟨old, hold⟩ := h.symbol_of_inFrame hid
      rw [Option.bind_some, Option.bind_some, symbol?_bound_of_some hold, hold]

/-- What is found in some of several scopes is known as what was found. -/
theorem Sound.bind_findSome? (scopes : List Nat) (name : String) :
    (scopes.findSome? (t.idIn? · name)).bind t.binding? = scopes.findSome? (t.seen? · name) := by
  induction scopes with
  | nil => rfl
  | cons scope rest ih =>
    rw [List.findSome?_cons, List.findSome?_cons, h.idIn?_eq scope name]
    cases hs : t.seen? scope name with
    | none => exact ih
    | some b =>
      have hi : t.idIn? scope name = some b.id := by rw [h.idIn?_eq, hs, Option.map_some]
      rw [Option.map_some, Option.bind_some, h.binding?_of_idIn? hi, hs]

/-- **Looking a name up** finds the first of the open scopes that binds it. -/
theorem Sound.answer_lookup (name : String) :
    (t.step (.lookup name)).2 = .found ((t.stack.findSome? (t.seen? · name)).map (·.id))
      (t.stack.findSome? (t.seen? · name)) := by
  have hids : t.stack.findSome? (t.idIn? · name)
      = (t.stack.findSome? (t.seen? · name)).map (·.id) := by
    rw [List.map_findSome?]
    exact congrArg (t.stack.findSome? ·) (funext fun scope => h.idIn?_eq scope name)
  rw [step, lookupId?_eq, h.bind_findSome?, hids]

/-- **Looking a name up in the innermost scope** finds what it stands for there. -/
theorem Sound.answer_lookupLocal (name : String) :
    (t.step (.lookupLocal name)).2 = .found ((t.seen? t.current name).map (·.id))
      (t.seen? t.current name) := by
  have hlocal : t.lookupLocalId? name = t.idIn? t.current name := rfl
  rw [step, hlocal, ← h.idIn?_eq]
  cases hi : t.idIn? t.current name with
  | none => simp [seen?, hi]
  | some id => rw [Option.bind_some, h.binding?_of_idIn? hi]

end Seen

end Table

/-! ## A table stands for a stack of maps -/

/-- **A table stands for a stack of maps**: the same scopes are open, and the same names are bound
in each of them to the same symbols. -/
structure Table.Refines (t : Table) (r : Layers) : Prop where
  sound : t.Sound
  chained : t.Chained t.stack
  stack : t.stack = r.stack.map (·.scope)
  names : ∀ l ∈ r.stack, ∀ name, t.seen? l.scope name = l.names.lookup name
  scopes : t.frames.size = r.scopes
  symbols : t.symbols.size = r.symbols

namespace Table

theorem refines_withPool (pool : Strings) : (withPool pool).Refines .initial where
  sound := (lawful_withPool pool).toSound
  chained := (lawful_withPool pool).chained
  stack := rfl
  names l hl name := by
    obtain rfl := List.mem_singleton.1 hl
    rw [seen?, idIn?]
    cases (withPool pool).strings.find? name <;> rfl
  scopes := rfl
  symbols := rfl

/-- Functions that agree on a list find the same in it. -/
theorem findSome?_congr {α β : Type} {f g : α → Option β} {xs : List α} (h : ∀ x ∈ xs, f x = g x) :
    xs.findSome? f = xs.findSome? g := by
  induction xs with
  | nil => rfl
  | cons x xs ih =>
    rw [List.findSome?_cons, List.findSome?_cons, h x (.head _), ih fun y hy => h y (.tail _ hy)]

namespace Refines

variable {t : Table} {r : Layers} (h : t.Refines r)

include h

theorem exists_cons : ∃ top rest, r.stack = top :: rest := by
  refine List.exists_cons_of_ne_nil fun hnil => h.sound.rooted ?_
  rw [h.stack, hnil]
  rfl

theorem current_eq {top : Layer} {rest : List Layer} (hr : r.stack = top :: rest) :
    t.current = top.scope := by
  rw [current, h.stack, hr]
  rfl

theorem local_eq (name : String) : t.seen? t.current name = r.local? name := by
  obtain ⟨top, rest, hr⟩ := h.exists_cons
  rw [h.current_eq hr, Layers.local?, hr]
  exact h.names top (hr ▸ .head _) name

theorem lookup_eq (name : String) : t.stack.findSome? (t.seen? · name) = r.lookup? name := by
  rw [h.stack, List.findSome?_map, Layers.lookup?]
  exact findSome?_congr fun l hl => h.names l hl name

/-! ### One call -/

theorem enter (kind : ScopeKind) (span : Span) : (t.enter kind span).1.Refines r.enter where
  sound := h.sound.enter kind span
  chained := h.sound.chained_enter h.chained kind span
  stack := by
    rw [stack_enter, h.stack, Layers.enter, List.map_cons, ← h.scopes]
    rfl
  names l hl name := by
    rw [seen?_enter]
    obtain rfl | hl := List.mem_cons.1 hl
    · exact h.sound.seen?_of_size_lt (h.scopes ▸ Nat.lt_succ_self _) name
    · exact h.names l hl name
  scopes := by
    rw [size_frames_enter, h.scopes]
    rfl
  symbols := by
    rw [symbols_enter]
    exact h.symbols

theorem exit {top next : Layer} {rest : List Layer} (hr : r.stack = top :: next :: rest) :
    ({ t with stack := next.scope :: rest.map (·.scope) } : Table).Refines
      { r with stack := next :: rest } := by
  have hs : t.stack = top.scope :: next.scope :: rest.map (·.scope) := by rw [h.stack, hr]; rfl
  refine ⟨h.sound.exit hs, chained_exit h.chained hs, rfl, fun l hl name => ?_, h.scopes, h.symbols⟩
  exact h.names l (hr ▸ .tail _ hl) name

theorem numbering (text : String) : (t.numbering text).Refines r where
  sound := h.sound.numbering text
  chained := by
    have hframed : t.Framed (t.numbering text) := Framed.of_frame?_eq fun _ => rfl
    exact Chained.mono hframed h.chained
  stack := h.stack
  names l hl name := (h.sound.seen?_numbering text l.scope name).trans (h.names l hl name)
  scopes := h.scopes
  symbols := h.symbols

/-- A symbol is placed alike. -/
theorem place_eq (name : String) (sym : Symbol) :
    (⟨t.symbols.size + 1, name, { t.place name sym with name := 0 }⟩ : Binding)
      = r.place name sym := by
  obtain ⟨top, rest, hr⟩ := h.exists_cons
  obtain ⟨f, hf⟩ := h.sound.frame_current
  have hdepth := h.sound.depth_current h.chained hf
  rw [Layers.place, Table.place, hf, h.symbols, h.current_eq hr, hr]
  rw [h.stack, List.length_map, hr] at hdepth
  simp only [Option.map_some, Option.getD_some, List.head?_cons, Binding.mk.injEq, true_and,
    Symbol.mk.injEq, and_true]
  omega

theorem bound {name : String} (sym : Symbol)
    (hfree : t.inFrame? t.current (t.strings.intern name).2 = none) :
    (t.bound name sym).Refines (r.bind name (r.place name sym)) := by
  obtain ⟨top, rest, hr⟩ := h.exists_cons
  have hcur := h.current_eq hr
  have hyoung := h.sound.younger
  rw [h.stack, hr, List.map_cons, List.pairwise_cons] at hyoung
  rw [Layers.bind, hr]
  refine ⟨h.sound.bound sym hfree, ?_, ?_, ?_, ?_, ?_⟩
  · rw [stack_bound]
    exact h.chained.mono (framed_bound t name sym)
  · rw [stack_bound, h.stack, hr]
    rfl
  · intro l hl m
    rw [h.sound.seen?_bound sym hfree]
    obtain rfl | hl := List.mem_cons.1 hl
    · have hold := h.names top (hr ▸ .head _) m
      by_cases hm : m = name
      · rw [if_pos ⟨hcur.symm, hm⟩, hm, h.place_eq, List.lookup_cons_self]
      · rw [if_neg fun hh => hm hh.2, List.lookup_cons, beq_false_of_ne hm]
        exact hold
    · -- a scope further out is another one
      have hlt := hyoung.1 l.scope (List.mem_map_of_mem hl)
      rw [if_neg (by omega)]
      exact h.names l (hr ▸ .tail _ hl) m
  · rw [size_frames_bound]
    exact h.scopes
  · rw [symbols_bound, Array.size_push, h.symbols]

theorem step_exit (asked : Nat) :
    (t.step (.exit asked)).1.Refines (r.step (.exit asked)).1 ∧
      (t.step (.exit asked)).2 = (r.step (.exit asked)).2 := by
  obtain ⟨top, rest, hr⟩ := h.exists_cons
  cases rest with
  | nil =>
    have he : t.exit asked = .error (.noneOpen asked) := by
      rw [Table.exit, h.stack, hr]
      rfl
    rw [Table.step, Layers.step, he, hr]
    exact ⟨h, rfl⟩
  | cons next rest =>
    have hs : t.stack = top.scope :: next.scope :: rest.map (·.scope) := by rw [h.stack, hr]; rfl
    rw [Table.step, Layers.step, hr, Table.exit, hs]
    by_cases htop : top.scope = asked
    · simp only [if_pos htop]
      exact ⟨h.exit hr, trivial⟩
    · simp only [if_neg htop]
      exact ⟨h, trivial⟩

theorem step_define (name : String) (sym : Symbol) :
    (t.step (.define name sym)).1.Refines (r.step (.define name sym)).1 ∧
      (t.step (.define name sym)).2 = (r.step (.define name sym)).2 := by
  have hin : t.inFrame? t.current (t.strings.intern name).2 = (r.local? name).map (·.id) := by
    rw [h.sound.inFrame?_intern, ← h.local_eq]
    exact h.sound.idIn?_eq t.current name
  rw [Table.step, Layers.step, define_eq, hin]
  cases hl : r.local? name with
  | none =>
    rw [hl] at hin
    exact ⟨h.bound sym hin, congrArg (Answer.defined <| · + 1) h.symbols⟩
  | some b =>
    obtain ⟨s, hs, hb⟩ := symbol_of_seen? ((h.local_eq name).trans hl)
    rw [Option.map_some]
    dsimp only
    rw [hs, hb]
    exact ⟨h.numbering name, rfl⟩

/-- **A table and the stack of maps it stands for answer a call alike**, and stay together. -/
theorem step (o : Op) :
    (t.step o).1.Refines (r.step o).1 ∧ (t.step o).2 = (r.step o).2 := by
  cases o with
  | enter kind span => exact ⟨h.enter kind span, congrArg (Answer.entered <| · + 1) h.scopes⟩
  | exit asked => exact h.step_exit asked
  | define name sym => exact h.step_define name sym
  | lookup name =>
    refine ⟨h, ?_⟩
    rw [h.sound.answer_lookup, h.lookup_eq, Layers.step]
  | lookupLocal name =>
    refine ⟨h, ?_⟩
    rw [h.sound.answer_lookupLocal, h.local_eq, Layers.step]
  | number text => exact ⟨h.numbering text, rfl⟩

end Refines

/-- **A refused call changes nothing**, not even the pool: the name of a duplicate was there. -/
theorem Sound.step_eq_self {t : Table} (h : t.Sound) {o : Op}
    (ho : (t.step o).2.isRefusal = true) : (t.step o).1 = t := by
  cases o with
  | exit asked =>
    obtain ⟨next, rest, -, he⟩ | ⟨m, he⟩ := t.exit_cases asked
    · simp [step, he, Answer.isRefusal] at ho
    · simp only [step, he]
  | define name sym =>
    cases hi : t.inFrame? t.current (t.strings.intern name).2 with
    | none => simp [step, define_eq, hi, Answer.isRefusal] at ho
    | some previous =>
      rw [h.inFrame?_intern] at hi
      obtain ⟨n, hn, hprevious⟩ := Option.bind_eq_some_iff.1 hi
      have hknown : (t.strings.intern name) = (t.strings, n) := by rw [Strings.intern, hn]
      rw [step, define_eq, hknown, hprevious]
      dsimp only
      rw [Table.numbering, hknown]
  | _ => simp [step, Answer.isRefusal] at ho

/-! ## Opening a scope and leaving it again -/

/-- **What is around a scope that was opened** stays as it was for as long as the scope is open. -/
structure Around (outer : Table) (id : Nat) (t : Table) : Prop where
  refines : ∃ r, t.Refines r
  known : id ≤ t.frames.size
  kept : id ∈ t.stack → (∃ inner, t.stack = inner ++ id :: outer.stack) ∧
    ∀ scope ∈ outer.stack, ∀ name, t.seen? scope name = outer.seen? scope name

/-- Scopes further out are older than the innermost one. -/
theorem Sound.lt_current {t : Table} (h : t.Sound) {inner outer : List Nat} {id : Nat}
    (hs : t.stack = inner ++ id :: outer) : ∀ scope ∈ outer, scope < t.current := by
  intro scope hscope
  have hyoung := h.younger
  cases inner with
  | nil =>
    rw [current_of_stack hs]
    rw [hs] at hyoung
    exact (List.pairwise_cons.1 hyoung).1 scope hscope
  | cons x inner =>
    rw [current_of_stack hs]
    rw [hs] at hyoung
    exact (List.pairwise_cons.1 hyoung).1 scope
      (List.mem_append_right _ (List.mem_cons_of_mem _ hscope))

theorem around_enter {t : Table} {r : Layers} (h : t.Refines r) (kind : ScopeKind) (span : Span) :
    t.Around (t.enter kind span).2 (t.enter kind span).1 where
  refines := ⟨_, h.enter kind span⟩
  known := Nat.le_of_eq (size_frames_enter t kind span).symm
  kept _ := ⟨⟨[], stack_enter t kind span⟩, fun scope _ name => seen?_enter t kind span scope name⟩

namespace Around

variable {outer t : Table} {id : Nat} (h : outer.Around id t)

include h

/-- The scope is innermost only when all that was opened in it was left. -/
theorem stack_of_exit {asked next : Nat} {rest : List Nat} (hs : t.stack = asked :: next :: rest)
    (hid : id ∈ t.stack) : (asked = id ∧ next :: rest = outer.stack ∧ id ∉ next :: rest) ∨
      asked ≠ id ∧ ∃ inner, next :: rest = inner ++ id :: outer.stack := by
  obtain ⟨r, hr⟩ := h.refines
  have hyoung := hr.sound.younger
  obtain ⟨⟨inner, hinner⟩, -⟩ := h.kept hid
  rw [hs] at hinner hyoung
  have hlt := (List.pairwise_cons.1 hyoung).1
  obtain ⟨-, heq⟩ | ⟨inner', -, hrest⟩ := List.append_eq_cons_iff.1 hinner.symm
  · obtain ⟨rfl, hout⟩ := List.cons.inj heq
    exact .inl ⟨rfl, hout.symm, fun hmem => Nat.lt_irrefl _ (hlt id hmem)⟩
  · refine .inr ⟨?_, inner', hrest⟩
    rintro rfl
    exact Nat.lt_irrefl _ (hlt asked (hrest ▸ List.mem_append_right _ (.head _)))

/-- What changes the names of the innermost scope at most, changes nothing around it. -/
theorem of_stack_eq {t' : Table} (hr : ∃ r, t'.Refines r) (hsize : t'.frames.size = t.frames.size)
    (hs : t'.stack = t.stack)
    (hseen : ∀ scope < t.current, ∀ name, t'.seen? scope name = t.seen? scope name) :
    outer.Around id t' := by
  refine ⟨hr, hsize ▸ h.known, fun hid => ?_⟩
  rw [hs] at hid ⊢
  obtain ⟨r, hr⟩ := h.refines
  obtain ⟨⟨inner, hinner⟩, hkept⟩ := h.kept hid
  refine ⟨⟨inner, hinner⟩, fun scope hscope name => ?_⟩
  exact (hseen scope (hr.sound.lt_current hinner scope hscope) name).trans (hkept scope hscope name)

theorem step_enter (kind : ScopeKind) (span : Span) : outer.Around id (t.enter kind span).1 := by
  obtain ⟨r, hr⟩ := h.refines
  refine ⟨⟨_, hr.enter kind span⟩, ?_, fun hid => ?_⟩
  · rw [size_frames_enter]
    exact Nat.le_succ_of_le h.known
  · rw [stack_enter] at hid ⊢
    have hnew : id ≠ (t.enter kind span).2 := Nat.ne_of_lt (Nat.lt_succ_of_le h.known)
    obtain ⟨⟨inner, hinner⟩, hkept⟩ := h.kept ((List.mem_cons.1 hid).resolve_left hnew)
    refine ⟨⟨_ :: inner, by rw [hinner]; rfl⟩, fun scope hscope name => ?_⟩
    rw [seen?_enter]
    exact hkept scope hscope name

theorem step_exit (asked : Nat) : outer.Around id (t.step (.exit asked)).1 := by
  obtain ⟨r, hr⟩ := h.refines
  have hnext := (hr.step_exit asked).1
  obtain ⟨next, rest, hs, he⟩ | ⟨m, he⟩ := t.exit_cases asked
  · simp only [Table.step, he] at hnext ⊢
    refine ⟨⟨_, hnext⟩, h.known, fun hid => ?_⟩
    have hmem : id ∈ t.stack := hs ▸ List.mem_cons_of_mem _ hid
    obtain ⟨-, -, hgone⟩ | ⟨-, inner, hinner⟩ := h.stack_of_exit hs hmem
    · exact absurd hid hgone
    · exact ⟨⟨inner, hinner⟩, (h.kept hmem).2⟩
  · simpa only [Table.step, he] using h

/-- **A call inside leaves what is around as it was.** -/
theorem step (o : Op) : outer.Around id (t.step o).1 := by
  obtain ⟨r, hr⟩ := h.refines
  have hnext := (hr.step o).1
  cases o with
  | enter kind span => exact h.step_enter kind span
  | exit asked => exact h.step_exit asked
  | define name sym =>
    obtain ⟨-, d, he⟩ | ⟨-, he, hfree⟩ := hr.sound.define_cases name sym
    · simp only [Table.step, he] at hnext ⊢
      exact h.of_stack_eq ⟨_, hnext⟩ rfl rfl fun scope _ m =>
        hr.sound.seen?_numbering name scope m
    · simp only [Table.step, he] at hnext ⊢
      refine h.of_stack_eq ⟨_, hnext⟩ (size_frames_bound t name sym) (stack_bound t name sym) ?_
      intro scope hscope m
      rw [hr.sound.seen?_bound sym hfree, if_neg (by omega)]
  | lookup name => exact h
  | lookupLocal name => exact h
  | number text =>
    exact h.of_stack_eq ⟨_, hnext⟩ rfl rfl fun scope _ m => hr.sound.seen?_numbering text scope m

/-- **When the scope is left, all is as it was before it was opened.** -/
theorem exit {t' : Table} (he : t.exit id = .ok t') : (∃ r, t'.Refines r) ∧ t'.stack = outer.stack ∧
    ∀ scope ∈ outer.stack, ∀ name, t'.seen? scope name = outer.seen? scope name := by
  obtain ⟨r, hr⟩ := h.refines
  have hnext := (hr.step_exit id).1
  obtain ⟨next, rest, hs, he'⟩ | ⟨m, he'⟩ := t.exit_cases id
  · obtain rfl := Except.ok.inj (he.symm.trans he')
    simp only [Table.step, he] at hnext
    have hmem : id ∈ t.stack := hs ▸ .head _
    obtain ⟨-, hout, -⟩ | ⟨hne, -⟩ := h.stack_of_exit hs hmem
    · exact ⟨⟨_, hnext⟩, hout, (h.kept hmem).2⟩
    · exact absurd rfl hne
  · simp [he] at he'

end Around

/-- Tables that bind the same in the same open scopes answer look-ups alike. -/
theorem answers_eq_of_seen? {t t' : Table} (h : t.Sound) (h' : t'.Sound) (hs : t'.stack = t.stack)
    (hseen : ∀ scope ∈ t.stack, ∀ name, t'.seen? scope name = t.seen? scope name) (name : String) :
    (t'.step (.lookup name)).2 = (t.step (.lookup name)).2 ∧
      (t'.step (.lookupLocal name)).2 = (t.step (.lookupLocal name)).2 := by
  have hcur : t.current ∈ t.stack := by
    obtain ⟨top, rest, htop⟩ := List.exists_cons_of_ne_nil h.rooted
    rw [current_of_stack htop, htop]
    exact .head _
  have hcur' : t'.current = t.current := by rw [current, current, hs]
  rw [h.answer_lookup, h'.answer_lookup, h.answer_lookupLocal, h'.answer_lookupLocal, hs, hcur',
    hseen _ hcur, findSome?_congr fun scope hscope => hseen scope hscope name]
  exact ⟨rfl, rfl⟩

end Table

/-! ## Balanced calls -/

/-- Whether a call neither opens nor leaves a scope. -/
def Op.staysInside : Op → Bool
  | .enter _ _ | .exit _ => false
  | _ => true

namespace Call

mutual

/-- Whether every scope that is opened in the course of a call is left again. -/
def isBalanced : Call → Bool
  | .op o => o.staysInside
  | .within _ _ body => areBalanced body

/-- Whether every scope that is opened in the course of several calls is left again. -/
def areBalanced : List Call → Bool
  | [] => true
  | c :: cs => c.isBalanced && areBalanced cs

end

theorem refines_run {t : Table} {r : Layers} (h : t.Refines r) (c : Call) :
    (c.run Table.step t).1.Refines (c.run Layers.step r).1 :=
  (run_lockstep (fun _ _ o hs => hs.step o) c h).1

theorem stack_step_of_staysInside {t : Table} (h : t.Sound) {o : Op} (ho : o.staysInside = true) :
    (t.step o).1.stack = t.stack := by
  cases o with
  | enter kind span => exact nomatch ho
  | exit asked => exact nomatch ho
  | define name sym =>
    obtain ⟨-, d, he⟩ | ⟨-, he, -⟩ := h.define_cases name sym
    · simp only [Table.step, he]
      rfl
    · simp only [Table.step, he, Table.stack_bound]
  | _ => rfl

mutual

/-- **Balanced calls leave the open scopes as they were.** -/
theorem stack_run : ∀ (c : Call) {t : Table} {r : Layers}, t.Refines r → c.isBalanced = true →
    (c.run Table.step t).1.stack = t.stack
  | .op o, t, r, h, hb => by
    rw [run]
    exact stack_step_of_staysInside h.sound hb
  | .within kind span body, t, r, h, hb => by
    have hinside := stack_runAll body (h.enter kind span) hb
    obtain ⟨top, rest, htop⟩ := List.exists_cons_of_ne_nil h.sound.rooted
    rw [Table.stack_enter, htop] at hinside
    rw [run]
    dsimp only [Table.step, Answer.scope]
    rw [Table.exit_of_stack hinside, htop]

theorem stack_runAll : ∀ (cs : List Call) {t : Table} {r : Layers}, t.Refines r →
    areBalanced cs = true → (runAll Table.step t cs).1.stack = t.stack
  | [], t, r, _, _ => by
    rw [runAll]
  | c :: cs, t, r, h, hb => by
    rw [areBalanced, Bool.and_eq_true] at hb
    rw [runAll]
    exact (stack_runAll cs (refines_run h c) hb.2).trans (stack_run c h hb.1)

end

end Call

/-! ## The whole of it -/

namespace Table

/-- **A table is a stack of maps.** It answers any calls as a stack of maps does; a name that the
innermost scope binds is refused with the number and the place of what it stands for; a refused call
leaves the table as it was; and whatever happens between opening a scope and leaving it, names stand
for what they stood for before.  Balanced calls never keep a scope from being left. -/
theorem table_refines_layers (pool : Strings) (calls : List Call) :
    let t := (Call.runAll step (withPool pool) calls).1
    (Call.runAll step (withPool pool) calls).2 = (Call.runAll Layers.step .initial calls).2 ∧
    (∀ name sym id b, (t.step (.lookupLocal name)).2 = .found (some id) (some b) →
      (t.step (.define name sym)).2 = .duplicate ⟨name, id, b.symbol.span⟩) ∧
    (∀ o, (t.step o).2.isRefusal = true → (t.step o).1 = t) ∧
    ∀ kind span body,
      let inside := (Call.runAll step (t.enter kind span).1 body).1
      (∀ t', inside.exit (t.enter kind span).2 = .ok t' → ∀ name,
        (t'.step (.lookup name)).2 = (t.step (.lookup name)).2 ∧
          (t'.step (.lookupLocal name)).2 = (t.step (.lookupLocal name)).2) ∧
      (Call.areBalanced body = true → ∃ t', inside.exit (t.enter kind span).2 = .ok t') := by
  intro t
  obtain ⟨h, hanswers⟩ :=
    Call.runAll_lockstep (fun _ _ o hs => hs.step o) calls (refines_withPool pool)
  refine ⟨hanswers, ?_, fun o ho => h.sound.step_eq_self ho, fun kind span body => ⟨?_, ?_⟩⟩
  · intro name sym id b hfound
    rw [(h.step (.lookupLocal name)).2, Layers.step, Answer.found.injEq] at hfound
    rw [(h.step (.define name sym)).2, Layers.step, hfound.2]
    rw [hfound.2, Option.map_some, Option.some.injEq] at hfound
    rw [← hfound.1]
  · intro t' he name
    have haround : t.Around (t.enter kind span).2
        (Call.runAll step (t.enter kind span).1 body).1 :=
      Call.runAll_keeps (K := fun _ => True) (fun _ o _ hs => hs.step o) body
        (fun _ _ => trivial) (around_enter h kind span)
    obtain ⟨⟨r', hr'⟩, hstack, hseen⟩ := haround.exit he
    exact answers_eq_of_seen? h.sound hr'.sound hstack hseen name
  · intro hbalanced
    have hinside := Call.stack_runAll body (h.enter kind span) hbalanced
    obtain ⟨top, rest, htop⟩ := List.exists_cons_of_ne_nil h.sound.rooted
    rw [stack_enter, htop] at hinside
    exact ⟨_, exit_of_stack hinside⟩

/-- A name is bound again in an inner scope, twice, and another one further in. -/
def shadowing : List Call :=
  [.op (.define "x" { kind := .param }), .op (.define "x" { kind := .param }),
    .within .block {} [.op (.define "y" { kind := .binding })]]

/-- Inside, the name stands for the inner symbol; afterwards it stands for the outer one again. -/
theorem table_refines_layers_shadowing :
    let t := (Call.runAll step (withPool {}) [.op (.define "x" { kind := .binding })]).1
    let inside := (Call.runAll step (t.enter .function {}).1 shadowing).1
    Call.areBalanced shadowing = true ∧ inside.lookupId? "x" = some 2 ∧
      ∃ t', inside.exit (t.enter .function {}).2 = .ok t' ∧
        (t'.step (.lookup "x")).2 = (t.step (.lookup "x")).2 ∧ t.lookupId? "x" = some 1 := by
  intro t inside
  have hbalanced : Call.areBalanced shadowing = true := by decide
  obtain ⟨-, -, -, hscopes⟩ :=
    table_refines_layers {} [.op (.define "x" { kind := .binding })]
  obtain ⟨hkept, hleft⟩ := hscopes .function {} shadowing
  obtain ⟨t', he⟩ := hleft hbalanced
  exact ⟨hbalanced, by decide +kernel, t', he, (hkept t' he "x").1, by decide +kernel⟩

end Table

end CoreCheck.Scope

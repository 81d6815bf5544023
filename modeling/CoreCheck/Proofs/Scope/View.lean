import CoreCheck.Proofs.Strings
import CoreCheck.Scope.Table

/-!
# Proofs/Scope/View — a table as a stack of maps

The symbols and scopes of a table are numbered, and names are numbered too.  What a walk can see of
it is less: for each open scope, which symbol a name stands for.  `Table.view` is that reading, and
each operation on a sound table is the obvious operation on its view.
-/

namespace CoreCheck.Scope

/-- What the names of one scope stand for. -/
abbrev Names := String → Option Symbol

/-- **What can be seen of a table**: the names of the open scopes, innermost first. -/
abbrev View := List Names

namespace View

/-- The innermost binding of a name. -/
def lookup (v : View) (name : String) : Option Symbol := v.findSome? (· name)

/-- Binds a name in the innermost scope. -/
def bind (v : View) (name : String) (sym : Symbol) : View :=
  match v with
  | [] => []
  | ns :: rest => (fun m => if m = name then some sym else ns m) :: rest

/-- Changes the innermost binding of a name. -/
def change (name : String) (f : Symbol → Symbol) : View → View
  | [] => []
  | ns :: rest =>
    match ns name with
    | some sym => (fun m => if m = name then some (f sym) else ns m) :: rest
    | none => ns :: change name f rest

theorem change_id (name : String) (v : View) : v.change name (fun sym => sym) = v := by
  induction v with
  | nil => rfl
  | cons ns rest ih =>
    rw [change]
    split
    · next sym hsym =>
      congr 1
      funext m
      split
      · next hm => rw [hm, hsym]
      · rfl
    · rw [ih]

/-- Whether a name is bound in the innermost scope. -/
def binds (v : View) (name : String) : Bool := v.head?.any fun ns => (ns name).isSome

end View

namespace Table

/-- What the names of a scope stand for. -/
def names (t : Table) (scope : Nat) : Names := fun name =>
  (t.strings.find? name).bind fun n => (t.inFrame? scope n).bind t.symbol?

/-- **The view of a table.** -/
def view (t : Table) : View := t.stack.map t.names

/-- **A sound table**: names stand for symbols that know where they are bound, names are numbered,
and the open scopes are scopes of the table, the younger ones further in. -/
structure Sound (t : Table) : Prop where
  placed : ∀ {scope n id}, t.inFrame? scope n = some id →
    ∃ sym, t.symbol? id = some sym ∧ sym.scope = scope ∧ sym.name = n
  numbered : ∀ {scope n id}, t.inFrame? scope n = some id → n < t.strings.size
  younger : t.stack.Pairwise (· > ·)
  opened : ∀ id ∈ t.stack, 0 < id ∧ id ≤ t.frames.size
  rooted : t.stack ≠ []

theorem sound_initial : Table.initial.Sound where
  placed {scope n id} h := by
    cases scope with
    | zero => exact nomatch h
    | succ i => cases i <;> exact nomatch h
  numbered {scope n id} h := by
    cases scope with
    | zero => exact nomatch h
    | succ i => cases i <;> exact nomatch h
  younger := List.pairwise_singleton _ _
  opened id h := by rw [List.mem_singleton.1 h]; decide
  rooted := by decide

/-! ## Looking up -/

section Lookup

variable {t : Table} (h : t.Sound)

include h

theorem Sound.symbol_of_inFrame {scope n id : Nat} (hi : t.inFrame? scope n = some id) :
    ∃ sym, t.symbol? id = some sym := (h.placed hi).imp fun _ hs => hs.1

/-- **The innermost binding is what the view says.** -/
theorem Sound.lookup_eq (name : String) :
    (t.lookupId? name).bind t.symbol? = t.view.lookup name := by
  rw [lookupId?, View.lookup, view]
  cases hn : t.strings.find? name with
  | none =>
    have hnames : ∀ scope, t.names scope name = none := fun scope => by rw [names, hn]; rfl
    induction t.stack with
    | nil => rfl
    | cons scope rest ih => rw [List.map_cons, List.findSome?_cons, hnames scope]; exact ih
  | some n =>
    have hnames : ∀ scope, t.names scope name = (t.inFrame? scope n).bind t.symbol? :=
      fun scope => by rw [names, hn]; rfl
    rw [Option.bind_some]
    induction t.stack with
    | nil => rfl
    | cons scope rest ih =>
      rw [List.map_cons, List.findSome?_cons, List.findSome?_cons, hnames scope]
      cases hi : t.inFrame? scope n with
      | none => exact ih
      | some id =>
        obtain ⟨sym, hs⟩ := h.symbol_of_inFrame hi
        rw [Option.bind_some, hs]

theorem Sound.isSome_names (scope : Nat) (name : String) :
    (t.names scope name).isSome
      = ((t.strings.find? name).bind fun n => t.inFrame? scope n).isSome := by
  rw [names]
  cases t.strings.find? name with
  | none => rfl
  | some n =>
    rw [Option.bind_some, Option.bind_some]
    cases hi : t.inFrame? scope n with
    | none => rfl
    | some id =>
      obtain ⟨sym, hs⟩ := h.symbol_of_inFrame hi
      rw [Option.bind_some, hs]
      rfl

end Lookup

/-! ## Opening and leaving scopes -/

theorem frame?_updateFrame (t : Table) (id : Nat) (f : Frame → Frame) (scope : Nat) :
    (t.updateFrame id f).frame? scope
      = if id = scope then (t.frame? scope).map f else t.frame? scope := by
  unfold updateFrame frame?
  by_cases hid : id = 0
  · by_cases hs : scope = 0
    · simp [hid, hs]
    · simp [hid, hs, Ne.symm hs]
  · by_cases hs : scope = 0
    · simp [hid, hs]
    · have hiff : id - 1 = scope - 1 ↔ id = scope := by omega
      simp only [hid, hs, if_false, Array.getElem?_modify, hiff]

theorem inFrame?_push_frame (t : Table) (frame : Frame) (hnew : frame.names = []) (stack : List Nat)
    (scope n : Nat) :
    ({ t with frames := t.frames.push frame, stack } : Table).inFrame? scope n
      = t.inFrame? scope n := by
  unfold inFrame? frame?
  by_cases hs : scope = 0
  · simp [hs]
  · simp only [hs, if_false, Array.getElem?_push]
    split
    · next heq =>
      have hnone : t.frames[scope - 1]? = none := by rw [heq]; exact Array.getElem?_size
      rw [hnone, Option.bind_some, hnew]
      rfl
    · rfl

theorem inFrame?_enter (t : Table) (kind : ScopeKind) (span : Span) (scope n : Nat) :
    (t.enter kind span).1.inFrame? scope n = t.inFrame? scope n := by
  rw [← inFrame?_push_frame t { kind, parent := t.current, depth := t.stack.length, span } rfl
    ((t.frames.size + 1) :: t.stack) scope n]
  unfold enter inFrame?
  rw [frame?_updateFrame]
  split
  · rw [Option.bind_map]
    rfl
  · rfl

theorem symbols_enter (t : Table) (kind : ScopeKind) (span : Span) :
    (t.enter kind span).1.symbols = t.symbols := by
  unfold enter updateFrame
  dsimp only
  split <;> rfl

theorem strings_enter (t : Table) (kind : ScopeKind) (span : Span) :
    (t.enter kind span).1.strings = t.strings := by
  unfold enter updateFrame
  dsimp only
  split <;> rfl

theorem stack_enter (t : Table) (kind : ScopeKind) (span : Span) :
    (t.enter kind span).1.stack = (t.enter kind span).2 :: t.stack := by
  unfold enter updateFrame
  dsimp only
  split <;> rfl

theorem size_frames_enter (t : Table) (kind : ScopeKind) (span : Span) :
    (t.enter kind span).1.frames.size = t.frames.size + 1 := by
  unfold enter updateFrame
  dsimp only
  split
  · exact Array.size_push _
  · rw [Array.size_modify, Array.size_push]

theorem symbol?_enter (t : Table) (kind : ScopeKind) (span : Span) (id : Nat) :
    (t.enter kind span).1.symbol? id = t.symbol? id := by
  unfold symbol?
  rw [symbols_enter]

theorem names_enter (t : Table) (kind : ScopeKind) (span : Span) (scope : Nat) :
    (t.enter kind span).1.names scope = t.names scope := by
  funext name
  unfold names symbol?
  rw [strings_enter, symbols_enter]
  simp only [inFrame?_enter]

theorem names_of_size_lt {t : Table} {scope : Nat} (hs : t.frames.size < scope) :
    t.names scope = fun _ => none := by
  funext name
  have hf : t.frame? scope = none := by
    rw [frame?]
    split
    · rfl
    · exact Array.getElem?_eq_none (by omega)
  unfold names inFrame?
  rw [hf]
  cases t.strings.find? name <;> rfl

theorem Sound.enter {t : Table} (h : t.Sound) (kind : ScopeKind) (span : Span) :
    (t.enter kind span).1.Sound where
  placed {scope n id} hi := by
    rw [inFrame?_enter] at hi
    rw [symbol?_enter]
    exact h.placed hi
  numbered {scope n id} hi := by
    rw [inFrame?_enter] at hi
    rw [strings_enter]
    exact h.numbered hi
  younger := by
    rw [stack_enter]
    exact List.pairwise_cons.2 ⟨fun id hid => Nat.lt_succ_of_le (h.opened id hid).2, h.younger⟩
  opened id hid := by
    rw [stack_enter, List.mem_cons] at hid
    rw [size_frames_enter]
    obtain rfl | hid := hid
    · exact ⟨Nat.succ_pos _, Nat.le_refl _⟩
    · exact ⟨(h.opened id hid).1, Nat.le_succ_of_le (h.opened id hid).2⟩
  rooted := by
    rw [stack_enter]
    exact List.cons_ne_nil _ _

/-- **A fresh scope has no names.** -/
theorem view_enter (t : Table) (kind : ScopeKind) (span : Span) :
    (t.enter kind span).1.view = (fun _ => none) :: t.view := by
  have hnew : t.names (t.enter kind span).2 = fun _ => none :=
    names_of_size_lt (Nat.lt_succ_self _)
  rw [view, stack_enter, List.map_cons, names_enter, hnew]
  exact congrArg _ (List.map_congr_left fun scope _ => names_enter t kind span scope)

/-- Leaving the innermost scope, when it is not the only one. -/
theorem exit_of_stack {t : Table} {top next : Nat} {rest : List Nat}
    (hs : t.stack = top :: next :: rest) :
    t.exit top = .ok { t with stack := next :: rest } := by
  rw [exit, hs]
  exact if_pos rfl

/-- Leaving a scope changes nothing but which scopes are open. -/
theorem eq_of_exit {t t' : Table} {id : Nat} (h : t.exit id = .ok t') :
    t' = { t with stack := t.stack.tail } := by
  unfold exit at h
  split at h
  · next hs =>
    rw [hs]
    split at h
    · exact (Except.ok.inj h).symm
    · exact nomatch h
  · exact nomatch h

theorem Sound.exit {t : Table} (h : t.Sound) {top next : Nat} {rest : List Nat}
    (hs : t.stack = top :: next :: rest) : ({ t with stack := next :: rest } : Table).Sound where
  placed := h.placed
  numbered := h.numbered
  younger := (List.pairwise_cons.1 (hs ▸ h.younger)).2
  opened id hid := h.opened id (hs ▸ List.mem_cons_of_mem _ hid)
  rooted := List.cons_ne_nil _ _

theorem view_exit {t : Table} {top next : Nat} {rest : List Nat}
    (hs : t.stack = top :: next :: rest) :
    ({ t with stack := next :: rest } : Table).view = t.view.tail := by
  rw [view, view, hs]
  rfl

/-! ## Binding a name -/

theorem symbol?_push (t : Table) (sym : Symbol) (strings : Strings) (id : Nat) :
    ({ t with strings, symbols := t.symbols.push sym } : Table).symbol? id
      = if id = t.symbols.size + 1 then some sym else t.symbol? id := by
  unfold symbol?
  by_cases hid : id = 0
  · subst hid
    simp
  · have hiff : id - 1 = t.symbols.size ↔ id = t.symbols.size + 1 := by omega
    simp only [hid, if_false, Array.getElem?_push, hiff]

theorem le_size_of_symbol? {t : Table} {id : Nat} {sym : Symbol} (h : t.symbol? id = some sym) :
    id ≤ t.symbols.size := by
  rw [symbol?] at h
  split at h
  · exact nomatch h
  · have := (Array.getElem?_eq_some_iff.1 h).1
    omega

/-- The number of the innermost scope, when there is one. -/
theorem current_of_stack {t : Table} {top : Nat} {rest : List Nat} (hs : t.stack = top :: rest) :
    t.current = top := by
  rw [current, hs]
  rfl

theorem mem_symbols_of_symbol? {t : Table} {id : Nat} {sym : Symbol} (h : t.symbol? id = some sym) :
    sym ∈ t.symbols := by
  rw [symbol?] at h
  split at h
  · exact nomatch h
  · exact Array.mem_of_getElem? h

/-- What can be seen is among the symbols. -/
theorem mem_symbols_of_view {t : Table} {ns : Names} (hns : ns ∈ t.view) {m : String}
    {sym : Symbol} (hm : ns m = some sym) : sym ∈ t.symbols := by
  obtain ⟨scope, -, rfl⟩ := List.mem_map.1 hns
  obtain ⟨n, -, hn⟩ := Option.bind_eq_some_iff.1 hm
  obtain ⟨id, -, hid⟩ := Option.bind_eq_some_iff.1 hn
  exact mem_symbols_of_symbol? hid

/-- A symbol at its place: what a table adds to a symbol when it is bound. -/
def place (t : Table) (name : String) (sym : Symbol) : Symbol :=
  { sym with name := (t.strings.intern name).2, scope := t.current,
             depth := ((t.frame? t.current).map (·.depth)).getD 0 }

/-- The table in which a name is bound, whether it was before or not. -/
def bound (t : Table) (name : String) (sym : Symbol) : Table :=
  ({ t with strings := (t.strings.intern name).1, symbols := t.symbols.push (t.place name sym) }
    : Table).updateFrame t.current fun f =>
      { f with symbols := f.symbols ++ [t.symbols.size + 1],
               names := f.names ++ [((t.strings.intern name).2, t.symbols.size + 1)] }

theorem define_eq (t : Table) (name : String) (sym : Symbol) :
    t.define name sym =
      match t.inFrame? t.current (t.strings.intern name).2 with
      | some previous =>
        .error ⟨name, previous, ((t.symbol? previous).map (·.span)).getD {}⟩
      | none => .ok (t.bound name sym, t.symbols.size + 1) := rfl

theorem strings_bound (t : Table) (name : String) (sym : Symbol) :
    (t.bound name sym).strings = (t.strings.intern name).1 := by
  unfold bound updateFrame
  split <;> rfl

theorem stack_bound (t : Table) (name : String) (sym : Symbol) :
    (t.bound name sym).stack = t.stack := by
  unfold bound updateFrame
  split <;> rfl

theorem symbols_bound (t : Table) (name : String) (sym : Symbol) :
    (t.bound name sym).symbols = t.symbols.push (t.place name sym) := by
  unfold bound updateFrame
  split <;> rfl

theorem size_frames_bound (t : Table) (name : String) (sym : Symbol) :
    (t.bound name sym).frames.size = t.frames.size := by
  unfold bound updateFrame
  split
  · rfl
  · exact Array.size_modify

theorem symbol?_bound (t : Table) (name : String) (sym : Symbol) (id : Nat) :
    (t.bound name sym).symbol? id
      = if id = t.symbols.size + 1 then some (t.place name sym) else t.symbol? id := by
  rw [← symbol?_push t (t.place name sym) t.strings]
  unfold symbol?
  rw [symbols_bound]

/-- Symbols stay where they are when a name is bound. -/
theorem symbol?_bound_of_some {t : Table} {id : Nat} {old : Symbol} (hs : t.symbol? id = some old)
    (name : String) (sym : Symbol) : (t.bound name sym).symbol? id = some old := by
  have := le_size_of_symbol? hs
  rw [symbol?_bound, if_neg (by omega), hs]

section Bound

variable {t : Table} (h : t.Sound)

include h

theorem Sound.frame_current : ∃ f, t.frame? t.current = some f := by
  cases hs : t.stack with
  | nil => exact absurd hs h.rooted
  | cons top rest =>
    obtain ⟨hpos, hle⟩ := h.opened top (hs ▸ .head _)
    rw [current_of_stack hs, frame?, if_neg (Nat.ne_of_gt hpos)]
    exact ⟨_, Array.getElem?_eq_getElem (by omega)⟩

/-- A name that was never numbered is bound nowhere. -/
theorem Sound.inFrame?_intern (scope : Nat) (name : String) :
    t.inFrame? scope (t.strings.intern name).2
      = (t.strings.find? name).bind fun n => t.inFrame? scope n := by
  cases hn : t.strings.find? name with
  | some n =>
    have hid : (t.strings.intern name).2 = n := by rw [Strings.intern, hn]
    rw [hid]
    rfl
  | none =>
    rw [Strings.intern_of_find?_none hn]
    cases hi : t.inFrame? scope t.strings.size with
    | none => rfl
    | some id => exact absurd (h.numbered hi) (Nat.lt_irrefl _)

theorem Sound.inFrame?_bound {name : String} (sym : Symbol)
    (hfree : t.inFrame? t.current (t.strings.intern name).2 = none) (scope n : Nat) :
    (t.bound name sym).inFrame? scope n
      = if scope = t.current ∧ n = (t.strings.intern name).2 then some (t.symbols.size + 1)
        else t.inFrame? scope n := by
  obtain ⟨f, hf⟩ := h.frame_current
  have hlook : f.names.lookup (t.strings.intern name).2 = none := by
    rwa [inFrame?, hf, Option.bind_some] at hfree
  unfold inFrame? bound
  rw [frame?_updateFrame]
  by_cases hc : t.current = scope
  · subst hc
    rw [if_pos rfl]
    change ((t.frame? t.current).map _).bind _ = _
    rw [hf, Option.map_some, Option.bind_some, Option.bind_some, List.lookup_append]
    by_cases hn : n = (t.strings.intern name).2
    · rw [if_pos ⟨rfl, hn⟩, hn, hlook, Option.none_or, List.lookup_cons_self]
    · rw [if_neg fun hh => hn hh.2, List.lookup_cons, beq_false_of_ne hn]
      exact Option.or_none
  · rw [if_neg hc, if_neg fun hh => hc hh.1.symm]
    rfl

theorem Sound.bound {name : String} (sym : Symbol)
    (hfree : t.inFrame? t.current (t.strings.intern name).2 = none) :
    (t.bound name sym).Sound where
  placed {scope n id} hi := by
    rw [h.inFrame?_bound sym hfree] at hi
    rw [symbol?_bound]
    split at hi
    · next hh =>
      obtain rfl := Option.some.inj hi
      exact ⟨_, if_pos rfl, hh.1.symm, hh.2.symm⟩
    · obtain ⟨old, hold, hplace⟩ := h.placed hi
      exact ⟨old, symbol?_bound t name sym id ▸ symbol?_bound_of_some hold name sym, hplace⟩
  numbered {scope n id} hi := by
    rw [h.inFrame?_bound sym hfree] at hi
    rw [strings_bound]
    split at hi
    · next hh => rw [hh.2]; exact Strings.lt_size_of_find? (Strings.find?_intern _ _)
    · exact Nat.lt_of_lt_of_le (h.numbered hi) (Strings.size_le_intern _ _)
  younger := by
    rw [stack_bound]
    exact h.younger
  opened := by
    rw [stack_bound, size_frames_bound]
    exact h.opened
  rooted := by
    rw [stack_bound]
    exact h.rooted

theorem Sound.names_bound {name : String} (sym : Symbol)
    (hfree : t.inFrame? t.current (t.strings.intern name).2 = none) (scope : Nat) (m : String) :
    (t.bound name sym).names scope m
      = if scope = t.current ∧ m = name then some (t.place name sym) else t.names scope m := by
  have hold : ∀ n, (t.inFrame? scope n).bind (t.bound name sym).symbol?
      = (t.inFrame? scope n).bind t.symbol? := by
    intro n
    cases hi : t.inFrame? scope n with
    | none => rfl
    | some id =>
      obtain ⟨old, hs⟩ := h.symbol_of_inFrame hi
      have := le_size_of_symbol? hs
      rw [Option.bind_some, Option.bind_some, symbol?_bound, if_neg (by omega)]
  rw [names, strings_bound]
  by_cases hm : m = name
  · subst hm
    rw [Strings.find?_intern, Option.bind_some, h.inFrame?_bound sym hfree]
    by_cases hc : scope = t.current
    · rw [if_pos ⟨hc, rfl⟩, if_pos ⟨hc, rfl⟩, Option.bind_some, symbol?_bound, if_pos rfl]
    · rw [if_neg fun hh => hc hh.1, if_neg fun hh => hc hh.1, hold, h.inFrame?_intern, names,
        Option.bind_assoc]
  · rw [Strings.find?_intern_of_ne _ hm, if_neg fun hh => hm hh.2, names]
    cases hn : t.strings.find? m with
    | none => rfl
    | some n =>
      rw [Option.bind_some, Option.bind_some, h.inFrame?_bound sym hfree, if_neg, hold]
      rintro ⟨-, rfl⟩
      exact hm (Strings.find?_inj (Strings.extends_intern _ _ _ _ hn) (Strings.find?_intern _ _))

theorem Sound.view_bound {name : String} (sym : Symbol)
    (hfree : t.inFrame? t.current (t.strings.intern name).2 = none) :
    (t.bound name sym).view = t.view.bind name (t.place name sym) := by
  rw [view, view, stack_bound]
  cases hs : t.stack with
  | nil => rfl
  | cons top rest =>
    have hcur := current_of_stack hs
    have hyoung := List.pairwise_cons.1 (hs ▸ h.younger)
    rw [List.map_cons, List.map_cons, View.bind]
    congr 1
    · funext m
      rw [h.names_bound sym hfree, hcur]
      simp only [true_and]
    · refine List.map_congr_left fun scope hscope => funext fun m => ?_
      rw [h.names_bound sym hfree, if_neg]
      rintro ⟨rfl, -⟩
      exact Nat.lt_irrefl _ (hcur ▸ hyoung.1 _ hscope)

/-- **Binding a name**: it is refused when the innermost scope has it, and else bound there. -/
theorem Sound.define_cases (name : String) (sym : Symbol) :
    (t.view.binds name = true ∧ ∃ d, t.define name sym = .error d) ∨
      (t.view.binds name = false ∧ t.define name sym = .ok (t.bound name sym, t.symbols.size + 1) ∧
        t.inFrame? t.current (t.strings.intern name).2 = none) := by
  have hbinds : t.view.binds name = (t.inFrame? t.current (t.strings.intern name).2).isSome := by
    cases hs : t.stack with
    | nil => exact absurd hs h.rooted
    | cons top rest =>
      rw [View.binds, view, hs, current_of_stack hs, h.inFrame?_intern]
      exact h.isSome_names top name
  rw [hbinds, define_eq]
  cases t.inFrame? t.current (t.strings.intern name).2 with
  | some previous => exact .inl ⟨rfl, _, rfl⟩
  | none => exact .inr ⟨rfl, rfl, rfl⟩

/-- **A refusal points at what the name is bound to** in the innermost scope. -/
theorem Sound.span_of_define_error {name : String} {sym : Symbol} {d : Duplicate}
    (hd : t.define name sym = .error d) :
    ∃ previous, t.view.head?.bind (· name) = some previous ∧ d.span = previous.span := by
  rw [define_eq] at hd
  cases hs : t.stack with
  | nil => exact absurd hs h.rooted
  | cons top rest =>
    rw [current_of_stack hs, h.inFrame?_intern] at hd
    have hnames : t.names top name
        = ((t.strings.find? name).bind fun n => t.inFrame? top n).bind t.symbol? := by
      rw [names, Option.bind_assoc]
    rw [view, hs, List.map_cons, List.head?_cons, Option.bind_some, hnames]
    cases hi : (t.strings.find? name).bind fun n => t.inFrame? top n with
    | none =>
      rw [hi] at hd
      exact nomatch hd
    | some id =>
      obtain ⟨n, -, hn⟩ := Option.bind_eq_some_iff.1 hi
      obtain ⟨previous, hp⟩ := h.symbol_of_inFrame hn
      rw [hi] at hd
      obtain rfl := Except.error.inj hd
      exact ⟨previous, hp, by rw [hp]; rfl⟩

end Bound

/-! ## Changing a symbol -/

theorem symbol?_updateSymbol (t : Table) (id : Nat) (f : Symbol → Symbol) (other : Nat) :
    (t.updateSymbol id f).symbol? other
      = if id = other then (t.symbol? other).map f else t.symbol? other := by
  unfold updateSymbol symbol?
  by_cases hid : id = 0
  · by_cases ho : other = 0
    · simp [hid, ho]
    · simp [hid, ho, Ne.symm ho]
  · by_cases ho : other = 0
    · simp [hid, ho]
    · have hiff : id - 1 = other - 1 ↔ id = other := by omega
      simp only [hid, ho, if_false, Array.getElem?_modify, hiff]

theorem inFrame?_updateSymbol (t : Table) (id : Nat) (f : Symbol → Symbol) (scope n : Nat) :
    (t.updateSymbol id f).inFrame? scope n = t.inFrame? scope n := by
  unfold updateSymbol
  split <;> rfl

theorem strings_updateSymbol (t : Table) (id : Nat) (f : Symbol → Symbol) :
    (t.updateSymbol id f).strings = t.strings := by
  unfold updateSymbol
  split <;> rfl

theorem stack_updateSymbol (t : Table) (id : Nat) (f : Symbol → Symbol) :
    (t.updateSymbol id f).stack = t.stack := by
  unfold updateSymbol
  split <;> rfl

theorem frames_updateSymbol (t : Table) (id : Nat) (f : Symbol → Symbol) :
    (t.updateSymbol id f).frames = t.frames := by
  unfold updateSymbol
  split <;> rfl

section Change

variable {t : Table} (h : t.Sound)

include h

theorem Sound.updateSymbol (id : Nat) {f : Symbol → Symbol}
    (hf : ∀ s, (f s).scope = s.scope ∧ (f s).name = s.name) : (t.updateSymbol id f).Sound where
  placed {scope n id'} hi := by
    rw [inFrame?_updateSymbol] at hi
    obtain ⟨sym, hs, hscope, hname⟩ := h.placed hi
    rw [symbol?_updateSymbol, hs]
    split
    · exact ⟨f sym, rfl, (hf sym).1.trans hscope, (hf sym).2.trans hname⟩
    · exact ⟨sym, rfl, hscope, hname⟩
  numbered {scope n id'} hi := by
    rw [inFrame?_updateSymbol] at hi
    rw [strings_updateSymbol]
    exact h.numbered hi
  younger := by
    rw [stack_updateSymbol]
    exact h.younger
  opened := by
    rw [stack_updateSymbol, frames_updateSymbol]
    exact h.opened
  rooted := by
    rw [stack_updateSymbol]
    exact h.rooted

/-- A symbol changes what its own name stands for in its own scope, and nothing else. -/
theorem Sound.names_updateSymbol {scope n id : Nat} {name : String}
    (hn : t.strings.find? name = some n) (hi : t.inFrame? scope n = some id) (f : Symbol → Symbol)
    (other : Nat) (m : String) :
    (t.updateSymbol id f).names other m
      = if other = scope ∧ m = name then (t.names other m).map f else t.names other m := by
  rw [names, strings_updateSymbol, names]
  cases hm : t.strings.find? m with
  | none =>
    rw [if_neg]
    · rfl
    · rintro ⟨-, rfl⟩
      exact nomatch hm.symm.trans hn
  | some k =>
    rw [Option.bind_some, Option.bind_some, inFrame?_updateSymbol]
    cases hk : t.inFrame? other k with
    | none => split <;> rfl
    | some id' =>
      rw [Option.bind_some, Option.bind_some, symbol?_updateSymbol]
      have hiff : id = id' ↔ other = scope ∧ m = name := by
        constructor
        · rintro rfl
          obtain ⟨sym, hs, hscope, hname⟩ := h.placed hi
          obtain ⟨sym', hs', hscope', hname'⟩ := h.placed hk
          obtain rfl := Option.some.inj (hs.symm.trans hs')
          obtain rfl : k = n := hname'.symm.trans hname
          exact ⟨hscope'.symm.trans hscope, Strings.find?_inj hm hn⟩
        · rintro ⟨rfl, rfl⟩
          obtain rfl := Option.some.inj (hm.symm.trans hn)
          exact Option.some.inj (hi.symm.trans hk)
      simp only [hiff]

/-- **Changing the symbol that a name stands for** changes the innermost binding of the name. -/
theorem Sound.view_updateSymbol {id : Nat} {name : String} (hid : t.lookupId? name = some id)
    (f : Symbol → Symbol) : (t.updateSymbol id f).view = t.view.change name f := by
  obtain ⟨n, hn, hfind⟩ := Option.bind_eq_some_iff.1 hid
  rw [view, view, stack_updateSymbol]
  have hyoung := h.younger
  generalize t.stack = stack at hfind hyoung ⊢
  -- the scopes further in do not bind the name, those further out are other scopes
  induction stack with
  | nil => exact nomatch hfind
  | cons scope rest ih =>
    have hnames : t.names scope name = (t.inFrame? scope n).bind t.symbol? := by
      rw [names, hn]
      rfl
    rw [List.findSome?_cons] at hfind
    rw [List.map_cons, List.map_cons, View.change]
    cases hi : t.inFrame? scope n with
    | none =>
      rw [hi] at hfind
      rw [hnames, hi, Option.bind_none]
      refine List.cons_eq_cons.2 ⟨?_, ih hfind (List.pairwise_cons.1 hyoung).2⟩
      obtain ⟨scope', -, hi'⟩ := List.exists_of_findSome?_eq_some hfind
      funext m
      rw [h.names_updateSymbol hn hi', if_neg]
      rintro ⟨rfl, -⟩
      exact nomatch hi.symm.trans hi'
    | some id' =>
      rw [hi] at hfind
      obtain rfl := Option.some.inj hfind
      obtain ⟨sym, hs⟩ := h.symbol_of_inFrame hi
      have hsym : t.names scope name = some sym := by rw [hnames, hi, Option.bind_some, hs]
      rw [hsym]
      refine List.cons_eq_cons.2
        ⟨?_, List.map_congr_left fun other hother => funext fun m => ?_⟩
      · funext m
        rw [h.names_updateSymbol hn hi]
        by_cases hm : m = name
        · rw [if_pos ⟨rfl, hm⟩, if_pos hm, hm, hsym, Option.map_some]
        · rw [if_neg fun hh => hm hh.2, if_neg hm]
      · rw [h.names_updateSymbol hn hi, if_neg]
        rintro ⟨rfl, -⟩
        exact Nat.lt_irrefl _ ((List.pairwise_cons.1 hyoung).1 _ hother)

end Change

end Table

end CoreCheck.Scope

import CoreCheck.Proofs.Scope.Lawful

/-!
# Proofs/Scope/Calls — a table under any calls

A table is used by opening and leaving scopes, binding names and looking them up, in any order and
also where a call is refused.  `Op` is one such call and `Call` a call or a whole step inside a
fresh scope; `Call.run` makes them one after the other on anything that answers calls.  On a table
every run keeps the laws of `Table.validate`.
-/

namespace CoreCheck.Scope

/-! ## Calls and answers -/

/-- **One call to a table.** -/
inductive Op where
  | enter (kind : ScopeKind) (span : Span)
  | exit (asked : Nat)
  | define (name : String) (sym : Symbol)
  | lookup (name : String)
  | lookupLocal (name : String)
  /-- Someone else numbers a text in the pool that the table uses. -/
  | number (text : String)

/-- **What a name stands for**: the number of the symbol, its name as a text, and the rest of the
symbol, without the number that its name has in the pool. -/
structure Binding where
  id : Nat
  name : String
  symbol : Symbol

/-- **The answer to a call.** -/
inductive Answer where
  | entered (scope : Nat)
  | left
  /-- The scope cannot be left. -/
  | mismatch (m : Mismatch)
  | defined (id : Nat)
  /-- The name is bound already. -/
  | duplicate (d : Duplicate)
  /-- The number of the symbol that was found, and what is known of it. -/
  | found (id : Option Nat) (binding : Option Binding)
  | done

namespace Answer

/-- The scope that was opened. -/
def scope : Answer → Nat
  | .entered id => id
  | _ => 0

/-- Whether a call was refused. -/
def isRefusal : Answer → Bool
  | .mismatch _ | .duplicate _ => true
  | _ => false

end Answer

/-- **A call, or calls inside a fresh scope.** That scope is left when they are done, and also when
they are given up halfway: the calls that were made are then fewer. -/
inductive Call where
  | op (o : Op)
  | within (kind : ScopeKind) (span : Span) (body : List Call)

/-! ## Runs -/

namespace Call

section Run

variable {σ : Type} (step : σ → Op → σ × Answer)

mutual

/-- What is there after a call, and the answers it got. -/
def run (s : σ) : Call → σ × List Answer
  | .op o => ((step s o).1, [(step s o).2])
  | .within kind span body =>
    let opened := step s (.enter kind span)
    let inside := runAll opened.1 body
    let left := step inside.1 (.exit opened.2.scope)
    (left.1, opened.2 :: inside.2 ++ [left.2])

/-- What is there after several calls, and all answers in order. -/
def runAll (s : σ) : List Call → σ × List Answer
  | [] => (s, [])
  | c :: cs => ((runAll (run s c).1 cs).1, (run s c).2 ++ (runAll (run s c).1 cs).2)

end

end Run

end Call

/-- The kind of scope that a call opens. -/
def Op.opens : Op → List ScopeKind
  | .enter kind _ => [kind]
  | _ => []

namespace Call

mutual

/-- The kinds of scopes that are opened in the course of a call. -/
def opens : Call → List ScopeKind
  | .op o => o.opens
  | .within kind _ body => kind :: opensAll body

/-- The kinds of scopes that are opened in the course of several calls. -/
def opensAll : List Call → List ScopeKind
  | [] => []
  | c :: cs => c.opens ++ opensAll cs

end

section Keeps

variable {σ : Type} {step : σ → Op → σ × Answer} {P : σ → Prop} {K : ScopeKind → Prop}

mutual

/-- **What every call keeps, every run keeps.** -/
theorem run_keeps (hstep : ∀ s o, (∀ kind ∈ o.opens, K kind) → P s → P (step s o).1) :
    ∀ (c : Call) {s : σ}, (∀ kind ∈ c.opens, K kind) → P s → P (c.run step s).1
  | .op o, s, hk, hs => by
    rw [run]
    exact hstep s o hk hs
  | .within kind span body, s, hk, hs => by
    obtain ⟨hkind, hbody⟩ := List.forall_mem_cons.1 hk
    have hopened := hstep s (.enter kind span) (by simpa [Op.opens] using hkind) hs
    have hinside := runAll_keeps hstep body hbody hopened
    rw [run]
    exact hstep _ (.exit _) (by simp [Op.opens]) hinside

theorem runAll_keeps (hstep : ∀ s o, (∀ kind ∈ o.opens, K kind) → P s → P (step s o).1) :
    ∀ (cs : List Call) {s : σ}, (∀ kind ∈ opensAll cs, K kind) → P s → P (runAll step s cs).1
  | [], s, _, hs => by
    rw [runAll]
    exact hs
  | c :: cs, s, hk, hs => by
    obtain ⟨hc, hcs⟩ := List.forall_mem_append.1 hk
    rw [runAll]
    exact runAll_keeps hstep cs hcs (run_keeps hstep c hc hs)

end

end Keeps

section Lockstep

variable {σ τ : Type} {step : σ → Op → σ × Answer} {step' : τ → Op → τ × Answer}
  {R : σ → τ → Prop}

mutual

/-- **What answers every call alike, answers every run alike.** -/
theorem run_lockstep
    (hstep : ∀ s r o, R s r → R (step s o).1 (step' r o).1 ∧ (step s o).2 = (step' r o).2) :
    ∀ (c : Call) {s : σ} {r : τ}, R s r →
      R (c.run step s).1 (c.run step' r).1 ∧ (c.run step s).2 = (c.run step' r).2
  | .op o, s, r, h => by
    obtain ⟨hnext, hanswer⟩ := hstep s r o h
    rw [run, run, hanswer]
    exact ⟨hnext, rfl⟩
  | .within kind span body, s, r, h => by
    obtain ⟨hopened, hscope⟩ := hstep s r (.enter kind span) h
    obtain ⟨hinside, hanswers⟩ := runAll_lockstep hstep body hopened
    obtain ⟨hleft, hlast⟩ := hstep _ _ (.exit (step s (.enter kind span)).2.scope) hinside
    rw [run, run]
    dsimp only
    rw [hanswers, hlast, ← hscope]
    exact ⟨hleft, rfl⟩

theorem runAll_lockstep
    (hstep : ∀ s r o, R s r → R (step s o).1 (step' r o).1 ∧ (step s o).2 = (step' r o).2) :
    ∀ (cs : List Call) {s : σ} {r : τ}, R s r →
      R (runAll step s cs).1 (runAll step' r cs).1 ∧
        (runAll step s cs).2 = (runAll step' r cs).2
  | [], s, r, h => by
    rw [runAll, runAll]
    exact ⟨h, rfl⟩
  | c :: cs, s, r, h => by
    obtain ⟨hnext, hanswers⟩ := run_lockstep hstep c h
    obtain ⟨hlast, hrest⟩ := runAll_lockstep hstep cs hnext
    rw [runAll, runAll, hanswers, hrest]
    exact ⟨hlast, rfl⟩

end

end Lockstep

end Call

/-! ## Tables -/

namespace Table

/-- The table in which only the module's scope is open, over a pool that may be in use already. -/
def withPool (pool : Strings) : Table := { Table.initial with strings := pool }

/-- The table after a text was numbered. -/
def numbering (t : Table) (text : String) : Table :=
  { t with strings := (t.strings.intern text).1 }

@[simp] theorem strings_numbering (t : Table) (text : String) :
    (t.numbering text).strings = (t.strings.intern text).1 := rfl

/-- What is known of a symbol. -/
def binding? (t : Table) (id : Nat) : Option Binding :=
  (t.symbol? id).map fun s => ⟨id, t.nameOf s, { s with name := 0 }⟩

/-- **How a table answers a call.** A name is numbered before it is looked for in the innermost
scope, also when it is then refused. -/
def step (t : Table) : Op → Table × Answer
  | .enter kind span => ((t.enter kind span).1, .entered (t.enter kind span).2)
  | .exit asked =>
    match t.exit asked with
    | .ok t' => (t', .left)
    | .error m => (t, .mismatch m)
  | .define name sym =>
    match t.define name sym with
    | .ok (t', id) => (t', .defined id)
    | .error d => (t.numbering name, .duplicate d)
  | .lookup name => (t, .found (t.lookupId? name) ((t.lookupId? name).bind t.binding?))
  | .lookupLocal name =>
    (t, .found (t.lookupLocalId? name) ((t.lookupLocalId? name).bind t.binding?))
  | .number text => (t.numbering text, .done)

/-- **Leaving a scope**: the innermost one is left, and everything else is refused. -/
theorem exit_cases (t : Table) (asked : Nat) :
    (∃ next rest, t.stack = asked :: next :: rest ∧
        t.exit asked = .ok { t with stack := next :: rest }) ∨
      ∃ m, t.exit asked = .error m := by
  rw [exit]
  split
  · next top next rest hs =>
    by_cases htop : top = asked
    · exact .inl ⟨next, rest, htop ▸ hs, if_pos htop⟩
    · exact .inr ⟨_, if_neg htop⟩
  · exact .inr ⟨_, rfl⟩

/-! ## The laws under any calls -/

/-- Every name of a scope is listed once. -/
def Keyed (t : Table) : Prop :=
  ∀ id f, t.frame? id = some f → (f.names.map Prod.fst).Nodup

section Laws

variable {t : Table}

theorem Sound.numbering (h : t.Sound) (text : String) : (t.numbering text).Sound where
  placed := h.placed
  numbered hi := Nat.lt_of_lt_of_le (h.numbered hi) (Strings.size_le_intern _ _)
  younger := h.younger
  opened := h.opened
  rooted := h.rooted

theorem Lawful.numbering (h : t.Lawful) (text : String) : (t.numbering text).Lawful where
  toSound := h.toSound.numbering text
  frames hf :=
    have hl := h.frames hf
    ⟨hl.kind, hl.parent, hl.children, hl.counted, hl.names⟩
  listed := h.listed
  chained := by
    have hframed : t.Framed (t.numbering text) := Framed.of_frame?_eq fun _ => rfl
    exact Chained.mono hframed h.chained

theorem lawful_withPool (pool : Strings) : (withPool pool).Lawful where
  placed := sound_initial.placed
  numbered {scope n id} hi := by
    obtain ⟨sym, hs, -⟩ := sound_initial.placed hi
    cases id <;> exact nomatch hs
  younger := sound_initial.younger
  opened := sound_initial.opened
  rooted := sound_initial.rooted
  frames hf :=
    have hl := lawful_initial.frames hf
    ⟨hl.kind, hl.parent, hl.children, hl.counted, hl.names⟩
  listed := lawful_initial.listed
  chained := by
    have hframed : Table.initial.Framed (withPool pool) := Framed.of_frame?_eq fun _ => rfl
    exact Chained.mono hframed lawful_initial.chained

/-- **A call keeps the laws**, unless it opens a scope of no kind. -/
theorem Lawful.step (h : t.Lawful) {o : Op} (ho : ∀ kind ∈ o.opens, kind ≠ .invalid) :
    (t.step o).1.Lawful := by
  cases o with
  | enter kind span => exact h.enter (ho kind (.head _)) span
  | exit asked =>
    obtain ⟨next, rest, hs, he⟩ | ⟨m, he⟩ := t.exit_cases asked
    · simpa only [Table.step, he] using h.exit hs
    · simpa only [Table.step, he] using h
  | define name sym =>
    obtain ⟨-, d, he⟩ | ⟨-, he, hfree⟩ := h.define_cases name sym
    · simpa only [Table.step, he] using h.numbering name
    · simpa only [Table.step, he] using h.bound sym hfree
  | lookup name => exact h
  | lookupLocal name => exact h
  | number text => exact h.numbering text

theorem keyed_withPool (pool : Strings) : (withPool pool).Keyed := by
  intro id f hf
  obtain ⟨-, rfl⟩ := frame?_initial hf
  exact List.nodup_nil

theorem Keyed.enter (h : t.Sound) (hk : t.Keyed) (kind : ScopeKind) (span : Span) :
    (t.enter kind span).1.Keyed := by
  intro id f hf
  rw [h.frame?_enter] at hf
  split at hf
  · obtain rfl := Option.some.inj hf
    exact List.nodup_nil
  split at hf
  · obtain ⟨g, hg, rfl⟩ := Option.map_eq_some_iff.1 hf
    exact hk id g hg
  · exact hk id f hf

theorem Keyed.bound (hk : t.Keyed) {name : String} (sym : Symbol)
    (hfree : t.inFrame? t.current (t.strings.intern name).2 = none) : (t.bound name sym).Keyed := by
  intro id f hf
  rw [frame?_bound] at hf
  split at hf
  · next hid =>
    -- the name that is added was not listed before
    obtain ⟨g, hg, rfl⟩ := Option.map_eq_some_iff.1 hf
    rw [hid] at hg
    have hnew : g.names.lookup (t.strings.intern name).2 = none := by
      rwa [inFrame?, hg] at hfree
    rw [List.lookup_eq_none_iff] at hnew
    rw [List.map_append, List.nodup_append]
    refine ⟨hk _ g hg, by simp, ?_⟩
    intro n hn m hm
    obtain ⟨e, he, rfl⟩ := List.mem_map.1 hn
    obtain rfl := List.mem_singleton.1 hm
    exact fun heq => by simpa [heq] using hnew e he
  · exact hk id f hf

theorem Keyed.step (h : t.Sound) (hk : t.Keyed) (o : Op) : (t.step o).1.Keyed := by
  cases o with
  | enter kind span => exact hk.enter h kind span
  | exit asked =>
    obtain ⟨next, rest, hs, he⟩ | ⟨m, he⟩ := t.exit_cases asked
    · simp only [Table.step, he]
      exact hk
    · simpa only [Table.step, he] using hk
  | define name sym =>
    obtain ⟨-, d, he⟩ | ⟨-, he, hfree⟩ := h.define_cases name sym
    · simp only [Table.step, he]
      exact hk
    · simpa only [Table.step, he] using hk.bound sym hfree
  | lookup name => exact hk
  | lookupLocal name => exact hk
  | number text => exact hk

/-- **No broken law is ever found**: whatever calls are made and whichever are refused, the table is
lawful, and names and symbols of a scope are equally many because no name is listed twice. -/
theorem validate_after_calls (pool : Strings) (calls : List Call)
    (hkinds : ∀ kind ∈ Call.opensAll calls, kind ≠ .invalid) :
    (Call.runAll step (withPool pool) calls).1.validate = [] ∧
      (Call.runAll step (withPool pool) calls).1.Lawful ∧
      (Call.runAll step (withPool pool) calls).1.Keyed := by
  obtain ⟨h, hkeyed⟩ := Call.runAll_keeps (P := fun t : Table => t.Lawful ∧ t.Keyed)
    (fun _ _ ho hs => ⟨hs.1.step ho, hs.2.step hs.1.toSound _⟩) calls hkinds
    ⟨lawful_withPool pool, keyed_withPool pool⟩
  exact ⟨h.validate_eq_nil, h, hkeyed⟩

/-- Calls of which several are refused: a name bound twice, scopes that are not innermost, and a
scope that cannot be left because another one is still open in it. -/
def tangledCalls : List Call :=
  [.op (.define "x" { kind := .binding }), .op (.exit 1),
    .within .function {} [.op (.define "x" { kind := .param }),
      .op (.define "x" { kind := .param }), .within .block {} [.op (.lookup "x")],
      .op (.enter .block {}), .op (.exit 2)],
    .op (.exit 4), .op (.lookupLocal "x")]

theorem validate_after_tangledCalls :
    (∀ kind ∈ Call.opensAll tangledCalls, kind ≠ .invalid) ∧
      (Call.runAll step (withPool {}) tangledCalls).2.map (·.isRefusal) =
        [false, true, false, false, true, false, false, false, false, true, true, false, false] ∧
      (Call.runAll step (withPool {}) tangledCalls).1.validate = [] := by
  have hkinds : ∀ kind ∈ Call.opensAll tangledCalls, kind ≠ .invalid := by decide
  exact ⟨hkinds, by decide +kernel, (validate_after_calls {} tangledCalls hkinds).1⟩

end Laws

end Table

end CoreCheck.Scope

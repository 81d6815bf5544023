import CoreCheck.Proofs.Aliases.Bound
import CoreCheck.Proofs.Aliases.Depth
import CoreCheck.Proofs.Aliases.Holders

/-!
# Proofs/Aliases/Cycles — aliases that refer to themselves

Resolving aliases is a depth-first search.  An alias is reported when it is met while it is being
resolved; all aliases that are being resolved then lead to it, and it is one of them, so it lies on
a cycle.  When an alias is done, every alias in its target is done before it or was reported
(`Ranked`).  In the end all are done, so a cycle that is nowhere reported would be done earlier and
earlier: each component with a cycle has a reported alias (`Ranked.exists_reported`).
-/

namespace CoreCheck.Check

open CoreCheck.Types CoreCheck.Ir

/-! ## Reports -/

/-- **The report of an alias that refers to itself.** -/
def selfReference (a : AliasTarget) : Diagnostic :=
  (Diagnostic.error .unknownType a.span
    ("type alias " ++ Text.quote a.name ++ " refers to itself")).withHelp
    "break the cycle by spelling out the target type"

/-- An observation says of some alias that it refers to itself. -/
def Observation.IsSelfReference (o : Observation) : Prop :=
  ∃ d n, o = .problem d ∧ d.code = .unknownType ∧
    d.message = "type alias " ++ Text.quote n ++ " refers to itself"

theorem isSelfReference_selfReference (a : AliasTarget) :
    (Observation.problem (selfReference a)).IsSelfReference := ⟨_, a.name, rfl, rfl, rfl⟩

/-- **No alias is visited, and none is said to refer to itself.** -/
structure Aloof (s t : State) : Prop where
  visits : t.visits = s.visits
  log : ∃ es, t.log.toList = s.log.toList ++ es ∧ ∀ e ∈ es, ¬ e.2.IsSelfReference

theorem Aloof.of_eq {s t : State} (hv : t.visits = s.visits) (hl : t.log = s.log) : Aloof s t :=
  ⟨hv, [], by rw [hl, List.append_nil], List.forall_mem_nil _⟩

instance : Walk.Course Aloof where
  refl _ := .of_eq rfl rfl
  trans := by
    rintro s t u ⟨hv, es, hes, hnone⟩ ⟨hv', fs, hfs, hnone'⟩
    exact ⟨hv'.trans hv, es ++ fs, by rw [hfs, hes, List.append_assoc],
      List.forall_mem_append.2 ⟨hnone, hnone'⟩⟩

theorem aloof_make (f : Arena → Arena × TypeId) : Walk.Keeps Aloof (Walk.make f) :=
  fun _ => .of_eq rfl rfl

theorem aloof_report {d : Diagnostic} (h : ¬ (Observation.problem d).IsSelfReference) :
    Walk.Keeps Aloof (Walk.report d) := fun s =>
  ⟨rfl, [(s.owner, .problem d)], by simp [Walk.report], List.forall_mem_singleton.2 h⟩

/-- A report of another code. -/
theorem aloof_of_code {d : Diagnostic} (hd : d.code = .duplicateSymbol) :
    Walk.Keeps Aloof (Walk.report d) := by
  refine aloof_report ?_
  rintro ⟨_, n, ⟨⟩, hc, -⟩
  cases hd.symm.trans hc

theorem aloof_unknownType (name : String) (span : Span) :
    Walk.Keeps Aloof (Walk.reportUnknownType name span) := by
  refine aloof_report ?_
  rintro ⟨_, n, ⟨⟩, -, hm⟩
  have hfirst := congrArg (fun m => m.toList.head?) hm
  simp [Diagnostic.withText, Diagnostic.withData, Diagnostic.error] at hfirst

theorem aloof_duplicate (what name : String) (span previous : Span) :
    Walk.Keeps Aloof (Walk.reportDuplicate what name span previous) := by
  refine aloof_of_code ?_
  split <;> rfl

/-! ## Registering reports no cycle -/

theorem aloof_ownedBy {α : Type} {x : Walk α} (hx : Walk.Keeps Aloof x) (i : Nat) :
    Walk.Keeps Aloof (Walk.ownedBy i x) := fun s =>
  ⟨(hx { s with owner := some i }).visits, (hx { s with owner := some i }).log⟩

theorem aloof_repeats (span : Span) (seen variants : List String) :
    Walk.Keeps Aloof (reportRepeats span seen variants) := by
  induction variants generalizing seen with
  | nil => exact .pure _
  | cons v vs ih =>
    rw [reportRepeats]
    exact .ite (.bind (aloof_duplicate _ _ _ _) fun _ => ih _) (ih _)

theorem aloof_registerName (known : TypeNames) (i : Nat) (name : String) (span : Span)
    (id : TypeId) : Walk.Keeps Aloof (registerName known i name span id) := by
  unfold registerName
  refine .ite (.bind (aloof_of_code rfl) fun _ => .pure _) (.look (fun _ => rfl) fun s => ?_)
  split
  · exact .bind (aloof_duplicate _ _ _ _) fun _ => .pure _
  · exact .bind (fun _ => .of_eq rfl rfl) fun _ => .pure _

theorem aloof_declareType (known : TypeNames) (i : Nat) (d : Decl) :
    Walk.Keeps Aloof (declareType known i d) := by
  refine aloof_ownedBy ?_ i
  cases d with
  | data span name fields =>
    exact .bind (aloof_make _) fun _ => .bind (aloof_registerName _ _ _ _ _) fun _ => .pure _
  | enum span name variants =>
    exact .bind (aloof_make _) fun _ => .bind (aloof_repeats _ _ _) fun _ =>
      .bind (aloof_registerName _ _ _ _ _) fun _ => .pure _
  | «alias» span name target => exact .bind (aloof_registerName _ _ _ _ _) fun _ => .pure _
  | func f => exact .pure _
  | imported span name => exact .pure _

theorem aloof_declareTypes (known : TypeNames) (rest : List (Decl × Nat)) :
    Walk.Keeps Aloof (declareTypes known rest) := by
  induction rest generalizing known with
  | nil => exact .pure _
  | cons e rest ih =>
    rw [declareTypes]
    exact .bind (aloof_declareType _ _ _) fun _ => .bind (ih _) fun _ => .pure _

/-! ## The order in which aliases are done -/

/-- **In the order in which they were done, the last one first, aliases refer only to those before
them**, or to some that were reported. -/
def Ranked (f : String → Option TypeExpr) (reported : String → Prop) : List String → Prop
  | [] => True
  | a :: before =>
    (∀ b, TypeExpr.Refers f a b → b ∈ before ∨ reported b) ∧ Ranked f reported before

section Ranked

variable {f : String → Option TypeExpr} {reported reported' : String → Prop}

theorem Ranked.mono (h : ∀ b, reported b → reported' b) {l : List String}
    (hl : Ranked f reported l) : Ranked f reported' l := by
  induction l with
  | nil => trivial
  | cons a before ih => exact ⟨fun b hb => (hl.1 b hb).imp_right (h b), ih hl.2⟩

/-- **Every component with a cycle has an alias that was reported.** -/
theorem Ranked.exists_reported {l : List String} (hl : Ranked f reported l) {a : String}
    (ha : a ∈ l) (hcycle : Relation.TransGen (TypeExpr.Refers f) a a) :
    ∃ b, reported b ∧ Relation.ReflTransGen (TypeExpr.Refers f) a b ∧
      Relation.ReflTransGen (TypeExpr.Refers f) b a := by
  induction l generalizing a with
  | nil => cases ha
  | cons c before ih =>
    obtain rfl | ha := List.mem_cons.1 ha
    · -- the next alias on the cycle was reported, or was done before
      obtain ⟨b, hab, hba⟩ := Relation.TransGen.head'_iff.1 hcycle
      obtain hb | hb := hl.1 b hab
      · obtain ⟨r, hr, hbr, hrb⟩ := ih hl.2 hb (.tail' hba hab)
        exact ⟨r, hr, .head hab hbr, hrb.trans hba⟩
      · exact ⟨b, hb, .single hab, hba⟩
    · exact ih hl.2 ha hcycle

end Ranked

/-- The aliases that are done, the last one first. -/
def State.finished (s : State) : List String := (s.visits.filter (·.2 = .done)).map Prod.fst

theorem mem_finished_of_lookup {s : State} {n : String} (h : s.visits.lookup n = some .done) :
    n ∈ s.finished :=
  List.mem_map.2 ⟨(n, .done), List.mem_filter.2 ⟨mem_of_lookup h, by simp⟩, rfl⟩

/-! ## The search -/

section Search

variable (targets : List AliasTarget)

/-- An alias was reported on its own behalf. -/
def Reported (s : State) (n : String) : Prop :=
  ∃ a, targets.find? (·.name = n) = some a ∧
    (some a.index, .problem (selfReference a)) ∈ s.log.toList

/-- An alias is done, or was reported. -/
def Passed (s : State) (n : String) : Prop := n ∈ s.finished ∨ Reported targets s n

/-- **An entry of the log says of an alias that lies on a cycle that it refers to itself**, and
belongs to that alias. -/
def Rightly (e : Option Nat × Observation) : Prop :=
  ∃ a, targets.find? (·.name = a.name) = some a ∧
    e = (some a.index, .problem (selfReference a)) ∧
    Relation.TransGen (TypeExpr.Refers (targetOf targets)) a.name a.name

/-- **A state of the search**: those that are being resolved are among `begun`, fewer than `depth`
aliases were not begun, and what was reported was reported rightly. -/
structure Searching (begun : String → Prop) (depth : Nat) (s : State) : Prop where
  visiting : ∀ n, s.visits.lookup n = some .visiting → begun n
  unbegun : (unbegun targets s.visits).length < depth
  ranked : Ranked (targetOf targets) (Reported targets s) s.finished
  rightly : ∀ e ∈ s.log.toList, e.2.IsSelfReference → Rightly targets e

/-- Nothing that was done or written down is taken back. -/
structure Ahead (s t : State) : Prop where
  finished : ∀ n ∈ s.finished, n ∈ t.finished
  log : ∀ e ∈ s.log.toList, e ∈ t.log.toList

/-- **A step of the search passes some names**: those that are aliases are done or reported. -/
structure Searches {α : Type} (begun : String → Prop) (depth : Nat) (s : State) (x : Walk α)
    (names : List String) : Prop where
  kept : Searching targets begun depth (x.after s)
  ahead : Ahead s (x.after s)
  passed : ∀ n ∈ names, (targetOf targets n).isSome = true → Passed targets (x.after s) n

variable {targets}

theorem Ahead.trans {s t u : State} (h : Ahead s t) (h' : Ahead t u) : Ahead s u :=
  ⟨fun n hn => h'.finished n (h.finished n hn), fun e he => h'.log e (h.log e he)⟩

theorem Ahead.reported {s t : State} (h : Ahead s t) {n : String} (hn : Reported targets s n) :
    Reported targets t n :=
  hn.imp fun _ ha => ha.imp_right (h.log _)

theorem Ahead.passed {s t : State} (h : Ahead s t) {n : String} (hn : Passed targets s n) :
    Passed targets t n := hn.imp (h.finished n) h.reported

theorem Aloof.ahead {s t : State} (h : Aloof s t) : Ahead s t := by
  obtain ⟨hv, es, hes, -⟩ := h
  refine ⟨fun n hn => ?_, fun e he => hes ▸ List.mem_append_left es he⟩
  rwa [State.finished, hv]

variable {begun : String → Prop} {depth : Nat} {s : State}

theorem Searching.aloof {t : State} (h : Searching targets begun depth s) (ha : Aloof s t) :
    Searching targets begun depth t := by
  have hfinished : t.finished = s.finished := by rw [State.finished, ha.visits, State.finished]
  refine ⟨ha.visits ▸ h.visiting, ha.visits ▸ h.unbegun, ?_, fun e he hself => ?_⟩
  · rw [hfinished]
    exact h.ranked.mono fun b => ha.ahead.reported
  · obtain ⟨-, es, hes, hnone⟩ := ha
    obtain he | he := List.mem_append.1 (hes ▸ he)
    · exact h.rightly e he hself
    · exact absurd hself (hnone e he)

section Searches

variable {α β : Type} {x : Walk α} {f : α → Walk β} {ns ms : List String}

theorem Searches.still (h : Searching targets begun depth s) (hx : Aloof s (x.after s)) :
    Searches targets begun depth s x [] :=
  ⟨h.aloof hx, hx.ahead, List.forall_mem_nil _⟩

theorem Searches.bind (hx : Searches targets begun depth s x ns)
    (hf : Searches targets begun depth (x.after s) (f (x.value s)) ms) :
    Searches targets begun depth s (x >>= f) (ns ++ ms) :=
  ⟨hf.kept, hx.ahead.trans hf.ahead, List.forall_mem_append.2
    ⟨fun n hn ha => hf.ahead.passed (hx.passed n hn ha), hf.passed⟩⟩

theorem Searches.andThen (hx : Searches targets begun depth s x ns)
    (hf : Walk.Keeps Aloof (f (x.value s))) : Searches targets begun depth s (x >>= f) ns :=
  ns.append_nil ▸ hx.bind (.still hx.kept (hf _))

theorem Searches.get {f : State → Walk α} (h : Searches targets begun depth s (f s) ns) :
    Searches targets begun depth s (get >>= f) ns := ⟨h.kept, h.ahead, h.passed⟩

/-- Steps on behalf of a declaration. -/
theorem Searches.ownedBy {i : Nat}
    (h : Searches targets begun depth { s with owner := some i } x ns) :
    Searches targets begun depth s (Walk.ownedBy i x) ns :=
  ⟨⟨h.kept.visiting, h.kept.unbegun, h.kept.ranked, h.kept.rightly⟩,
    ⟨h.ahead.finished, h.ahead.log⟩, h.passed⟩

/-- What was passed may be forgotten. -/
theorem Searches.forget (h : Searches targets begun depth s x ns) :
    Searches targets begun depth s x [] := ⟨h.kept, h.ahead, List.forall_mem_nil _⟩

end Searches

section Resolve

variable {find : Resolver}

theorem searches_resolveTypes (fallback : Span) (ts : List TypeExpr)
    (hts : ∀ t ∈ ts, ∀ {s}, Searching targets begun depth s →
      Searches targets begun depth s (resolveType find [] fallback t) t.names)
    (h : Searching targets begun depth s) :
    Searches targets begun depth s (resolveTypes find [] fallback ts) (TypeExpr.namesOfAll ts) := by
  induction ts generalizing s with
  | nil => exact .still h (.of_eq rfl rfl)
  | cons t ts ih =>
    have hfirst := hts t (.head _) h
    rw [resolveTypes, TypeExpr.namesOfAll]
    exact hfirst.bind ((ih (fun u hu => hts u (.tail _ hu)) hfirst.kept).andThen (.pure _))

/-- **Resolving a written type passes its names**, if looking them up does. -/
theorem searches_resolveType (t : TypeExpr) (fallback : Span)
    (hfind : ∀ n ∈ t.names, ∀ {s}, Searching targets begun depth s →
      Searches targets begun depth s (find n) [n]) (h : Searching targets begun depth s) :
    Searches targets begun depth s (resolveType find [] fallback t) t.names := by
  induction t using TypeExpr.induct generalizing fallback s with
  | name at_ n =>
    rw [resolveType, TypeExpr.names]
    refine (hfind n (.head _) h).andThen ?_
    split
    · exact .pure _
    · exact .bind (aloof_unknownType _ _) fun _ => .pure _
  | var at_ n => exact .still h (aloof_make _ s)
  | optional at_ e ih =>
    rw [resolveType, TypeExpr.names]
    exact (ih (at_.orElse fallback) hfind h).andThen
      (.look (fun _ => rfl) fun _ => .ite (.pure _) (aloof_make _))
  | list at_ e ih =>
    rw [resolveType, TypeExpr.names]
    exact (ih (at_.orElse fallback) hfind h).andThen (aloof_make _)
  | map at_ k v ihk ihv =>
    obtain ⟨hnk, hnv⟩ := List.forall_mem_append.1 hfind
    have hk := ihk (at_.orElse fallback) hnk h
    rw [resolveType, TypeExpr.names]
    exact hk.bind ((ihv (at_.orElse fallback) hnv hk.kept).andThen (aloof_make _))
  | result at_ x y ihx ihy =>
    obtain ⟨hnx, hny⟩ := List.forall_mem_append.1 hfind
    have hx := ihx (at_.orElse fallback) hnx h
    rw [resolveType, TypeExpr.names]
    exact hx.bind ((ihy (at_.orElse fallback) hny hx.kept).andThen (aloof_make _))
  | func at_ ps r ihps ihr =>
    obtain ⟨hnps, hnr⟩ := List.forall_mem_append.1 hfind
    have hps := searches_resolveTypes (at_.orElse fallback) ps (fun t ht _ h =>
      ihps t ht _ (fun n hn => hnps n (TypeExpr.mem_namesOfAll ht hn)) h) h
    have hr : Searches targets begun depth
        ((resolveTypes find [] (at_.orElse fallback) ps).after s)
        (resolveResult find [] (at_.orElse fallback) r) (TypeExpr.namesOfResult r) := by
      cases r with
      | none => exact .still hps.kept (.of_eq rfl rfl)
      | some t => exact ihr t rfl _ hnr hps.kept
    rw [resolveType, TypeExpr.names]
    exact hps.bind (hr.andThen (aloof_make _))
  | pii at_ e level category ih =>
    rw [resolveType, TypeExpr.names]
    exact (ih (at_.orElse fallback) hfind h).andThen (aloof_make _)

end Resolve

/-! ### One alias -/

/-- **An alias is begun**: one less is left to begin. -/
theorem Searching.begin {x : String} {a : AliasTarget} (ha : targets.find? (·.name = x) = some a)
    (hx : s.visits.lookup x = none) (owner : Option Nat)
    (h : Searching targets begun (depth + 1) s) :
    Searching targets (fun w => begun w ∨ w = x) depth
      { s with visits := (x, .visiting) :: s.visits, owner } where
  visiting n hn := by
    rw [List.lookup_cons] at hn
    by_cases hnx : n = x
    · exact .inr hnx
    · rw [beq_false_of_ne hnx] at hn
      exact .inl (h.visiting n hn)
  unbegun := (length_unbegun_lt ha hx .visiting).trans_le (Nat.le_of_lt_succ h.unbegun)
  ranked := h.ranked
  rightly := h.rightly

/-- **An alias is done**, when the aliases in its target were passed. -/
theorem Searching.finish {x : String} {u : TypeExpr} (hu : targetOf targets x = some u)
    (hpassed : ∀ n ∈ u.names, (targetOf targets n).isSome = true → Passed targets s n)
    (aliases : Aliases) (owner : Option Nat)
    (h : Searching targets (fun w => begun w ∨ w = x) depth s) :
    Searching targets begun (depth + 1)
      { s with aliases, visits := (x, .done) :: s.visits, owner } where
  visiting n hn := by
    rw [List.lookup_cons] at hn
    by_cases hnx : n = x
    · rw [hnx, beq_self_eq_true] at hn
      cases hn
    · rw [beq_false_of_ne hnx] at hn
      exact (h.visiting n hn).resolve_right hnx
  unbegun := by
    rw [unbegun_cons]
    exact Nat.lt_succ_of_lt (Nat.lt_of_le_of_lt (List.length_filter_le _ _) h.unbegun)
  ranked := by
    refine ⟨?_, h.ranked⟩
    rintro b ⟨u', hu', hb, halias⟩
    obtain rfl : u = u' := Option.some.inj (hu.symm.trans hu')
    exact hpassed b hb halias
  rightly := h.rightly

/-- **An alias on a cycle is reported.** -/
theorem Searching.report {a : AliasTarget} (ha : targets.find? (·.name = a.name) = some a)
    (hcycle : Relation.TransGen (TypeExpr.Refers (targetOf targets)) a.name a.name)
    (h : Searching targets begun depth s) :
    let t := { s with log := s.log.push (some a.index, .problem (selfReference a)) }
    Searching targets begun depth t ∧ Ahead s t ∧ Reported targets t a.name := by
  intro t
  have hlog : t.log.toList = s.log.toList ++ [(some a.index, .problem (selfReference a))] :=
    Array.toList_push
  have hahead : Ahead s t := ⟨fun n hn => hn, fun e he => hlog ▸ List.mem_append_left _ he⟩
  refine ⟨⟨h.visiting, h.unbegun, h.ranked.mono fun b => hahead.reported, fun e he hself => ?_⟩,
    hahead, a, ha, hlog ▸ List.mem_concat_self⟩
  obtain he | he := List.mem_append.1 (hlog ▸ he)
  · exact h.rightly e he hself
  · exact ⟨a, ha, List.mem_singleton.1 he, hcycle⟩

/-- **Looking up a name passes it**, as long as all aliases that are being resolved lead to it. -/
theorem searches_aliasResolver (depth : Nat) (x : String) {begun : String → Prop}
    (hbegun : ∀ w, begun w → (targetOf targets x).isSome = true →
      Relation.TransGen (TypeExpr.Refers (targetOf targets)) w x)
    (h : Searching targets begun depth s) :
    Searches targets begun depth s (aliasResolver targets depth x) [x] := by
  induction depth generalizing x begun s with
  | zero => exact absurd h.unbegun (Nat.not_lt_zero _)
  | succ depth ih =>
    rw [aliasResolver]
    cases hfind : targets.find? (·.name = x) with
    | none =>
      refine ⟨h, Aloof.ahead (.of_eq rfl rfl), List.forall_mem_singleton.2 fun halias => ?_⟩
      rw [targetOf, hfind] at halias
      cases halias
    | some a =>
      have hsome : targetOf targets x = some a.target := by rw [targetOf, hfind]; rfl
      obtain rfl : a.name = x := by simpa using List.find?_some hfind
      refine .get ?_
      cases hv : s.visits.lookup a.name with
      | none =>
        -- the aliases that lead to this one lead to all that its target names
        have hnames : ∀ n ∈ a.target.names, ∀ w, begun w ∨ w = a.name →
            (targetOf targets n).isSome = true →
            Relation.TransGen (TypeExpr.Refers (targetOf targets)) w n := by
          intro n hn w hw halias
          have hstep : TypeExpr.Refers (targetOf targets) a.name n := ⟨a.target, hsome, hn, halias⟩
          obtain hw | rfl := hw
          · exact (hbegun w hw (by rw [hsome]; rfl)).tail hstep
          · exact .single hstep
        have hread := searches_resolveType a.target a.span
          (fun n hn _ hs => ih n (hnames n hn) hs) (h.begin hfind hv (some a.index))
        refine ⟨hread.kept.finish hsome hread.passed _ s.owner,
          ⟨fun n hn => .tail _ (hread.ahead.finished n hn), hread.ahead.log⟩,
          List.forall_mem_singleton.2 fun _ => .inl (.head _)⟩
      | some visit =>
        cases visit with
        | visiting =>
          obtain ⟨hkept, hahead, hreported⟩ :=
            h.report hfind (hbegun a.name (h.visiting _ hv) (by rw [hsome]; rfl))
          exact ⟨hkept, hahead, List.forall_mem_singleton.2 fun _ => .inr hreported⟩
        | done =>
          exact ⟨h, Aloof.ahead (.of_eq rfl rfl),
            List.forall_mem_singleton.2 fun _ => .inl (mem_finished_of_lookup hv)⟩

/-! ### One declaration after the other -/

/-- Between two declarations no alias is being resolved. -/
abbrev AtRest (targets : List AliasTarget) : State → Prop :=
  Searching targets (fun _ => False) (targets.length + 1)

/-- A step from one such state to another one. -/
abbrev Sweeps {α : Type} (targets : List AliasTarget) (s : State) (x : Walk α)
    (names : List String) : Prop :=
  Searches targets (fun _ => False) (targets.length + 1) s x names

/-- The name that a declaration is resolved under, if it is an alias that is. -/
def resolvedAs (targets : List AliasTarget) : Decl × Nat → List String
  | (.alias _ name _, index) =>
    if targets.any fun t => t.name = name && t.index = index then [name] else []
  | _ => []

theorem sweeps_onDemand (x : String) (h : AtRest targets s) :
    Sweeps targets s (onDemand targets x) [x] :=
  searches_aliasResolver _ x (fun _ hw => hw.elim) h

theorem sweeps_resolveType (t : TypeExpr) (fallback : Span) (h : AtRest targets s) :
    Sweeps targets s (resolveType (onDemand targets) [] fallback t) t.names :=
  searches_resolveType t fallback (fun n _ _ hs => sweeps_onDemand n hs) h

theorem sweeps_resolveFields (owner : Span) (fs : List TypedName) (seen : List (String × Span))
    (h : AtRest targets s) :
    Sweeps targets s (resolveFields (onDemand targets) owner seen fs) [] := by
  induction fs generalizing seen s with
  | nil => exact .still h (.of_eq rfl rfl)
  | cons f fs ih =>
    rw [resolveFields]
    cases seen.lookup f.name with
    | some previous =>
      have hreport :=
        Searches.still h (aloof_duplicate "field" f.name (f.span.orElse owner) previous s)
      exact hreport.bind (ih seen hreport.kept)
    | none =>
      have htype := (sweeps_resolveType f.type owner h).forget
      exact htype.bind ((ih _ htype.kept).andThen (.pure _))

/-- **One declaration more**: an alias that is resolved under its name is passed. -/
theorem sweeps_resolveDecl (e : Entry) (h : AtRest targets s) :
    Sweeps targets s (resolveDecl targets e) (resolvedAs targets e.placed) := by
  obtain ⟨d, i, own⟩ := e
  have hstart : AtRest targets { s with owner := some i } :=
    ⟨h.visiting, h.unbegun, h.ranked, h.rightly⟩
  have hskip : Sweeps targets s (pure ()) [] := .still h (.of_eq rfl rfl)
  cases d with
  | «alias» span name target =>
    rw [resolveDecl, Entry.placed, resolvedAs]
    split
    · exact (sweeps_onDemand name h).andThen (.pure _)
    · exact ((sweeps_resolveType target span hstart).forget.ownedBy).andThen (.pure _)
  | data span name fs =>
    cases own with
    | none => exact hskip
    | some id =>
      exact ((sweeps_resolveFields span fs [] hstart).andThen fun _ => .of_eq rfl rfl).ownedBy
  | enum span name variants => exact hskip
  | func f => exact hskip
  | imported span name => exact hskip

/-- **All declarations.** -/
theorem sweeps_resolveDecls (rest : List Entry) (h : AtRest targets s) :
    Sweeps targets s (rest.forM (resolveDecl targets))
      ((rest.map Entry.placed).flatMap (resolvedAs targets)) := by
  induction rest generalizing s with
  | nil => exact .still h (.of_eq rfl rfl)
  | cons e rest ih =>
    have hfirst := sweeps_resolveDecl e h
    exact hfirst.bind (ih hfirst.kept)

end Search

/-! ## The cycles of a module -/

/-- **What the aliases of declarations refer to**, each under the name that it holds. -/
def aliasRefers (ds : List Decl) : String → String → Prop :=
  TypeExpr.Refers fun n => (heldAlias? ds.zipIdx n).map (·.target)

/-- When all names are registered, the search can begin. -/
theorem atRest_declareTypes (rest : List (Decl × Nat)) (targets : List AliasTarget) :
    AtRest targets ((declareTypes [] rest).after {}) := by
  have hstart : AtRest targets {} :=
    ⟨fun n hn => (nomatch hn), Nat.lt_succ_of_le (List.length_filter_le _ _), trivial,
      List.forall_mem_nil _⟩
  exact hstart.aloof (aloof_declareTypes [] rest {})

/-- **What collecting the types of a module leaves of the search.** -/
theorem sweeps_collectTypes (ds : List Decl) :
    ∃ targets : List AliasTarget, (∀ n, targets.find? (·.name = n) = heldAlias? ds.zipIdx n) ∧
      AtRest targets ((collectTypes ds.zipIdx).after {}) ∧
      ∀ n, (targetOf targets n).isSome = true →
        Passed targets ((collectTypes ds.zipIdx).after {}) n := by
  have hreg := registering_declareTypes ds.zipIdx registering_initial
  rw [List.nil_append] at hreg
  have hstart := atRest_declareTypes ds.zipIdx
    (aliasTargets ((declareTypes [] ds.zipIdx).value {}).1 ds.zipIdx)
  have hsweep := sweeps_resolveDecls ((declareTypes [] ds.zipIdx).value {}).2 hstart
  rw [placed_declareTypes] at hsweep
  refine ⟨_, find?_aliasTargets hreg, hsweep.kept, fun n hn => hsweep.passed n ?_ hn⟩
  obtain ⟨a, ha⟩ := Option.isSome_iff_exists.1 (Option.isSome_map.symm.trans hn)
  rw [find?_aliasTargets hreg] at ha
  obtain ⟨hmem, rfl⟩ := name_heldAlias? ha
  refine List.mem_flatMap.2 ⟨_, hmem, ?_⟩
  rw [resolvedAs, if_pos]
  · exact .head _
  · exact List.any_eq_true.2 ⟨a, (mem_aliasTargets_iff hreg).2 ha, by simp⟩

theorem refers_targetOf {ds : List Decl} {targets : List AliasTarget}
    (hfind : ∀ n, targets.find? (·.name = n) = heldAlias? ds.zipIdx n) :
    TypeExpr.Refers (targetOf targets) = aliasRefers ds := by
  rw [aliasRefers]
  congr 1
  funext n
  rw [targetOf, hfind]

/-- **An alias that is said to refer to itself lies on a cycle**, and its own declaration has the
report. -/
theorem cycle_of_selfReference (ds : List Decl) {e : Option Nat × Observation}
    (he : e ∈ ((collectTypes ds.zipIdx).after {}).log.toList) (hself : e.2.IsSelfReference) :
    ∃ a, heldAlias? ds.zipIdx a.name = some a ∧
      ds[a.index]? = some (.alias a.span a.name a.target) ∧
      e = (some a.index, .problem (selfReference a)) ∧
      Relation.TransGen (aliasRefers ds) a.name a.name := by
  obtain ⟨targets, hfind, hrest, -⟩ := sweeps_collectTypes ds
  obtain ⟨a, ha, heq, hcycle⟩ := hrest.rightly e he hself
  rw [hfind] at ha
  exact ⟨a, ha, List.mem_zipIdx_iff_getElem?.1 (name_heldAlias? ha).1, heq,
    refers_targetOf hfind ▸ hcycle⟩

/-- **A cycle has a report in its component.** -/
theorem selfReference_of_cycle (ds : List Decl) {n : String}
    (hcycle : Relation.TransGen (aliasRefers ds) n n) :
    ∃ a, heldAlias? ds.zipIdx a.name = some a ∧
      (some a.index, .problem (selfReference a))
        ∈ ((collectTypes ds.zipIdx).after {}).log.toList ∧
      Relation.ReflTransGen (aliasRefers ds) n a.name ∧
      Relation.ReflTransGen (aliasRefers ds) a.name n := by
  obtain ⟨targets, hfind, hrest, hpassed⟩ := sweeps_collectTypes ds
  rw [← refers_targetOf hfind] at hcycle ⊢
  obtain ⟨-, -, -, -, -, halias⟩ := Relation.TransGen.tail'_iff.1 hcycle
  -- an alias on a cycle is reported itself, or it is done and one that it leads to is reported
  have hreported : ∃ b, Reported targets ((collectTypes ds.zipIdx).after {}) b ∧
      Relation.ReflTransGen (TypeExpr.Refers (targetOf targets)) n b ∧
      Relation.ReflTransGen (TypeExpr.Refers (targetOf targets)) b n :=
    (hpassed n halias).elim (fun hn => hrest.ranked.exists_reported hn hcycle)
      fun hn => ⟨n, hn, .refl, .refl⟩
  obtain ⟨b, ⟨a, ha, hlog⟩, hnb, hbn⟩ := hreported
  rw [hfind] at ha
  obtain ⟨-, rfl⟩ := name_heldAlias? ha
  exact ⟨a, ha, hlog, hnb, hbn⟩

/-- **Aliases that refer to themselves are reported, and no others.**  No look-up goes deeper than
there are aliases, and the way in which names are looked up is the only one that goes on in its own
way.  An alias is said to refer to itself just when there is a cycle: those that are said to lie on
one, the report belongs to their own declaration, and each component with a cycle has one. -/
theorem selfReference_iff_cycle (m : Module) :
    let s := (collectTypes m.decls.zipIdx).after {}
    (∀ targets stop, lookUpTo targets stop (targets.length + 1) = onDemand targets) ∧
      (∀ targets find, lookUpBy targets find = find ↔ find = onDemand targets) ∧
      ((∃ e ∈ s.log.toList, e.2.IsSelfReference) ↔
        ∃ n, Relation.TransGen (aliasRefers m.decls) n n) ∧
      (∀ e ∈ s.log.toList, e.2.IsSelfReference →
        ∃ a, heldAlias? m.decls.zipIdx a.name = some a ∧
          m.decls[a.index]? = some (.alias a.span a.name a.target) ∧
          e = (some a.index, .problem (selfReference a)) ∧
          Relation.TransGen (aliasRefers m.decls) a.name a.name) ∧
      ∀ n, Relation.TransGen (aliasRefers m.decls) n n →
        ∃ a, heldAlias? m.decls.zipIdx a.name = some a ∧
          (some a.index, .problem (selfReference a)) ∈ s.log.toList ∧
          Relation.ReflTransGen (aliasRefers m.decls) n a.name ∧
          Relation.ReflTransGen (aliasRefers m.decls) a.name n := by
  intro s
  refine ⟨fun targets stop => lookUpTo_eq_onDemand (Nat.lt_succ_self _) stop,
    fun targets find => lookUpBy_eq_iff find, ⟨?_, ?_⟩,
    fun e he hself => cycle_of_selfReference m.decls he hself,
    fun n hcycle => selfReference_of_cycle m.decls hcycle⟩
  · rintro ⟨e, he, hself⟩
    obtain ⟨a, -, -, -, hcycle⟩ := cycle_of_selfReference m.decls he hself
    exact ⟨a.name, hcycle⟩
  · rintro ⟨n, hcycle⟩
    obtain ⟨a, -, hlog, -⟩ := selfReference_of_cycle m.decls hcycle
    exact ⟨_, hlog, isSelfReference_selfReference a⟩

end CoreCheck.Check

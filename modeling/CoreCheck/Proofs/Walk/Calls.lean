import CoreCheck.Proofs.Walk.Notable

/-!
# Proofs/Walk/Calls — the calls of a body, one by one

Of what a walk sees only calls use capabilities.  So what a body uses is what the calls that are
written in it use, in order, each as its target stands for something where the call is met.
-/

namespace CoreCheck.Ir

open CoreCheck.Check (CallHead)

/-! ## Calls as they are written -/

mutual

/-- The calls that are written in an expression; those in its parts come first. -/
def Expr.calls : Expr → List CallHead
  | .name _ _ | .literal _ _ | .none _ => []
  | .binary _ _ left right => left.calls ++ right.calls
  | .unary _ _ e | .member _ e _ | .wrap _ _ e | .await _ e => e.calls
  | .call span target args effect capability =>
    callsOfExprs args ++ [⟨span, target, effect, capability⟩]
  | .construct _ _ fields => callsOfInits fields
  | .list _ items => callsOfExprs items

def callsOfExprs : List Expr → List CallHead
  | [] => []
  | e :: es => e.calls ++ callsOfExprs es

def callsOfInits : List Init → List CallHead
  | [] => []
  | .mk _ _ value :: rest => value.calls ++ callsOfInits rest

end

mutual

/-- The calls that are written in a pattern. -/
def Pattern.calls : Pattern → List CallHead
  | .wildcard _ | .name _ _ | .none _ => []
  | .literal _ value => value.calls
  | .wrap _ _ inner => inner.calls
  | .ctor _ _ args => callsOfPatterns args

def callsOfPatterns : List Pattern → List CallHead
  | [] => []
  | p :: ps => p.calls ++ callsOfPatterns ps

end

mutual

/-- The calls that are written in a statement, in order. -/
def Stmt.calls : Stmt → List CallHead
  | .ret _ none | .wait _ _ => []
  | .bind _ _ _ value | .set _ _ value | .ret _ (some value) | .eval _ value
  | .start _ _ value => value.calls
  | .branch _ cond yes no => cond.calls ++ (callsOfBlock yes ++ callsOfElse no)
  | .select _ scrutinee cases => scrutinee.calls ++ callsOfCases cases
  | .scope _ body => callsOfBlock body

def callsOfBlock : List Stmt → List CallHead
  | [] => []
  | s :: ss => s.calls ++ callsOfBlock ss

def callsOfElse : Option (List Stmt) → List CallHead
  | none => []
  | some body => callsOfBlock body

def callsOfCases : List Case → List CallHead
  | [] => []
  | .mk _ p body :: rest => p.calls ++ (callsOfBlock body ++ callsOfCases rest)

end

/-- **The calls that are written in a function**, in the order in which they are met. -/
def Func.calls (f : Func) : List CallHead := callsOfBlock f.body

end CoreCheck.Ir

namespace CoreCheck.Check

open CoreCheck.Types CoreCheck.Scope CoreCheck.Ir

namespace Task

/-- The calls that are written in a task. -/
def calls : Task → List CallHead
  | .expr e => e.calls
  | .exprs _ es | .items _ _ _ es => callsOfExprs es
  | .inits _ _ _ _ is => callsOfInits is
  | .pattern _ _ _ p => p.calls
  | .args _ _ _ ps => callsOfPatterns ps
  | .stmt _ st => st.calls
  | .block _ ss => callsOfBlock ss
  | .cases _ _ _ cs => callsOfCases cs
  | .body f _ => f.calls

/-- The call that a task is, if it is one. -/
def call? : Task → Option CallHead
  | .expr (.call span target _ effect capability) => some ⟨span, target, effect, capability⟩
  | _ => none

/-- A pattern without parts has no calls, whatever it is taken for. -/
theorem calls_ofPattern (outer : Span) (type : TypeId) (taint : Option Taint) (s : State)
    (p : Pattern) : p.calls = (ofPattern outer type taint s p).flatMap (·.1.calls) := by
  cases p with
  | ctor at_ name ps =>
    rw [ofPattern, Pattern.calls, value_takenBy]
    cases s.aliases.resolve? name with
    | none =>
      dsimp only
      split
      · next h =>
        split at h
        · next hv =>
          simp only [Bool.and_eq_true, decide_eq_true_eq, List.length_eq_zero_iff] at hv
          rw [hv.2]
          rfl
        · cases h
      · simp [calls]
      · simp [calls]
    | some id =>
      dsimp only
      cases s.types.dataInfo? id <;> simp [calls]
  | _ => simp [ofPattern, Pattern.calls, calls]

/-- **The calls of a task are those of its parts**, and then its own. -/
theorem calls_eq (s : State) (t : Task) :
    t.calls = (t.parts s).flatMap (·.1.calls) ++ t.call?.toList := by
  cases t with
  | expr e => cases e <;> simp [calls, parts, ofExpr, call?, Expr.calls]
  | exprs outer es => cases es <;> simp [calls, parts, call?, callsOfExprs]
  | items outer elem taint es => cases es <;> simp [calls, parts, call?, callsOfExprs]
  | inits outer info seen taint is =>
    cases is with
    | nil => simp [calls, parts, call?, callsOfInits]
    | cons i rest =>
      obtain ⟨span, name, value⟩ := i
      simp [calls, parts, call?, callsOfInits]
  | pattern outer type taint p =>
    exact (calls_ofPattern outer type taint s p).trans (List.append_nil _).symm
  | args outer taint fields ps => cases ps <;> simp [calls, parts, call?, callsOfPatterns]
  | stmt fn st =>
    cases st with
    | ret span value => cases value <;> simp [calls, parts, ofStmt, ofValue, call?, Stmt.calls]
    | branch span cond yes no =>
      cases no <;> simp [calls, parts, ofStmt, ofElse, call?, Stmt.calls, callsOfElse]
    | _ => simp [calls, parts, ofStmt, ofValue, call?, Stmt.calls]
  | block fn ss => cases ss <;> simp [calls, parts, call?, callsOfBlock]
  | cases fn outer v cs =>
    cases cs with
    | nil => simp [calls, parts, ofCases, call?, callsOfCases]
    | cons c rest =>
      obtain ⟨span, p, ss⟩ := c
      simp [calls, parts, ofCases, call?, callsOfCases]
  | body f sig => simp [calls, parts, call?, Func.calls]

end Task

/-! ## Calls as they are met -/

/-- **The calls that a task meets**, in order, each with the state in which its target is looked up. -/
def callsMet (x : Start) : List (CallHead × State) := gather (fun y => y.1.call?.map (·, y.2)) x

/-- **The calls that a task meets are those that are written in it.** -/
theorem fst_callsMet (x : Start) : (callsMet x).map (·.1) = x.1.calls := by
  induction x using Task.induct with
  | h x ih =>
    rw [callsMet, gather_eq, List.map_append, List.map_flatMap, Task.calls_eq x.2]
    refine congrArg₂ (· ++ ·) (List.flatMap_congr ih) ?_
    cases x.1.call? <;> rfl

theorem Task.call?_eq_some {t : Task} {c : CallHead} : t.call? = some c ↔
    ∃ args, t = .expr (.call c.span c.target args c.effect c.capability) := by
  constructor
  · intro h
    unfold call? at h
    split at h
    · obtain rfl := Option.some.inj h
      exact ⟨_, rfl⟩
    · exact nomatch h
  · rintro ⟨args, rfl⟩
    rfl

/-- **A call is met where some task reaches it.** -/
theorem mem_callsMet {x : Start} {c : CallHead} {s : State} : (c, s) ∈ callsMet x ↔
    ∃ args, Reaches x (.expr (.call c.span c.target args c.effect c.capability), s) := by
  rw [callsMet, mem_gather]
  constructor
  · rintro ⟨y, hy, hc⟩
    obtain ⟨c', hc', he⟩ := Option.map_eq_some_iff.1 hc
    obtain ⟨rfl, rfl⟩ := Prod.mk.inj he
    obtain ⟨args, ht⟩ := Task.call?_eq_some.1 hc'
    exact ⟨args, ht ▸ hy⟩
  · rintro ⟨args, h⟩
    exact ⟨_, h, rfl⟩

/-! ## What calls use -/

/-- **The use of a capability**, with the place and the target of the call. -/
structure Use where
  span : Span
  target : String
  capability : Capability

/-- The use of a capability that was seen, if one was. -/
def Observation.use? : Observation → Option Use
  | .call site => site.capability.map (⟨site.span, site.target, ·⟩)
  | _ => none

/-- The capability that a call uses, given what it calls. -/
def Callee.capability (c : CallHead) : Callee → Option Capability
  | .value _ _ => c.capability
  | .external => c.external.2
  | _ => none

/-- **The capability that a call uses** where it is met. -/
def CallHead.used (c : CallHead) (s : State) : Option Capability :=
  ((callee c).value s).capability c

/-- The use of a capability by a call. -/
def CallHead.use (c : CallHead) (k : Capability) : Use := ⟨c.span, c.target, k⟩

/-- The use of a capability by a call that is met. -/
def useMet (y : CallHead × State) : Option Use := (y.1.used y.2).map y.1.use

/-- **What a call uses** is the capability of what it calls. -/
theorem use?_sight (c : CallHead) (taint : Option Taint) (callee : Callee) :
    (callee.sight c taint).bind Observation.use? = (callee.capability c).map c.use := by
  cases callee <;> rfl

/-- A task itself uses a capability if it is a call. -/
theorem Task.use?_sight (x : Start) :
    (sight x).bind Observation.use? = (x.1.call?.map (·, x.2)).bind useMet := by
  obtain ⟨t, s⟩ := x
  cases t with
  | expr e =>
    cases e with
    | call span target es effect capability => exact Check.use?_sight _ _ _
    | _ => rfl
  | stmt fn st => cases st <;> rfl
  | body f sig =>
    -- a missing return uses nothing
    change ((missingReturn? f sig.result _ _).map Observation.problem).bind _ = none
    cases missingReturn? f sig.result _ _ <;> rfl
  | _ => rfl

end CoreCheck.Check

import CoreCheck.Proofs.Document.Read
import CoreCheck.Proofs.Levels.Written

/-!
# Proofs/Levels/Read — modules that were read name their levels

A document gives a level by its name or its number, and only the three levels that have one are
accepted.  So whatever document a module is read from, all levels that are written in it have a
name: the form of the document says so at each sensitive type, and the syntax is gone through once to
collect them.
-/

namespace CoreCheck.Ir

open CoreCheck.Document (Value)
open Form

/-- **Only levels that have a name are written in a module.** -/
def Module.NamesLevels (m : Module) : Prop := ∀ l ∈ m.levels, l.Named

mutual

theorem named_type : ∀ (t : TypeExpr) {v : Value}, IsType v t → ∀ l ∈ t.levels, l.Named
  | .name _ _, _, _, _, hl => nomatch hl
  | .var _ _, _, _, _, hl => nomatch hl
  | .optional _ t, _, .optional _ (.given _ ht), l, hl => named_type t ht l hl
  | .list _ t, _, .list _ (.given _ ht), l, hl => named_type t ht l hl
  | .map _ k t, _, .map _ (.given _ hk) (.given _ ht), l, hl =>
    (List.mem_append.1 hl).elim (named_type k hk l) (named_type t ht l)
  | .result _ t u, _, .result _ (.given _ ht) (.given _ hu), l, hl =>
    (List.mem_append.1 hl).elim (named_type t ht l) (named_type u hu l)
  | .func _ ps ret, _, .func _ hps hret, l, hl =>
    (List.mem_append.1 hl).elim (named_types ps hps.exists_of_mem l)
      (named_result ret hret.exists_of_mem l)
  | .pii _ t _ _, _, .pii _ (.given _ ht) hlevel _, _, hl => by
    obtain rfl | hl := List.mem_cons.1 hl
    · exact hlevel
    · exact named_type t ht _ hl

theorem named_types : ∀ ts : List TypeExpr, (∀ t ∈ ts, ∃ v, IsType v t) →
    ∀ l ∈ levelsOfTypes ts, l.Named
  | [], _, _, hl => nomatch hl
  | t :: ts, h, l, hl => by
    obtain ⟨v, ht⟩ := h t (.head _)
    obtain hl | hl := List.mem_append.1 hl
    · exact named_type t ht l hl
    · exact named_types ts (fun t ht => h t (.tail _ ht)) l hl

theorem named_result : ∀ t : Option TypeExpr, (∀ x ∈ t, ∃ v, IsType v x) →
    ∀ l ∈ levelsOfResult t, l.Named
  | none, _, _, hl => nomatch hl
  | some t, h, l, hl => by
    obtain ⟨v, ht⟩ := h t rfl
    exact named_type t ht l hl

end

mutual

theorem named_stmt : ∀ (s : Stmt) {v : Value}, IsStmt v s → ∀ l ∈ s.levels, l.Named
  | .bind _ _ t _, _, .bind _ _ ht _, l, hl => named_result t ht.exists_of_mem l hl
  | .branch _ _ yes no, _, .branch _ _ (.given _ hyes) hno, l, hl =>
    (List.mem_append.1 hl).elim (named_block yes hyes.exists_of_mem l)
      (named_else no hno.exists_of_mem l)
  | .select _ _ cs, _, .select _ _ (.given _ hcs), l, hl => named_cases cs hcs.exists_of_mem l hl
  | .scope _ body, _, .scope _ _ (.given _ hbody), l, hl =>
    named_block body hbody.exists_of_mem l hl
  | .set _ _ _, _, _, _, hl | .ret _ _, _, _, _, hl | .eval _ _, _, _, _, hl
  | .start _ _ _, _, _, _, hl | .wait _ _, _, _, _, hl => nomatch hl

theorem named_block : ∀ ss : List Stmt, (∀ s ∈ ss, ∃ v, IsStmt v s) →
    ∀ l ∈ levelsOfBlock ss, l.Named
  | [], _, _, hl => nomatch hl
  | s :: ss, h, l, hl => by
    obtain ⟨v, hs⟩ := h s (.head _)
    obtain hl | hl := List.mem_append.1 hl
    · exact named_stmt s hs l hl
    · exact named_block ss (fun s hs => h s (.tail _ hs)) l hl

theorem named_else : ∀ no : Option (List Stmt), (∀ ss ∈ no, ∃ v, IsBlock v ss) →
    ∀ l ∈ levelsOfElse no, l.Named
  | none, _, _, hl => nomatch hl
  | some body, h, l, hl => by
    obtain ⟨v, hbody⟩ := h body rfl
    exact named_block body hbody.exists_of_mem l hl

theorem named_cases : ∀ cs : List Case, (∀ c ∈ cs, ∃ v, IsCase v c) →
    ∀ l ∈ levelsOfCases cs, l.Named
  | [], _, _, hl => nomatch hl
  | .mk s q body :: cs, h, l, hl => by
    obtain ⟨v, hc⟩ := h (.mk s q body) (.head _)
    obtain hl | hl := List.mem_append.1 hl
    · obtain ⟨-, -, ⟨-, hbody⟩⟩ := hc
      exact named_block body hbody.exists_of_mem l hl
    · exact named_cases cs (fun c hc => h c (.tail _ hc)) l hl

end

theorem named_names {ns : List TypedName} (h : ∀ n ∈ ns, ∃ v, IsTypedName v n) :
    ∀ l ∈ levelsOfNames ns, l.Named := by
  intro l hl
  obtain ⟨n, hn, hl⟩ := List.mem_flatMap.1 hl
  obtain ⟨v, ⟨-, -, ⟨-, ht⟩⟩⟩ := h n hn
  exact named_type _ ht l hl

theorem named_decl {d : Decl} {v : Value} (h : IsDecl v d) : ∀ l ∈ d.levels, l.Named := by
  intro l hl
  cases h with
  | func _ _ hf =>
    obtain ⟨-, hbody⟩ := hf.body
    obtain hl | hl := List.mem_append.1 hl
    · exact (List.mem_append.1 hl).elim (named_names hf.params.exists_of_mem l)
        (named_result _ hf.ret.exists_of_mem l)
    · exact named_block _ hbody.exists_of_mem l hl
  | data _ _ hfs => exact named_names hfs.exists_of_mem l hl
  | aliased _ _ _ ht =>
    obtain ⟨-, ht⟩ := ht
    exact named_type _ ht l hl
  | enum | imported => exact nomatch hl

/-- **A module that was read from a document names its levels.** -/
theorem namesLevels_of_ofDocument {source : String} {v : Value} {m : Module}
    (h : Module.ofDocument source v = .ok m) : m.NamesLevels := by
  intro l hl
  obtain ⟨-, -, -, ⟨-, hds⟩⟩ := gives_ofDocument source v m h
  obtain ⟨d, hd, hl⟩ := List.mem_flatMap.1 hl
  obtain ⟨w, hw⟩ := hds.exists_of_mem d hd
  exact named_decl hw l hl

end CoreCheck.Ir

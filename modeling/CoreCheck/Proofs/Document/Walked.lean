import CoreCheck.Proofs.Document.Follows
import CoreCheck.Proofs.Document.Refusal

/-!
# Proofs/Document/Walked — one walk refuses what the readings refuse

Every value is followed in each position, by induction over the document, and so is every declaration
and the module itself.  One walk from the root therefore gives what the reading gives (`decoded_eq`),
every call of the decoder leaves the stack as it found it (`stack_run`), and the path of a refusal leads
to its fault (`refusals_lead_to_faults`).
-/

namespace CoreCheck.Ir

open CoreCheck.Document (Value Step pathText)

/-! ## Documents -/

theorem followed_object {o : List (String × Value)} (h : InnerFollowed o) :
    Followed (.object o) where
  type _ := by rw [decoding, reading]; exact h.type
  expr _ := by rw [decoding, reading]; exact h.expr
  pattern _ := by rw [decoding, reading]; exact h.pattern
  stmt _ := by rw [decoding, reading]; exact h.stmt
  block _ := by rw [decoding, reading]; exact h.block
  typedName _ := by rw [decoding, reading]; exact h.typedName
  init _ := by rw [decoding, reading]; exact h.init
  case _ := by rw [decoding, reading]; exact h.case

theorem followed_other {v : Value} {kind : String} (hwalk : decoding v = .ofOther kind)
    (hread : reading v = .ofOther kind) : Followed v := by
  constructor <;>
    · intro p
      rw [hwalk, hread]
      exact .refuse _

theorem followed_text (s : String) : Followed (.text s) where
  type _ := by
    rw [decoding, reading, Decoding.ofText, Reading.ofText]
    dsimp only
    split
    · exact .refuse _
    · exact .pure _
  expr _ := by rw [decoding, reading]; exact .refuse _
  pattern _ := by rw [decoding, reading]; exact .refuse _
  stmt _ := by rw [decoding, reading]; exact .refuse _
  block _ := by rw [decoding, reading]; exact .refuse _
  typedName _ := by rw [decoding, reading]; exact .refuse _
  init _ := by rw [decoding, reading]; exact .refuse _
  case _ := by rw [decoding, reading]; exact .refuse _

theorem followed_array {vs : List Value} (h : ∀ v ∈ vs, Followed v) : Followed (.array vs) where
  type _ := by rw [decoding, reading]; exact .refuse _
  expr _ := by rw [decoding, reading]; exact .refuse _
  pattern _ := by rw [decoding, reading]; exact .refuse _
  stmt _ := by rw [decoding, reading]; exact .refuse _
  block p := by
    rw [decoding, reading]
    exact follows_eachItem true (below_index p) vs 0 fun v hv => (h v hv).stmt
  typedName _ := by rw [decoding, reading]; exact .refuse _
  init _ := by rw [decoding, reading]; exact .refuse _
  case _ := by rw [decoding, reading]; exact .refuse _

/-- **Every value is followed**, in each position. -/
theorem followed : ∀ v : Value, Followed v
  | .object _ => followed_object fun v _ => followed v
  | .array _ => followed_array fun v _ => followed v
  | .text s => followed_text s
  | .null => followed_other (by rw [decoding]) (by rw [reading])
  | .bool _ => followed_other (by rw [decoding]) (by rw [reading])
  | .number _ => followed_other (by rw [decoding]) (by rw [reading])
  | .bytes _ => followed_other (by rw [decoding]) (by rw [reading])
  | .instant _ => followed_other (by rw [decoding]) (by rw [reading])
termination_by v => sizeOf v
decreasing_by
  · assumption
  · decreasing_tactic

/-! ## Declarations -/

section Declarations

variable {o : List (String × Value)} {p : Place}

theorem innerFollowed : InnerFollowed o := fun v _ => followed v

theorem follows_declaredEffect :
    Follows p (entries o).declaredEffect ((readFields o).declaredEffect p) := by
  refine .bind (follows_texts? _) fun labels => .bind (follows_text? _) fun single => ?_
  cases Effect.ofLabels (labels.getD [] ++ single.toList) with
  | ok e => exact .pure _
  | error cause => exact .refuse _

theorem follows_capabilities : ∀ (labels : List String) (i : Nat),
    Follows p (Entries.capabilities i labels)
      (Fields.readCapabilities (p.key "capabilities") i labels)
  | [], _ => .pure []
  | l :: ls, i => by
    rw [Entries.capabilities, Fields.readCapabilities]
    cases Capability.parse l with
    | error cause => exact .inside (below_item p "capabilities" i ▸ .refuse _)
    | ok c => exact .bind (follows_capabilities ls (i + 1)) fun _ => .pure _

theorem follows_declaredCapabilities :
    Follows p (entries o).declaredCapabilities ((readFields o).declaredCapabilities p) := by
  refine .bind (follows_texts? _) fun found => ?_
  cases found with
  | none => exact .pure none
  | some labels => exact .bind (follows_capabilities labels 0) fun _ => .pure _

theorem follows_func (s : Span) : Follows p ((entries o).func s) ((readFields o).func p s) :=
  .bind (follows_name _) fun _ => .bind (follows_texts? _) fun _ =>
    .bind (innerFollowed.each _ fun _ hv => hv.typedName) fun _ =>
      .bind (innerFollowed.part? _ fun _ hv => hv.type) fun _ =>
        .bind follows_declaredEffect fun _ => .bind follows_declaredCapabilities fun _ =>
          .bind (innerFollowed.blockPart _) fun _ => .pure _

theorem follows_decl : Follows p (entries o).decl ((readFields o).decl p) := by
  unfold Entries.decl Fields.decl
  refine .bind (follows_text _) fun kind => .bind follows_span fun s => ?_
  split
  · exact .bind (follows_func s) fun _ => .pure _
  · exact .bind (follows_func s) fun _ => .pure _
  · exact .bind (follows_func s) fun _ => .pure _
  · exact .bind (follows_name _) fun _ =>
      .bind (innerFollowed.each _ fun _ hv => hv.typedName) fun _ => .pure _
  · exact .bind (follows_name _) fun _ => .bind (follows_texts? _) fun _ => .pure _
  · exact .bind (follows_name _) fun _ => .bind (innerFollowed.typePart _) fun _ => .pure _
  · exact .bind (follows_name _) fun _ => .bind (innerFollowed.typePart _) fun _ => .pure _
  · exact .bind (follows_name _) fun _ => .pure _
  · simp only [Follows.refuse]

end Declarations

theorem follows_readDecl {p : Place} (v : Value) : Follows p (Decode.decl v) (readDecl v p) := by
  cases v with
  | object o => exact follows_decl
  | null | bool | number | text | bytes | instant | array => exact .refuse_bind _ (.pure default)

theorem follows_readDecls {p : Place} (key : String) : ∀ (vs : List Value) (i : Nat),
    Follows p (Decode.eachItem true (.item key) i (vs.map Decode.decl)) (readDecls (p.key key) i vs)
  | [], _ => .pure []
  | v :: vs, i => by
    rw [List.map_cons, Decode.eachItem, readDecls]
    refine .bind (.inside (below_item p key i ▸ follows_readDecl v)) fun d => .unlessRefused ?_
    exact .bind (follows_readDecls key vs (i + 1)) fun _ => .pure _

/-! ## Modules -/

/-- The document of an object of the supported version. -/
theorem follows_supported {α : Type} [Inhabited α] {o : List (String × Value)} {p : Place}
    {x : Decode α} {y : Except ContractError α} (h : Follows p x y) :
    Follows p (do if ← (entries o).supported then x else return default)
      (checkVersion (readFields o) p >>= fun _ => y) := by
  rw [Entries.supported, checkVersion, get?_entries, Form.get?_readFields]
  cases plainField? o "version" with
  | none => exact h
  | some v =>
    cases v with
    | number n =>
      simp only [Option.map_some]
      by_cases hversion : n.toInt? = some (supportedVersion : Int)
      · have hwhole : wholeOf? (.number n) = some (supportedVersion : Int) := hversion
        rw [if_pos hversion, if_pos hwhole]
        exact h
      · have hwhole : wholeOf? (.number n) ≠ some (supportedVersion : Int) := hversion
        rw [if_neg hversion, if_neg hwhole]
        exact .refuse_bind _ (.pure default)
    | null | bool | text | bytes | instant | array | object =>
      exact .refuse_bind _ (.pure default)

/-- The module of a document that is read at a place of its own. -/
def readModule (v : Value) (p : Place) : Except ContractError Module :=
  match v with
  | .object fields => do
    let o := readFields fields
    checkVersion o p
    let name ← o.name p "name"
    match ← o.list? p (declsKey o) with
    | none => p.fail (.missing (declsKey o))
    | some (items, _) =>
      let decls ← readDecls (p.key (declsKey o)) 0 items
      return ⟨supportedVersion, name, p.source, decls⟩
  | v => p.fail (.notObject v.kindName)

theorem ofDocument_eq_readModule (source : String) (v : Value) :
    Module.ofDocument source v = readModule v { source } := by
  cases v <;> rfl

theorem follows_module {p : Place} (v : Value) : Follows p (Decode.module v) (readModule v p) := by
  cases v with
  | object o =>
    refine follows_supported (.bind (follows_name _) fun name => ?_)
    have hend : ∀ decls, Follows p
        (do
          let d ← get
          return (⟨supportedVersion, name, d.source, decls⟩ : Module))
        (.ok ⟨supportedVersion, name, p.source, decls⟩) := by
      refine fun decls => .source fun d hd => ?_
      rw [hd]
      exact .pure _
    dsimp only
    rw [← declsKey_readFields]
    generalize declsKey (readFields o) = key
    exact follows_list_bind key true (hend []) rfl fun vs _ => .bind (follows_readDecls key vs 0) hend
  | null | bool | number | text | bytes | instant | array => exact .refuse_bind _ (.pure default)

/-- **One walk from the root gives what the reading gives**, the module or the refusal. -/
theorem decoded_eq (source : String) (v : Value) : decoded source v = Module.ofDocument source v := by
  have hfollows : Follows { source } (Decode.module v) (readModule v { source }) := follows_module v
  rw [decoded, ofDocument_eq_readModule]
  cases h : readModule v { source } with
  | ok m => rw [hfollows.reads { source } m rfl rfl h]
  | error e =>
    rw [hfollows.refuses { source } e rfl rfl h]

/-! ## Calls -/

/-- **A call of the decoder**, with what it is handed. -/
inductive Call where
  | fail (violation : Violation)
  | object (v : Value)
  | text (o : List (String × Value)) (key : String)
  | text? (o : List (String × Value)) (key : String)
  | name (o : List (String × Value)) (key : String)
  | list (o : List (String × Value)) (key : String) (required : Bool)
  | texts? (o : List (String × Value)) (key : String)
  | span (o : List (String × Value))
  | position (o : List (String × Value)) (key : String)
  | coord (o : List (String × Value)) (key : String)
  | module (v : Value)
  | decl (v : Value)
  | func (o : List (String × Value)) (s : Span)
  | block (v : Value)
  | blockPart (o : List (String × Value)) (key : String)
  | blockPart? (o : List (String × Value)) (key : String)
  | stmt (v : Value)
  | exprPart (o : List (String × Value)) (key : String)
  | exprs (o : List (String × Value)) (key : String)
  | expr (v : Value)
  | literal (o : List (String × Value)) (kind : String)
  | call (o : List (String × Value)) (s : Span)
  | patternPart (o : List (String × Value)) (key : String)
  | pattern (v : Value)
  | typePart (o : List (String × Value)) (key : String)
  | type (v : Value)
  | level (o : List (String × Value))

/-- The state after a call. -/
def Call.run : Call → Decoder → Decoder
  | .fail violation, d => (Decode.fail violation d).2
  | .object v, d => (decodeObject v d).2
  | .text o key, d => ((entries o).text key d).2
  | .text? o key, d => ((entries o).text? key d).2
  | .name o key, d => ((entries o).name key d).2
  | .list o key required, d => ((entries o).list key required d).2
  | .texts? o key, d => ((entries o).texts? key d).2
  | .span o, d => ((entries o).span d).2
  | .position o key, d => (Decode.position o key d).2
  | .coord o key, d => (Decode.coord o key d).2
  | .module v, d => (Decode.module v d).2
  | .decl v, d => (Decode.decl v d).2
  | .func o s, d => ((entries o).func s d).2
  | .block v, d => ((decoding v).block d).2
  | .blockPart o key, d => ((entries o).part key (·.block) d).2
  | .blockPart? o key, d => ((entries o).part? key (·.block) d).2
  | .stmt v, d => ((decoding v).stmt d).2
  | .exprPart o key, d => ((entries o).part key (·.expr) d).2
  | .exprs o key, d => ((entries o).each key (·.expr) d).2
  | .expr v, d => ((decoding v).expr d).2
  | .literal o kind, d => ((entries o).literal kind d).2
  | .call o s, d => ((entries o).call s d).2
  | .patternPart o key, d => ((entries o).part key (·.pattern) d).2
  | .pattern v, d => ((decoding v).pattern d).2
  | .typePart o key, d => ((entries o).part key (·.type) d).2
  | .type v, d => ((decoding v).type d).2
  | .level o, d => ((entries o).level d).2

/-- **After a call the stack is as it was before**, whether the call fails or not. -/
theorem stack_run (c : Call) (d : Decoder) : (c.run d).stack = d.stack := by
  cases c with
  | fail violation => exact (Follows.refuse (α := Unit) violation).stack_eq rfl
  | object v =>
    cases v with
    | object o => rfl
    | null | bool | number | text | bytes | instant | array =>
      exact (Follows.refuse _).stack_eq rfl
  | text o key => exact (follows_text key).stack_eq rfl
  | text? o key => exact (follows_text? key).stack_eq rfl
  | name o key => exact (follows_name key).stack_eq rfl
  | list o key required => exact (follows_list key required).stack_eq rfl
  | texts? o key => exact (follows_texts? key).stack_eq rfl
  | span o => exact follows_span.stack_eq rfl
  | position o key => exact (follows_position o key).stack_eq rfl
  | coord o key => exact (follows_coord o key).stack_eq rfl
  | module v => exact (follows_module v).stack_eq rfl
  | decl v => exact (follows_readDecl v).stack_eq rfl
  | func o s => exact (follows_func s).stack_eq rfl
  | block v => exact ((followed v).block _).stack_eq rfl
  | blockPart o key => exact (innerFollowed.blockPart key).stack_eq rfl
  | blockPart? o key => exact (innerFollowed.part? key fun _ hv => hv.block).stack_eq rfl
  | stmt v => exact ((followed v).stmt _).stack_eq rfl
  | exprPart o key => exact (innerFollowed.exprPart key).stack_eq rfl
  | exprs o key => exact (innerFollowed.exprs key).stack_eq rfl
  | expr v => exact ((followed v).expr _).stack_eq rfl
  | literal o kind => exact (follows_literal kind).stack_eq rfl
  | call o s => exact (innerFollowed.call s).stack_eq rfl
  | patternPart o key => exact (innerFollowed.patternPart key).stack_eq rfl
  | pattern v => exact ((followed v).pattern _).stack_eq rfl
  | typePart o key => exact (innerFollowed.typePart key).stack_eq rfl
  | type v => exact ((followed v).type _).stack_eq rfl
  | level o => exact follows_level.stack_eq rfl

/-- **Refusals lead to faults.** The text of a refusal's path names steps that can be followed from
the root of the document, and what it reports is the case there.  One walk with a stack of segments
finds the same refusal, and each of its calls leaves the stack as it found it. -/
theorem refusals_lead_to_faults :
    (∀ (source : String) (v : Value) (e : ContractError), Module.ofDocument source v = .error e →
      ∃ steps node, readPath (pathText e.path) = some steps ∧ reach? v steps = some node ∧
        Violates e.violation node) ∧
    (∀ (source : String) (v : Value), decoded source v = Module.ofDocument source v) ∧
    ∀ (c : Call) (d : Decoder), (c.run d).stack = d.stack := by
  refine ⟨fun source v e h => ?_, decoded_eq, stack_run⟩
  obtain ⟨-, ⟨node, hnode, hviolates⟩, hparts⟩ := fault_of_ofDocument h
  exact ⟨e.path, node, readPath_pathText hparts, hnode, hviolates⟩

/-- A function that gives back a name that is blank, inside a match. -/
def givesBlank : Value :=
  .object [("name", .text "m"), ("decls", .array [.object [
    ("kind", .text "func"), ("name", .text "f"), ("body", .object [("statements", .array [.object [
      ("kind", .text "match"), ("expr", .object [("kind", .text "name"), ("name", .text "x")]),
      ("cases", .array [.object [("pattern", .object [("kind", .text "wildcard")]),
        ("body", .array [.object [("kind", .text "return"),
          ("expr", .object [("kind", .text "name"), ("name", .text " ")])]])]])]])])]])]

/-- The way to the blank name. -/
def toBlank : List Step :=
  [.key "decls", .index 0, .key "body", .key "statements", .index 0, .key "cases", .index 0,
    .key "body", .index 0, .key "expr"]

/-- **The refusal of a blank name leads to the node that has it.** -/
theorem refusals_lead_to_faults_givesBlank :
    Module.ofDocument "" givesBlank = .error ⟨"", toBlank, .blankName "name"⟩ ∧
      pathText toBlank = "decls[0].body.statements[0].cases[0].body[0].expr" ∧
      ∃ steps node, readPath (pathText toBlank) = some steps ∧
        reach? givesBlank steps = some node ∧ Violates (.blankName "name") node := by
  have hrefused : Module.ofDocument "" givesBlank = .error ⟨"", toBlank, .blankName "name"⟩ := rfl
  exact ⟨hrefused, rfl, refusals_lead_to_faults.1 "" givesBlank _ hrefused⟩

end CoreCheck.Ir

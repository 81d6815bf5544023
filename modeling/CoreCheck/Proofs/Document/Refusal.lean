import CoreCheck.Proofs.Document.Fault
import CoreCheck.Proofs.Document.Read

/-!
# Proofs/Document/Refusal — a document is refused at a fault of its own

The readers of a node only ask for parts of the same object, each at its own step, so `Located` passes
from the parts of a value to the value: the path of a refusal leads from the place of the reading to a
value that has the fault (`fault_of_ofDocument`).  Apart from that path the place of a reading does not
matter.
-/

namespace CoreCheck.Ir

open CoreCheck.Document (Value Number Step)

/-! ## Parts of one object -/

section Parts

variable {α : Type} {o : List (String × Value)} {read : Reading → Read α}

theorem located_text (key : String) : Located (.object o) ((readFields o).text · key) := by
  intro source a b
  simp only [Fields.text, Form.get?_readFields]
  cases h : plainField? o key with
  | none => exact .fail (.missing h)
  | some v =>
    cases v with
    | text s => exact .pure s
    | null | bool | number | bytes | instant | array | object => exact .fail (.notText h (by simp))

theorem located_text? (key : String) : Located (.object o) ((readFields o).text? · key) := by
  intro source a b
  simp only [Fields.text?, Form.get?_readFields]
  cases h : plainField? o key with
  | none => exact .pure none
  | some v =>
    cases v with
    | text s => exact .pure (some s)
    | null | bool | number | bytes | instant | array | object => exact .fail (.notText h (by simp))

theorem located_name (key : String) : Located (.object o) ((readFields o).name · key) := by
  intro source a b
  refine .bind (located_text key _ _ _) fun s hs => ?_
  split
  · next hblank => exact .fail (.blankName (Form.gives_text _ _ _ hs) hblank)
  · exact .pure s

theorem located_list? (key : String) : Located (.object o) ((readFields o).list? · key) := by
  intro source a b
  simp only [Fields.list?, Form.get?_readFields]
  cases h : plainField? o key with
  | none => exact .pure none
  | some v =>
    cases v with
    | array vs => exact .pure _
    | null | bool | number | bytes | instant | text | object => exact .fail (.notArray h (by simp))

theorem located_part {key : String} (hpart : key ∈ partKeys)
    (h : ∀ v, plainField? o key = some v → Located v (read (reading v))) :
    Located (.object o) ((readFields o).part · key read) := by
  intro source a b
  simp only [Fields.part, Form.get?_readFields]
  cases hv : plainField? o key with
  | none => exact .fail (.missing hv)
  | some v => exact .key hv hpart (h v hv _ _ _)

theorem located_part? {key : String} (hpart : key ∈ partKeys)
    (h : ∀ v, plainField? o key = some v → Located v (read (reading v))) :
    Located (.object o) ((readFields o).part? · key read) := by
  intro source a b
  simp only [Fields.part?, Form.get?_readFields]
  cases hv : plainField? o key with
  | none => exact .pure none
  | some v => exact .key hv hpart (.bind (h v hv _ _ _) fun x _ => .pure (some x))

/-- What is left of a list from an index on tells its item there and what is left after it. -/
theorem getElem?_of_drop_eq {l rest : List α} {i : Nat} {x : α} (h : l.drop i = x :: rest) :
    l[i]? = some x ∧ l.drop (i + 1) = rest := by
  constructor
  · rw [← List.head?_drop, h, List.head?_cons]
  · rw [← List.tail_drop, h, List.tail_cons]

/-- **Items point at their faults**, each behind its index. -/
theorem located_readItems (all : List Value) : ∀ (vs : List Value) (i : Nat), all.drop i = vs →
    (∀ v ∈ vs, Located v (read (reading v))) →
      Located (.array all) fun p => Fields.readItems read p i (readValues vs)
  | [], _, _, _ => fun _ _ _ => .pure []
  | v :: vs, i, hall, hvs => by
    obtain ⟨hitem, hnext⟩ := getElem?_of_drop_eq hall
    intro source a b
    simp only [readValues, Fields.readItems]
    exact .bind (.index hitem (hvs v (.head _) _ _ _)) fun _ _ =>
      .bind (located_readItems all vs (i + 1) hnext (fun w hw => hvs w (.tail _ hw)) _ _ _)
        fun _ _ => .pure _

theorem located_each {key : String} (hpart : key ∈ partKeys)
    (h : ∀ vs, plainField? o key = some (.array vs) → ∀ v ∈ vs, Located v (read (reading v))) :
    Located (.object o) ((readFields o).each · key read) := by
  intro source a b
  refine .bind (located_list? key _ _ _) fun found hfound => ?_
  obtain ⟨rfl, -⟩ | ⟨vs, rfl, hkey⟩ := Form.gives_list? _ _ _ hfound
  · exact .pure []
  · exact .key hkey hpart (located_readItems vs vs 0 rfl (h vs hkey) _ _ _)

theorem located_eachRequired {key : String} (hpart : key ∈ partKeys)
    (h : ∀ vs, plainField? o key = some (.array vs) → ∀ v ∈ vs, Located v (read (reading v))) :
    Located (.object o) ((readFields o).eachRequired · key read) := by
  intro source a b
  refine .bind (located_list? key _ _ _) fun found hfound => ?_
  obtain ⟨rfl, hkey⟩ | ⟨vs, rfl, hkey⟩ := Form.gives_list? _ _ _ hfound
  · exact .fail (.missing hkey)
  · exact .key hkey hpart (located_readItems vs vs 0 rfl (h vs hkey) _ _ _)

theorem located_textItems (all : List Value) : ∀ (vs : List Value) (i : Nat), all.drop i = vs →
    Located (.array all) (Fields.textItems · i vs)
  | [], _, _ => fun _ _ _ => .pure []
  | v :: vs, i, hall => by
    obtain ⟨hitem, hnext⟩ := getElem?_of_drop_eq hall
    intro source a b
    cases v with
    | text s => exact .bind (located_textItems all vs (i + 1) hnext _ _ _) fun _ _ => .pure _
    | null | bool | number | bytes | instant | array | object =>
      exact .index hitem (.fail (.itemNotText (by simp)))

theorem located_texts? (key : String) (hpart : key ∈ partKeys) :
    Located (.object o) ((readFields o).texts? · key) := by
  intro source a b
  refine .bind (located_list? key _ _ _) fun found hfound => ?_
  obtain ⟨rfl, -⟩ | ⟨vs, rfl, hkey⟩ := Form.gives_list? _ _ _ hfound
  · exact .pure none
  · exact .bind (.key hkey hpart (located_textItems vs vs 0 rfl _ _ _)) fun _ _ => .pure _

end Parts

/-! ## Spans, literals and tags -/

theorem located_readCoord (o : List (String × Value)) (key : String) :
    Located (.object o) (readCoord o · key) := by
  intro source a b
  simp only [readCoord]
  cases hv : plainField? o key with
  | none => exact .pure 0
  | some v =>
    cases v with
    | number n =>
      dsimp only
      cases hi : n.toInt? with
      | none => exact .fail (.notInteger hv hi)
      | some i =>
        dsimp only
        split
        · exact .pure _
        · next hrange => exact .fail (.outOfRange hv hi hrange)
    | null | bool | text | bytes | instant | array | object => exact .fail (.notInteger hv rfl)

theorem located_readPosition (o : List (String × Value)) (key : String) (hpart : key ∈ partKeys) :
    Located (.object o) (readPosition o · key) := by
  intro source a b
  simp only [readPosition]
  cases hv : plainField? o key with
  | none => exact .pure _
  | some v =>
    refine .key hv hpart ?_
    cases v with
    | object fs =>
      exact .bind (located_readCoord fs "line" _ _ _) fun _ _ =>
        .bind (located_readCoord fs "col" _ _ _) fun _ _ => .pure _
    | null | bool | number | text | bytes | instant | array => exact .fail (.notObject rfl)

section Nodes

variable {o : List (String × Value)}

theorem located_span : Located (.object o) (readFields o).span := by
  intro source a b
  simp only [Fields.span, Form.get?_readFields]
  cases hv : plainField? o "span" with
  | none => exact .pure _
  | some v =>
    refine .key hv (by decide) ?_
    cases v with
    | object fs =>
      have hends : ∀ file, Located (.object fs) fun p => do
          let start ← readPosition fs p "start"
          let stop ← readPosition fs p "end"
          return (⟨if file = "" then p.source else file, start, stop⟩ : Span) := by
        intro file source a b
        exact .bind (located_readPosition fs "start" (by decide) _ _ _) fun _ _ =>
          .bind (located_readPosition fs "end" (by decide) _ _ _) fun _ _ => .pure _
      simp only [Option.map_some, plainFields?]
      cases hfile : plainField? fs "file" with
      | none => exact hends "" _ _ _
      | some w =>
        cases w with
        | text s => exact hends s _ _ _
        | null | bool | number | bytes | instant | array | object =>
          exact .fail (.notText hfile (by simp))
    | null | bool | number | text | bytes | instant | array => exact .fail (.notObject rfl)

theorem located_literal {kind : String} (hkey : plainField? o "kind" = some (.text kind))
    (hkind : isLiteralKind kind = true) :
    Located (.object o) ((readFields o).literal · kind) := by
  have hkinds : kind = "int" ∨ kind = "long" ∨ kind = "double" ∨ kind = "string" ∨ kind = "bool" ∨
      kind = "null" := by
    simpa [isLiteralKind] using hkind
  intro source a b
  simp only [Fields.literal, Form.get?_readFields]
  split
  · exact .pure _
  · next hnull =>
    cases hv : plainField? o "value" with
    | none => exact .fail (.missing hv)
    | some v =>
      obtain rfl | rfl | rfl | rfl | rfl | rfl := hkinds
      · cases v with
        | number n =>
          simp only [Option.map_some]
          cases hi : n.toInt? with
          | none => exact .fail (.literalNotInteger (.inl rfl) hkey hv hi)
          | some i => exact .pure _
        | _ => exact .fail (.literalNotInteger (.inl rfl) hkey hv rfl)
      · cases v with
        | number n =>
          simp only [Option.map_some]
          cases hi : n.toInt? with
          | none => exact .fail (.literalNotInteger (.inr rfl) hkey hv hi)
          | some i => exact .pure _
        | _ => exact .fail (.literalNotInteger (.inr rfl) hkey hv rfl)
      · cases v with
        | number n =>
          simp only [Option.map_some]
          cases hx : n.toDouble? with
          | none => exact .fail (.literalNotNumber hkey hv hx)
          | some x => exact .pure _
        | _ => exact .fail (.literalNotNumber hkey hv rfl)
      · cases v with
        | text s => exact .pure _
        | _ => exact .fail (.literalNotText hkey hv (by simp))
      · cases v with
        | bool b => exact .pure _
        | _ => exact .fail (.literalNotBool hkey hv (by simp))
      · exact absurd rfl hnull

theorem located_effect? : Located (.object o) (readFields o).effect? := by
  intro source a b
  refine .bind (located_text? _ _ _ _) fun found hfound => ?_
  cases Form.gives_text? _ _ _ hfound with
  | absent => exact .pure none
  | given hkey hl =>
    subst hl
    dsimp only
    split
    · exact .pure _
    · next hcause => exact .fail (.effect (.inl hkey) hcause)

theorem located_capability? : Located (.object o) (readFields o).capability? := by
  intro source a b
  refine .bind (located_text? _ _ _ _) fun found hfound => ?_
  cases Form.gives_text? _ _ _ hfound with
  | absent => exact .pure none
  | given hkey hl =>
    subst hl
    dsimp only
    split
    · exact .pure _
    · next hcause => exact .fail (.capability hkey hcause)

theorem located_level : Located (.object o) (readFields o).level := by
  intro source a b
  simp only [Fields.level, Form.get?_readFields]
  cases hv : plainField? o "level" with
  | none => exact .fail (.missing hv)
  | some v =>
    cases v with
    | text l =>
      simp only [Option.map_some]
      split
      · exact .pure _
      · next hcause => exact .fail (.level hv rfl hcause)
    | number n =>
      simp only [Option.map_some]
      cases hi : n.toInt? with
      | none => exact .fail (.notLevel hv (by rw [levelLabel?, hi, Option.map_none]))
      | some i =>
        simp only [Option.map_some]
        split
        · exact .pure _
        · next hcause =>
          exact .fail (.level hv (by rw [levelLabel?, hi, Option.map_some]) hcause)
    | null | bool | bytes | instant | array | object => exact .fail (.notLevel hv rfl)

end Nodes

/-! ## Nodes -/

/-- **Every reading of a value points at its faults.** -/
structure Pinpoints (v : Value) : Prop where
  type : Located v (reading v).type
  expr : Located v (reading v).expr
  pattern : Located v (reading v).pattern
  stmt : Located v (reading v).stmt
  block : Located v (reading v).block
  typedName : Located v (reading v).typedName
  init : Located v (reading v).init
  case : Located v (reading v).case

/-- All that stands inside an object points at its faults. -/
def InnerPinpoints (o : List (String × Value)) : Prop :=
  ∀ v, sizeOf v < sizeOf (Value.object o) → Pinpoints v

namespace InnerPinpoints

variable {o : List (String × Value)} {α : Type} {read : Reading → Read α}

theorem items (h : InnerPinpoints o) {key : String} {vs : List Value}
    (hkey : plainField? o key = some (.array vs)) : ∀ v ∈ vs, Pinpoints v :=
  fun v hv => h v (Form.sizeOf_item hkey hv)

theorem part (h : InnerPinpoints o) (key : String)
    (hread : ∀ v, Pinpoints v → Located v (read (reading v))) (hpart : key ∈ partKeys) :
    Located (.object o) ((readFields o).part · key read) :=
  located_part hpart fun v hv => hread v (h v (Form.sizeOf_plainField hv))

theorem part? (h : InnerPinpoints o) (key : String)
    (hread : ∀ v, Pinpoints v → Located v (read (reading v))) (hpart : key ∈ partKeys) :
    Located (.object o) ((readFields o).part? · key read) :=
  located_part? hpart fun v hv => hread v (h v (Form.sizeOf_plainField hv))

theorem each (h : InnerPinpoints o) (key : String)
    (hread : ∀ v, Pinpoints v → Located v (read (reading v))) (hpart : key ∈ partKeys) :
    Located (.object o) ((readFields o).each · key read) :=
  located_each hpart fun _ hkey v hv => hread v (h.items hkey v hv)

theorem eachRequired (h : InnerPinpoints o) (key : String)
    (hread : ∀ v, Pinpoints v → Located v (read (reading v))) (hpart : key ∈ partKeys) :
    Located (.object o) ((readFields o).eachRequired · key read) :=
  located_eachRequired hpart fun _ hkey v hv => hread v (h.items hkey v hv)

theorem type (h : InnerPinpoints o) : Located (.object o) (readFields o).type := by
  have htype : ∀ key ∈ partKeys, Located (.object o) ((readFields o).part · key (·.type)) :=
    fun key => h.part key fun _ hv => hv.type
  intro source a b
  unfold Fields.type
  refine .bind (located_text _ _ _ _) fun kind hkind => .bind (located_span _ _ _) fun s _ => ?_
  split
  · exact .bind (located_name _ _ _ _) fun _ _ => .pure _
  · exact .bind (located_name _ _ _ _) fun _ _ => .pure _
  · exact .bind (htype "type" (by decide) _ _ _) fun _ _ => .pure _
  · exact .bind (htype "type" (by decide) _ _ _) fun _ _ => .pure _
  · exact .bind (htype "key" (by decide) _ _ _) fun _ _ =>
      .bind (htype "value" (by decide) _ _ _) fun _ _ => .pure _
  · exact .bind (htype "ok" (by decide) _ _ _) fun _ _ =>
      .bind (htype "err" (by decide) _ _ _) fun _ _ => .pure _
  · exact .bind (h.each _ (fun _ hv => hv.type) (by decide) _ _ _) fun _ _ =>
      .bind (h.part? _ (fun _ hv => hv.type) (by decide) _ _ _) fun _ _ => .pure _
  · exact .bind (htype "type" (by decide) _ _ _) fun _ _ => .bind (located_level _ _ _) fun _ _ =>
      .bind (located_text? _ _ _ _) fun _ _ => .pure _
  · exact .fail (.unknownType (Form.gives_text _ _ _ hkind) (by simp_all))

theorem expr (h : InnerPinpoints o) : Located (.object o) (readFields o).expr := by
  have hexpr : ∀ key ∈ partKeys, Located (.object o) ((readFields o).part · key (·.expr)) :=
    fun key => h.part key fun _ hv => hv.expr
  intro source a b
  unfold Fields.expr
  refine .bind (located_text _ _ _ _) fun kind hkind => .bind (located_span _ _ _) fun s _ => ?_
  have hkey := Form.gives_text _ _ _ hkind
  split
  · next hlit => exact .bind (located_literal hkey hlit _ _ _) fun _ _ => .pure _
  split
  · exact .bind (located_name _ _ _ _) fun _ _ => .pure _
  · exact .bind (located_name _ _ _ _) fun _ _ => .bind (hexpr "left" (by decide) _ _ _) fun _ _ =>
      .bind (hexpr "right" (by decide) _ _ _) fun _ _ => .pure _
  · exact .bind (located_name _ _ _ _) fun _ _ =>
      .bind (hexpr "operand" (by decide) _ _ _) fun _ _ => .pure _
  · exact .bind (located_name _ _ _ _) fun _ _ =>
      .bind (h.each _ (fun _ hv => hv.expr) (by decide) _ _ _) fun _ _ =>
        .bind (located_effect? _ _ _) fun _ _ => .bind (located_capability? _ _ _) fun _ _ => .pure _
  · exact .bind (located_name _ _ _ _) fun _ _ =>
      .bind (h.each _ (fun _ hv => hv.init) (by decide) _ _ _) fun _ _ => .pure _
  · exact .bind (hexpr "expr" (by decide) _ _ _) fun _ _ =>
      .bind (located_name _ _ _ _) fun _ _ => .pure _
  · exact .bind (hexpr "expr" (by decide) _ _ _) fun _ _ => .pure _
  · exact .bind (hexpr "expr" (by decide) _ _ _) fun _ _ => .pure _
  · exact .bind (hexpr "expr" (by decide) _ _ _) fun _ _ => .pure _
  · exact .pure _
  · exact .bind (h.each _ (fun _ hv => hv.expr) (by decide) _ _ _) fun _ _ => .pure _
  · exact .bind (hexpr "expr" (by decide) _ _ _) fun _ _ => .pure _
  · exact .fail (.unknownExpr hkey (by simp_all) (by simp_all))

theorem init (h : InnerPinpoints o) : Located (.object o) (readFields o).init := fun _ _ _ =>
  .bind (located_span _ _ _) fun _ _ => .bind (located_name _ _ _ _) fun _ _ =>
    .bind (h.part "expr" (fun _ hv => hv.expr) (by decide) _ _ _) fun _ _ => .pure _

theorem typedName (h : InnerPinpoints o) : Located (.object o) (readFields o).typedName :=
  fun _ _ _ => .bind (located_span _ _ _) fun _ _ => .bind (located_name _ _ _ _) fun _ _ =>
    .bind (h.part "type" (fun _ hv => hv.type) (by decide) _ _ _) fun _ _ => .pure _

theorem pattern (h : InnerPinpoints o) : Located (.object o) (readFields o).pattern := by
  have hpattern : ∀ key ∈ partKeys,
      Located (.object o) ((readFields o).part · key (·.pattern)) :=
    fun key => h.part key fun _ hv => hv.pattern
  intro source a b
  unfold Fields.pattern
  refine .bind (located_text _ _ _ _) fun kind hkind => .bind (located_span _ _ _) fun s _ => ?_
  have hkey := Form.gives_text _ _ _ hkind
  split
  · next hlit => exact .bind (located_literal hkey hlit _ _ _) fun _ _ => .pure _
  split
  · exact .pure _
  · exact .pure _
  · exact .bind (located_name _ _ _ _) fun _ _ => .pure _
  · exact .bind (h.part "value" (fun _ hv => hv.expr) (by decide) _ _ _) fun _ _ => .pure _
  · exact .pure _
  · exact .bind (hpattern "pattern" (by decide) _ _ _) fun _ _ => .pure _
  · exact .bind (hpattern "pattern" (by decide) _ _ _) fun _ _ => .pure _
  · exact .bind (hpattern "pattern" (by decide) _ _ _) fun _ _ => .pure _
  · exact .bind (located_name _ _ _ _) fun _ _ =>
      .bind (h.each _ (fun _ hv => hv.pattern) (by decide) _ _ _) fun _ _ => .pure _
  · exact .fail (.unknownPattern hkey (by simp_all) (by simp_all))

theorem case (h : InnerPinpoints o) : Located (.object o) (readFields o).case := fun _ _ _ =>
  .bind (located_span _ _ _) fun _ _ =>
    .bind (h.part "pattern" (fun _ hv => hv.pattern) (by decide) _ _ _) fun _ _ =>
      .bind (h.part "body" (fun _ hv => hv.block) (by decide) _ _ _) fun _ _ => .pure _

theorem stmt (h : InnerPinpoints o) : Located (.object o) (readFields o).stmt := by
  have hexpr : ∀ key ∈ partKeys, Located (.object o) ((readFields o).part · key (·.expr)) :=
    fun key => h.part key fun _ hv => hv.expr
  have hblock : ∀ key ∈ partKeys, Located (.object o) ((readFields o).part · key (·.block)) :=
    fun key => h.part key fun _ hv => hv.block
  intro source a b
  unfold Fields.stmt
  refine .bind (located_text _ _ _ _) fun kind hkind => .bind (located_span _ _ _) fun s _ => ?_
  have hkey := Form.gives_text _ _ _ hkind
  split
  · exact .bind (located_name _ _ _ _) fun _ _ =>
      .bind (h.part? _ (fun _ hv => hv.type) (by decide) _ _ _) fun _ _ =>
        .bind (hexpr "expr" (by decide) _ _ _) fun _ _ => .pure _
  · exact .bind (located_name _ _ _ _) fun _ _ =>
      .bind (hexpr "expr" (by decide) _ _ _) fun _ _ => .pure _
  · exact .bind (h.part? _ (fun _ hv => hv.expr) (by decide) _ _ _) fun _ _ => .pure _
  · exact .bind (hexpr "expr" (by decide) _ _ _) fun _ _ => .pure _
  · exact .bind (hexpr "cond" (by decide) _ _ _) fun _ _ =>
      .bind (hblock "then" (by decide) _ _ _) fun _ _ =>
        .bind (h.part? _ (fun _ hv => hv.block) (by decide) _ _ _) fun _ _ => .pure _
  · exact .bind (hexpr "expr" (by decide) _ _ _) fun _ _ =>
      .bind (h.eachRequired _ (fun _ hv => hv.case) (by decide) _ _ _) fun _ _ => .pure _
  · exact .bind (hblock "body" (by decide) _ _ _) fun _ _ => .pure _
  · exact .bind (hblock "body" (by decide) _ _ _) fun _ _ => .pure _
  · exact .bind (located_name _ _ _ _) fun _ _ =>
      .bind (hexpr "expr" (by decide) _ _ _) fun _ _ => .pure _
  · refine .bind (located_texts? _ (by decide) _ _ _) fun names hnames => ?_
    cases Form.gives_texts? _ _ _ hnames with
    | absent hmissing => exact .fail (.missing hmissing)
    | given => exact .pure _
  · exact .fail (.unknownStmt hkey (by simp_all))

theorem block (h : InnerPinpoints o) : Located (.object o) (readFields o).block :=
  h.eachRequired _ (fun _ hv => hv.stmt) (by decide)

end InnerPinpoints

/-! ## Documents -/

theorem pinpoints_object {o : List (String × Value)} (h : InnerPinpoints o) :
    Pinpoints (.object o) where
  type := by rw [reading]; exact h.type
  expr := by rw [reading]; exact h.expr
  pattern := by rw [reading]; exact h.pattern
  stmt := by rw [reading]; exact h.stmt
  block := by rw [reading]; exact h.block
  typedName := by rw [reading]; exact h.typedName
  init := by rw [reading]; exact h.init
  case := by rw [reading]; exact h.case

/-- A value of another kind is refused as such, apart from the type or block it may stand for. -/
theorem pinpoints_of_type_block {v : Value} {r : Reading} (hv : plainFields? v = none)
    (hr : reading v = r)
    (hother : r = { Reading.ofOther v.kindName with
      type := r.type, block := r.block, items := r.items })
    (htype : Located v r.type) (hblock : Located v r.block) : Pinpoints v := by
  subst hr
  refine ⟨htype, ?_, ?_, ?_, hblock, ?_, ?_, ?_⟩ <;>
    · intro source a b
      rw [hother]
      exact .fail (.notObject hv)

theorem pinpoints_other {v : Value} (hv : plainFields? v = none)
    (h : reading v = .ofOther v.kindName) : Pinpoints v :=
  pinpoints_of_type_block hv h rfl (fun _ _ _ => .fail (.notObject hv)) fun _ _ _ =>
    .fail (.notObject hv)

theorem pinpoints_text (s : String) : Pinpoints (.text s) := by
  refine pinpoints_of_type_block rfl (by rw [reading]) rfl (fun source a b => ?_) fun _ _ _ =>
    .fail (.notObject rfl)
  simp only [Reading.ofText]
  split
  · next hs =>
    subst hs
    exact .fail .emptyTypeName
  · exact .pure _

theorem pinpoints_array {vs : List Value} (h : ∀ v ∈ vs, Pinpoints v) : Pinpoints (.array vs) :=
  pinpoints_of_type_block rfl (by rw [reading]) rfl (fun _ _ _ => .fail (.notObject rfl))
    (located_readItems vs vs 0 rfl fun v hv => (h v hv).stmt)

/-- **Every value points at its faults**, in each position. -/
theorem pinpoints : ∀ v : Value, Pinpoints v
  | .object _ => pinpoints_object fun v _ => pinpoints v
  | .array _ => pinpoints_array fun v _ => pinpoints v
  | .text s => pinpoints_text s
  | .null => pinpoints_other rfl (by rw [reading]; rfl)
  | .bool _ => pinpoints_other rfl (by rw [reading]; rfl)
  | .number _ => pinpoints_other rfl (by rw [reading]; rfl)
  | .bytes _ => pinpoints_other rfl (by rw [reading]; rfl)
  | .instant _ => pinpoints_other rfl (by rw [reading]; rfl)
termination_by v => sizeOf v
decreasing_by
  · assumption
  · decreasing_tactic

/-! ## Declarations -/

/-- The label that makes a list of effect labels fail. -/
theorem exists_unknown_effect {labels : List String} {cause : Effect.Unknown}
    (h : Effect.ofLabels labels = .error cause) :
    ∃ l ∈ labels, Effect.parse l = .error cause := by
  rw [Effect.ofLabels] at h
  generalize Effect.pure = acc at h
  induction labels generalizing acc with
  | nil => exact nomatch h
  | cons l ls ih =>
    rw [List.foldlM_cons] at h
    cases hl : Effect.parse l with
    | error c =>
      rw [hl] at h
      obtain rfl : c = cause := Except.error.inj h
      exact ⟨l, .head _, hl⟩
    | ok e =>
      rw [hl] at h
      obtain ⟨l', hl', hcause⟩ := ih _ h
      exact ⟨l', .tail _ hl', hcause⟩

section Declarations

variable {o : List (String × Value)}

theorem innerPinpoints : InnerPinpoints o := fun v _ => pinpoints v

theorem mem_of_isText {vs : List Value} {ls : List String} (h : List.Forall₂ Form.IsText vs ls) :
    ∀ l ∈ ls, Value.text l ∈ vs := by
  induction h with
  | nil => exact fun _ hl => nomatch hl
  | cons hv _ ih =>
    intro l hl
    obtain rfl | hl := List.mem_cons.1 hl
    · exact hv ▸ .head _
    · exact .tail _ (ih l hl)

/-- The labels that are read for the effect of a function are labels of its object. -/
theorem hasEffectLabel {labels : Option (List String)} {single : Option String}
    (hlabels : Form.PartOpt (Form.IsList Form.IsText) o "effects" labels)
    (hsingle : Form.PartOpt Form.IsText o "effect" single) :
    ∀ l ∈ labels.getD [] ++ single.toList, HasEffectLabel o l := by
  intro l hl
  obtain hl | hl := List.mem_append.1 hl
  · cases hlabels with
    | absent => exact nomatch hl
    | given hkey hlist =>
      cases hlist with
      | array htexts => exact .inr ⟨_, hkey, mem_of_isText htexts l hl⟩
  · cases hsingle with
    | absent => exact nomatch hl
    | given hkey htext =>
      obtain rfl : l = _ := List.mem_singleton.1 hl
      exact .inl (hkey.trans (congrArg some htext))

theorem located_declaredEffect : Located (.object o) (readFields o).declaredEffect := by
  intro source a b
  refine .bind (located_texts? _ (by decide) _ _ _) fun labels hlabels =>
    .bind (located_text? _ _ _ _) fun single hsingle => ?_
  split
  · exact .pure _
  · next hcause =>
    obtain ⟨l, hl, hparse⟩ := exists_unknown_effect hcause
    exact .fail (.effect (hasEffectLabel (Form.gives_texts? _ _ _ hlabels)
      (Form.gives_text? _ _ _ hsingle) l hl) hparse)

theorem located_readCapabilities (all : List Value) {vs : List Value} {ls : List String}
    (htexts : List.Forall₂ Form.IsText vs ls) : ∀ i, all.drop i = vs →
      Located (.array all) (Fields.readCapabilities · i ls) := by
  induction htexts with
  | nil => exact fun _ _ _ _ _ => .pure []
  | @cons v l vs ls hl _ ih =>
    intro i hall source a b
    obtain ⟨hitem, hnext⟩ := getElem?_of_drop_eq hall
    simp only [Fields.readCapabilities]
    split
    · next hcause => exact .index hitem (.fail (hl ▸ .capabilityItem hcause))
    · exact .bind (ih (i + 1) hnext _ _ _) fun _ _ => .pure _

theorem located_declaredCapabilities :
    Located (.object o) (readFields o).declaredCapabilities := by
  intro source a b
  refine .bind (located_texts? _ (by decide) _ _ _) fun found hfound => ?_
  cases Form.gives_texts? _ _ _ hfound with
  | absent => exact .pure none
  | given hkey hlist =>
    cases hlist with
    | array htexts =>
      exact .bind (.key hkey (by decide) (located_readCapabilities _ htexts 0 rfl _ _ _))
        fun _ _ => .pure _

theorem located_func (s : Span) : Located (.object o) ((readFields o).func · s) := fun _ _ _ =>
  .bind (located_name _ _ _ _) fun _ _ =>
    .bind (located_texts? "typeParams" (by decide) _ _ _) fun _ _ =>
      .bind (innerPinpoints.each "params" (fun _ hv => hv.typedName) (by decide) _ _ _)
        fun _ _ =>
        .bind (innerPinpoints.part? "ret" (fun _ hv => hv.type) (by decide) _ _ _)
          fun _ _ =>
          .bind (located_declaredEffect _ _ _) fun _ _ =>
            .bind (located_declaredCapabilities _ _ _) fun _ _ =>
              .bind (innerPinpoints.part "body" (fun _ hv => hv.block) (by decide) _ _ _)
                fun _ _ => .pure _

theorem located_decl : Located (.object o) (readFields o).decl := by
  have htype : Located (.object o) ((readFields o).part · "type" (·.type)) :=
    innerPinpoints.part _ (fun _ hv => hv.type) (by decide)
  intro source a b
  unfold Fields.decl
  refine .bind (located_text _ _ _ _) fun kind hkind => .bind (located_span _ _ _) fun s _ => ?_
  split
  · exact .bind (located_func s _ _ _) fun _ _ => .pure _
  · exact .bind (located_func s _ _ _) fun _ _ => .pure _
  · exact .bind (located_func s _ _ _) fun _ _ => .pure _
  · exact .bind (located_name _ _ _ _) fun _ _ =>
      .bind (innerPinpoints.each _ (fun _ hv => hv.typedName) (by decide) _ _ _) fun _ _ => .pure _
  · exact .bind (located_name _ _ _ _) fun _ _ =>
      .bind (located_texts? _ (by decide) _ _ _) fun _ _ => .pure _
  · exact .bind (located_name _ _ _ _) fun _ _ => .bind (htype _ _ _) fun _ _ => .pure _
  · exact .bind (located_name _ _ _ _) fun _ _ => .bind (htype _ _ _) fun _ _ => .pure _
  · exact .bind (located_name _ _ _ _) fun _ _ => .pure _
  · exact .fail (.unknownDecl (Form.gives_text _ _ _ hkind) (by simp_all))

end Declarations

theorem located_readDecl (v : Value) : Located v (readDecl v) := by
  intro source a b
  cases v with
  | object o => exact located_decl _ _ _
  | null | bool | number | text | bytes | instant | array => exact .fail (.notObject rfl)

theorem located_readDecls (all : List Value) : ∀ (vs : List Value) (i : Nat), all.drop i = vs →
    Located (.array all) (readDecls · i vs)
  | [], _, _ => fun _ _ _ => .pure []
  | v :: vs, i, hall => by
    obtain ⟨hitem, hnext⟩ := getElem?_of_drop_eq hall
    intro source a b
    exact .bind (.index hitem (located_readDecl v _ _ _)) fun _ _ =>
      .bind (located_readDecls all vs (i + 1) hnext _ _ _) fun _ _ => .pure _

theorem located_checkVersion (o : List (String × Value)) :
    Located (.object o) (checkVersion (readFields o)) := by
  intro source a b
  simp only [checkVersion, Form.get?_readFields]
  cases hv : plainField? o "version" with
  | none => exact .pure ()
  | some v =>
    cases v with
    | number n =>
      simp only [Option.map_some]
      split
      · exact .pure ()
      · next hversion => exact .fail (.version hv hversion)
    | null | bool | text | bytes | instant | array | object =>
      exact .fail (.version hv (by simp [wholeOf?]))

/-- **A refused document is refused at a fault of its own.** -/
theorem fault_of_ofDocument {source : String} {v : Value} {e : ContractError}
    (h : Module.ofDocument source v = .error e) :
    e.source = source ∧ Fault v e.path e.violation := by
  have hpoints : Points source [] [] v (Module.ofDocument source v)
      (Module.ofDocument source v) := by
    cases v with
    | object o =>
      refine .bind (located_checkVersion o _ _ _) fun _ _ =>
        .bind (located_name _ _ _ _) fun name _ => ?_
      generalize hkey : (if !(readFields o).has "decls" && (readFields o).has "declarations" then
        "declarations" else "decls") = key
      have hpart : key ∈ partKeys := by
        subst hkey
        split <;> decide
      refine .bind (located_list? key _ _ _) fun found hfound => ?_
      obtain ⟨rfl, hmissing⟩ | ⟨vs, rfl, hvs⟩ := Form.gives_list? _ _ _ hfound
      · exact .fail (.missing hmissing)
      · exact .bind (.key hvs hpart (located_readDecls vs vs 0 rfl _ _ _)) fun _ _ => .pure _
    | null | bool | number | text | bytes | instant | array => exact .fail (.notObject rfl)
  rw [h] at hpoints
  cases hpoints with
  | refused hfault => exact ⟨rfl, hfault⟩

end CoreCheck.Ir

import CoreCheck.Proofs.Document.Nulls
import CoreCheck.Proofs.Document.Stack

/-!
# Proofs/Document/Follows — a walk that follows a reading

`Follows` ties a decoder's walk to a reading that is handed its place: both give the same, the stack is
left as it was found, and after the first violation nothing changes any more.  The readers of a node
only ask for parts of the same object, so one lemma for each kind of node passes `Follows` on from the
parts to the node.
-/

namespace CoreCheck.Ir

open CoreCheck.Document (Value field?)

/-! ## Walks that follow a reading -/

/-- The place below a segment. -/
def Place.below (p : Place) (s : Segment) : Place := { p with path := p.path ++ s.steps }

/-- **A walk that follows a reading** of the place it has reached. -/
structure Follows {α : Type} (p : Place) (x : Decode α) (y : Except ContractError α) : Prop where
  /-- After a violation nothing changes. -/
  stuck : ∀ d : Decoder, d.place = p → d.error.isSome = true → (x d).2 = d
  reads : ∀ (d : Decoder) (a : α), d.place = p → d.error = none → y = .ok a → x d = (a, d)
  refuses : ∀ (d : Decoder) (e : ContractError), d.place = p → d.error = none → y = .error e →
    (x d).2 = { d with error := some e }

namespace Follows

variable {α β : Type} {p : Place} {x : Decode α} {y : Except ContractError α}

/-- **The stack is left as it was found.** -/
theorem stack_eq (h : Follows p x y) {d : Decoder} (hp : d.place = p) : (x d).2.stack = d.stack := by
  cases hd : d.error with
  | some e => rw [h.stuck d hp (by rw [hd]; rfl)]
  | none =>
    cases y with
    | ok a => rw [h.reads d a hp hd rfl]
    | error e => rw [h.refuses d e hp hd rfl]

theorem pure (a : α) : Follows p (Pure.pure a) (.ok a) where
  stuck _ _ _ := rfl
  reads _ b _ _ h := by
    obtain rfl : a = b := Except.ok.inj h
    rfl
  refuses _ _ _ _ h := nomatch h

theorem refuse [Inhabited α] (violation : Violation) :
    Follows p (Decode.refuse violation : Decode α) (p.fail violation) where
  stuck _ _ h := if_pos h
  reads _ _ _ _ h := nomatch h
  refuses d e hp hd h := by
    subst hp
    rw [← Except.error.inj h]
    exact if_neg (by simp [hd])

theorem bind {f : α → Decode β} {g : α → Except ContractError β} (hx : Follows p x y)
    (hf : ∀ a, Follows p (f a) (g a)) : Follows p (x >>= f) (y >>= g) where
  stuck d hp hd := by
    have hstate : (x d).2 = d := hx.stuck d hp hd
    have hnext := (hf (x d).1).stuck d hp hd
    change (f (x d).1 (x d).2).2 = d
    rw [hstate, hnext]
  reads d b hp hd h := by
    cases y with
    | error e => exact nomatch h
    | ok a =>
      change f (x d).1 (x d).2 = (b, d)
      rw [hx.reads d a hp hd rfl]
      exact (hf a).reads d b hp hd h
  refuses d e hp hd h := by
    change (f (x d).1 (x d).2).2 = _
    cases y with
    | error e' =>
      obtain rfl : e' = e := Except.error.inj h
      rw [hx.refuses d e' hp hd rfl]
      exact (hf (x d).1).stuck _ hp rfl
    | ok a =>
      rw [hx.reads d a hp hd rfl]
      exact (hf a).refuses d e hp hd h

/-- After a violation the rest changes nothing, whatever it would read. -/
theorem refuse_bind [Inhabited α] (violation : Violation) {f : α → Decode β}
    {z : Except ContractError β} (hf : Follows p (f default) z) :
    Follows p (Decode.refuse violation >>= f) (p.fail violation) where
  stuck d hp hd := by
    have hstate : ((Decode.refuse violation : Decode α) d).2 = d :=
      (refuse violation).stuck d hp hd
    change (f default ((Decode.refuse violation : Decode α) d).2).2 = d
    rw [hstate]
    exact hf.stuck d hp hd
  reads _ _ _ _ h := nomatch h
  refuses d e hp hd h := by
    have hfail : (p.fail violation : Except ContractError α) = .error e :=
      congrArg Except.error (Except.error.inj h)
    have hstate : ((Decode.refuse violation : Decode α) d).2 = { d with error := some e } :=
      (refuse violation).refuses d e hp hd hfail
    change (f default ((Decode.refuse violation : Decode α) d).2).2 = _
    rw [hstate]
    exact hf.stuck _ hp rfl

/-- **A part below a segment** is followed at the place there. -/
theorem inside {s : Segment} (h : Follows (p.below s) x y) : Follows p (Decode.inside s x) y := by
  have hplace : ∀ d : Decoder, d.place = p →
      ({ d with stack := d.stack ++ [s] } : Decoder).place = p.below s := by
    rintro d rfl
    simp [Decoder.place, Place.below]
  constructor
  · intro d hp hd
    change { (x { d with stack := d.stack ++ [s] }).2 with
      stack := (x { d with stack := d.stack ++ [s] }).2.stack.dropLast } = d
    rw [h.stuck _ (hplace d hp) hd, List.dropLast_concat]
  · intro d a hp hd hy
    change ((x { d with stack := d.stack ++ [s] }).1, { (x { d with stack := d.stack ++ [s] }).2 with
      stack := (x { d with stack := d.stack ++ [s] }).2.stack.dropLast }) = (a, d)
    rw [h.reads _ a (hplace d hp) hd hy, List.dropLast_concat]
  · intro d e hp hd hy
    change { (x { d with stack := d.stack ++ [s] }).2 with
      stack := (x { d with stack := d.stack ++ [s] }).2.stack.dropLast } = _
    rw [h.refuses _ e (hplace d hp) hd hy, List.dropLast_concat]

/-- The source is read off the state. -/
theorem source {f : Decoder → Decode α} (h : ∀ d : Decoder, d.source = p.source → Follows p (f d) y) :
    Follows p (get >>= f) y where
  stuck d hp hd := (h d (congrArg Place.source hp)).stuck d hp hd
  reads d a hp hd hy := (h d (congrArg Place.source hp)).reads d a hp hd hy
  refuses d e hp hd hy := (h d (congrArg Place.source hp)).refuses d e hp hd hy

/-- A loop that stops at a violation changes nothing by stopping. -/
theorem unlessRefused {stops : Bool} {a : α} (h : Follows p x y) :
    Follows p (do if stops && (← get).error.isSome then return a else x) y where
  stuck d hp hd := by
    change ((if stops && d.error.isSome then Pure.pure a else x : Decode α) d).2 = d
    split
    · rfl
    · exact h.stuck d hp hd
  reads d b hp hd hy := by
    change (if stops && d.error.isSome then Pure.pure a else x : Decode α) d = (b, d)
    rw [hd, if_neg (by simp)]
    exact h.reads d b hp hd hy
  refuses d e hp hd hy := by
    change ((if stops && d.error.isSome then Pure.pure a else x : Decode α) d).2 = _
    rw [hd, if_neg (by simp)]
    exact h.refuses d e hp hd hy

end Follows

/-! ## Fields of one object -/

theorem lookup_entries (o : List (String × Value)) (key : String) :
    (entries o).lookup key = (field? o key).map fun v => (v, decoding v) := by
  rw [field?]
  induction o with
  | nil => rfl
  | cons e rest ih =>
    rw [entries, List.lookup_cons, List.lookup_cons]
    split
    · rfl
    · exact ih

theorem get?_entries (o : List (String × Value)) (key : String) :
    (entries o).get? key = (plainField? o key).map fun v => (v, decoding v) := by
  rw [Entries.get?, lookup_entries, plainField?]
  cases field? o key with
  | none => rfl
  | some v => cases hv : v.isNull <;> simp [Option.filter, hv]

theorem items_decoding (vs : List Value) : (decoding (.array vs)).items = decodings vs := by
  rw [decoding]
  rfl

theorem items_reading (vs : List Value) : (reading (.array vs)).items = readValues vs := by
  rw [reading]
  rfl

section Parts

variable {α : Type} {o : List (String × Value)} {p : Place}

theorem follows_text (key : String) :
    Follows p ((entries o).text key) ((readFields o).text p key) := by
  rw [Entries.text, Fields.text, get?_entries, Form.get?_readFields]
  cases plainField? o key with
  | none => exact .refuse _
  | some v =>
    cases v with
    | text s => exact .pure s
    | null | bool | number | bytes | instant | array | object => exact .refuse _

theorem follows_text? (key : String) :
    Follows p ((entries o).text? key) ((readFields o).text? p key) := by
  rw [Entries.text?, Fields.text?, get?_entries, Form.get?_readFields]
  cases plainField? o key with
  | none => exact .pure none
  | some v =>
    cases v with
    | text s => exact .pure (some s)
    | null | bool | number | bytes | instant | array | object => exact .refuse _

theorem follows_name (key : String) :
    Follows p ((entries o).name key) ((readFields o).name p key) := by
  refine .bind (follows_text key) fun s => ?_
  split
  · exact .refuse _
  · exact .pure s

variable {walk : Decoding → Decode α} {read : Reading → Read α}

theorem follows_part [Inhabited α] (key : String)
    (h : ∀ v, plainField? o key = some v → ∀ q, Follows q (walk (decoding v)) (read (reading v) q)) :
    Follows p ((entries o).part key walk) ((readFields o).part p key read) := by
  rw [Entries.part, Fields.part, get?_entries, Form.get?_readFields]
  cases hv : plainField? o key with
  | none => exact .refuse _
  | some v => exact .inside (h v hv _)

theorem follows_part? (key : String)
    (h : ∀ v, plainField? o key = some v → ∀ q, Follows q (walk (decoding v)) (read (reading v) q)) :
    Follows p ((entries o).part? key walk) ((readFields o).part? p key read) := by
  rw [Entries.part?, Fields.part?, get?_entries, Form.get?_readFields]
  cases hv : plainField? o key with
  | none => exact .pure none
  | some v => exact .bind (.inside (h v hv _)) fun a => .pure (some a)

/-- **Items are followed in their order**, whether the loop stops at a violation or not. -/
theorem follows_eachItem (stops : Bool) {seg : Nat → Segment} {q : Place}
    (hseg : ∀ i, p.below (seg i) = q.index i) : ∀ (vs : List Value) (i : Nat),
      (∀ v ∈ vs, ∀ r, Follows r (walk (decoding v)) (read (reading v) r)) →
        Follows p (Decode.eachItem stops seg i ((decodings vs).map walk))
          (Fields.readItems read q i (readValues vs))
  | [], _, _ => .pure []
  | v :: vs, i, h => by
    rw [decodings, List.map_cons, Decode.eachItem, readValues, Fields.readItems]
    refine .bind (.inside (hseg i ▸ h v (.head _) _)) fun a => .unlessRefused ?_
    exact .bind (follows_eachItem stops hseg vs (i + 1) fun w hw => h w (.tail _ hw)) fun _ => .pure _

theorem below_item (p : Place) (key : String) (i : Nat) :
    p.below (.item key i) = (p.key key).index i := by
  simp [Place.below, Place.key, Place.index, Segment.steps]

theorem below_index (p : Place) (i : Nat) : p.below (.index i) = p.index i := rfl

/-- **A list under a key is followed** together with what is done with it. What is left out or refused
is walked as an empty list. -/
theorem follows_list_bind {β : Type} {f : List Value × List Decoding → Decode β}
    {g : Option (List Value × List Reading) → Except ContractError β} {z : Except ContractError β}
    (key : String) (required : Bool) (hempty : Follows p (f ([], [])) z)
    (hnone : g none = if required then p.fail (.missing key) else z)
    (hitems : ∀ vs, plainField? o key = some (.array vs) →
      Follows p (f (vs, decodings vs)) (g (some (vs, readValues vs)))) :
    Follows p ((entries o).list key required >>= f) ((readFields o).list? p key >>= g) := by
  rw [Entries.list, Fields.list?, get?_entries, Form.get?_readFields]
  cases hv : plainField? o key with
  | none =>
    change Follows p _ (g none)
    rw [hnone]
    cases required with
    | true => exact .refuse_bind _ hempty
    | false => exact hempty
  | some v =>
    cases v with
    | array vs =>
      have hfound := hitems vs hv
      rw [← items_decoding, ← items_reading] at hfound
      exact hfound
    | null | bool | number | bytes | instant | text | object => exact .refuse_bind _ hempty

theorem follows_each (key : String)
    (h : ∀ vs, plainField? o key = some (.array vs) → ∀ v ∈ vs, ∀ q,
      Follows q (walk (decoding v)) (read (reading v) q)) :
    Follows p ((entries o).each key walk) ((readFields o).each p key read) :=
  follows_list_bind key false (.pure []) rfl fun vs hv =>
    follows_eachItem false (below_item p key) vs 0 (h vs hv)

theorem follows_eachRequired (key : String)
    (h : ∀ vs, plainField? o key = some (.array vs) → ∀ v ∈ vs, ∀ q,
      Follows q (walk (decoding v)) (read (reading v) q)) :
    Follows p ((entries o).eachRequired key walk) ((readFields o).eachRequired p key read) :=
  follows_list_bind key true (z := .ok []) (.pure []) rfl fun vs hv =>
    follows_eachItem false (below_item p key) vs 0 (h vs hv)

/-- The list under a key, with the same answer for the walk and its reading. -/
theorem follows_list (key : String) (required : Bool) :
    Follows p ((entries o).list key required)
      (match plainField? o key with
      | none => if required then p.fail (.missing key) else .ok ([], [])
      | some (.array vs) => .ok (vs, decodings vs)
      | some v => p.fail (.notArray key v.kindName)) := by
  rw [Entries.list, get?_entries]
  cases plainField? o key with
  | none =>
    dsimp only [Option.map_none]
    split
    · exact .refuse _
    · exact .pure _
  | some v =>
    cases v with
    | array vs =>
      simp only [Option.map_some, items_decoding]
      exact .pure _
    | null | bool | number | bytes | instant | text | object => exact .refuse _

theorem follows_textItems (key : String) : ∀ (vs : List Value) (i : Nat),
    Follows p (Entries.textItems key i vs) (Fields.textItems (p.key key) i vs)
  | [], _ => .pure []
  | v :: vs, i => by
    cases v with
    | text s => exact .bind (follows_textItems key vs (i + 1)) fun _ => .pure _
    | null | bool | number | bytes | instant | array | object =>
      exact .inside (below_item p key i ▸ .refuse _)

theorem follows_texts? (key : String) :
    Follows p ((entries o).texts? key) ((readFields o).texts? p key) := by
  rw [Entries.texts?, Fields.texts?, Entries.list, Fields.list?, get?_entries, Form.get?_readFields]
  cases plainField? o key with
  | none => exact .pure none
  | some v =>
    cases v with
    | array vs => exact .bind (follows_textItems key vs 0) fun _ => .pure _
    | null | bool | number | bytes | instant | text | object => exact .refuse_bind _ (.pure _)

end Parts

/-! ## Spans, literals and tags -/

theorem follows_coord {p : Place} (o : List (String × Value)) (key : String) :
    Follows p (Decode.coord o key) (readCoord o p key) := by
  rw [Decode.coord, readCoord]
  cases plainField? o key with
  | none => exact .pure 0
  | some v =>
    cases v with
    | number n =>
      simp only [wholeOf?]
      cases n.toInt? with
      | none => exact .refuse _
      | some i =>
        dsimp only
        split
        · exact .pure _
        · exact .refuse _
    | null | bool | text | bytes | instant | array | object => exact .refuse _

theorem follows_position {p : Place} (o : List (String × Value)) (key : String) :
    Follows p (Decode.position o key) (readPosition o p key) := by
  rw [Decode.position, readPosition]
  cases plainField? o key with
  | none => exact .pure _
  | some v =>
    refine .inside ?_
    cases v with
    | object fs =>
      exact .bind (follows_coord fs "line") fun _ => .bind (follows_coord fs "col") fun _ => .pure _
    | null | bool | number | text | bytes | instant | array => exact .refuse_bind _ (.pure _)

section Nodes

variable {o : List (String × Value)} {p : Place}

theorem follows_span : Follows p (entries o).span ((readFields o).span p) := by
  rw [Entries.span, Fields.span, get?_entries, Form.get?_readFields]
  cases plainField? o "span" with
  | none => exact .pure _
  | some v =>
    refine .inside ?_
    cases v with
    | object fs =>
      have hends : ∀ file, Follows (p.key "span")
          (do
            let d ← get
            let start ← Decode.position fs "start"
            let stop ← Decode.position fs "end"
            return (⟨if file = "" then d.source else file, start, stop⟩ : Span))
          (do
            let start ← readPosition fs (p.key "span") "start"
            let stop ← readPosition fs (p.key "span") "end"
            return (⟨if file = "" then p.source else file, start, stop⟩ : Span)) := by
        intro file
        refine .source fun d hd => .bind (follows_position fs "start") fun _ =>
          .bind (follows_position fs "end") fun _ => ?_
        rw [hd]
        exact .pure _
      simp only [Option.map_some, plainFields?, decodeObject, pure_bind, Decode.file]
      cases plainField? fs "file" with
      | none => exact hends ""
      | some w =>
        cases w with
        | text s => exact hends s
        | null | bool | number | bytes | instant | array | object =>
          exact .refuse_bind _ (hends "")
    | null | bool | number | text | bytes | instant | array => exact .refuse_bind _ (.pure _)

theorem follows_literal (kind : String) :
    Follows p ((entries o).literal kind) ((readFields o).literal p kind) := by
  rw [Entries.literal, Fields.literal, get?_entries, Form.get?_readFields]
  split
  · exact .pure _
  cases plainField? o "value" with
  | none => exact .refuse _
  | some v =>
    simp only [Option.map_some]
    split
    · cases v with
      | number n =>
        simp only [wholeOf?]
        cases n.toInt? with
        | none => exact .refuse _
        | some i => exact .pure _
      | _ => exact .refuse _
    · cases v with
      | number n =>
        simp only [wholeOf?]
        cases n.toInt? with
        | none => exact .refuse _
        | some i => exact .pure _
      | _ => exact .refuse _
    · cases v with
      | number n =>
        simp only [doubleOf?]
        cases n.toDouble? with
        | none => exact .refuse _
        | some i => exact .pure _
      | _ => exact .refuse _
    · cases v with
      | text s => exact .pure _
      | _ => exact .refuse _
    · cases v with
      | bool b => simp only [Follows.pure]
      | _ => simp only [Follows.refuse]

theorem follows_effect? : Follows p (entries o).effect? ((readFields o).effect? p) := by
  refine .bind (follows_text? _) fun found => ?_
  cases found with
  | none => exact .pure none
  | some l =>
    dsimp only
    cases Effect.parse l with
    | ok e => exact .pure _
    | error cause => exact .refuse _

theorem follows_capability? :
    Follows p (entries o).capability? ((readFields o).capability? p) := by
  refine .bind (follows_text? _) fun found => ?_
  cases found with
  | none => exact .pure none
  | some l =>
    dsimp only
    cases Capability.parse l with
    | ok e => exact .pure _
    | error cause => exact .refuse _

theorem follows_level : Follows p (entries o).level ((readFields o).level p) := by
  rw [Entries.level, Fields.level, get?_entries, Form.get?_readFields]
  cases plainField? o "level" with
  | none => exact .refuse _
  | some v =>
    simp only [Option.map_some]
    cases v with
    | text l =>
      simp only [levelLabel?]
      cases Level.parse l with
      | ok level => exact .pure _
      | error cause => exact .refuse _
    | number n =>
      simp only [levelLabel?]
      cases n.toInt? with
      | none => exact .refuse _
      | some i =>
        simp only [Option.map_some]
        cases Level.parse (intText i) with
        | ok level => exact .pure _
        | error cause => exact .refuse _
    | null | bool | bytes | instant | array | object => exact .refuse _

end Nodes

/-! ## Nodes -/

/-- **A value is followed** in each position. -/
structure Followed (v : Value) : Prop where
  type : ∀ p, Follows p (decoding v).type ((reading v).type p)
  expr : ∀ p, Follows p (decoding v).expr ((reading v).expr p)
  pattern : ∀ p, Follows p (decoding v).pattern ((reading v).pattern p)
  stmt : ∀ p, Follows p (decoding v).stmt ((reading v).stmt p)
  block : ∀ p, Follows p (decoding v).block ((reading v).block p)
  typedName : ∀ p, Follows p (decoding v).typedName ((reading v).typedName p)
  init : ∀ p, Follows p (decoding v).init ((reading v).init p)
  case : ∀ p, Follows p (decoding v).case ((reading v).case p)

/-- All that stands inside an object is followed. -/
def InnerFollowed (o : List (String × Value)) : Prop :=
  ∀ v, sizeOf v < sizeOf (Value.object o) → Followed v

namespace InnerFollowed

variable {o : List (String × Value)} {p : Place} {α : Type} {walk : Decoding → Decode α}
  {read : Reading → Read α}

theorem items (h : InnerFollowed o) {key : String} {vs : List Value}
    (hkey : plainField? o key = some (.array vs)) : ∀ v ∈ vs, Followed v :=
  fun v hv => h v (Form.sizeOf_item hkey hv)

theorem part [Inhabited α] (h : InnerFollowed o) (key : String)
    (hread : ∀ v, Followed v → ∀ q, Follows q (walk (decoding v)) (read (reading v) q)) :
    Follows p ((entries o).part key walk) ((readFields o).part p key read) :=
  follows_part key fun v hv => hread v (h v (Form.sizeOf_plainField hv))

theorem part? (h : InnerFollowed o) (key : String)
    (hread : ∀ v, Followed v → ∀ q, Follows q (walk (decoding v)) (read (reading v) q)) :
    Follows p ((entries o).part? key walk) ((readFields o).part? p key read) :=
  follows_part? key fun v hv => hread v (h v (Form.sizeOf_plainField hv))

theorem each (h : InnerFollowed o) (key : String)
    (hread : ∀ v, Followed v → ∀ q, Follows q (walk (decoding v)) (read (reading v) q)) :
    Follows p ((entries o).each key walk) ((readFields o).each p key read) :=
  follows_each key fun _ hkey v hv => hread v (h.items hkey v hv)

theorem eachRequired (h : InnerFollowed o) (key : String)
    (hread : ∀ v, Followed v → ∀ q, Follows q (walk (decoding v)) (read (reading v) q)) :
    Follows p ((entries o).eachRequired key walk) ((readFields o).eachRequired p key read) :=
  follows_eachRequired key fun _ hkey v hv => hread v (h.items hkey v hv)

theorem typePart (h : InnerFollowed o) (key : String) :
    Follows p ((entries o).part key (·.type)) ((readFields o).part p key (·.type)) :=
  h.part key fun _ hv => hv.type

theorem exprPart (h : InnerFollowed o) (key : String) :
    Follows p ((entries o).part key (·.expr)) ((readFields o).part p key (·.expr)) :=
  h.part key fun _ hv => hv.expr

theorem patternPart (h : InnerFollowed o) (key : String) :
    Follows p ((entries o).part key (·.pattern)) ((readFields o).part p key (·.pattern)) :=
  h.part key fun _ hv => hv.pattern

theorem blockPart (h : InnerFollowed o) (key : String) :
    Follows p ((entries o).part key (·.block)) ((readFields o).part p key (·.block)) :=
  h.part key fun _ hv => hv.block

theorem exprs (h : InnerFollowed o) (key : String) :
    Follows p ((entries o).each key (·.expr)) ((readFields o).each p key (·.expr)) :=
  h.each key fun _ hv => hv.expr

theorem type (h : InnerFollowed o) : Follows p (entries o).type ((readFields o).type p) := by
  unfold Entries.type Fields.type
  refine .bind (follows_text _) fun kind => .bind follows_span fun s => ?_
  split
  · exact .bind (follows_name _) fun _ => .pure _
  · exact .bind (follows_name _) fun _ => .pure _
  · exact .bind (h.typePart _) fun _ => .pure _
  · exact .bind (h.typePart _) fun _ => .pure _
  · exact .bind (h.typePart _) fun _ => .bind (h.typePart _) fun _ => .pure _
  · exact .bind (h.typePart _) fun _ => .bind (h.typePart _) fun _ => .pure _
  · exact .bind (h.each _ fun _ hv => hv.type) fun _ =>
      .bind (h.part? _ fun _ hv => hv.type) fun _ => .pure _
  · exact .bind (h.typePart _) fun _ => .bind follows_level fun _ =>
      .bind (follows_text? _) fun _ => .pure _
  · simp only [Follows.refuse]

theorem call (h : InnerFollowed o) (s : Span) :
    Follows p ((entries o).call s) (do
      let target ← (readFields o).name p "target"
      let args ← (readFields o).each p "args" (·.expr)
      let effect ← (readFields o).effect? p
      let capability ← (readFields o).capability? p
      return .call s target args effect capability) :=
  .bind (follows_name _) fun _ => .bind (h.exprs _) fun _ => .bind follows_effect? fun _ =>
    .bind follows_capability? fun _ => .pure _

theorem expr (h : InnerFollowed o) : Follows p (entries o).expr ((readFields o).expr p) := by
  unfold Entries.expr Fields.expr
  refine .bind (follows_text _) fun kind => .bind follows_span fun s => ?_
  split
  · exact .bind (follows_literal _) fun _ => .pure _
  split
  · exact .bind (follows_name _) fun _ => .pure _
  · exact .bind (follows_name _) fun _ => .bind (h.exprPart _) fun _ =>
      .bind (h.exprPart _) fun _ => .pure _
  · exact .bind (follows_name _) fun _ => .bind (h.exprPart _) fun _ => .pure _
  · exact h.call s
  · exact .bind (follows_name _) fun _ => .bind (h.each _ fun _ hv => hv.init) fun _ => .pure _
  · exact .bind (h.exprPart _) fun _ => .bind (follows_name _) fun _ => .pure _
  · exact .bind (h.exprPart _) fun _ => .pure _
  · exact .bind (h.exprPart _) fun _ => .pure _
  · exact .bind (h.exprPart _) fun _ => .pure _
  · exact .pure _
  · exact .bind (h.exprs _) fun _ => .pure _
  · exact .bind (h.exprPart _) fun _ => .pure _
  · simp only [Follows.refuse]

theorem init (h : InnerFollowed o) : Follows p (entries o).init ((readFields o).init p) :=
  .bind follows_span fun _ => .bind (follows_name _) fun _ => .bind (h.exprPart _) fun _ => .pure _

theorem typedName (h : InnerFollowed o) :
    Follows p (entries o).typedName ((readFields o).typedName p) :=
  .bind follows_span fun _ => .bind (follows_name _) fun _ => .bind (h.typePart _) fun _ => .pure _

theorem pattern (h : InnerFollowed o) :
    Follows p (entries o).pattern ((readFields o).pattern p) := by
  unfold Entries.pattern Fields.pattern
  refine .bind (follows_text _) fun kind => .bind follows_span fun s => ?_
  split
  · exact .bind (follows_literal _) fun _ => .pure _
  split
  · exact .pure _
  · exact .pure _
  · exact .bind (follows_name _) fun _ => .pure _
  · exact .bind (h.exprPart _) fun _ => .pure _
  · exact .pure _
  · exact .bind (h.patternPart _) fun _ => .pure _
  · exact .bind (h.patternPart _) fun _ => .pure _
  · exact .bind (h.patternPart _) fun _ => .pure _
  · exact .bind (follows_name _) fun _ => .bind (h.each _ fun _ hv => hv.pattern) fun _ => .pure _
  · simp only [Follows.refuse]

theorem case (h : InnerFollowed o) : Follows p (entries o).case ((readFields o).case p) :=
  .bind follows_span fun _ => .bind (h.patternPart _) fun _ => .bind (h.blockPart _) fun _ =>
    .pure _

theorem stmt (h : InnerFollowed o) : Follows p (entries o).stmt ((readFields o).stmt p) := by
  unfold Entries.stmt Fields.stmt
  refine .bind (follows_text _) fun kind => .bind follows_span fun s => ?_
  split
  · exact .bind (follows_name _) fun _ => .bind (h.part? _ fun _ hv => hv.type) fun _ =>
      .bind (h.exprPart _) fun _ => .pure _
  · exact .bind (follows_name _) fun _ => .bind (h.exprPart _) fun _ => .pure _
  · exact .bind (h.part? _ fun _ hv => hv.expr) fun _ => .pure _
  · exact .bind (h.exprPart _) fun _ => .pure _
  · exact .bind (h.exprPart _) fun _ => .bind (h.blockPart _) fun _ =>
      .bind (h.part? _ fun _ hv => hv.block) fun _ => .pure _
  · exact .bind (h.exprPart _) fun _ => .bind (h.eachRequired _ fun _ hv => hv.case) fun _ =>
      .pure _
  · exact .bind (h.blockPart _) fun _ => .pure _
  · exact .bind (h.blockPart _) fun _ => .pure _
  · exact .bind (follows_name _) fun _ => .bind (h.exprPart _) fun _ => .pure _
  · refine .bind (follows_texts? _) fun names => ?_
    cases names with
    | none => exact .refuse _
    | some names => exact .pure _
  · simp only [Follows.refuse]

theorem block (h : InnerFollowed o) : Follows p (entries o).block ((readFields o).block p) :=
  follows_list_bind "statements" true (z := .ok []) (.inside (.pure [])) rfl fun vs hkey =>
    .inside (follows_eachItem true (below_index (p.key "statements")) vs 0
      fun v hv => (h.items hkey v hv).stmt)

end InnerFollowed

end CoreCheck.Ir

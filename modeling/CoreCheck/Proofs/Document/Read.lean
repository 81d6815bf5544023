import CoreCheck.Proofs.Document.Form

/-!
# Proofs/Document/Read — what is read has the form of its document

No part is made up for a value that is missing, and no item is dropped (`isModule_of_ofDocument`).
`Gives` says what a reading gives if it succeeds.  The readers of a node only ask for parts of the
same object, so the proof follows the document inwards: `Reads v` collects what is known of a value
in each position, and one lemma for each kind of node passes it on from the parts.
-/

namespace CoreCheck.Ir

/-! ## Readings that succeed -/

/-- **What a reading gives**, if it succeeds. -/
def Gives {α : Type} (x : Except ContractError α) (Q : α → Prop) : Prop := ∀ a, x = .ok a → Q a

namespace Gives

variable {α β : Type} {x : Except ContractError α} {f : α → Except ContractError β}
  {Q : α → Prop} {R : β → Prop}

theorem pure {a : α} (ha : Q a) : Gives (Pure.pure a) Q := by
  rintro _ ⟨⟩
  exact ha

theorem fail (p : Place) (v : Violation) : Gives (p.fail v : Except ContractError α) Q :=
  fun _ h => nomatch h

theorem bind (hx : Gives x Q) (hf : ∀ a, Q a → Gives (f a) R) : Gives (x >>= f) R := by
  intro b hb
  cases x with
  | error e => exact nomatch hb
  | ok a => exact hf a (hx a rfl) b hb

/-- What was read before does not matter. -/
theorem after (hf : ∀ a, Gives (f a) R) : Gives (x >>= f) R :=
  bind (Q := fun _ => True) (fun _ _ => trivial) fun a _ => hf a

end Gives

namespace Form

open CoreCheck.Document (Value)

/-! ## Reading the fields of one object -/

theorem lookup_readFields (o : List (String × Value)) (key : String) :
    (readFields o).lookup key = (Document.field? o key).map fun v => (v, reading v) := by
  rw [Document.field?]
  induction o with
  | nil => rfl
  | cons e rest ih =>
    rw [readFields, List.lookup_cons, List.lookup_cons]
    split
    · rfl
    · exact ih

/-- Looking a key up in the fields that are read finds its value with the reading of that value. -/
theorem get?_readFields (o : List (String × Value)) (key : String) :
    (readFields o).get? key = (plainField? o key).map fun v => (v, reading v) := by
  rw [Fields.get?, lookup_readFields, plainField?]
  cases Document.field? o key with
  | none => rfl
  | some v => cases hv : v.isNull <;> simp [Option.filter, hv]

theorem has_readFields (o : List (String × Value)) (key : String) :
    (readFields o).has key = (Document.field? o key).isSome := by
  rw [Fields.has, lookup_readFields, Option.isSome_map]

/-- The value of a key is a smaller document. -/
theorem sizeOf_plainField {o : List (String × Value)} {key : String} {v : Value}
    (h : plainField? o key = some v) : sizeOf v < sizeOf (Value.object o) := by
  obtain ⟨hv, -⟩ := Option.filter_eq_some_iff.1 h
  obtain ⟨l₁, l₂, rfl, -⟩ := List.lookup_eq_some_iff.1 hv
  have := List.sizeOf_lt_of_mem (List.mem_append_right l₁ (.head l₂ : (key, v) ∈ (key, v) :: l₂))
  simp only [Value.object.sizeOf_spec, Prod.mk.sizeOf_spec] at this ⊢
  omega

/-- So is every item of a list that stands there. -/
theorem sizeOf_item {o : List (String × Value)} {key : String} {vs : List Value} {v : Value}
    (h : plainField? o key = some (.array vs)) (hv : v ∈ vs) :
    sizeOf v < sizeOf (Value.object o) := by
  have hitem := List.sizeOf_lt_of_mem hv
  have harray := sizeOf_plainField h
  rw [Value.array.sizeOf_spec] at harray
  omega

section Readers

variable {α : Type} {o : List (String × Value)} {read : Reading → Read α} {R : Value → α → Prop}

theorem gives_text (p : Place) (key : String) :
    Gives ((readFields o).text p key) fun s => plainField? o key = some (.text s) := by
  rw [Fields.text, get?_readFields]
  cases h : plainField? o key with
  | none => exact .fail _ _
  | some v =>
    cases v with
    | text s => exact .pure rfl
    | null | bool | number | bytes | instant | array | object => exact .fail _ _

theorem gives_text? (p : Place) (key : String) :
    Gives ((readFields o).text? p key) (PartOpt IsText o key) := by
  rw [Fields.text?, get?_readFields]
  cases h : plainField? o key with
  | none => exact .pure (.absent h)
  | some v =>
    cases v with
    | text s => exact .pure (.given h rfl)
    | null | bool | number | bytes | instant | array | object => exact .fail _ _

theorem gives_name (p : Place) (key : String) :
    Gives ((readFields o).name p key) (Part IsName o key) := by
  rw [Fields.name]
  refine .bind (gives_text p key) fun s hs => ?_
  cases hb : Text.isBlankText s with
  | true => exact .fail _ _
  | false => exact .pure (.given hs ⟨rfl, hb⟩)

theorem gives_part (p : Place) (key : String)
    (h : ∀ v, plainField? o key = some v → ∀ q, Gives (read (reading v) q) (R v)) :
    Gives ((readFields o).part p key read) (Part R o key) := by
  rw [Fields.part, get?_readFields]
  cases hv : plainField? o key with
  | none => exact .fail _ _
  | some v => exact fun a ha => .given hv (h v hv _ a ha)

theorem gives_part? (p : Place) (key : String)
    (h : ∀ v, plainField? o key = some v → ∀ q, Gives (read (reading v) q) (R v)) :
    Gives ((readFields o).part? p key read) (PartOpt R o key) := by
  rw [Fields.part?, get?_readFields]
  cases hv : plainField? o key with
  | none => exact .pure (.absent hv)
  | some v => exact .bind (h v hv _) fun a ha => .pure (.given hv ha)

/-- **Reading items drops none and keeps their order.** -/
theorem gives_readItems (p : Place) : ∀ (vs : List Value) (i : Nat),
    (∀ v ∈ vs, ∀ q, Gives (read (reading v) q) (R v)) →
      Gives (Fields.readItems read p i (readValues vs)) (List.Forall₂ R vs)
  | [], _, _ => .pure .nil
  | v :: vs, i, h => by
    rw [readValues, Fields.readItems]
    exact .bind (h v (.head _) _) fun x hx =>
      .bind (gives_readItems p vs _ fun w hw => h w (.tail _ hw)) fun xs hxs => .pure (.cons hx hxs)

/-- The list under a key is an array of the object. -/
theorem gives_list? (p : Place) (key : String) : Gives ((readFields o).list? p key) fun found =>
    (found = none ∧ plainField? o key = none) ∨
      ∃ vs, found = some (vs, readValues vs) ∧ plainField? o key = some (.array vs) := by
  rw [Fields.list?, get?_readFields]
  cases h : plainField? o key with
  | none => exact .pure (.inl ⟨rfl, rfl⟩)
  | some v =>
    cases v with
    | array vs => exact .pure (.inr ⟨vs, by rw [reading]; rfl, rfl⟩)
    | null | bool | number | bytes | instant | text | object => exact .fail _ _

theorem gives_each (p : Place) (key : String)
    (h : ∀ vs, plainField? o key = some (.array vs) → ∀ v ∈ vs, ∀ q,
      Gives (read (reading v) q) (R v)) :
    Gives ((readFields o).each p key read) (ListOpt R o key) := by
  rw [Fields.each]
  refine .bind (gives_list? p key) fun found hfound => ?_
  obtain ⟨rfl, hkey⟩ | ⟨vs, rfl, hkey⟩ := hfound
  · exact .pure (.absent hkey)
  · exact fun xs hxs => .given hkey (.array (gives_readItems _ vs _ (h vs hkey) xs hxs))

theorem gives_eachRequired (p : Place) (key : String)
    (h : ∀ vs, plainField? o key = some (.array vs) → ∀ v ∈ vs, ∀ q,
      Gives (read (reading v) q) (R v)) :
    Gives ((readFields o).eachRequired p key read) (Part (IsList R) o key) := by
  rw [Fields.eachRequired]
  refine .bind (gives_list? p key) fun found hfound => ?_
  obtain ⟨rfl, hkey⟩ | ⟨vs, rfl, hkey⟩ := hfound
  · exact .fail _ _
  · exact fun xs hxs => .given hkey (.array (gives_readItems _ vs _ (h vs hkey) xs hxs))

theorem gives_textItems (p : Place) : ∀ (vs : List Value) (i : Nat),
    Gives (Fields.textItems p i vs) (List.Forall₂ IsText vs)
  | [], _ => .pure .nil
  | .text _ :: vs, i =>
    .bind (gives_textItems p vs (i + 1)) fun _ hss => .pure (.cons rfl hss)
  | .null :: _, _ | .bool _ :: _, _ | .number _ :: _, _ | .bytes _ :: _, _ | .instant _ :: _, _
  | .array _ :: _, _ | .object _ :: _, _ => .fail _ _

theorem gives_texts? (p : Place) (key : String) :
    Gives ((readFields o).texts? p key) (PartOpt (IsList IsText) o key) := by
  rw [Fields.texts?]
  refine .bind (gives_list? p key) fun found hfound => ?_
  obtain ⟨rfl, hkey⟩ | ⟨vs, rfl, hkey⟩ := hfound
  · exact .pure (.absent hkey)
  · exact .bind (gives_textItems _ vs _) fun ss hss => .pure (.given hkey (.array hss))

/-- A list that was left out counts as empty. -/
theorem PartOpt.getD {xs : Option (List α)} {key : String} (h : PartOpt (IsList R) o key xs) :
    ListOpt R o key (xs.getD []) := by
  cases h with
  | absent hkey => exact .absent hkey
  | given hkey hxs => exact .given hkey hxs

end Readers

/-! ## Spans, literals and tags -/

theorem gives_readCoord (fields : List (String × Value)) (p : Place) (key : String) :
    Gives (readCoord fields p key) (· < 2 ^ 32) := by
  unfold readCoord
  split
  · exact .pure (by decide)
  · dsimp only
    split
    · exact .fail _ _
    · split
      · exact .pure (by omega)
      · exact .fail _ _

theorem gives_readPosition (fields : List (String × Value)) (p : Place) (key : String) :
    Gives (readPosition fields p key) Position.Fits := by
  unfold readPosition
  split
  · exact .pure ⟨by decide, by decide⟩
  · split
    · exact .fail _ _
    · exact .bind (gives_readCoord _ _ _) fun _ hline =>
        .bind (gives_readCoord _ _ _) fun _ hcol => .pure ⟨hline, hcol⟩

/-- **Every span that is read fits 32 bits.** -/
theorem gives_span (o : Fields) (p : Place) : Gives (o.span p) Span.Fits := by
  unfold Fields.span
  split
  · exact .pure ⟨⟨by decide, by decide⟩, by decide, by decide⟩
  · dsimp only
    split
    · exact .fail _ _
    · -- the file does not matter, whether it is given, left out or no text
      split <;> exact .after fun _ => .bind (gives_readPosition _ _ _) fun _ hstart =>
        .bind (gives_readPosition _ _ _) fun _ hstop => .pure ⟨hstart, hstop⟩

theorem gives_level (o : Fields) (p : Place) : Gives (o.level p) Level.Named := by
  have hparse : ∀ label l, Level.parse label = .ok l → l.Named := by
    intro label l h
    unfold Level.parse at h
    split at h
    · exact .inl (Except.ok.inj h).symm
    · exact .inl (Except.ok.inj h).symm
    · exact .inr (.inl (Except.ok.inj h).symm)
    · exact .inr (.inl (Except.ok.inj h).symm)
    · exact .inr (.inr (Except.ok.inj h).symm)
    · exact .inr (.inr (Except.ok.inj h).symm)
    · exact nomatch h
  unfold Fields.level
  split
  · exact .fail _ _
  · dsimp only
    split
    · exact .fail _ _
    · split
      · next h => exact .pure (hparse _ _ h)
      · exact .fail _ _

section Nodes

variable {o : List (String × Value)}

theorem gives_literal (p : Place) {kind : String} (hkind : isLiteralKind kind = true) :
    Gives ((readFields o).literal p kind) (IsLiteral o kind) := by
  have hkinds : kind = "int" ∨ kind = "long" ∨ kind = "double" ∨ kind = "string" ∨ kind = "bool" ∨
      kind = "null" := by
    simpa [isLiteralKind] using hkind
  rw [Fields.literal, get?_readFields]
  split
  · next hnull =>
    subst hnull
    exact .pure .null
  · next hnull =>
    cases hv : plainField? o "value" with
    | none => exact .fail _ _
    | some v =>
      obtain rfl | rfl | rfl | rfl | rfl | rfl := hkinds
      · cases v with
        | number n =>
          simp only [Option.map_some]
          split
          · exact .fail _ _
          · next hi => exact .pure (.int hv hi)
        | _ => exact .fail _ _
      · cases v with
        | number n =>
          simp only [Option.map_some]
          split
          · exact .fail _ _
          · next hi => exact .pure (.long hv hi)
        | _ => exact .fail _ _
      · cases v with
        | number n =>
          simp only [Option.map_some]
          split
          · exact .fail _ _
          · next hx => exact .pure (.double hv hx)
        | _ => exact .fail _ _
      · cases v with
        | text s => exact .pure (.text hv)
        | _ => exact .fail _ _
      · cases v with
        | bool b => exact .pure (.bool hv)
        | _ => exact .fail _ _
      · exact absurd rfl hnull

theorem gives_effect? (p : Place) :
    Gives ((readFields o).effect? p) (PartOpt IsEffect o "effect") := by
  rw [Fields.effect?]
  refine .bind (gives_text? p _) fun found hfound => ?_
  cases hfound with
  | absent hkey => exact .pure (.absent hkey)
  | given hkey hl =>
    dsimp only
    split
    · next he => exact Gives.pure (PartOpt.given hkey ⟨_, hl, he⟩)
    · exact .fail _ _

theorem gives_capability? (p : Place) :
    Gives ((readFields o).capability? p) (PartOpt IsCapability o "capability") := by
  rw [Fields.capability?]
  refine .bind (gives_text? p _) fun found hfound => ?_
  cases hfound with
  | absent hkey => exact .pure (.absent hkey)
  | given hkey hl =>
    dsimp only
    split
    · next hc => exact Gives.pure (PartOpt.given hkey ⟨_, hl, hc⟩)
    · exact .fail _ _

end Nodes

/-! ## Nodes that were read -/

/-- **What a value reads as has the form of that value**, in each position. -/
structure Reads (v : Value) : Prop where
  type : ∀ p, Gives ((reading v).type p) (IsType v)
  expr : ∀ p, Gives ((reading v).expr p) (IsExpr v)
  pattern : ∀ p, Gives ((reading v).pattern p) (IsPattern v)
  stmt : ∀ p, Gives ((reading v).stmt p) (IsStmt v)
  block : ∀ p, Gives ((reading v).block p) (IsBlock v)
  typedName : ∀ p, Gives ((reading v).typedName p) (IsTypedName v)
  init : ∀ p, Gives ((reading v).init p) (IsInit v)
  case : ∀ p, Gives ((reading v).case p) (IsCase v)

/-- All that stands inside an object reads as it should. -/
def Inner (o : List (String × Value)) : Prop := ∀ v, sizeOf v < sizeOf (Value.object o) → Reads v

namespace Inner

variable {o : List (String × Value)} {α : Type} {read : Reading → Read α} {R : Value → α → Prop}

theorem items (h : Inner o) {key : String} {vs : List Value}
    (hkey : plainField? o key = some (.array vs)) : ∀ v ∈ vs, Reads v :=
  fun v hv => h v (sizeOf_item hkey hv)

theorem part (h : Inner o) (hread : ∀ v, Reads v → ∀ q, Gives (read (reading v) q) (R v))
    (p : Place) (key : String) : Gives ((readFields o).part p key read) (Part R o key) :=
  gives_part p key fun v hv => hread v (h v (sizeOf_plainField hv))

theorem part? (h : Inner o) (hread : ∀ v, Reads v → ∀ q, Gives (read (reading v) q) (R v))
    (p : Place) (key : String) : Gives ((readFields o).part? p key read) (PartOpt R o key) :=
  gives_part? p key fun v hv => hread v (h v (sizeOf_plainField hv))

theorem each (h : Inner o) (hread : ∀ v, Reads v → ∀ q, Gives (read (reading v) q) (R v))
    (p : Place) (key : String) : Gives ((readFields o).each p key read) (ListOpt R o key) :=
  gives_each p key fun _ hkey v hv => hread v (h.items hkey v hv)

theorem eachRequired (h : Inner o)
    (hread : ∀ v, Reads v → ∀ q, Gives (read (reading v) q) (R v)) (p : Place) (key : String) :
    Gives ((readFields o).eachRequired p key read) (Part (IsList R) o key) :=
  gives_eachRequired p key fun _ hkey v hv => hread v (h.items hkey v hv)

theorem gives_type (h : Inner o) (p : Place) :
    Gives ((readFields o).type p) (IsType (.object o)) := by
  have hpart : ∀ key, Gives ((readFields o).part p key (·.type)) (Part IsType o key) :=
    h.part (fun _ hv => hv.type) p
  unfold Fields.type
  refine .bind (gives_text p _) fun kind hkind => .bind (gives_span _ p) fun s hs => ?_
  split
  · exact .bind (gives_name p _) fun _ hn => .pure (.name ⟨hkind, hs⟩ hn)
  · exact .bind (gives_name p _) fun _ hn => .pure (.var ⟨hkind, hs⟩ hn)
  · exact .bind (hpart _) fun _ ht => .pure (.optional ⟨hkind, hs⟩ ht)
  · exact .bind (hpart _) fun _ ht => .pure (.list ⟨hkind, hs⟩ ht)
  · exact .bind (hpart _) fun _ hk => .bind (hpart _) fun _ ht => .pure (.map ⟨hkind, hs⟩ hk ht)
  · exact .bind (hpart _) fun _ ht => .bind (hpart _) fun _ hu => .pure (.result ⟨hkind, hs⟩ ht hu)
  · exact .bind (h.each (fun _ hv => hv.type) p _) fun _ hps =>
      .bind (h.part? (fun _ hv => hv.type) p _) fun _ hret => .pure (.func ⟨hkind, hs⟩ hps hret)
  · exact .bind (hpart _) fun _ ht => .bind (gives_level _ p) fun _ hl =>
      .bind (gives_text? p _) fun _ hc => .pure (.pii ⟨hkind, hs⟩ ht hl hc)
  · exact .fail _ _

theorem gives_expr (h : Inner o) (p : Place) :
    Gives ((readFields o).expr p) (IsExpr (.object o)) := by
  have hpart : ∀ key, Gives ((readFields o).part p key (·.expr)) (Part IsExpr o key) :=
    h.part (fun _ hv => hv.expr) p
  have heach : ∀ key, Gives ((readFields o).each p key (·.expr)) (ListOpt IsExpr o key) :=
    h.each (fun _ hv => hv.expr) p
  unfold Fields.expr
  refine .bind (gives_text p _) fun kind hkind => .bind (gives_span _ p) fun s hs => ?_
  split
  · next hlit =>
    exact .bind (gives_literal p hlit) fun _ hl => .pure (.literal ⟨hkind, hs⟩ hl)
  split
  · exact .bind (gives_name p _) fun _ hn => .pure (.name ⟨hkind, hs⟩ hn)
  · exact .bind (gives_name p _) fun _ hop => .bind (hpart _) fun _ hl =>
      .bind (hpart _) fun _ hr => .pure (.binary ⟨hkind, hs⟩ hop hl hr)
  · exact .bind (gives_name p _) fun _ hop => .bind (hpart _) fun _ he =>
      .pure (.unary ⟨hkind, hs⟩ hop he)
  · exact .bind (gives_name p _) fun _ ht => .bind (heach _) fun _ hargs =>
      .bind (gives_effect? p) fun _ he => .bind (gives_capability? p) fun _ hc =>
        .pure (.call ⟨hkind, hs⟩ ht hargs he hc)
  · exact .bind (gives_name p _) fun _ ht => .bind (h.each (fun _ hv => hv.init) p _) fun _ hfs =>
      .pure (.construct ⟨hkind, hs⟩ ht hfs)
  · exact .bind (hpart _) fun _ he => .bind (gives_name p _) fun _ hf =>
      .pure (.member ⟨hkind, hs⟩ he hf)
  · exact .bind (hpart _) fun _ he => .pure (.wrap (k := .some) ⟨hkind, hs⟩ he)
  · exact .bind (hpart _) fun _ he => .pure (.wrap (k := .ok) ⟨hkind, hs⟩ he)
  · exact .bind (hpart _) fun _ he => .pure (.wrap (k := .err) ⟨hkind, hs⟩ he)
  · exact .pure (.none ⟨hkind, hs⟩)
  · exact .bind (heach _) fun _ hitems => .pure (.list ⟨hkind, hs⟩ hitems)
  · exact .bind (hpart _) fun _ he => .pure (.await ⟨hkind, hs⟩ he)
  · exact .fail _ _

theorem gives_init (h : Inner o) (p : Place) :
    Gives ((readFields o).init p) (IsInit (.object o)) :=
  .bind (gives_span _ p) fun _ hs => .bind (gives_name p _) fun _ hn =>
    .bind (h.part (fun _ hv => hv.expr) p _) fun _ he => .pure (.mk hs hn he)

theorem gives_typedName (h : Inner o) (p : Place) :
    Gives ((readFields o).typedName p) (IsTypedName (.object o)) :=
  .bind (gives_span _ p) fun _ hs => .bind (gives_name p _) fun _ hn =>
    .bind (h.part (fun _ hv => hv.type) p _) fun _ ht => .pure (.mk hs hn ht)

theorem gives_pattern (h : Inner o) (p : Place) :
    Gives ((readFields o).pattern p) (IsPattern (.object o)) := by
  have hpart : ∀ key, Gives ((readFields o).part p key (·.pattern)) (Part IsPattern o key) :=
    h.part (fun _ hv => hv.pattern) p
  unfold Fields.pattern
  refine .bind (gives_text p _) fun kind hkind => .bind (gives_span _ p) fun s hs => ?_
  split
  · next hlit =>
    exact .bind (gives_literal p hlit) fun _ hl => .pure (.bare ⟨hkind, hs⟩ hl)
  split
  · exact .pure (.wildcard (.inl rfl) ⟨hkind, hs⟩)
  · exact .pure (.wildcard (.inr rfl) ⟨hkind, hs⟩)
  · exact .bind (gives_name p _) fun _ hn => .pure (.name ⟨hkind, hs⟩ hn)
  · exact .bind (h.part (fun _ hv => hv.expr) p _) fun _ he => .pure (.literal ⟨hkind, hs⟩ he)
  · exact .pure (.none ⟨hkind, hs⟩)
  · exact .bind (hpart _) fun _ hq => .pure (.wrap (k := .some) ⟨hkind, hs⟩ hq)
  · exact .bind (hpart _) fun _ hq => .pure (.wrap (k := .ok) ⟨hkind, hs⟩ hq)
  · exact .bind (hpart _) fun _ hq => .pure (.wrap (k := .err) ⟨hkind, hs⟩ hq)
  · exact .bind (gives_name p _) fun _ ht => .bind (h.each (fun _ hv => hv.pattern) p _)
      fun _ hargs => .pure (.ctor ⟨hkind, hs⟩ ht hargs)
  · exact .fail _ _

theorem gives_case (h : Inner o) (p : Place) :
    Gives ((readFields o).case p) (IsCase (.object o)) :=
  .bind (gives_span _ p) fun _ hs => .bind (h.part (fun _ hv => hv.pattern) p _) fun _ hq =>
    .bind (h.part (fun _ hv => hv.block) p _) fun _ hb => .pure (.mk hs hq hb)

theorem gives_stmt (h : Inner o) (p : Place) :
    Gives ((readFields o).stmt p) (IsStmt (.object o)) := by
  have hexpr : ∀ key, Gives ((readFields o).part p key (·.expr)) (Part IsExpr o key) :=
    h.part (fun _ hv => hv.expr) p
  have hblock : ∀ key, Gives ((readFields o).part p key (·.block)) (Part IsBlock o key) :=
    h.part (fun _ hv => hv.block) p
  unfold Fields.stmt
  refine .bind (gives_text p _) fun kind hkind => .bind (gives_span _ p) fun s hs => ?_
  split
  · exact .bind (gives_name p _) fun _ hn => .bind (h.part? (fun _ hv => hv.type) p _) fun _ ht =>
      .bind (hexpr _) fun _ he => .pure (.bind ⟨hkind, hs⟩ hn ht he)
  · exact .bind (gives_name p _) fun _ hn => .bind (hexpr _) fun _ he =>
      .pure (.set ⟨hkind, hs⟩ hn he)
  · exact .bind (h.part? (fun _ hv => hv.expr) p _) fun _ he => .pure (.ret ⟨hkind, hs⟩ he)
  · exact .bind (hexpr _) fun _ he => .pure (.eval ⟨hkind, hs⟩ he)
  · exact .bind (hexpr _) fun _ he => .bind (hblock _) fun _ hyes =>
      .bind (h.part? (fun _ hv => hv.block) p _) fun _ hno =>
        .pure (.branch ⟨hkind, hs⟩ he hyes hno)
  · exact .bind (hexpr _) fun _ he => .bind (h.eachRequired (fun _ hv => hv.case) p _)
      fun _ hcs => .pure (.select ⟨hkind, hs⟩ he hcs)
  · exact .bind (hblock _) fun _ hb => .pure (.scope (.inl rfl) ⟨hkind, hs⟩ hb)
  · exact .bind (hblock _) fun _ hb => .pure (.scope (.inr rfl) ⟨hkind, hs⟩ hb)
  · exact .bind (gives_name p _) fun _ hn => .bind (hexpr _) fun _ he =>
      .pure (.start ⟨hkind, hs⟩ hn he)
  · refine .bind (gives_texts? p _) fun names hnames => ?_
    cases hnames with
    | absent => exact .fail _ _
    | given hkey hnames => exact .pure (.wait ⟨hkind, hs⟩ (.given hkey hnames))
  · exact .fail _ _

theorem gives_block (h : Inner o) (p : Place) :
    Gives ((readFields o).block p) (IsBlock (.object o)) := fun ss hss =>
  .object (h.eachRequired (fun _ hv => hv.stmt) p _ ss hss)

end Inner

/-! ## Documents that were read -/

theorem reads_object {o : List (String × Value)} (h : Inner o) : Reads (.object o) where
  type := by rw [reading]; exact h.gives_type
  expr := by rw [reading]; exact h.gives_expr
  pattern := by rw [reading]; exact h.gives_pattern
  stmt := by rw [reading]; exact h.gives_stmt
  block := by rw [reading]; exact h.gives_block
  typedName := by rw [reading]; exact h.gives_typedName
  init := by rw [reading]; exact h.gives_init
  case := by rw [reading]; exact h.gives_case

/-- A value of another kind stands for a type or a block at most. -/
theorem reads_of_type_block (kind : String) {v : Value} {r : Reading} (hr : reading v = r)
    (hother : r = { Reading.ofOther kind with type := r.type, block := r.block, items := r.items })
    (htype : ∀ p, Gives (r.type p) (IsType v)) (hblock : ∀ p, Gives (r.block p) (IsBlock v)) :
    Reads v := by
  subst hr
  refine ⟨htype, ?_, ?_, ?_, hblock, ?_, ?_, ?_⟩ <;>
    · intro p
      rw [hother]
      exact .fail _ _

theorem reads_other {v : Value} {kind : String} (h : reading v = .ofOther kind) : Reads v :=
  reads_of_type_block kind h rfl (fun _ => .fail _ _) fun _ => .fail _ _

theorem reads_text (s : String) : Reads (.text s) := by
  refine reads_of_type_block "string" (by rw [reading]) rfl (fun p => ?_) fun _ => .fail _ _
  change Gives (if s = "" then p.fail .emptyTypeName else .ok (TypeExpr.name {} s)) _
  split
  · exact .fail _ _
  · next hs => exact .pure (.short hs)

theorem reads_array {vs : List Value} (h : ∀ v ∈ vs, Reads v) : Reads (.array vs) := by
  refine reads_of_type_block "array" (by rw [reading]) rfl (fun _ => .fail _ _)
    fun p ss hss => ?_
  exact .array (.array (gives_readItems p vs 0 (fun v hv => (h v hv).stmt) ss hss))

/-- **Whatever a value reads as has the form of that value.** -/
theorem reads : ∀ v : Value, Reads v
  | .object _ => reads_object fun v _ => reads v
  | .array _ => reads_array fun v _ => reads v
  | .text s => reads_text s
  | .null => reads_other (by rw [reading])
  | .bool _ => reads_other (by rw [reading])
  | .number _ => reads_other (by rw [reading])
  | .bytes _ => reads_other (by rw [reading])
  | .instant _ => reads_other (by rw [reading])
termination_by v => sizeOf v
decreasing_by
  · assumption
  · decreasing_tactic

/-! ## Declarations that were read -/

section Declarations

variable (o : List (String × Value))

theorem inner : Inner o := fun v _ => reads v

theorem gives_declaredEffect (p : Place) :
    Gives ((readFields o).declaredEffect p) (DeclaresEffect o) := by
  rw [Fields.declaredEffect]
  refine .bind (gives_texts? p _) fun labels hlabels =>
    .bind (gives_text? p _) fun single hsingle => ?_
  split
  · next he => exact .pure ⟨_, single, hlabels.getD, hsingle, he⟩
  · exact .fail _ _

theorem gives_readCapabilities (p : Place) {vs : List Value} {labels : List String}
    (h : List.Forall₂ IsText vs labels) : ∀ i,
      Gives (Fields.readCapabilities p i labels) (List.Forall₂ IsCapability vs) := by
  induction h with
  | nil => exact fun _ => .pure .nil
  | cons hl _ ih =>
    intro i
    rw [Fields.readCapabilities]
    split
    · exact .fail _ _
    · next hc => exact .bind (ih _) fun _ hcs => .pure (.cons ⟨_, hl, hc⟩ hcs)

theorem gives_declaredCapabilities (p : Place) :
    Gives ((readFields o).declaredCapabilities p)
      (PartOpt (IsList IsCapability) o "capabilities") := by
  rw [Fields.declaredCapabilities]
  refine .bind (gives_texts? p _) fun found hfound => ?_
  cases hfound with
  | absent hkey => exact .pure (.absent hkey)
  | given hkey hlabels =>
    cases hlabels with
    | array hlabels =>
      exact .bind (gives_readCapabilities _ hlabels _) fun _ hcs => .pure (.given hkey (.array hcs))

theorem gives_func (p : Place) (s : Span) :
    Gives ((readFields o).func p s) fun f => f.span = s ∧ IsFunc o f :=
  .bind (gives_name p _) fun _ hn => .bind (gives_texts? p _) fun _ htps =>
    .bind ((inner o).each (fun _ hv => hv.typedName) p _) fun _ hps =>
      .bind ((inner o).part? (fun _ hv => hv.type) p _) fun _ hret =>
        .bind (gives_declaredEffect o p) fun _ he =>
          .bind (gives_declaredCapabilities o p) fun _ hcs =>
            .bind ((inner o).part (fun _ hv => hv.block) p _) fun _ hb =>
              .pure ⟨rfl, hn, htps.getD, hps, hret, he, hcs, hb⟩

theorem gives_decl (p : Place) : Gives ((readFields o).decl p) (IsDecl (.object o)) := by
  have hfunc : ∀ kind s, kind = "func" ∨ kind = "fn" ∨ kind = "function" →
      plainField? o "kind" = some (.text kind) → s.Fits →
        Gives (do return Decl.func (← (readFields o).func p s)) (IsDecl (.object o)) := by
    intro kind s hkind hkey hs
    refine .bind (gives_func o p s) fun f hf => .pure (.func hkind ⟨hkey, ?_⟩ hf.2)
    rw [hf.1]
    exact hs
  have htype : ∀ key, Gives ((readFields o).part p key (·.type)) (Part IsType o key) :=
    (inner o).part (fun _ hv => hv.type) p
  unfold Fields.decl
  refine .bind (gives_text p _) fun kind hkind => .bind (gives_span _ p) fun s hs => ?_
  split
  · exact hfunc _ s (.inl rfl) hkind hs
  · exact hfunc _ s (.inr (.inl rfl)) hkind hs
  · exact hfunc _ s (.inr (.inr rfl)) hkind hs
  · exact .bind (gives_name p _) fun _ hn => .bind ((inner o).each (fun _ hv => hv.typedName) p _)
      fun _ hfs => .pure (.data ⟨hkind, hs⟩ hn hfs)
  · exact .bind (gives_name p _) fun _ hn => .bind (gives_texts? p _) fun _ hvs =>
      .pure (.enum ⟨hkind, hs⟩ hn hvs.getD)
  · exact .bind (gives_name p _) fun _ hn => .bind (htype _) fun _ ht =>
      .pure (.aliased (.inl rfl) ⟨hkind, hs⟩ hn ht)
  · exact .bind (gives_name p _) fun _ hn => .bind (htype _) fun _ ht =>
      .pure (.aliased (.inr rfl) ⟨hkind, hs⟩ hn ht)
  · exact .bind (gives_name p _) fun _ hn => .pure (.imported ⟨hkind, hs⟩ hn)
  · exact .fail _ _

end Declarations

theorem gives_readDecls (p : Place) : ∀ (vs : List Value) (i : Nat),
    Gives (readDecls p i vs) (List.Forall₂ IsDecl vs)
  | [], _ => .pure .nil
  | v :: vs, i => by
    have hdecl : Gives (readDecl v (p.index i)) (IsDecl v) := by
      unfold readDecl
      split
      · exact gives_decl _ _
      · exact .fail _ _
    rw [readDecls]
    exact .bind hdecl fun _ hd => .bind (gives_readDecls p vs _) fun _ hds => .pure (.cons hd hds)

theorem gives_ofDocument (source : String) (v : Value) :
    Gives (Module.ofDocument source v) (IsModule v) := by
  unfold Module.ofDocument
  dsimp only
  split
  · next o =>
    refine .after fun _ => .bind (gives_name _ _) fun _ hn => ?_
    generalize hk : (if !(readFields o).has "decls" && (readFields o).has "declarations" then
      "declarations" else "decls") = key
    have hkey : key = "decls" ∨ (key = "declarations" ∧ Document.field? o "decls" = none) := by
      rw [has_readFields, has_readFields] at hk
      split at hk
      · next hcond => exact .inr ⟨hk.symm, by simpa using (Bool.and_eq_true_iff.1 hcond).1⟩
      · exact .inl hk.symm
    refine .bind (gives_list? _ _) fun found hfound => ?_
    obtain ⟨rfl, -⟩ | ⟨vs, rfl, hvs⟩ := hfound
    · exact .fail _ _
    · exact .bind (gives_readDecls _ _ _) fun _ hds =>
        .pure (.mk hkey rfl hn (.given hvs (.array hds)))
  · exact .fail _ _

/-- **A module that was read has the form of its document**: every part that is required comes from
a value of the document, every list has the items of its array in their order, names are not blank,
levels have a name, tags are those that their labels name, and spans fit 32 bits. -/
theorem isModule_of_ofDocument {source : String} {v : Value} {m : Module}
    (h : Module.ofDocument source v = .ok m) : IsModule v m :=
  gives_ofDocument source v m h

/-- A function that logs what an optional mail holds, as a document. -/
def logsMailDocument : Value :=
  let node (kind : String) (rest : List (String × Value)) : Value :=
    .object (("kind", .text kind) :: rest)
  let name (n : String) : Value := node "name" [("name", .text n)]
  .object [("name", .text "m"), ("declarations", .array [
    node "fn" [
      ("name", .text "f"),
      ("params", .array [.object [("name", .text "mail"), ("type", node "optional" [
        ("type", node "pii" [("type", .text "Text"), ("level", .number (.integer 3))])])]]),
      ("effect", .text "IO"),
      ("capabilities", .array [.text "fs"]),
      ("body", .array [node "match" [
        ("expr", name "mail"),
        ("cases", .array [
          .object [("pattern", node "some" [("pattern", name "x")]),
            ("body", .array [node "expr" [("expr", node "call" [("target", .text "Log.write"),
              ("args", .array [name "x", node "int" [("value", .number (.written "2"))]])])]])],
          .object [("pattern", node "none" []), ("body", .object [("statements", .array [
            node "return" [("span", .object [("start", .object [
              ("line", .number (.integer 4294967295))])])]])])]])]])]])]

/-- What that document says. -/
def logsMail : Module where
  version := 1
  name := "m"
  source := "mail.json"
  decls := [.func {
    span := {}
    name := "f"
    typeParams := []
    params := [⟨{}, "mail", .optional {} (.pii {} (.name {} "Text") .l3 "")⟩]
    ret := none
    effect := .io
    capabilities := some [.files]
    body := [.select {} (.name {} "mail") [
      .mk {} (.wrap {} .some (.name {} "x"))
        [.eval {} (.call {} "Log.write" [.name {} "x", .literal {} (.int 2)] none none)],
      .mk {} (.none {}) [.ret ⟨"mail.json", ⟨4294967295, 0⟩, {}⟩ none]]] }]

theorem isModule_logsMail :
    Module.ofDocument "mail.json" logsMailDocument = .ok logsMail ∧
      IsModule logsMailDocument logsMail :=
  have hread : Module.ofDocument "mail.json" logsMailDocument = .ok logsMail := rfl
  ⟨hread, isModule_of_ofDocument hread⟩

end Form

end CoreCheck.Ir

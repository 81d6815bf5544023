import Mathlib.Algebra.Ring.Int.Defs
import CoreCheck.Proofs.Document.Integers
import CoreCheck.Proofs.Document.Read

/-!
# Proofs/Document/Tree — documents apart from their format

A tree of nulls, booleans, whole numbers, texts, lists and objects has a JSON form, with its numbers
in decimal, and a MessagePack form, with its numbers in binary.  `Alike` compares what two readings
give: the same, unless the second one is refused at a huge double.  Here are the readings that go
into no part of an object: texts, tags, levels, spans and literals.
-/

namespace CoreCheck.Ir

open CoreCheck.Document (Value Number Step)

/-! ## Trees and their two forms -/

/-- The whole numbers of at most 64 bits, with or without a sign. -/
def IsWord (n : Int) : Prop := -2 ^ 63 ≤ n ∧ n < 2 ^ 64

instance (n : Int) : Decidable (IsWord n) := inferInstanceAs (Decidable (_ ∧ _))

/-- **A document apart from its format.** -/
inductive Tree where
  | null
  | bool (b : Bool)
  | int (n : Int) (h : IsWord n)
  | text (s : String)
  | array (items : List Tree)
  | object (fields : List (String × Tree))

namespace Tree

mutual
/-- A tree as a document, its numbers written in a given way. -/
def image (number : Int → Number) : Tree → Value
  | .null => .null
  | .bool b => .bool b
  | .int n _ => .number (number n)
  | .text s => .text s
  | .array items => .array (imageItems number items)
  | .object fields => .object (imageFields number fields)
/-- The items of a list. -/
def imageItems (number : Int → Number) : List Tree → List Value
  | [] => []
  | t :: rest => t.image number :: imageItems number rest
/-- The fields of an object. -/
def imageFields (number : Int → Number) : List (String × Tree) → List (String × Value)
  | [] => []
  | (k, t) :: rest => (k, t.image number) :: imageFields number rest
end

/-- A number by its decimal text. -/
def decimal (n : Int) : Number := .written (intText n)

/-- **The JSON form**: numbers in decimal. -/
def json (t : Tree) : Value := t.image decimal

/-- **The MessagePack form**: numbers in binary. -/
def msgpack (t : Tree) : Value := t.image .integer

/-- Whether a tree is null. -/
def isNull : Tree → Bool
  | .null => true
  | _ => false

/-- The value of a key. A null value counts as absent. -/
def field? (o : List (String × Tree)) (key : String) : Option Tree :=
  (o.lookup key).filter (!·.isNull)

section Image

variable (number : Int → Number)

theorem isNull_image (t : Tree) : (t.image number).isNull = t.isNull := by
  cases t <;> rw [image] <;> rfl

theorem lookup_imageFields (o : List (String × Tree)) (key : String) :
    Document.field? (imageFields number o) key = (o.lookup key).map (image number) := by
  rw [Document.field?]
  induction o with
  | nil => rfl
  | cons e rest ih =>
    rw [imageFields, List.lookup_cons, List.lookup_cons]
    split
    · rfl
    · exact ih

theorem plainField?_imageFields (o : List (String × Tree)) (key : String) :
    plainField? (imageFields number o) key = (field? o key).map (image number) := by
  rw [plainField?, lookup_imageFields, field?]
  cases o.lookup key with
  | none => rfl
  | some t => cases h : t.isNull <;> simp [Option.filter, isNull_image, h]

theorem get?_image (o : List (String × Tree)) (key : String) :
    (readFields (imageFields number o)).get? key =
      (field? o key).map fun t => (t.image number, reading (t.image number)) := by
  rw [Form.get?_readFields, plainField?_imageFields, Option.map_map]
  rfl

theorem imageItems_eq_map (ts : List Tree) : imageItems number ts = ts.map (image number) := by
  induction ts with
  | nil => rfl
  | cons t ts ih => rw [imageItems, ih, List.map_cons]

end Image

end Tree

/-! ## Readings of two forms -/

/-- **A huge double**: the node of a double whose value is a binary number that does not fit 64 bits
with a sign. -/
def HugeDoubleAt (v : Value) (path : List Step) : Prop :=
  ∃ fields n, v.at? path = some (.object fields) ∧
    plainField? fields "kind" = some (.text "double") ∧
      plainField? fields "value" = some (.number (.integer n)) ∧ 2 ^ 63 ≤ n

theorem HugeDoubleAt.key {fields : List (String × Value)} {key : String} {w : Value}
    {path : List Step} (hw : plainField? fields key = some w) (h : HugeDoubleAt w path) :
    HugeDoubleAt (.object fields) (.key key :: path) := by
  obtain ⟨inner, n, hat, hrest⟩ := h
  refine ⟨inner, n, ?_, hrest⟩
  obtain ⟨hfield, -⟩ := Option.filter_eq_some_iff.1 hw
  rw [Value.at?, hfield]
  exact hat

theorem HugeDoubleAt.index {items : List Value} {i : Nat} {w : Value} {path : List Step}
    (hw : items[i]? = some w) (h : HugeDoubleAt w path) :
    HugeDoubleAt (.array items) (.index i :: path) := by
  obtain ⟨inner, n, hat, hrest⟩ := h
  refine ⟨inner, n, ?_, hrest⟩
  rw [Value.at?, hw]
  exact hat

/-- The refusal of a number that counts as no double. -/
def notDouble : Violation := .literalNotNumber "number"

/-- **Two readings agree**, or the second is refused at a huge double. The first is never refused
so. -/
structure Alike {α : Type} (p : Place) (v : Value) (x y : Except ContractError α) : Prop where
  spared : ∀ e, x = .error e → e.violation ≠ notDouble
  agree : x = y ∨
    ∃ path, HugeDoubleAt v path ∧ y = .error ⟨p.source, p.path ++ path, notDouble⟩

namespace Alike

variable {α β : Type} {p : Place} {v : Value} {x y : Except ContractError α}
  {f g : α → Except ContractError β}

theorem pure (a : α) : Alike p v (Pure.pure a) (Pure.pure a) :=
  ⟨by rintro e ⟨⟩, .inl rfl⟩

theorem fail (q : Place) {c : Violation} (h : c ≠ notDouble) :
    Alike p v (q.fail c : Except ContractError α) (q.fail c) :=
  ⟨by rintro e ⟨⟩; exact h, .inl rfl⟩

/-- What is read first is given to the rest only where both readings of it agree. -/
theorem bind (hx : Alike p v x y) (hf : ∀ a, x = .ok a → Alike p v (f a) (g a)) :
    Alike p v (x >>= f) (y >>= g) := by
  obtain ⟨hspared, hagree⟩ := hx
  cases x with
  | error e =>
    refine ⟨by rintro _ ⟨⟩; exact hspared e rfl, ?_⟩
    obtain rfl | ⟨path, hpath, rfl⟩ := hagree
    · exact .inl rfl
    · exact .inr ⟨path, hpath, rfl⟩
  | ok a =>
    refine ⟨(hf a rfl).spared, ?_⟩
    obtain rfl | ⟨path, hpath, rfl⟩ := hagree
    · exact (hf a rfl).agree
    · exact .inr ⟨path, hpath, rfl⟩

/-- From the value of a key to the object. -/
theorem key {fields : List (String × Value)} {k : String}
    (hv : plainField? fields k = some v) (h : Alike (p.key k) v x y) :
    Alike p (.object fields) x y := by
  refine ⟨h.spared, h.agree.imp_right ?_⟩
  rintro ⟨path, hpath, rfl⟩
  exact ⟨.key k :: path, hpath.key hv, by simp [Place.key]⟩

/-- From an item to the list. -/
theorem index {items : List Value} {i : Nat} (hv : items[i]? = some v)
    (h : Alike (p.index i) v x y) : Alike p (.array items) x y := by
  refine ⟨h.spared, h.agree.imp_right ?_⟩
  rintro ⟨path, hpath, rfl⟩
  exact ⟨.index i :: path, hpath.index hv, by simp [Place.index]⟩

end Alike

/-! ## Fields of one object -/

/-- The fields of an object in the JSON form, as they are read. -/
abbrev inDecimal (o : List (String × Tree)) : Fields := readFields (Tree.imageFields Tree.decimal o)

/-- The fields of an object in the MessagePack form, as they are read. -/
abbrev inBinary (o : List (String × Tree)) : Fields := readFields (Tree.imageFields .integer o)

section Leaves

variable {q : Place} {v : Value} (o : List (String × Tree)) (p : Place)

theorem alike_text (key : String) :
    Alike q v ((inDecimal o).text p key) ((inBinary o).text p key) := by
  rw [Fields.text, Fields.text, Tree.get?_image, Tree.get?_image]
  cases Tree.field? o key with
  | none => exact .fail p (by simp [notDouble])
  | some t =>
    cases t with
    | text s => exact .pure s
    | null | bool | int | array | object => exact .fail p (by simp [notDouble])

theorem alike_text? (key : String) :
    Alike q v ((inDecimal o).text? p key) ((inBinary o).text? p key) := by
  rw [Fields.text?, Fields.text?, Tree.get?_image, Tree.get?_image]
  cases Tree.field? o key with
  | none => exact .pure none
  | some t =>
    cases t with
    | text s => exact .pure (some s)
    | null | bool | int | array | object => exact .fail p (by simp [notDouble])

theorem alike_name (key : String) :
    Alike q v ((inDecimal o).name p key) ((inBinary o).name p key) := by
  refine .bind (alike_text o p key) fun s _ => ?_
  split
  · exact .fail p (nofun)
  · exact .pure s

theorem alike_effect? : Alike q v ((inDecimal o).effect? p) ((inBinary o).effect? p) := by
  refine .bind (alike_text? o p _) fun found _ => ?_
  split
  · exact .pure none
  · split
    · exact .pure _
    · exact .fail p (nofun)

theorem alike_capability? :
    Alike q v ((inDecimal o).capability? p) ((inBinary o).capability? p) := by
  refine .bind (alike_text? o p _) fun found _ => ?_
  split
  · exact .pure none
  · split
    · exact .pure _
    · exact .fail p (nofun)

theorem alike_level : Alike q v ((inDecimal o).level p) ((inBinary o).level p) := by
  rw [Fields.level, Fields.level, Tree.get?_image, Tree.get?_image]
  cases Tree.field? o "level" with
  | none => exact .fail p (nofun)
  | some t =>
    cases t with
    | text s =>
      simp only [Option.map_some, Tree.image]
      split
      · exact .pure _
      · exact .fail p (nofun)
    | int n h =>
      simp only [Option.map_some, Tree.image, Tree.decimal, Number.toInt?_written]
      split
      · exact .fail p (nofun)
      · split
        · exact .pure _
        · exact .fail p (nofun)
    | null | bool | array | object => exact .fail p (nofun)

/-- **The list under a key** is left out, an array or refused, in both forms alike. -/
theorem list?_cases (key : String) :
    ((inDecimal o).list? p key = .ok none ∧ (inBinary o).list? p key = .ok none) ∨
    (∃ ts, Tree.field? o key = some (.array ts) ∧
      (inDecimal o).list? p key = .ok (some (Tree.imageItems Tree.decimal ts,
        readValues (Tree.imageItems Tree.decimal ts))) ∧
      (inBinary o).list? p key = .ok (some (Tree.imageItems .integer ts,
        readValues (Tree.imageItems .integer ts)))) ∨
    ∃ kind, (inDecimal o).list? p key = p.fail (.notArray key kind) ∧
      (inBinary o).list? p key = p.fail (.notArray key kind) := by
  rw [Fields.list?, Fields.list?, Tree.get?_image, Tree.get?_image]
  cases Tree.field? o key with
  | none => exact .inl ⟨rfl, rfl⟩
  | some t =>
    cases t with
    | array ts => exact .inr (.inl ⟨ts, rfl, rfl, rfl⟩)
    | null | bool | int | text | object => exact .inr (.inr ⟨_, rfl, rfl⟩)

theorem alike_textItems : ∀ (ts : List Tree) (i : Nat), Alike q v
    (Fields.textItems p i (Tree.imageItems Tree.decimal ts))
    (Fields.textItems p i (Tree.imageItems .integer ts))
  | [], _ => .pure []
  | .text _ :: ts, i => .bind (alike_textItems ts (i + 1)) fun _ _ => .pure _
  | .null :: _, _ | .bool _ :: _, _ | .int _ _ :: _, _ | .array _ :: _, _ | .object _ :: _, _ =>
    .fail _ (nofun)

theorem alike_texts? (key : String) :
    Alike q v ((inDecimal o).texts? p key) ((inBinary o).texts? p key) := by
  rw [Fields.texts?, Fields.texts?]
  obtain ⟨hdecimal, hbinary⟩ | ⟨ts, -, hdecimal, hbinary⟩ | ⟨kind, hdecimal, hbinary⟩ :=
    list?_cases o p key
  all_goals rw [hdecimal, hbinary]
  · exact .pure none
  · change Alike q v (Fields.textItems (p.key key) 0 (Tree.imageItems Tree.decimal ts) >>= _)
      (Fields.textItems (p.key key) 0 (Tree.imageItems .integer ts) >>= _)
    exact .bind (alike_textItems _ ts 0) fun _ _ => .pure _
  · exact .fail p (by simp [notDouble])

theorem alike_readCoord (key : String) :
    Alike q v (readCoord (Tree.imageFields Tree.decimal o) p key)
      (readCoord (Tree.imageFields .integer o) p key) := by
  rw [readCoord, readCoord, Tree.plainField?_imageFields, Tree.plainField?_imageFields]
  cases Tree.field? o key with
  | none => exact .pure 0
  | some t =>
    cases t with
    | int n h =>
      simp only [Option.map_some, Tree.image, Tree.decimal, Number.toInt?_written]
      split
      · exact .fail p (nofun)
      · split
        · exact .pure _
        · exact .fail p (nofun)
    | null | bool | text | array | object => exact .fail p (nofun)

theorem alike_readPosition (key : String) :
    Alike q v (readPosition (Tree.imageFields Tree.decimal o) p key)
      (readPosition (Tree.imageFields .integer o) p key) := by
  rw [readPosition, readPosition, Tree.plainField?_imageFields, Tree.plainField?_imageFields]
  cases Tree.field? o key with
  | none => exact .pure ({} : Position)
  | some t =>
    cases t with
    | object fields =>
      exact .bind (alike_readCoord fields _ "line") fun _ _ =>
        .bind (alike_readCoord fields _ "col") fun _ _ => .pure _
    | null | bool | int | text | array => exact .fail _ (nofun)

theorem alike_span : Alike q v ((inDecimal o).span p) ((inBinary o).span p) := by
  rw [Fields.span, Fields.span, Tree.get?_image, Tree.get?_image]
  cases Tree.field? o "span" with
  | none => exact .pure ({} : Span)
  | some t =>
    cases t with
    | object fields =>
      simp only [Option.map_some, Tree.image, plainFields?, Tree.plainField?_imageFields]
      cases Tree.field? fields "file" with
      | none =>
        exact .bind (.pure _) fun _ _ => .bind (alike_readPosition fields _ _) fun _ _ =>
          .bind (alike_readPosition fields _ _) fun _ _ => .pure _
      | some t =>
        cases t with
        | text s =>
          exact .bind (.pure _) fun _ _ => .bind (alike_readPosition fields _ _) fun _ _ =>
            .bind (alike_readPosition fields _ _) fun _ _ => .pure _
        | null | bool | int | array | object => exact .fail _ (nofun)
    | null | bool | int | text | array => exact .fail _ (nofun)

end Leaves

section Literals

variable {o : List (String × Tree)} {p : Place}

theorem field?_of_text {key s : String} (h : (inDecimal o).text p key = .ok s) :
    Tree.field? o key = some (.text s) := by
  have hplain := Form.gives_text p key s h
  rw [Tree.plainField?_imageFields, Option.map_eq_some_iff] at hplain
  obtain ⟨t, ht, hs⟩ := hplain
  cases t with
  | text r => rw [ht, Value.text.inj hs]
  | null | bool | int | array | object => exact nomatch hs

/-- **A double is where the two forms may part**: the text of a whole number stands for a double,
the binary number only where it fits 64 bits with a sign. -/
theorem alike_double {n : Int} (hn : IsWord n)
    (hkind : Tree.field? o "kind" = some (.text "double"))
    (hvalue : Tree.field? o "value" = some (.int n hn)) :
    Alike p (.object (Tree.imageFields .integer o))
      (match (Number.written (intText n)).toDouble? with
        | none => p.fail notDouble
        | some x => .ok (Literal.double x))
      (match (Number.integer n).toDouble? with
        | none => p.fail notDouble
        | some x => .ok (Literal.double x)) := by
  have hsize : n.natAbs < 2 ^ 64 := by
    obtain ⟨hlow, hhigh⟩ := hn
    omega
  rw [Number.toDouble?_written hsize, Number.toDouble?]
  by_cases hfits : fitsInt64 n = true
  · rw [if_pos hfits]
    exact .pure _
  · rw [if_neg hfits]
    refine ⟨by rintro e ⟨⟩, .inr ⟨[], ⟨_, n, rfl, ?_, ?_, ?_⟩, by rw [List.append_nil]; rfl⟩⟩
    · rw [Tree.plainField?_imageFields, hkind]
      rfl
    · rw [Tree.plainField?_imageFields, hvalue]
      rfl
    · simp only [fitsInt64, Bool.and_eq_true, decide_eq_true_eq, not_and] at hfits
      have := hfits hn.1
      omega

theorem alike_literal {kind : String} (hkind : Tree.field? o "kind" = some (.text kind)) :
    Alike p (.object (Tree.imageFields .integer o)) ((inDecimal o).literal p kind)
      ((inBinary o).literal p kind) := by
  rw [Fields.literal, Fields.literal, Tree.get?_image, Tree.get?_image]
  split
  · exact .pure _
  · cases hvalue : Tree.field? o "value" with
    | none => exact .fail p (by simp [notDouble])
    | some t =>
      cases t with
      | int n h =>
        simp only [Option.map_some, Tree.image, Tree.decimal, Number.toInt?_written]
        split
        · split
          · exact .fail p (by simp [notDouble])
          · exact .pure _
        · split
          · exact .fail p (by simp [notDouble])
          · exact .pure _
        · exact alike_double h hkind hvalue
        · exact .fail p (by simp [notDouble])
        · exact .fail p (by simp [notDouble])
      | text s =>
        simp only [Option.map_some, Tree.image]
        split
        · exact .fail p (by simp [notDouble])
        · exact .fail p (by simp [notDouble])
        · exact .fail p (by simp [notDouble, Value.kindName])
        · exact .pure _
        · exact .fail p (by simp [notDouble])
      | bool b =>
        simp only [Option.map_some, Tree.image]
        split
        · exact .fail p (by simp [notDouble])
        · exact .fail p (by simp [notDouble])
        · exact .fail p (by simp [notDouble, Value.kindName])
        · exact .fail p (by simp [notDouble])
        · exact .pure _
      | null | array | object =>
        simp only [Option.map_some, Tree.image]
        split
        · exact .fail p (by simp [notDouble])
        · exact .fail p (by simp [notDouble])
        · exact .fail p (by simp [notDouble, Value.kindName])
        · exact .fail p (by simp [notDouble])
        · exact .fail p (by simp [notDouble])

end Literals

end CoreCheck.Ir

import CoreCheck.Proofs.Document.Tree

/-!
# Proofs/Document/Formats — one document in two formats

The JSON form and the MessagePack form of a tree are read alike, up to one point: a double may be
given as a whole number, and a binary one that does not fit 64 bits with a sign counts as none, while
its decimal text does (`read_alike_iff`).  The readers of a node only ask for its parts, so `Alike`
passes from the parts of a tree to the tree, along with the path to the node where the two may part.
-/

namespace CoreCheck.Ir

open CoreCheck.Document (Value Number Step)

/-! ## Parts of one object -/

/-- Both forms of a tree are read alike in a position. -/
def AlikeAs {α : Type} (read : Reading → Read α) (t : Tree) : Prop :=
  ∀ p, Alike p t.msgpack (read (reading t.json) p) (read (reading t.msgpack) p)

/-- **Both forms of a tree are read alike**, in each position. -/
structure Twins (t : Tree) : Prop where
  type : AlikeAs (·.type) t
  expr : AlikeAs (·.expr) t
  pattern : AlikeAs (·.pattern) t
  stmt : AlikeAs (·.stmt) t
  block : AlikeAs (·.block) t
  typedName : AlikeAs (·.typedName) t
  init : AlikeAs (·.init) t
  case : AlikeAs (·.case) t

/-- What is left of a list from an index on tells its item there and what is left after it. -/
theorem getElem?_of_drop {l rest : List Tree} {i : Nat} {t : Tree} (h : l.drop i = t :: rest) :
    (Tree.imageItems .integer l)[i]? = some t.msgpack ∧ l.drop (i + 1) = rest := by
  constructor
  · rw [Tree.imageItems_eq_map, List.getElem?_map, ← List.head?_drop, h]
    rfl
  · rw [← List.tail_drop, h, List.tail_cons]

/-- **Items of a list are read alike**, each at its index. -/
theorem alike_readItems {α : Type} {read : Reading → Read α} (p : Place) (all : List Tree) :
    ∀ (ts : List Tree) (i : Nat), all.drop i = ts → (∀ t ∈ ts, AlikeAs read t) →
      Alike p (.array (Tree.imageItems .integer all))
        (Fields.readItems read p i (readValues (Tree.imageItems Tree.decimal ts)))
        (Fields.readItems read p i (readValues (Tree.imageItems .integer ts)))
  | [], _, _, _ => .pure []
  | t :: ts, i, hall, hts => by
    obtain ⟨hitem, hnext⟩ := getElem?_of_drop hall
    rw [Tree.imageItems, Tree.imageItems, readValues, readValues, Fields.readItems,
      Fields.readItems]
    exact .bind ((hts t (.head _) _).index hitem) fun _ _ =>
      .bind (alike_readItems p all ts (i + 1) hnext fun t ht => hts t (.tail _ ht)) fun _ _ =>
        .pure _

theorem Tree.sizeOf_field {o : List (String × Tree)} {key : String} {t : Tree}
    (h : Tree.field? o key = some t) : sizeOf t < sizeOf (Tree.object o) := by
  obtain ⟨ht, -⟩ := Option.filter_eq_some_iff.1 h
  obtain ⟨l₁, l₂, rfl, -⟩ := List.lookup_eq_some_iff.1 ht
  have := List.sizeOf_lt_of_mem (List.mem_append_right l₁ (.head l₂ : (key, t) ∈ (key, t) :: l₂))
  simp only [Tree.object.sizeOf_spec, Prod.mk.sizeOf_spec] at this ⊢
  omega

theorem plainField?_msgpack {o : List (String × Tree)} {key : String} {t : Tree}
    (h : Tree.field? o key = some t) :
    plainField? (Tree.imageFields .integer o) key = some t.msgpack := by
  rw [Tree.plainField?_imageFields, h]
  rfl

/-- All that stands inside an object is read alike. -/
def InnerTwins (o : List (String × Tree)) : Prop :=
  ∀ t, sizeOf t < sizeOf (Tree.object o) → Twins t

namespace InnerTwins

variable {o : List (String × Tree)} {α : Type} {read : Reading → Read α}

theorem alike_items (h : InnerTwins o) (hread : ∀ t, Twins t → AlikeAs read t) {key : String}
    {ts : List Tree} (hkey : Tree.field? o key = some (.array ts)) (p : Place) :
    Alike (p.key key) (Tree.array ts).msgpack
      (Fields.readItems read (p.key key) 0 (readValues (Tree.imageItems Tree.decimal ts)))
      (Fields.readItems read (p.key key) 0 (readValues (Tree.imageItems .integer ts))) := by
  refine alike_readItems _ ts ts 0 rfl fun t ht => hread t (h t ?_)
  have hitem := List.sizeOf_lt_of_mem ht
  have harray := Tree.sizeOf_field hkey
  rw [Tree.array.sizeOf_spec] at harray
  omega

theorem part (h : InnerTwins o) (hread : ∀ t, Twins t → AlikeAs read t) (p : Place) (key : String) :
    Alike p (Tree.object o).msgpack ((inDecimal o).part p key read)
      ((inBinary o).part p key read) := by
  rw [Fields.part, Fields.part, Tree.get?_image, Tree.get?_image]
  cases ht : Tree.field? o key with
  | none => exact .fail p (by simp [notDouble])
  | some t => exact (hread t (h t (Tree.sizeOf_field ht)) _).key (plainField?_msgpack ht)

theorem part? (h : InnerTwins o) (hread : ∀ t, Twins t → AlikeAs read t) (p : Place)
    (key : String) : Alike p (Tree.object o).msgpack ((inDecimal o).part? p key read)
      ((inBinary o).part? p key read) := by
  rw [Fields.part?, Fields.part?, Tree.get?_image, Tree.get?_image]
  cases ht : Tree.field? o key with
  | none => exact .pure none
  | some t =>
    exact .bind ((hread t (h t (Tree.sizeOf_field ht)) _).key (plainField?_msgpack ht))
      fun _ _ => .pure _

theorem each (h : InnerTwins o) (hread : ∀ t, Twins t → AlikeAs read t) (p : Place) (key : String) :
    Alike p (Tree.object o).msgpack ((inDecimal o).each p key read)
      ((inBinary o).each p key read) := by
  rw [Fields.each, Fields.each]
  obtain ⟨hdecimal, hbinary⟩ | ⟨ts, ht, hdecimal, hbinary⟩ | ⟨kind, hdecimal, hbinary⟩ :=
    list?_cases o p key
  all_goals rw [hdecimal, hbinary]
  · exact .pure []
  · exact (h.alike_items hread ht p).key (plainField?_msgpack ht)
  · exact .fail p (by simp [notDouble])

theorem eachRequired (h : InnerTwins o) (hread : ∀ t, Twins t → AlikeAs read t) (p : Place)
    (key : String) : Alike p (Tree.object o).msgpack ((inDecimal o).eachRequired p key read)
      ((inBinary o).eachRequired p key read) := by
  rw [Fields.eachRequired, Fields.eachRequired]
  obtain ⟨hdecimal, hbinary⟩ | ⟨ts, ht, hdecimal, hbinary⟩ | ⟨kind, hdecimal, hbinary⟩ :=
    list?_cases o p key
  all_goals rw [hdecimal, hbinary]
  · exact .fail p (by simp [notDouble])
  · exact (h.alike_items hread ht p).key (plainField?_msgpack ht)
  · exact .fail p (by simp [notDouble])

/-! ## Nodes -/

theorem alike_type (h : InnerTwins o) (p : Place) :
    Alike p (Tree.object o).msgpack ((inDecimal o).type p) ((inBinary o).type p) := by
  have hpart : ∀ key, Alike p (Tree.object o).msgpack ((inDecimal o).part p key (·.type))
      ((inBinary o).part p key (·.type)) := h.part (fun _ ht => ht.type) p
  unfold Fields.type
  refine .bind (alike_text o p _) fun kind _ => .bind (alike_span o p) fun s _ => ?_
  split
  · exact .bind (alike_name o p _) fun _ _ => .pure _
  · exact .bind (alike_name o p _) fun _ _ => .pure _
  · exact .bind (hpart _) fun _ _ => .pure _
  · exact .bind (hpart _) fun _ _ => .pure _
  · exact .bind (hpart _) fun _ _ => .bind (hpart _) fun _ _ => .pure _
  · exact .bind (hpart _) fun _ _ => .bind (hpart _) fun _ _ => .pure _
  · exact .bind (h.each (fun _ ht => ht.type) p _) fun _ _ =>
      .bind (h.part? (fun _ ht => ht.type) p _) fun _ _ => .pure _
  · exact .bind (hpart _) fun _ _ => .bind (alike_level o p) fun _ _ =>
      .bind (alike_text? o p _) fun _ _ => .pure _
  · exact .fail p (nofun)

theorem alike_expr (h : InnerTwins o) (p : Place) :
    Alike p (Tree.object o).msgpack ((inDecimal o).expr p) ((inBinary o).expr p) := by
  have hpart : ∀ key, Alike p (Tree.object o).msgpack ((inDecimal o).part p key (·.expr))
      ((inBinary o).part p key (·.expr)) := h.part (fun _ ht => ht.expr) p
  unfold Fields.expr
  refine .bind (alike_text o p _) fun kind hkind => .bind (alike_span o p) fun s _ => ?_
  split
  · exact .bind (alike_literal (field?_of_text hkind)) fun _ _ => .pure _
  split
  · exact .bind (alike_name o p _) fun _ _ => .pure _
  · exact .bind (alike_name o p _) fun _ _ => .bind (hpart _) fun _ _ =>
      .bind (hpart _) fun _ _ => .pure _
  · exact .bind (alike_name o p _) fun _ _ => .bind (hpart _) fun _ _ => .pure _
  · exact .bind (alike_name o p _) fun _ _ => .bind (h.each (fun _ ht => ht.expr) p _) fun _ _ =>
      .bind (alike_effect? o p) fun _ _ => .bind (alike_capability? o p) fun _ _ => .pure _
  · exact .bind (alike_name o p _) fun _ _ => .bind (h.each (fun _ ht => ht.init) p _) fun _ _ =>
      .pure _
  · exact .bind (hpart _) fun _ _ => .bind (alike_name o p _) fun _ _ => .pure _
  · exact .bind (hpart _) fun _ _ => .pure _
  · exact .bind (hpart _) fun _ _ => .pure _
  · exact .bind (hpart _) fun _ _ => .pure _
  · exact .pure _
  · exact .bind (h.each (fun _ ht => ht.expr) p _) fun _ _ => .pure _
  · exact .bind (hpart _) fun _ _ => .pure _
  · exact .fail p (nofun)

theorem alike_init (h : InnerTwins o) (p : Place) :
    Alike p (Tree.object o).msgpack ((inDecimal o).init p) ((inBinary o).init p) :=
  .bind (alike_span o p) fun _ _ => .bind (alike_name o p _) fun _ _ =>
    .bind (h.part (fun _ ht => ht.expr) p _) fun _ _ => .pure _

theorem alike_typedName (h : InnerTwins o) (p : Place) :
    Alike p (Tree.object o).msgpack ((inDecimal o).typedName p) ((inBinary o).typedName p) :=
  .bind (alike_span o p) fun _ _ => .bind (alike_name o p _) fun _ _ =>
    .bind (h.part (fun _ ht => ht.type) p _) fun _ _ => .pure _

theorem alike_pattern (h : InnerTwins o) (p : Place) :
    Alike p (Tree.object o).msgpack ((inDecimal o).pattern p) ((inBinary o).pattern p) := by
  have hpart : ∀ key, Alike p (Tree.object o).msgpack ((inDecimal o).part p key (·.pattern))
      ((inBinary o).part p key (·.pattern)) := h.part (fun _ ht => ht.pattern) p
  unfold Fields.pattern
  refine .bind (alike_text o p _) fun kind hkind => .bind (alike_span o p) fun s _ => ?_
  split
  · exact .bind (alike_literal (field?_of_text hkind)) fun _ _ => .pure _
  split
  · exact .pure _
  · exact .pure _
  · exact .bind (alike_name o p _) fun _ _ => .pure _
  · exact .bind (h.part (fun _ ht => ht.expr) p _) fun _ _ => .pure _
  · exact .pure _
  · exact .bind (hpart _) fun _ _ => .pure _
  · exact .bind (hpart _) fun _ _ => .pure _
  · exact .bind (hpart _) fun _ _ => .pure _
  · exact .bind (alike_name o p _) fun _ _ => .bind (h.each (fun _ ht => ht.pattern) p _) fun _ _ =>
      .pure _
  · exact .fail p (nofun)

theorem alike_case (h : InnerTwins o) (p : Place) :
    Alike p (Tree.object o).msgpack ((inDecimal o).case p) ((inBinary o).case p) :=
  .bind (alike_span o p) fun _ _ => .bind (h.part (fun _ ht => ht.pattern) p _) fun _ _ =>
    .bind (h.part (fun _ ht => ht.block) p _) fun _ _ => .pure _

theorem alike_stmt (h : InnerTwins o) (p : Place) :
    Alike p (Tree.object o).msgpack ((inDecimal o).stmt p) ((inBinary o).stmt p) := by
  have hexpr : ∀ key, Alike p (Tree.object o).msgpack ((inDecimal o).part p key (·.expr))
      ((inBinary o).part p key (·.expr)) := h.part (fun _ ht => ht.expr) p
  have hblock : ∀ key, Alike p (Tree.object o).msgpack ((inDecimal o).part p key (·.block))
      ((inBinary o).part p key (·.block)) := h.part (fun _ ht => ht.block) p
  unfold Fields.stmt
  refine .bind (alike_text o p _) fun kind _ => .bind (alike_span o p) fun s _ => ?_
  split
  · exact .bind (alike_name o p _) fun _ _ => .bind (h.part? (fun _ ht => ht.type) p _) fun _ _ =>
      .bind (hexpr _) fun _ _ => .pure _
  · exact .bind (alike_name o p _) fun _ _ => .bind (hexpr _) fun _ _ => .pure _
  · exact .bind (h.part? (fun _ ht => ht.expr) p _) fun _ _ => .pure _
  · exact .bind (hexpr _) fun _ _ => .pure _
  · exact .bind (hexpr _) fun _ _ => .bind (hblock _) fun _ _ =>
      .bind (h.part? (fun _ ht => ht.block) p _) fun _ _ => .pure _
  · exact .bind (hexpr _) fun _ _ => .bind (h.eachRequired (fun _ ht => ht.case) p _) fun _ _ =>
      .pure _
  · exact .bind (hblock _) fun _ _ => .pure _
  · exact .bind (hblock _) fun _ _ => .pure _
  · exact .bind (alike_name o p _) fun _ _ => .bind (hexpr _) fun _ _ => .pure _
  · refine .bind (alike_texts? o p _) fun names _ => ?_
    split
    · exact .fail p (nofun)
    · exact .pure _
  · exact .fail p (nofun)

theorem alike_block (h : InnerTwins o) (p : Place) :
    Alike p (Tree.object o).msgpack ((inDecimal o).block p) ((inBinary o).block p) :=
  h.eachRequired (fun _ ht => ht.stmt) p _

end InnerTwins

/-! ## Trees -/

theorem twins_object {o : List (String × Tree)} (h : InnerTwins o) : Twins (.object o) where
  type := h.alike_type
  expr := h.alike_expr
  pattern := h.alike_pattern
  stmt := h.alike_stmt
  block := h.alike_block
  typedName := h.alike_typedName
  init := h.alike_init
  case := h.alike_case

/-- A tree that stands for no node is refused alike in all positions. -/
theorem twins_other {t : Tree} {kind : String} (hjson : reading t.json = .ofOther kind)
    (hmsgpack : reading t.msgpack = .ofOther kind) : Twins t := by
  constructor <;>
    · intro p
      rw [hjson, hmsgpack]
      exact .fail p (nofun)

theorem twins_text (s : String) : Twins (.text s) where
  type p := by
    change Alike p _ (if s = "" then p.fail .emptyTypeName else .ok (TypeExpr.name {} s))
      (if s = "" then p.fail .emptyTypeName else .ok (TypeExpr.name {} s))
    split
    · exact .fail p (nofun)
    · exact .pure _
  expr p := .fail p (nofun)
  pattern p := .fail p (nofun)
  stmt p := .fail p (nofun)
  block p := .fail p (nofun)
  typedName p := .fail p (nofun)
  init p := .fail p (nofun)
  case p := .fail p (nofun)

theorem twins_array {ts : List Tree} (h : ∀ t ∈ ts, Twins t) : Twins (.array ts) where
  type p := .fail p (nofun)
  expr p := .fail p (nofun)
  pattern p := .fail p (nofun)
  stmt p := .fail p (nofun)
  block p := alike_readItems p ts ts 0 rfl fun t ht => (h t ht).stmt
  typedName p := .fail p (nofun)
  init p := .fail p (nofun)
  case p := .fail p (nofun)

/-- **Both forms of every tree are read alike.** -/
theorem twins : ∀ t : Tree, Twins t
  | .object _ => twins_object fun t _ => twins t
  | .array _ => twins_array fun t _ => twins t
  | .text s => twins_text s
  | .null => twins_other rfl rfl
  | .bool _ => twins_other rfl rfl
  | .int _ _ => twins_other rfl rfl
termination_by t => sizeOf t
decreasing_by
  · assumption
  · decreasing_tactic

/-! ## Declarations -/

section Declarations

variable (o : List (String × Tree)) (p : Place)

theorem innerTwins : InnerTwins o := fun t _ => twins t

theorem alike_declaredEffect {q : Place} {v : Value} :
    Alike q v ((inDecimal o).declaredEffect p) ((inBinary o).declaredEffect p) := by
  refine .bind (alike_texts? o p _) fun labels _ => .bind (alike_text? o p _) fun single _ => ?_
  split
  · exact .pure _
  · exact .fail p (nofun)

theorem alike_readCapabilities {q : Place} {v : Value} : ∀ (labels : List String) (i : Nat),
    Alike q v (Fields.readCapabilities p i labels) (Fields.readCapabilities p i labels)
  | [], _ => .pure []
  | l :: ls, i => by
    rw [Fields.readCapabilities]
    split
    · exact .fail _ (by simp [notDouble])
    · exact .bind (alike_readCapabilities ls (i + 1)) fun _ _ => .pure _

theorem alike_declaredCapabilities {q : Place} {v : Value} :
    Alike q v ((inDecimal o).declaredCapabilities p) ((inBinary o).declaredCapabilities p) := by
  refine .bind (alike_texts? o p _) fun labels _ => ?_
  split
  · exact .pure none
  · exact .bind (alike_readCapabilities _ _ _) fun _ _ => .pure _

theorem alike_func (s : Span) :
    Alike p (Tree.object o).msgpack ((inDecimal o).func p s) ((inBinary o).func p s) :=
  .bind (alike_name o p _) fun _ _ => .bind (alike_texts? o p _) fun _ _ =>
    .bind ((innerTwins o).each (fun _ ht => ht.typedName) p _) fun _ _ =>
      .bind ((innerTwins o).part? (fun _ ht => ht.type) p _) fun _ _ =>
        .bind (alike_declaredEffect o p) fun _ _ =>
          .bind (alike_declaredCapabilities o p) fun _ _ =>
            .bind ((innerTwins o).part (fun _ ht => ht.block) p _) fun _ _ => .pure _

theorem alike_decl :
    Alike p (Tree.object o).msgpack ((inDecimal o).decl p) ((inBinary o).decl p) := by
  have htype : ∀ key, Alike p (Tree.object o).msgpack ((inDecimal o).part p key (·.type))
      ((inBinary o).part p key (·.type)) := (innerTwins o).part (fun _ ht => ht.type) p
  unfold Fields.decl
  refine .bind (alike_text o p _) fun kind _ => .bind (alike_span o p) fun s _ => ?_
  split
  · exact .bind (alike_func o p s) fun _ _ => .pure _
  · exact .bind (alike_func o p s) fun _ _ => .pure _
  · exact .bind (alike_func o p s) fun _ _ => .pure _
  · exact .bind (alike_name o p _) fun _ _ =>
      .bind ((innerTwins o).each (fun _ ht => ht.typedName) p _) fun _ _ => .pure _
  · exact .bind (alike_name o p _) fun _ _ => .bind (alike_texts? o p _) fun _ _ => .pure _
  · exact .bind (alike_name o p _) fun _ _ => .bind (htype _) fun _ _ => .pure _
  · exact .bind (alike_name o p _) fun _ _ => .bind (htype _) fun _ _ => .pure _
  · exact .bind (alike_name o p _) fun _ _ => .pure _
  · exact .fail p (nofun)

theorem alike_readDecl (t : Tree) :
    Alike p t.msgpack (readDecl t.json p) (readDecl t.msgpack p) := by
  cases t with
  | object o => exact alike_decl o p
  | null | bool | int | text | array => exact .fail p (nofun)

theorem alike_readDecls (all : List Tree) : ∀ (ts : List Tree) (i : Nat), all.drop i = ts →
    Alike p (.array (Tree.imageItems .integer all))
      (readDecls p i (Tree.imageItems Tree.decimal ts))
      (readDecls p i (Tree.imageItems .integer ts))
  | [], _, _ => .pure []
  | t :: ts, i, hall => by
    obtain ⟨hitem, hnext⟩ := getElem?_of_drop hall
    rw [Tree.imageItems, Tree.imageItems, readDecls, readDecls]
    exact .bind ((alike_readDecl _ t).index hitem) fun _ _ =>
      .bind (alike_readDecls all ts (i + 1) hnext) fun _ _ => .pure _

end Declarations

/-! ## Modules -/

mutual

theorem message_image : ∀ t : Tree, t.json.message = t.msgpack.message
  | .null | .bool true | .bool false | .text _ | .int _ _ => rfl
  | .array ts => by
    rw [Tree.json, Tree.msgpack, Tree.image, Tree.image, Value.message, Value.message,
      messages_image ts]
  | .object o => by
    rw [Tree.json, Tree.msgpack, Tree.image, Tree.image, Value.message, Value.message,
      fieldMessages_image o]

theorem messages_image : ∀ ts : List Tree, Value.messages (Tree.imageItems Tree.decimal ts) =
    Value.messages (Tree.imageItems .integer ts)
  | [] => rfl
  | t :: ts => by
    rw [Tree.imageItems, Tree.imageItems, Value.messages, Value.messages, messages_image ts]
    exact congrArg (· :: _) (message_image t)

theorem fieldMessages_image : ∀ o : List (String × Tree),
    Value.fieldMessages (Tree.imageFields Tree.decimal o) =
      Value.fieldMessages (Tree.imageFields .integer o)
  | [] => rfl
  | (k, t) :: o => by
    rw [Tree.imageFields, Tree.imageFields, Value.fieldMessages, Value.fieldMessages,
      fieldMessages_image o]
    exact congrArg (fun m => (k, m) :: _) (message_image t)

end

theorem alike_checkVersion {q : Place} {v : Value} (o : List (String × Tree)) (p : Place) :
    Alike q v (checkVersion (inDecimal o) p) (checkVersion (inBinary o) p) := by
  have hcheck (found : Option Int) (m : String) : Alike q v
      (if found = some (supportedVersion : Int) then .ok () else p.fail (.version m))
      (if found = some (supportedVersion : Int) then .ok () else p.fail (.version m)) := by
    split
    · exact .pure ()
    · exact .fail p (by simp [notDouble])
  rw [checkVersion, checkVersion, Tree.get?_image, Tree.get?_image]
  cases Tree.field? o "version" with
  | none => exact .pure ()
  | some t =>
    have hmessage : (t.image Tree.decimal).message = (t.image .integer).message := message_image t
    simp only [Option.map_some, hmessage]
    cases t with
    | int n h =>
      simp only [Tree.image, Tree.decimal, Number.toInt?_written]
      exact hcheck _ _
    | null | bool | text | array | object => exact hcheck none _

theorem has_image (o : List (String × Tree)) (key : String) :
    (inDecimal o).has key = (inBinary o).has key := by
  rw [Form.has_readFields, Form.has_readFields, Tree.lookup_imageFields, Tree.lookup_imageFields,
    Option.isSome_map, Option.isSome_map]

theorem alike_ofDocument (source : String) (t : Tree) :
    Alike ⟨source, []⟩ t.msgpack (Module.ofDocument source t.json)
      (Module.ofDocument source t.msgpack) := by
  cases t with
  | object o =>
    refine .bind (alike_checkVersion o _) fun _ _ => .bind (alike_name o _ _) fun name _ => ?_
    rw [has_image, has_image]
    generalize (if !(inBinary o).has "decls" && (inBinary o).has "declarations" then
      "declarations" else "decls") = key
    dsimp only
    obtain ⟨hdecimal, hbinary⟩ | ⟨ts, ht, hdecimal, hbinary⟩ | ⟨kind, hdecimal, hbinary⟩ :=
      list?_cases o ⟨source, []⟩ key
    all_goals rw [hdecimal, hbinary]
    · exact .fail _ (nofun)
    · change Alike ⟨source, []⟩ (Tree.object o).msgpack
        (readDecls (Place.key ⟨source, []⟩ key) 0 (Tree.imageItems Tree.decimal ts) >>= _)
        (readDecls (Place.key ⟨source, []⟩ key) 0 (Tree.imageItems .integer ts) >>= _)
      exact .bind ((alike_readDecls _ ts ts 0 rfl).key (plainField?_msgpack ht)) fun _ _ => .pure _
    · exact .fail _ (nofun)
  | null | bool | int | text | array => exact .fail _ (nofun)

/-- **Both forms of a document give the same module or the same refusal**, exactly when the
MessagePack form is not refused at a huge double. -/
theorem read_alike_iff (source : String) (t : Tree) :
    Module.ofDocument source t.json = Module.ofDocument source t.msgpack ↔
      ∀ path, HugeDoubleAt t.msgpack path →
        Module.ofDocument source t.msgpack ≠ .error ⟨source, path, .literalNotNumber "number"⟩ := by
  obtain ⟨hspared, hagree⟩ := alike_ofDocument source t
  constructor
  · intro heq path _ hrefused
    exact hspared _ (heq.trans hrefused) rfl
  · intro hnone
    obtain heq | ⟨path, hpath, hrefused⟩ := hagree
    · exact heq
    · exact absurd hrefused (hnone path hpath)

/-- A function that gives back a double, given as a whole number. -/
def givesDouble (n : Int) (h : IsWord n) : Tree :=
  .object [("name", .text "m"), ("decls", .array [.object [
    ("kind", .text "func"), ("name", .text "f"), ("body", .array [.object [
      ("kind", .text "return"), ("expr", .object [
        ("kind", .text "double"), ("value", .int n h)])]])]])]

/-- The module of that function. -/
def doubleModule (bits : UInt64) : Module where
  version := 1
  name := "m"
  source := ""
  decls := [.func {
    span := {}
    name := "f"
    typeParams := []
    params := []
    ret := none
    effect := .pure
    capabilities := none
    body := [.ret {} (some (.literal {} (.double ⟨bits⟩)))] }]

/-- **The largest number that fits with a sign is read alike in both forms.** -/
theorem read_alike_largest :
    Module.ofDocument "" (givesDouble (2 ^ 63 - 1) (by decide)).json =
      .ok (doubleModule 0x43e0000000000000) := by
  have hbinary : Module.ofDocument "" (givesDouble (2 ^ 63 - 1) (by decide)).msgpack =
      .ok (doubleModule 0x43e0000000000000) := rfl
  refine ((read_alike_iff "" _).2 fun path _ hrefused => ?_).trans hbinary
  exact nomatch hbinary.symm.trans hrefused

/-- **The largest number without a sign is a double in decimal and none in binary.** -/
theorem not_alike_huge :
    Module.ofDocument "" (givesDouble (2 ^ 64 - 1) (by decide)).json =
        .ok (doubleModule 0x43f0000000000000) ∧
      Module.ofDocument "" (givesDouble (2 ^ 64 - 1) (by decide)).msgpack =
        .error ⟨"", [.key "decls", .index 0, .key "body", .index 0, .key "expr"],
          .literalNotNumber "number"⟩ :=
  ⟨rfl, rfl⟩

end CoreCheck.Ir

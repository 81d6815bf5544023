import CoreCheck.Proofs.Types.Canonical
import CoreCheck.Proofs.Types.Covered

/-!
# Proofs/Types/Exposed — which marks of a type are seen

The taint of a type is read from the outside, through optionals, lists and maps and no further than
a mark.  So optionals, lists and maps hide nothing.  A mark has one level and one category: put on a
mark it takes the place of that mark at the higher of both levels, and put on anything else it hides
the marks inside.  `marks_exposed` says so for every arena in use.
-/

namespace CoreCheck.Types

/-! ## The marks that a structure shows -/

namespace Ty

/-- **A type shows a mark**: the mark is met on the way down through optionals, lists and maps, and
stands under no other mark. -/
inductive Shows (level : Level) (category : String) : Ty → Prop
  | mark (base : Ty) : Shows level category (.pii base level category)
  | optional {elem : Ty} : Shows level category elem → Shows level category (.optional elem)
  | list {elem : Ty} : Shows level category elem → Shows level category (.list elem)
  | key {key : Ty} (value : Ty) : Shows level category key → Shows level category (.map key value)
  | value (key : Ty) {value : Ty} :
    Shows level category value → Shows level category (.map key value)

variable {level : Level} {category : String}

theorem shows_pii_iff {base : Ty} {l : Level} {c : String} :
    Shows level category (.pii base l c) ↔ level = l ∧ category = c := by
  constructor
  · rintro ⟨⟩
    exact ⟨rfl, rfl⟩
  · rintro ⟨rfl, rfl⟩
    exact .mark base

theorem shows_optional_iff {elem : Ty} :
    Shows level category (.optional elem) ↔ Shows level category elem :=
  ⟨fun | .optional h => h, .optional⟩

theorem shows_list_iff {elem : Ty} :
    Shows level category (.list elem) ↔ Shows level category elem :=
  ⟨fun | .list h => h, .list⟩

theorem shows_map_iff {key value : Ty} :
    Shows level category (.map key value) ↔ Shows level category key ∨ Shows level category value :=
  ⟨fun | .key _ h => .inl h | .value _ h => .inr h, fun h => h.elim (.key _) (.value _)⟩

/-- **The taint of a type is the least that covers the marks it shows.** -/
theorem taint_below_iff {x : Option Taint} : ∀ t : Ty, Taint.Below t.taint x ↔
    ∀ level category, t.Shows level category → Taint.Below (some (.make level [category])) x
  | .pii base level category => by
    simp only [taint, shows_pii_iff]
    constructor
    · rintro h _ _ ⟨rfl, rfl⟩
      exact h
    · exact fun h => h level category ⟨rfl, rfl⟩
  | .optional elem => by
    simp only [taint, shows_optional_iff]
    exact taint_below_iff elem
  | .list elem => by
    simp only [taint, shows_list_iff]
    exact taint_below_iff elem
  | .map key value => by
    simp only [taint, shows_map_iff, Taint.merge_below_iff, taint_below_iff key,
      taint_below_iff value, or_imp, forall_and]
  | .missing | .unknown | .int | .long | .double | .text | .bool | .unit | .null | .data _ | .enum _
  | .var _ | .func _ _ | .result _ _ => by
    exact iff_of_true (.none x) fun _ _ h => by cases h

/-- Whether a type is a mark. -/
def isMark : Ty → Bool
  | .pii _ _ _ => true
  | _ => false

/-- **A mark has the level of what it is put on** exactly if that is a mark, or has no higher level
than the new one. -/
theorem level_taint_le_iff (t : Ty) (level : Level) :
    Taint.levelOf t.taint ≤ t.markedLevel level ↔ t.isMark ∨ Taint.levelOf t.taint ≤ level := by
  cases t with
  | pii base l category =>
    refine iff_of_true ?_ (.inl rfl)
    change l.rank ≤ (level.max l).rank
    rw [Level.rank_max]
    exact Nat.le_max_right _ _
  | _ => simp [isMark, markedLevel]

theorem le_markedLevel (t : Ty) (level : Level) : level ≤ t.markedLevel level := by
  cases t with
  | pii base l category =>
    change level.rank ≤ (level.max l).rank
    rw [Level.rank_max]
    exact Nat.le_max_left _ _
  | _ => exact Nat.le_refl _

end Ty

/-! ## The taint of an answer -/

/-- Whether a type of an arena is a mark. -/
def Arena.isMarked (a : Arena) (id : TypeId) : Bool := (a.lookup id).any Shape.isMark

theorem Arena.Sound.isMarked_eq {a : Arena} (h : a.Sound) (id : TypeId) :
    a.isMarked id = (a.tree id).isMark := by
  rw [Arena.isMarked]
  cases hs : a.lookup id with
  | none => rw [Arena.tree_of_none hs]; rfl
  | some s => rw [h.tree_eq hs]; cases s <;> rfl

namespace Request

/-- **The taint of the type that answers a request.** -/
def taint (a : Arena) (r : Request) : Option Taint := (r.make a).1.taintOf (r.make a).2

theorem taint_eq {a : Arena} (h : a.Sound) {r : Request} (hr : ∀ q ∈ r.args, q ≤ a.size) :
    r.taint a = (r.meaning a).taint := by
  rw [taint, (sound_make h hr).taintOf_eq, tree_make h hr]

end Request

namespace Issued

/-! ## Arenas in use -/

/-- **One use of an arena**: a type is asked for, a text is put in the pool, or the fields of a
record are set to types given out before. -/
inductive Use (d : Issued) : Issued → Prop
  | step {d' : Issued} : d.Step d' → Use d d'
  | fields (id : TypeId) (fields : List Field) (h : ∀ f ∈ fields, f.type ∈ d.ids) :
    Use d { d with arena := d.arena.setFields id fields }

/-- Any number of uses. -/
def Used : Issued → Issued → Prop := Relation.ReflTransGen Use

theorem Later.used {d d' : Issued} (h : d.Later d') : d.Used d' :=
  Relation.ReflTransGen.mono (fun _ _ => Use.step) _ _ h

/-- Setting fields changes the details of one record, and nothing else. -/
theorem setFields_eq (a : Arena) (id : TypeId) (fields : List Field) :
    ∃ datas : Array DataInfo, datas.size = a.datas.size ∧
      a.setFields id fields = { a with datas } := by
  rw [Arena.setFields]
  split
  · exact ⟨_, Array.size_modify, rfl⟩
  · exact ⟨a.datas, rfl, rfl⟩

/-- **A use keeps order, appends to the arena and takes no number back.** -/
theorem Ordered.use {d d' : Issued} (h : d.Ordered) (hd : d.Use d') :
    d'.Ordered ∧ d.arena.AppendsTo d'.arena ∧ ∀ i ∈ d.ids, i ∈ d'.ids := by
  obtain hstep | ⟨id, fields, hf⟩ := hd
  · exact h.step hstep
  · have hsound := h.sound.setFields id fun f hmem => (h.issued.1 (hf f hmem)).2
    obtain ⟨datas, hsize, he⟩ := setFields_eq d.arena id fields
    rw [he] at hsound ⊢
    exact ⟨⟨hsound, h.labelled, h.issued, h.parts, fun hmem => hsize ▸ h.datas hmem, h.enums⟩,
      ⟨List.prefix_rfl, .refl _⟩, fun i hi => hi⟩

/-! ## What is seen of the marks -/

/-- **What a type of an arena shows of the marks that it is made of.** -/
structure Exposed (d : Issued) : Prop where
  /-- An optional has the taint of its element. -/
  optional : ∀ b ∈ d.ids, Taint.Below (d.arena.taintOf b) ((Request.optional b).taint d.arena)
  /-- A list has the taint of its elements. -/
  list : ∀ b ∈ d.ids, Taint.Below (d.arena.taintOf b) ((Request.list b).taint d.arena)
  /-- A map has the taint of its keys. -/
  key : ∀ k ∈ d.ids, ∀ v ∈ d.ids,
    Taint.Below (d.arena.taintOf k) ((Request.map k v).taint d.arena)
  /-- A map has the taint of its values. -/
  value : ∀ k ∈ d.ids, ∀ v ∈ d.ids,
    Taint.Below (d.arena.taintOf v) ((Request.map k v).taint d.arena)
  /-- A mark has its own level and category. -/
  own : ∀ b ∈ d.ids, ∀ level category,
    Taint.Below (some (.make level [category])) ((Request.pii b level category).taint d.arena)
  /-- A mark has the level of a mark that it is put on, and of what has no higher level. -/
  level : ∀ b ∈ d.ids, ∀ level category,
    Taint.levelOf (d.arena.taintOf b)
        ≤ Taint.levelOf ((Request.pii b level category).taint d.arena) ↔
      d.arena.isMarked b ∨ Taint.levelOf (d.arena.taintOf b) ≤ level
  /-- A mark has the taint of what it is put on exactly if it has its level, and its categories are
  no other than the one of the mark. -/
  mark : ∀ b ∈ d.ids, ∀ level category,
    Taint.Below (d.arena.taintOf b) ((Request.pii b level category).taint d.arena) ↔
      (d.arena.isMarked b ∨ Taint.levelOf (d.arena.taintOf b) ≤ level) ∧
        ∀ c ∈ Taint.categoriesOf (d.arena.taintOf b),
          c ∈ Taint.categoriesOf (some (.make level [category]))
  /-- The taint of a type is the least that covers the marks it shows. -/
  least : ∀ i ∈ d.ids, ∀ x, Taint.Below (d.arena.taintOf i) x ↔
    ∀ level category, (d.arena.tree i).Shows level category →
      Taint.Below (some (.make level [category])) x
  /-- Later uses change no taint. -/
  kept : ∀ d', d.Used d' → ∀ i ∈ d.ids, d'.arena.taintOf i = d.arena.taintOf i

section Ordered

variable {d : Issued} (h : d.Ordered)

include h

/-- A type that is made of another shows its taint if the structure does. -/
theorem Ordered.below_taint (r : Request) (hr : ∀ q ∈ r.args, q ∈ d.ids) {q : TypeId}
    (hq : Taint.Below (d.arena.tree q).taint (r.meaning d.arena).taint) :
    Taint.Below (d.arena.taintOf q) (r.taint d.arena) := by
  rw [Request.taint_eq h.sound (h.args_le hr), h.sound.taintOf_eq]
  exact hq

variable {b : TypeId} (hb : b ∈ d.ids) (level : Level) (category : String)

include hb

/-- **A mark carries one category**, and the level of the mark it takes the place of. -/
theorem Ordered.taint_mark : (Request.pii b level category).taint d.arena
    = some (.make ((d.arena.tree b).markedLevel level) [category]) := by
  have hr : ∀ q ∈ (Request.pii b level category).args, q ∈ d.ids := by
    intro q hq
    rw [List.mem_singleton.1 hq]
    exact hb
  rw [Request.taint_eq h.sound (h.args_le hr)]
  rfl

theorem Ordered.level_mark :
    Taint.levelOf (d.arena.taintOf b)
        ≤ Taint.levelOf ((Request.pii b level category).taint d.arena) ↔
      d.arena.isMarked b ∨ Taint.levelOf (d.arena.taintOf b) ≤ level := by
  rw [h.taint_mark hb, h.sound.taintOf_eq, h.sound.isMarked_eq]
  exact (d.arena.tree b).level_taint_le_iff level

theorem Ordered.below_mark :
    Taint.Below (d.arena.taintOf b) ((Request.pii b level category).taint d.arena) ↔
      (d.arena.isMarked b ∨ Taint.levelOf (d.arena.taintOf b) ≤ level) ∧
        ∀ c ∈ Taint.categoriesOf (d.arena.taintOf b),
          c ∈ Taint.categoriesOf (some (.make level [category])) := by
  rw [Taint.Below, h.level_mark hb, h.taint_mark hb]
  rfl

end Ordered

/-- **Marks are exposed as far as the next mark**, in every arena in use. -/
theorem marks_exposed {pool : Strings} {d : Issued} (hd : (start pool).Used d) : d.Exposed := by
  obtain ⟨h, -, -⟩ := (ordered_start pool).run Ordered.use hd
  refine ⟨?_, ?_, ?_, ?_, ?_, fun b hb => h.level_mark hb, fun b hb => h.below_mark hb, ?_, ?_⟩
  · exact fun b hb => h.below_taint (.optional b) (by simpa [Request.args] using hb) (.refl _)
  · exact fun b hb => h.below_taint (.list b) (by simpa [Request.args] using hb) (.refl _)
  · exact fun k hk v hv => h.below_taint (.map k v) (by simpa [Request.args] using ⟨hk, hv⟩)
      (Taint.below_merge_left _ _)
  · exact fun k hk v hv => h.below_taint (.map k v) (by simpa [Request.args] using ⟨hk, hv⟩)
      (Taint.below_merge_right _ _)
  · intro b hb level category
    rw [h.taint_mark hb]
    exact ⟨(d.arena.tree b).le_markedLevel level, fun c hc => hc⟩
  · intro i _ x
    rw [h.sound.taintOf_eq]
    exact Ty.taint_below_iff _
  · intro d' hd' i hi
    obtain ⟨h', happ, -⟩ := h.run Ordered.use hd'
    rw [h'.sound.taintOf_eq, h.sound.taintOf_eq, h.sound.tree_of_lookup_eq h'.sound
      (fun _ hid => happ.lookup_eq hid) i (h.issued.1 hi).2]

/-- An address, the address where it may be missing, and a map from names to such addresses. -/
def mailsAsked : List Request :=
  [.pii text .l3 "email", .optional 9, .pii text .l1 "name", .map 11 10, .list 12]

/-- The list of those maps shows both marks. -/
theorem marks_exposed_mailsAsked :
    (start {}).accepts mailsAsked = true ∧
      (mailsAsked.foldl serve (start {})).arena.taintOf 13
        = some (.make .l3 ["email", "name"]) ∧
      (mailsAsked.foldl serve (start {})).Exposed := by
  have hall : (start {}).accepts mailsAsked = true := by decide +kernel
  exact ⟨hall, by decide +kernel, marks_exposed (later_foldl hall).used⟩

/-- **Marks hide what they are put on**: a mark on an address drops the category of the address, and
a mark on an address that may be missing drops its level too. -/
theorem marks_hide_mailsAsked :
    (start {}).Used (mailsAsked.foldl serve (start {})) ∧
      (let d := mailsAsked.foldl serve (start {})
      9 ∈ d.ids ∧ 10 ∈ d.ids ∧
        (Request.pii 9 .l1 "name").taint d.arena = some (.make .l3 ["name"]) ∧
        ¬ Taint.Below (d.arena.taintOf 9) ((Request.pii 9 .l1 "name").taint d.arena) ∧
        (Request.pii 10 .l1 "name").taint d.arena = some (.make .l1 ["name"]) ∧
        ¬ Taint.Below (d.arena.taintOf 10) ((Request.pii 10 .l1 "name").taint d.arena)) := by
  have hall : (start {}).accepts mailsAsked = true := by decide +kernel
  exact ⟨(later_foldl hall).used, by decide +kernel⟩

end Issued

end CoreCheck.Types

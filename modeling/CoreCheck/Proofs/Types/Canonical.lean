import Mathlib.Logic.Relation
import CoreCheck.Proofs.Types.Structure

/-!
# Proofs/Types/Canonical — numbers stand for structures, for good

Types are asked of an arena one after the other, each request naming types that were answered
before.  Whatever is asked, an answer keeps its meaning, and two answers are the same number exactly
when they stand for the same structure.  Equal structures are found by three means: shapes by their
parts, function types by their written signature, and names by their number in a pool of texts.
Record and enumeration types are never looked for: each registration is a type of its own.
-/

namespace CoreCheck.Types

/-! ## What is asked of an arena -/

/-- **A request for a type.** -/
inductive Request where
  | optional (elem : TypeId)
  | list (elem : TypeId)
  | map (key value : TypeId)
  | result (ok err : TypeId)
  | func (params : List TypeId) (res : TypeId)
  | var (name : String)
  | pii (base : TypeId) (level : Level) (category : String)
  /-- Registers a record type. -/
  | data (name : String) (span : Span)
  /-- Registers an enumeration. -/
  | enum (name : String) (span : Span) (variants : List String)

namespace Request

/-- The types that a request names. -/
def args : Request → List TypeId
  | .optional e | .list e | .pii e _ _ => [e]
  | .map k v => [k, v]
  | .result x y => [x, y]
  | .func ps r => r :: ps
  | .var _ | .data _ _ | .enum _ _ _ => []

/-- Whether a request registers a type of its own. -/
def isNominal : Request → Bool
  | .data _ _ | .enum _ _ _ => true
  | _ => false

/-- The arena after a request, and its answer. -/
def make (a : Arena) : Request → Arena × TypeId
  | .optional e => a.optional e
  | .list e => a.list e
  | .map k v => a.map k v
  | .result x y => a.result x y
  | .func ps r => a.func ps r
  | .var name => a.var name
  | .pii base level category => a.pii base level category
  | .data name span => a.newData name span
  | .enum name span variants => a.newEnum name span variants

/-- **The structure that a request describes.** A mark is put under a mark that is there; a record
or an enumeration is the next one registered. -/
def meaning (a : Arena) : Request → Ty
  | .optional e => .optional (a.tree e)
  | .list e => .list (a.tree e)
  | .map k v => .map (a.tree k) (a.tree v)
  | .result x y => .result (a.tree x) (a.tree y)
  | .func ps r => .func (ps.map a.tree) (a.tree r)
  | .var name => .var name
  | .pii base level category =>
    .pii (a.tree base).unwrap ((a.tree base).markedLevel level) category
  | .data _ _ => .data a.datas.size
  | .enum _ _ _ => .enum a.enums.size

/-! ## Every request stores one shape -/

/-- The shape that answers a request. -/
def shape (a : Arena) : Request → Shape
  | .optional e => .optional e
  | .list e => .list e
  | .map k v => .map k v
  | .result x y => .result x y
  | .func ps r => .func ps r
  | .var name => .var name
  | .pii base level category => .pii (a.unwrap base) (a.markedLevel base level) category
  | .data _ _ => .data a.datas.size
  | .enum _ _ _ => .enum a.enums.size

/-- The arena in which that shape is looked for: the details of a new type and the category of a
mark are noted first. -/
def prepared (a : Arena) : Request → Arena
  | .pii _ _ category => a.note category
  | .data name span => { a with datas := a.datas.push { name, span } }
  | .enum name span variants => { a with enums := a.enums.push { name, span, variants } }
  | _ => a

theorem make_eq (a : Arena) (r : Request) : r.make a = (r.prepared a).intern (r.shape a) := by
  cases r with
  | func ps r => exact a.func_eq_intern ps r
  | pii base level category => exact a.pii_eq_intern base level category
  | _ => rfl

@[simp] theorem shapes_prepared (a : Arena) (r : Request) : (r.prepared a).shapes = a.shapes := by
  cases r <;> rfl

theorem lookup_prepared (a : Arena) (r : Request) (id : TypeId) :
    (r.prepared a).lookup id = a.lookup id := by
  simp [Arena.lookup]

theorem size_prepared (a : Arena) (r : Request) : (r.prepared a).size = a.size := by
  simp [Arena.size]

section Sound

variable {a : Arena} (h : a.Sound)

include h

theorem sound_prepared (r : Request) : (r.prepared a).Sound := by
  cases r with
  | pii base level category => exact h.note category
  | data name span => exact h.pushData name span
  | enum name span variants => exact h.withEnums _
  | _ => exact h

/-- The parts of the answer are types that the request names, or lie under their marks. -/
theorem parts_shape_le {r : Request} (hr : ∀ q ∈ r.args, q ≤ a.size) :
    ∀ q ∈ (r.shape a).parts, q ≤ a.size := by
  cases r with
  | pii base level category =>
    intro q hq
    rw [List.mem_singleton.1 hq]
    exact h.unwrap_le (hr base (.head _))
  | _ => exact hr

theorem sound_make {r : Request} (hr : ∀ q ∈ r.args, q ≤ a.size) : (r.make a).1.Sound := by
  rw [make_eq]
  refine (sound_prepared h r).intern ?_ ?_
  · rw [size_prepared]
    exact parts_shape_le h hr
  · -- only a request for a mark is answered by one, and it looks under the mark that is there
    cases r with
    | pii base level category =>
      rintro _ _ _ ⟨⟩ t ht
      exact h.unwrap_flat ht
    | _ => exact fun _ _ _ he => nomatch he

theorem assemble_shape (r : Request) : (r.shape a).assemble a.tree = r.meaning a := by
  cases r with
  | pii base level category =>
    rw [shape, Shape.assemble, h.tree_unwrap, h.markedLevel_eq, meaning]
  | _ => rfl

end Sound

end Request

/-! ## Arenas that are appended to -/

namespace Arena

/-- **An arena is appended to**: its shapes are the first ones of the other, and texts keep their
numbers. -/
structure AppendsTo (a b : Arena) : Prop where
  shapes : a.shapes.toList <+: b.shapes.toList
  strings : a.strings.Extends b.strings

namespace AppendsTo

theorem refl (a : Arena) : a.AppendsTo a := ⟨List.prefix_rfl, .refl _⟩

theorem trans {a b c : Arena} (h : a.AppendsTo b) (h' : b.AppendsTo c) : a.AppendsTo c :=
  ⟨h.shapes.trans h'.shapes, h.strings.trans h'.strings⟩

variable {a b : Arena} (h : a.AppendsTo b)

include h

theorem size_le : a.size ≤ b.size := by
  simpa [size] using h.shapes.length_le

theorem lookup_eq {id : TypeId} (hid : id ≤ a.size) : b.lookup id = a.lookup id := by
  obtain ⟨rest, hrest⟩ := h.shapes
  cases id with
  | zero => rw [lookup_zero, lookup_zero]
  | succ i =>
    rw [lookup_succ, lookup_succ, ← Array.getElem?_toList, ← Array.getElem?_toList, ← hrest]
    exact List.getElem?_append_left hid

theorem funcInfo?_eq {id : TypeId} (hid : id ≤ a.size) : b.funcInfo? id = a.funcInfo? id := by
  rw [funcInfo?, funcInfo?, h.lookup_eq hid]

theorem take_eq {n : Nat} (hn : n ≤ a.size) : b.shapes.toList.take n = a.shapes.toList.take n := by
  obtain ⟨rest, hrest⟩ := h.shapes
  rw [← hrest]
  exact List.take_append_of_le_length hn

end AppendsTo

theorem extends_noted (p : Strings) (s : Shape) : p.Extends (s.noted p) := by
  cases s with
  | var name => exact p.extends_intern name
  | _ => exact .refl p

theorem appendsTo_note (a : Arena) (s : String) : a.AppendsTo (a.note s) :=
  ⟨List.prefix_rfl, a.strings.extends_intern s⟩

theorem appendsTo_intern (a : Arena) (s : Shape) : a.AppendsTo (a.intern s).1 := by
  obtain ⟨he, -⟩ | ⟨he, -, -⟩ := a.intern_cases s
  · rw [he]
    exact .refl a
  · rw [he]
    refine ⟨?_, extends_noted a.strings s⟩
    simp [shapes_store]

end Arena

theorem Request.appendsTo_prepared (a : Arena) (r : Request) : a.AppendsTo (r.prepared a) := by
  refine ⟨by simp, ?_⟩
  cases r with
  | pii base level category => exact a.strings.extends_intern category
  | _ => exact .refl _

/-- **A request only appends.** -/
theorem Request.appendsTo_make (a : Arena) (r : Request) : a.AppendsTo (r.make a).1 := by
  rw [make_eq]
  exact (appendsTo_prepared a r).trans (Arena.appendsTo_intern _ _)

/-! ## Descriptors -/

/-- **What is kept of a type**: its kind, its main and its second part, a number that stands for the
rest, and its level. -/
structure Descriptor where
  kind : Kind
  elem : TypeId
  key : TypeId
  payload : Nat
  level : Level
deriving DecidableEq

/-- Whether a shape is that of a function type. -/
def Shape.isFunc : Shape → Bool
  | .func _ _ => true
  | _ => false

/-- The level of a mark; no other shape has one. -/
def Shape.level : Shape → Level
  | .pii _ level _ => level
  | _ => .none

namespace Arena

/-- The number that stands for the rest of a shape: the number of a name in the pool, the place
among the function types, or the place among the records or the enumerations, counted from one. -/
def payload (a : Arena) (id : TypeId) : Shape → Nat
  | .data slot | .enum slot => slot + 1
  | .var name | .pii _ _ name => (a.strings.find? name).getD 0
  | .func _ _ => (a.shapes.toList.take (id - 1)).countP Shape.isFunc
  | _ => 0

/-- The descriptor of a type. -/
def descriptor? (a : Arena) (id : TypeId) : Option Descriptor :=
  (a.lookup id).map fun s => ⟨s.kind, s.elem, s.key, a.payload id s, s.level⟩

/-- The categories of marks are in the pool. -/
def Labelled (a : Arena) : Prop :=
  ∀ {base level category}, Shape.pii base level category ∈ a.shapes → category ∈ a.strings.all

section Descriptors

variable {a b : Arena}

theorem AppendsTo.find?_eq (h : a.AppendsTo b) {s : String} (hs : s ∈ a.strings.all) :
    b.strings.find? s = a.strings.find? s := by
  obtain ⟨n, hn⟩ := Strings.exists_find? hs
  rw [hn, h.strings s n hn]

/-- **Descriptors do not change when an arena is appended to.** -/
theorem AppendsTo.descriptor?_eq (h : a.AppendsTo b) (hl : a.Labelled) {id : TypeId}
    (hid : id ≤ a.size) : b.descriptor? id = a.descriptor? id := by
  rw [descriptor?, descriptor?, h.lookup_eq hid]
  refine Option.map_congr fun s hs => ?_
  have hmem := mem_shapes_of_lookup hs
  suffices hp : b.payload id s = a.payload id s by rw [hp]
  cases s with
  | var name => rw [payload, payload, h.find?_eq (a.named hmem)]
  | pii base level category => rw [payload, payload, h.find?_eq (hl hmem)]
  | func ps r => rw [payload, payload, h.take_eq (Nat.le_trans (Nat.sub_le _ _) hid)]
  | _ => rfl

/-- A function type has its own place among the function types. -/
theorem payload_lt_of_func {i j : Nat} {ps : List TypeId} {r : TypeId} {t : Shape}
    (hi : a.lookup i = some (.func ps r)) (ht : t.isFunc) (hij : i < j) :
    a.payload i (.func ps r) < a.payload j t := by
  obtain ⟨qs, r', rfl⟩ : ∃ qs r', t = .func qs r' := by
    cases t <;> simp_all [Shape.isFunc]
  cases i with
  | zero => simp [lookup_zero] at hi
  | succ i =>
    rw [lookup_succ, ← Array.getElem?_toList] at hi
    have hstep : (a.shapes.toList.take (i + 1)).countP Shape.isFunc
        = (a.shapes.toList.take i).countP Shape.isFunc + 1 := by
      rw [List.take_add_one, hi]
      simp [Shape.isFunc]
    have hmono : (a.shapes.toList.take (i + 1)).countP Shape.isFunc
        ≤ (a.shapes.toList.take (j - 1)).countP Shape.isFunc :=
      (List.take_sublist_take_left (by omega)).countP_le
    rw [payload, payload, Nat.succ_sub_one]
    omega

/-- Names are told apart by their numbers. -/
theorem name_eq_of_find? {p : Strings} {s t : String} (hs : s ∈ p.all) (ht : t ∈ p.all)
    (h : (p.find? s).getD 0 = (p.find? t).getD 0) : s = t := by
  obtain ⟨n, hn⟩ := Strings.exists_find? hs
  obtain ⟨m, hm⟩ := Strings.exists_find? ht
  rw [hn, hm, Option.getD_some, Option.getD_some] at h
  subst h
  exact Strings.find?_inj hn hm

/-- **A descriptor settles the shape**, if it is not that of a function type. -/
theorem Labelled.shape_eq (hl : a.Labelled) {i j : TypeId} {s t : Shape} (hs : s ∈ a.shapes)
    (ht : t ∈ a.shapes) (hfunc : s.isFunc = false) (hkind : s.kind = t.kind)
    (helem : s.elem = t.elem) (hkey : s.key = t.key) (hpay : a.payload i s = a.payload j t)
    (hlevel : s.level = t.level) : s = t := by
  cases s <;> cases t <;> first
    | rfl
    | (simp only [Shape.kind, reduceCtorEq] at hkind; done)
    | skip
  case var.var n m => rw [name_eq_of_find? (a.named hs) (a.named ht) hpay]
  case pii.pii b l c b' l' c' =>
    rw [name_eq_of_find? (hl hs) (hl ht) hpay, show b = b' from helem, show l = l' from hlevel]
  case func.func => simp [Shape.isFunc] at hfunc
  all_goals simp_all [Shape.elem, Shape.key, payload]

/-- **Two types never share a descriptor.** -/
theorem Sound.descriptor?_inj (h : a.Sound) (hl : a.Labelled) {i j : TypeId} {s t : Shape}
    (hs : a.lookup i = some s) (ht : a.lookup j = some t)
    (he : a.descriptor? i = a.descriptor? j) : i = j := by
  simp only [descriptor?, hs, ht, Option.map_some, Option.some.injEq, Descriptor.mk.injEq] at he
  obtain ⟨hkind, helem, hkey, hpay, hlevel⟩ := he
  cases hfunc : s.isFunc with
  | false =>
    obtain rfl := hl.shape_eq (mem_shapes_of_lookup hs) (mem_shapes_of_lookup ht) hfunc hkind helem
      hkey hpay hlevel
    exact h.once hs ht
  | true =>
    obtain ⟨ps, r, rfl⟩ : ∃ ps r, s = .func ps r := by cases s <;> simp_all [Shape.isFunc]
    obtain ⟨qs, r', rfl⟩ : ∃ qs r', t = .func qs r' := by cases t <;> simp_all [Shape.kind]
    rcases Nat.lt_trichotomy i j with hij | rfl | hij
    · exact absurd hpay (payload_lt_of_func hs rfl hij).ne
    · rfl
    · exact absurd hpay (payload_lt_of_func ht rfl hij).ne'

end Descriptors

end Arena

/-! ## One request -/

namespace Request

/-- What is stored after a request was stored before, or answers it. -/
theorem mem_shapes_make {a : Arena} {r : Request} {t : Shape} (ht : t ∈ (r.make a).1.shapes) :
    t ∈ a.shapes ∨ t = r.shape a := by
  rw [make_eq] at ht
  obtain ⟨he, -⟩ | ⟨he, -, -⟩ := (r.prepared a).intern_cases (r.shape a)
  · rw [he, shapes_prepared] at ht
    exact .inl ht
  · rw [he, Arena.shapes_store, shapes_prepared] at ht
    exact Array.mem_push.1 ht

/-- **The answer to a request** is a type that is there, or the next number. -/
theorem make_cases (a : Arena) (r : Request) :
    (r.make a).1.size = a.size ∧ a.lookup (r.make a).2 = some (r.shape a) ∨
      (r.make a).1.size = a.size + 1 ∧ (r.make a).2 = a.size + 1 := by
  rw [make_eq]
  obtain ⟨he, hs⟩ | ⟨he, hid, -⟩ := (r.prepared a).intern_cases (r.shape a)
  · exact .inl ⟨by rw [he, size_prepared], by rw [← lookup_prepared a r, hs]⟩
  · refine .inr ⟨?_, by rw [hid, size_prepared]⟩
    rw [he, ← size_prepared a r]
    simp [Arena.size]

theorem lookup_make (a : Arena) (r : Request) :
    (r.make a).1.lookup (r.make a).2 = some (r.shape a) := by
  rw [make_eq]
  exact Arena.lookup_intern _ _

theorem datas_make (a : Arena) (r : Request) : (r.make a).1.datas = (r.prepared a).datas := by
  rw [make_eq]
  exact (Arena.extends_intern _ _).datas_eq

theorem enums_make (a : Arena) (r : Request) : (r.make a).1.enums = (r.prepared a).enums := by
  rw [make_eq]
  exact (Arena.extends_intern _ _).enums_eq

theorem size_datas_le (a : Arena) (r : Request) : a.datas.size ≤ (r.prepared a).datas.size := by
  cases r <;> simp [prepared, Arena.note]

theorem size_enums_le (a : Arena) (r : Request) : a.enums.size ≤ (r.prepared a).enums.size := by
  cases r <;> simp [prepared, Arena.note]

/-- **The answer stands for the structure that the request describes.** -/
theorem tree_make {a : Arena} (h : a.Sound) {r : Request} (hr : ∀ q ∈ r.args, q ≤ a.size) :
    (r.make a).1.tree (r.make a).2 = r.meaning a := by
  have hmade := sound_make h hr
  calc (r.make a).1.tree (r.make a).2
      = (r.shape a).assemble (r.make a).1.tree := hmade.tree_eq (lookup_make a r)
    _ = (r.shape a).assemble a.tree := Shape.assemble_congr fun q hq =>
        h.tree_of_lookup_eq hmade (fun _ hid => (appendsTo_make a r).lookup_eq hid) q
          (parts_shape_le h hr q hq)
    _ = r.meaning a := assemble_shape h r

end Request

/-! ## Runs -/

/-- **An arena in use**, with the numbers that it has given out. -/
structure Issued where
  arena : Arena
  ids : List TypeId

namespace Issued

/-- A new arena over a pool that may be in use already. Its builtin types are given out. -/
def start (pool : Strings) : Issued where
  arena := { Arena.initial with strings := pool, named := by simp [Arena.initial] }
  ids := List.range' 1 8

/-- What is there after a request: its answer is given out. -/
def serve (d : Issued) (r : Request) : Issued where
  arena := (r.make d.arena).1
  ids := (r.make d.arena).2 :: d.ids

/-- **One step**: a request that names types given out before is served, or someone else puts a
text in the pool. -/
inductive Step (d : Issued) : Issued → Prop
  | serve (r : Request) (h : ∀ q ∈ r.args, q ∈ d.ids) : Step d (d.serve r)
  | note (s : String) : Step d { d with arena := d.arena.note s }

/-- Any number of steps. -/
def Later : Issued → Issued → Prop := Relation.ReflTransGen Step

/-- **What every step keeps.** -/
structure Ordered (d : Issued) : Prop where
  sound : d.arena.Sound
  labelled : d.arena.Labelled
  /-- Numbers are given out in order, without gaps. -/
  issued : ∀ {i : Nat}, i ∈ d.ids ↔ 0 < i ∧ i ≤ d.arena.size
  /-- Types are made of types. -/
  parts : ∀ {s}, s ∈ d.arena.shapes → ∀ q ∈ s.parts, 0 < q
  /-- Only registered records are stored. -/
  datas : ∀ {slot}, .data slot ∈ d.arena.shapes → slot < d.arena.datas.size
  /-- Only registered enumerations are stored. -/
  enums : ∀ {slot}, .enum slot ∈ d.arena.shapes → slot < d.arena.enums.size

theorem ordered_start (pool : Strings) : (start pool).Ordered where
  sound := ⟨Arena.sound_initial.older, Arena.sound_initial.flat, Arena.sound_initial.once,
    Arena.sound_initial.builtin, Arena.sound_initial.fields⟩
  labelled := by simp [Arena.Labelled, start, Arena.initial]
  issued := by
    intro i
    rw [show (start pool).arena.size = 8 from rfl, start, List.mem_range'_1]
    omega
  parts := fun hs q hq => by simp [Arena.parts_of_mem_initial _ hs] at hq
  datas := by simp [start, Arena.initial]
  enums := by simp [start, Arena.initial]

section Step

variable {d : Issued} (h : d.Ordered) {r : Request} (hr : ∀ q ∈ r.args, q ∈ d.ids)

include h

theorem Ordered.args_le (hr : ∀ q ∈ r.args, q ∈ d.ids) : ∀ q ∈ r.args, q ≤ d.arena.size :=
  fun q hq => (h.issued.1 (hr q hq)).2

theorem Ordered.unwrap_pos {base : TypeId} (hb : base ∈ d.ids) : 0 < d.arena.unwrap base := by
  rw [Arena.unwrap]
  split
  · next hs => exact h.parts (Arena.mem_shapes_of_lookup hs) _ (.head _)
  · exact (h.issued.1 hb).1

theorem Ordered.issued_of_lookup {i : TypeId} {s : Shape} (hs : d.arena.lookup i = some s) :
    i ∈ d.ids := by
  refine h.issued.2 ⟨Nat.pos_of_ne_zero ?_, Arena.le_size_of_lookup hs⟩
  rintro rfl
  simp [Arena.lookup_zero] at hs

theorem Ordered.note (s : String) : ({ d with arena := d.arena.note s } : Issued).Ordered where
  sound := h.sound.note s
  labelled := fun hmem => Strings.mem_intern (h.labelled hmem) s
  issued := h.issued
  parts := h.parts
  datas := h.datas
  enums := h.enums

/-- **Every registration is a new type.** -/
theorem Ordered.notMem_of_isNominal (hn : r.isNominal = true) : (r.make d.arena).2 ∉ d.ids := by
  rw [h.issued]
  obtain ⟨-, hlook⟩ | ⟨-, hid⟩ := r.make_cases d.arena
  · -- the next slot is not taken, so the shape cannot be there
    have hmem := Arena.mem_shapes_of_lookup hlook
    cases r with
    | data name span => exact absurd (h.datas hmem) (Nat.lt_irrefl _)
    | enum name span variants => exact absurd (h.enums hmem) (Nat.lt_irrefl _)
    | _ => exact nomatch hn
  · rw [hid]
    omega

include hr

theorem Ordered.serve : (d.serve r).Ordered where
  sound := r.sound_make h.sound (h.args_le hr)
  labelled := by
    intro base level category hmem
    obtain hmem | he := r.mem_shapes_make hmem
    · exact (r.appendsTo_make d.arena).strings.mem (h.labelled hmem)
    · -- the category of a new mark was noted before the mark was stored
      cases r with
      | pii base' level' category' =>
        obtain ⟨rfl, rfl, rfl⟩ := Shape.pii.inj he
        simp only [Issued.serve, Request.make_eq]
        exact (Arena.appendsTo_intern _ _).strings.mem (Strings.mem_intern_self _ _)
      | _ => exact nomatch he
  issued := by
    intro i
    rw [Issued.serve, List.mem_cons, h.issued]
    obtain ⟨hsize, hlook⟩ | ⟨hsize, hid⟩ := r.make_cases d.arena
    · rw [hsize]
      refine or_iff_right_of_imp ?_
      rintro rfl
      exact h.issued.1 (h.issued_of_lookup hlook)
    · rw [hsize, hid]
      omega
  parts := by
    intro s hs q hq
    obtain hs | rfl := r.mem_shapes_make hs
    · exact h.parts hs q hq
    · cases r with
      | pii base level category =>
        rw [List.mem_singleton.1 hq]
        exact h.unwrap_pos (hr base (.head _))
      | _ => exact (h.issued.1 (hr q hq)).1
  datas := by
    intro slot hmem
    simp only [Issued.serve, Request.datas_make]
    obtain hmem | he := r.mem_shapes_make hmem
    · exact Nat.lt_of_lt_of_le (h.datas hmem) (r.size_datas_le d.arena)
    · cases r with
      | data name span => simp [Shape.data.inj he, Request.prepared]
      | _ => exact nomatch he
  enums := by
    intro slot hmem
    simp only [Issued.serve, Request.enums_make]
    obtain hmem | he := r.mem_shapes_make hmem
    · exact Nat.lt_of_lt_of_le (h.enums hmem) (r.size_enums_le d.arena)
    · cases r with
      | enum name span variants => simp [Shape.enum.inj he, Request.prepared]
      | _ => exact nomatch he

end Step

/-! ## Whole runs -/

/-- **A step keeps order, appends to the arena and takes no number back.** -/
theorem Ordered.step {d d' : Issued} (h : d.Ordered) (hd : d.Step d') :
    d'.Ordered ∧ d.arena.AppendsTo d'.arena ∧ ∀ i ∈ d.ids, i ∈ d'.ids := by
  obtain ⟨r, hr⟩ | ⟨s⟩ := hd
  · exact ⟨h.serve hr, r.appendsTo_make d.arena, fun i hi => .tail _ hi⟩
  · exact ⟨h.note s, d.arena.appendsTo_note s, fun i hi => hi⟩

/-- What steps of a kind keep is kept by any number of them. -/
theorem Ordered.run {R : Issued → Issued → Prop}
    (hR : ∀ {d d' : Issued}, d.Ordered → R d d' →
      d'.Ordered ∧ d.arena.AppendsTo d'.arena ∧ ∀ i ∈ d.ids, i ∈ d'.ids)
    {d d' : Issued} (h : d.Ordered) (hd : Relation.ReflTransGen R d d') :
    d'.Ordered ∧ d.arena.AppendsTo d'.arena ∧ ∀ i ∈ d.ids, i ∈ d'.ids := by
  induction hd with
  | refl => exact ⟨h, .refl _, fun i hi => hi⟩
  | tail _ hstep ih =>
    obtain ⟨hord, happ, hids⟩ := ih
    obtain ⟨hord', happ', hids'⟩ := hR hord hstep
    exact ⟨hord', happ.trans happ', fun i hi => hids' i (hids i hi)⟩

theorem Ordered.later {d d' : Issued} (h : d.Ordered) (hd : d.Later d') :
    d'.Ordered ∧ d.arena.AppendsTo d'.arena ∧ ∀ i ∈ d.ids, i ∈ d'.ids :=
  h.run Ordered.step hd

/-- **Canonical numbers**, in an arena and in all that become of it. -/
structure Canonical (d : Issued) : Prop where
  /-- Every number that was given out is that of a stored type. -/
  stored : ∀ i ∈ d.ids, ∃ s, d.arena.lookup i = some s
  /-- The parts of a stored type have smaller numbers. -/
  older : ∀ i s, d.arena.lookup i = some s → ∀ q ∈ s.parts, q ∈ d.ids ∧ q < i
  /-- Nothing that is known of a number changes later. -/
  kept : ∀ d', d.Later d' → ∀ i ∈ d.ids, i ∈ d'.ids ∧
    d'.arena.lookup i = d.arena.lookup i ∧ d'.arena.descriptor? i = d.arena.descriptor? i ∧
      d'.arena.funcInfo? i = d.arena.funcInfo? i ∧ d'.arena.tree i = d.arena.tree i
  /-- Two numbers are equal exactly when their structures are. -/
  eq_iff_tree : ∀ i ∈ d.ids, ∀ j ∈ d.ids, i = j ↔ d.arena.tree i = d.arena.tree j
  /-- Two numbers are equal exactly when their descriptors are. -/
  eq_iff_descriptor : ∀ i ∈ d.ids, ∀ j ∈ d.ids,
    i = j ↔ d.arena.descriptor? i = d.arena.descriptor? j
  /-- The answer to a request has the structure that the request describes. -/
  answers : ∀ r : Request, (∀ q ∈ r.args, q ∈ d.ids) →
    (d.serve r).arena.tree (r.make d.arena).2 = r.meaning d.arena
  /-- Every registration gives a new number. -/
  nominal : ∀ r : Request, r.isNominal → (r.make d.arena).2 ∉ d.ids

theorem Ordered.exists_lookup {d : Issued} (h : d.Ordered) {i : TypeId} (hi : i ∈ d.ids) :
    ∃ s, d.arena.lookup i = some s :=
  Arena.exists_lookup (h.issued.1 hi).1 (h.issued.1 hi).2

/-- **The numbers of types are canonical**, whatever is asked of an arena and in whatever order. -/
theorem numbers_canonical {pool : Strings} {d : Issued} (hd : (start pool).Later d) :
    d.Canonical := by
  obtain ⟨h, -, -⟩ := (ordered_start pool).later hd
  have hle : ∀ {i}, i ∈ d.ids → i ≤ d.arena.size := fun hi => (h.issued.1 hi).2
  refine ⟨fun i hi => h.exists_lookup hi, ?_, ?_, ?_, ?_, ?_, ?_⟩
  · intro i s hs q hq
    have hold := h.sound.older hs q hq
    exact ⟨h.issued.2 ⟨h.parts (Arena.mem_shapes_of_lookup hs) q hq, h.sound.part_le hs hq⟩, hold⟩
  · intro d' hd' i hi
    obtain ⟨h', happ, hids⟩ := h.later hd'
    exact ⟨hids i hi, happ.lookup_eq (hle hi), happ.descriptor?_eq h.labelled (hle hi),
      happ.funcInfo?_eq (hle hi),
      h.sound.tree_of_lookup_eq h'.sound (fun _ hid => happ.lookup_eq hid) i (hle hi)⟩
  · intro i hi j hj
    exact ⟨fun he => he ▸ rfl, h.sound.tree_inj (hle hi) (hle hj)⟩
  · intro i hi j hj
    obtain ⟨s, hs⟩ := h.exists_lookup hi
    obtain ⟨t, ht⟩ := h.exists_lookup hj
    exact ⟨fun he => he ▸ rfl, h.sound.descriptor?_inj h.labelled hs ht⟩
  · intro r hr
    exact Request.tree_make h.sound (h.args_le hr)
  · intro r hr
    exact h.notMem_of_isNominal hr

/-- Whether requests, made one after the other, each name types that were given out before. -/
def accepts : Issued → List Request → Bool
  | _, [] => true
  | d, r :: rs => r.args.all (d.ids.contains ·) && (d.serve r).accepts rs

theorem later_foldl {d : Issued} {rs : List Request} (h : d.accepts rs = true) :
    d.Later (rs.foldl serve d) := by
  induction rs generalizing d with
  | nil => exact .refl
  | cons r rs ih =>
    rw [accepts, Bool.and_eq_true, List.all_eq_true] at h
    exact .head (.serve r fun q hq => by simpa using h.1 q hq) (ih h.2)

/-- Two records of one name, functions between them, and marks. -/
def usersAsked : List Request :=
  [.data "User" {}, .data "User" {}, .func [9] 10, .func [10] 9, .pii 9 .l1 "name",
    .pii 13 .l2 "mail", .func [9] 10, .pii 9 .l2 "mail"]

/-- The two records stay apart, and what is asked for twice is answered twice alike. -/
theorem numbers_canonical_usersAsked :
    (start {}).accepts usersAsked = true ∧
      (usersAsked.foldl serve (start {})).ids.take 8 = [14, 11, 14, 13, 12, 11, 10, 9] ∧
      (usersAsked.foldl serve (start {})).Canonical := by
  have hall : (start {}).accepts usersAsked = true := by decide +kernel
  exact ⟨hall, by decide +kernel, numbers_canonical (later_foldl hall)⟩

end Issued

end CoreCheck.Types

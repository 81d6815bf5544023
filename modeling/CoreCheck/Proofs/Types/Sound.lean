import CoreCheck.Proofs.Strings
import CoreCheck.Proofs.Types.Signature
import CoreCheck.Types.Compatible

/-!
# Proofs/Types/Sound — arenas that only grow

An arena is sound when the parts of every type are older than the type, no mark stands on a mark, no
shape is stored twice, and the fields of records are types of the arena.  Storing a shape over known
parts keeps all of this and extends the arena: numbers given out before keep their shapes.
-/

namespace CoreCheck.Types

/-- The numbers of the parts of a shape. -/
def Shape.parts : Shape → List TypeId
  | .optional e | .list e | .pii e _ _ => [e]
  | .map k v => [k, v]
  | .result x y => [x, y]
  | .func ps r => r :: ps
  | _ => []

/-- Whether a shape is a sensitivity mark. -/
def Shape.isMark : Shape → Bool
  | .pii _ _ _ => true
  | _ => false

namespace Arena

theorem lookup_zero (a : Arena) : a.lookup 0 = none := if_pos rfl

theorem lookup_succ (a : Arena) (i : Nat) : a.lookup (i + 1) = a.shapes[i]? := by
  simp [lookup]

theorem le_size_of_lookup {a : Arena} {id : TypeId} {s : Shape} (h : a.lookup id = some s) :
    id ≤ a.size := by
  cases id with
  | zero => exact Nat.zero_le _
  | succ i =>
    rw [lookup_succ] at h
    exact (Array.getElem?_eq_some_iff.1 h).1

theorem exists_lookup {a : Arena} {id : TypeId} (hpos : 0 < id) (hle : id ≤ a.size) :
    ∃ s, a.lookup id = some s := by
  cases id with
  | zero => exact absurd hpos (Nat.lt_irrefl 0)
  | succ i =>
    rw [lookup_succ]
    exact ⟨_, Array.getElem?_eq_getElem hle⟩

/-! ## Extension -/

/-- **An arena extends another** when numbers given out keep their shapes and the details of record
and enumeration types are the same. -/
structure Extends (a b : Arena) : Prop where
  size_le : a.size ≤ b.size
  lookup_eq : ∀ id ≤ a.size, b.lookup id = a.lookup id
  datas_eq : b.datas = a.datas
  enums_eq : b.enums = a.enums

namespace Extends

theorem refl (a : Arena) : a.Extends a := ⟨Nat.le_refl _, fun _ _ => rfl, rfl, rfl⟩

theorem trans {a b c : Arena} (h : a.Extends b) (h' : b.Extends c) : a.Extends c where
  size_le := Nat.le_trans h.size_le h'.size_le
  lookup_eq id hid := (h'.lookup_eq id (Nat.le_trans hid h.size_le)).trans (h.lookup_eq id hid)
  datas_eq := h'.datas_eq.trans h.datas_eq
  enums_eq := h'.enums_eq.trans h.enums_eq

theorem lookup_some {a b : Arena} (h : a.Extends b) {id : TypeId} {s : Shape}
    (hs : a.lookup id = some s) : b.lookup id = some s :=
  (h.lookup_eq id (le_size_of_lookup hs)).trans hs

theorem le_size {a b : Arena} (h : a.Extends b) {id : TypeId} (hid : id ≤ a.size) :
    id ≤ b.size := Nat.le_trans hid h.size_le

end Extends

theorem extends_note (a : Arena) (s : String) : a.Extends (a.note s) :=
  ⟨Nat.le_refl _, fun _ _ => rfl, rfl, rfl⟩

/-! ## Storing a shape -/

/-- What storing a shape does: it is there already, or it gets the next number. -/
theorem intern_cases (a : Arena) (s : Shape) :
    (a.intern s).1 = a ∧ a.lookup (a.intern s).2 = some s ∨
      (a.intern s).1 = a.store s ∧ (a.intern s).2 = a.size + 1 ∧
        s ∉ a.shapes := by
  rw [intern]
  split
  · next i hi =>
    refine .inl ⟨rfl, ?_⟩
    rw [lookup_succ]
    exact getElem?_of_idxOf? hi
  · next hnone => exact .inr ⟨rfl, rfl, Array.idxOf?_eq_none_iff.1 hnone⟩

@[simp] theorem shapes_store (a : Arena) (s : Shape) : (a.store s).shapes = a.shapes.push s := rfl

theorem lookup_store_old (a : Arena) (s : Shape) {id : TypeId} (hid : id ≤ a.size) :
    (a.store s).lookup id = a.lookup id := by
  cases id with
  | zero => rfl
  | succ i =>
    have hi : i < a.shapes.size := hid
    rw [lookup_succ, lookup_succ, shapes_store, Array.getElem?_push_lt hi,
      Array.getElem?_eq_getElem hi]

theorem lookup_store_new (a : Arena) (s : Shape) :
    (a.store s).lookup (a.size + 1) = some s := by
  rw [lookup_succ]
  exact Array.getElem?_push_size

theorem extends_intern (a : Arena) (s : Shape) : a.Extends (a.intern s).1 := by
  obtain ⟨h, -⟩ | ⟨h, -, -⟩ := a.intern_cases s
  · rw [h]
    exact .refl a
  · rw [h]
    refine ⟨?_, fun id hid => lookup_store_old a s hid, rfl, rfl⟩
    simp [size]

theorem lookup_intern (a : Arena) (s : Shape) :
    (a.intern s).1.lookup (a.intern s).2 = some s := by
  obtain ⟨h, hs⟩ | ⟨h, hid, -⟩ := a.intern_cases s
  · rw [h, hs]
  · rw [h, hid, lookup_store_new]

theorem intern_le_size (a : Arena) (s : Shape) : (a.intern s).2 ≤ (a.intern s).1.size :=
  le_size_of_lookup (lookup_intern a s)

/-! ## Soundness -/

/-- **A sound arena.** -/
structure Sound (a : Arena) : Prop where
  /-- Parts are older than the type they belong to. -/
  older : ∀ {id s}, a.lookup id = some s → ∀ q ∈ s.parts, q < id
  /-- What is marked is not itself a mark. -/
  flat : ∀ {id base level category}, a.lookup id = some (.pii base level category) →
    ∀ s, a.lookup base = some s → s.isMark = false
  /-- No shape is stored twice. -/
  once : ∀ {id id' s}, a.lookup id = some s → a.lookup id' = some s → id = id'
  /-- The builtin types are where they always are. -/
  builtin : Arena.initial.size ≤ a.size ∧
    ∀ id ≤ Arena.initial.size, a.lookup id = Arena.initial.lookup id
  /-- The fields of records are types of the arena. -/
  fields : ∀ d ∈ a.datas, ∀ f ∈ d.fields, f.type ≤ a.size

theorem mem_shapes_of_lookup {a : Arena} {id : TypeId} {s : Shape} (h : a.lookup id = some s) :
    s ∈ a.shapes := by
  cases id with
  | zero => exact nomatch h
  | succ i =>
    rw [lookup_succ] at h
    exact Array.mem_of_getElem? h

/-- Shapes without repeats are stored once. -/
theorem once_of_nodup {a : Arena} (h : a.shapes.toList.Nodup) {id id' : TypeId} {s : Shape}
    (hs : a.lookup id = some s) (hs' : a.lookup id' = some s) : id = id' := by
  cases id with
  | zero => exact nomatch hs
  | succ i =>
    cases id' with
    | zero => exact nomatch hs'
    | succ j =>
      rw [lookup_succ, ← Array.getElem?_toList] at hs hs'
      have hi := (List.getElem?_eq_some_iff.1 hs).1
      exact congrArg (· + 1) ((List.getElem?_inj hi h).1 (hs.trans hs'.symm))

/-- The builtin types have no parts. -/
theorem parts_of_mem_initial : ∀ s ∈ Arena.initial.shapes, s.parts = [] := by decide

theorem sound_initial : Arena.initial.Sound where
  older h q hq := by
    rw [parts_of_mem_initial _ (mem_shapes_of_lookup h)] at hq
    exact nomatch hq
  flat h := absurd (parts_of_mem_initial _ (mem_shapes_of_lookup h)) (List.cons_ne_nil _ _)
  once := once_of_nodup (by decide)
  builtin := ⟨Nat.le_refl _, fun _ _ => rfl⟩
  fields _ hd := nomatch hd

namespace Sound

variable {a : Arena}

/-- **Storing a shape over known parts keeps an arena sound**, unless it puts a mark on a mark. -/
theorem intern (h : a.Sound) {s : Shape} (hparts : ∀ q ∈ s.parts, q ≤ a.size)
    (hflat : ∀ base level category, s = .pii base level category →
      ∀ t, a.lookup base = some t → t.isMark = false) :
    (a.intern s).1.Sound := by
  obtain ⟨he, -⟩ | ⟨he, -, hnew⟩ := a.intern_cases s
  · rw [he]
    exact h
  · have hext := extends_intern a s
    rw [he] at hext ⊢
    -- a type of the new arena is an old one or the shape just stored
    have hold : ∀ {id t}, (a.store s).lookup id = some t →
        a.lookup id = some t ∨ id = a.size + 1 ∧ t = s := by
      intro id t ht
      by_cases hid : id ≤ a.size
      · exact .inl ((hext.lookup_eq id hid).symm.trans ht)
      · have hle : id ≤ a.size + 1 := by simpa [size] using le_size_of_lookup ht
        obtain rfl : id = a.size + 1 := Nat.le_antisymm hle (Nat.lt_of_not_le hid)
        exact .inr ⟨rfl, Option.some.inj (ht.symm.trans (lookup_store_new a s))⟩
    refine ⟨?_, ?_, ?_, ?_, fun d hd f hf => hext.le_size (h.fields d hd f hf)⟩
    · intro id t ht q hq
      obtain ht | ⟨rfl, rfl⟩ := hold ht
      · exact h.older ht q hq
      · exact Nat.lt_succ_of_le (hparts q hq)
    · intro id base level category ht t hb
      obtain ht | ⟨rfl, rfl⟩ := hold ht
      · have hle : base ≤ a.size :=
          Nat.le_trans (Nat.le_of_lt (h.older ht base (.head _))) (le_size_of_lookup ht)
        exact h.flat ht t ((hext.lookup_eq base hle).symm.trans hb)
      · have hle : base ≤ a.size := hparts base (.head _)
        exact hflat _ _ _ rfl t ((hext.lookup_eq base hle).symm.trans hb)
    · intro id id' t ht ht'
      obtain h₁ | ⟨rfl, rfl⟩ := hold ht
      · obtain h₂ | ⟨rfl, rfl⟩ := hold ht'
        · exact h.once h₁ h₂
        · exact absurd (mem_shapes_of_lookup h₁) hnew
      · obtain h₂ | ⟨rfl, -⟩ := hold ht'
        · exact absurd (mem_shapes_of_lookup h₂) hnew
        · rfl
    · exact ⟨Nat.le_trans h.builtin.1 hext.size_le, fun id hid =>
        (hext.lookup_eq id (Nat.le_trans hid h.builtin.1)).trans (h.builtin.2 id hid)⟩

theorem note (h : a.Sound) (s : String) : (a.note s).Sound :=
  ⟨h.older, h.flat, h.once, h.builtin, h.fields⟩

/-- The details of record types are no part of the shapes. -/
theorem withDatas (h : a.Sound) {datas : Array DataInfo}
    (hd : ∀ d ∈ datas, ∀ f ∈ d.fields, f.type ≤ a.size) : ({ a with datas } : Arena).Sound :=
  ⟨h.older, h.flat, h.once, h.builtin, hd⟩

/-- A record type starts without fields. -/
theorem pushData (h : a.Sound) (name : String) (span : Span) :
    ({ a with datas := a.datas.push { name, span } } : Arena).Sound := by
  refine h.withDatas fun d hd f hf => ?_
  obtain hd | rfl := Array.mem_push.1 hd
  · exact h.fields d hd f hf
  · exact nomatch hf

theorem withEnums (h : a.Sound) (enums : Array EnumInfo) : ({ a with enums } : Arena).Sound :=
  ⟨h.older, h.flat, h.once, h.builtin, h.fields⟩

theorem setFields (h : a.Sound) (id : TypeId) {fields : List Field}
    (hf : ∀ f ∈ fields, f.type ≤ a.size) : (a.setFields id fields).Sound := by
  rw [Arena.setFields]
  split
  · refine h.withDatas fun d hd f hmem => ?_
    obtain ⟨i, hi, rfl⟩ := Array.mem_iff_getElem.1 hd
    rw [Array.getElem_modify] at hmem
    split at hmem
    · exact hf f hmem
    · exact h.fields _ (Array.getElem_mem _) f hmem
  · exact h

end Sound

theorem shapes_setFields (a : Arena) (id : TypeId) (fields : List Field) :
    (a.setFields id fields).shapes = a.shapes := by
  rw [Arena.setFields]
  split <;> rfl

/-! ## Parts of known types are known -/

section Parts

variable {a : Arena} (h : a.Sound)

include h

theorem Sound.part_le {id : TypeId} {s : Shape} (hs : a.lookup id = some s) {q : TypeId}
    (hq : q ∈ s.parts) : q ≤ a.size :=
  Nat.le_trans (Nat.le_of_lt (h.older hs q hq)) (le_size_of_lookup hs)

theorem Sound.unwrap_le {id : TypeId} (hid : id ≤ a.size) : a.unwrap id ≤ a.size := by
  rw [unwrap]
  split
  · next hs => exact h.part_le hs (.head _)
  · exact hid

/-- Under a mark there is no other. -/
theorem Sound.unwrap_flat {id : TypeId} {t : Shape} (ht : a.lookup (a.unwrap id) = some t) :
    t.isMark = false := by
  rw [unwrap] at ht
  split at ht
  · next hs => exact h.flat hs t ht
  · next hno =>
    cases t with
    | pii b l c => exact absurd ht (hno b l c)
    | _ => rfl

end Parts

theorem Sound.builtin_le {a : Arena} (h : a.Sound) {id : TypeId} (hid : id ≤ 8) : id ≤ a.size :=
  Nat.le_trans hid h.builtin.1

/-! ## Making types -/

/-- The level of a mark that is put on a type: marks that are there already count. -/
def markedLevel (a : Arena) (id : TypeId) (level : Level) : Level :=
  match a.lookup id with
  | some (.pii _ l _) => level.max l
  | _ => level

/-- A mark is stored on the type under the mark, if there was one. -/
theorem pii_eq_intern (a : Arena) (base : TypeId) (level : Level) (category : String) :
    a.pii base level category = (a.note category).intern
      (.pii (a.unwrap base) (a.markedLevel base level) category) := by
  unfold pii unwrap markedLevel
  cases a.lookup base with
  | none => rfl
  | some s => cases s <;> rfl

theorem lookup_func (a : Arena) (params : List TypeId) (res : TypeId) :
    (a.func params res).1.lookup (a.func params res).2 = some (.func params res) := by
  rw [func_eq_intern]
  exact lookup_intern _ _

theorem extends_func (a : Arena) (params : List TypeId) (res : TypeId) :
    a.Extends (a.func params res).1 := by
  rw [func_eq_intern]
  exact extends_intern _ _

theorem extends_var (a : Arena) (name : String) : a.Extends (a.var name).1 := extends_intern _ _

theorem extends_pii (a : Arena) (base : TypeId) (level : Level) (category : String) :
    a.Extends (a.pii base level category).1 := by
  rw [pii_eq_intern]
  exact (extends_note a category).trans (extends_intern _ _)

/-- **What joining does**: it answers one of the two types or the optional of one, or none. -/
theorem join_cases (a : Arena) (s t : TypeId) :
    (∃ i, (i = s ∨ i = t) ∧
      (a.join s t = (a, some i) ∨ a.join s t = ((a.optional i).1, some (a.optional i).2))) ∨
      a.join s t = (a, none) := by
  unfold join
  split
  · exact .inl ⟨s, .inl rfl, .inl rfl⟩
  split
  · exact .inl ⟨t, .inr rfl, .inl rfl⟩
  split
  · exact .inl ⟨s, .inl rfl, .inl rfl⟩
  split
  · exact .inl ⟨t, .inr rfl, .inr rfl⟩
  split
  · exact .inl ⟨s, .inl rfl, .inr rfl⟩
  split
  · exact .inl ⟨s, .inl rfl, .inl rfl⟩
  split
  · exact .inl ⟨t, .inr rfl, .inl rfl⟩
  · exact .inr rfl

theorem extends_join (a : Arena) (s t : TypeId) : a.Extends (a.join s t).1 := by
  obtain ⟨i, -, he | he⟩ | he := a.join_cases s t
  · rw [he]
    exact .refl a
  · rw [he]
    exact extends_intern a _
  · rw [he]
    exact .refl a

/-- **A step that makes a type**: the arena is extended and stays sound, and the type is in it. -/
structure Made (a : Arena) (r : Arena × TypeId) : Prop where
  ext : a.Extends r.1
  sound : r.1.Sound
  le : r.2 ≤ r.1.size

section Made

variable {a : Arena} (h : a.Sound)

include h

theorem made_intern {s : Shape} (hparts : ∀ q ∈ s.parts, q ≤ a.size) (hmark : s.isMark = false) :
    Made a (a.intern s) :=
  ⟨extends_intern a s, h.intern hparts (fun _ _ _ he => by subst he; exact nomatch hmark),
    intern_le_size a s⟩

theorem made_optional {e : TypeId} (he : e ≤ a.size) : Made a (a.optional e) :=
  made_intern h (by simpa [Shape.parts] using he) rfl

theorem made_list {e : TypeId} (he : e ≤ a.size) : Made a (a.list e) :=
  made_intern h (by simpa [Shape.parts] using he) rfl

theorem made_map {k v : TypeId} (hk : k ≤ a.size) (hv : v ≤ a.size) : Made a (a.map k v) :=
  made_intern h (by simpa [Shape.parts] using ⟨hk, hv⟩) rfl

theorem made_result {x y : TypeId} (hx : x ≤ a.size) (hy : y ≤ a.size) : Made a (a.result x y) :=
  made_intern h (by simpa [Shape.parts] using ⟨hx, hy⟩) rfl

theorem made_func {ps : List TypeId} {r : TypeId} (hps : ∀ p ∈ ps, p ≤ a.size) (hr : r ≤ a.size) :
    Made a (a.func ps r) := by
  rw [func_eq_intern]
  exact made_intern h (by simpa [Shape.parts] using ⟨hr, hps⟩) rfl

theorem made_var (name : String) : Made a (a.var name) :=
  made_intern h (fun _ hq => nomatch hq) rfl

/-- A mark is put on what an older mark stood on, so no mark stands on another. -/
theorem made_pii {base : TypeId} (hb : base ≤ a.size) (level : Level) (category : String) :
    Made a (a.pii base level category) := by
  have hext := extends_pii a base level category
  rw [pii_eq_intern] at hext ⊢
  refine ⟨hext, (h.note category).intern ?_ ?_, intern_le_size _ _⟩
  · intro q hq
    rw [List.mem_singleton.1 hq]
    exact h.unwrap_le hb
  · rintro _ _ _ ⟨⟩ t ht
    exact h.unwrap_flat ht

/-- **Joining two known types** makes at most one new one. -/
theorem Sound.join {s t : TypeId} (hs : s ≤ a.size) (ht : t ≤ a.size) :
    (a.join s t).1.Sound ∧ ∀ j, (a.join s t).2 = some j → j ≤ (a.join s t).1.size := by
  have hle : ∀ i, i = s ∨ i = t → i ≤ a.size := by
    rintro i (rfl | rfl) <;> assumption
  obtain ⟨i, hi, he | he⟩ | he := a.join_cases s t
  · rw [he]
    refine ⟨h, ?_⟩
    rintro _ ⟨⟩
    exact hle i hi
  · rw [he]
    have hm := made_optional h (hle i hi)
    refine ⟨hm.sound, ?_⟩
    rintro _ ⟨⟩
    exact hm.le
  · rw [he]
    exact ⟨h, fun _ hj => nomatch hj⟩

end Made

end Arena
end CoreCheck.Types

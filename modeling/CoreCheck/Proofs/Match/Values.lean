import CoreCheck.Proofs.Walk.Values

/-!
# Proofs/Match/Values — values, and the patterns that match them

What a match means: the values of a type, with marks left out, and which of them a pattern matches.
A value of a type parameter, or of a type that is not known, may be any value.  Where a value of type
`T` fits into an optional, so does a pattern for `T`: it matches what it matches inside.

`Overclaims` lists the values that a pattern is taken to match, though it does not.  There are two
kinds.  A name under a wrapper or in a record may be a variant, but of another type than the part it
stands for: such a name is taken for one that matches everything.  A record pattern is taken to match
everything wherever its type fits, so also where the matched value is optional or of any type.
-/

namespace CoreCheck.Check

open CoreCheck.Types CoreCheck.Scope CoreCheck.Ir

/-! ## Values -/

/-- **A value**, as far as patterns tell values apart. -/
inductive Val where
  | none
  | some (v : Val)
  | ok (v : Val)
  | err (v : Val)
  /-- A variant, with the slot of its enumeration. -/
  | variant (slot : Nat) (name : String)
  /-- A record, with the slot of its type. -/
  | record (slot : Nat) (fields : List Val)
  /-- A number, a text or a truth value. -/
  | const (l : Literal)
  /-- A value that patterns cannot take apart: a list, a map, a function or the unit. -/
  | other (kind : Kind) (n : Nat)

namespace Val

/-- A value in a wrapper. -/
def wrap : Wrap → Val → Val
  | .some, v => .some v
  | .ok, v => .ok v
  | .err, v => .err v

/-- The value of a constant. -/
def ofLiteral : Literal → Val
  | .null => .none
  | l => .const l

/-- **A value reads as another**: as itself, or as what is inside an optional. -/
inductive Reads : Val → Val → Prop
  | here (v : Val) : Reads v v
  | inside {v w : Val} : Reads v w → Reads (.some v) w

/-- A value reads as at most one record. -/
theorem Reads.record_unique {v : Val} {slot slot' : Nat} {vs vs' : List Val}
    (h : v.Reads (.record slot vs)) (h' : v.Reads (.record slot' vs')) :
    slot = slot' ∧ vs = vs' := by
  generalize hw : Val.record slot vs = w at h
  induction h with
  | here =>
    subst hw
    cases h' with
    | here => exact ⟨rfl, rfl⟩
  | inside _ ih =>
    cases h' with
    | inside h' => exact ih h' hw

end Val

/-! ## Types of values -/

/-- The part of a type that a wrapper holds; the placeholder where there is no such part. -/
def partOf (a : Arena) (kind : Wrap) (type : TypeId) : TypeId :=
  match kind, a.lookup (a.unwrap type) with
  | .some, some (.optional elem) => elem
  | .ok, some (.result good _) => good
  | .err, some (.result _ bad) => bad
  | _, _ => unknown

/-- The kind of a constant. -/
def literalKind : Literal → Kind
  | .int _ => .int
  | .long _ => .long
  | .double _ => .double
  | .text _ => .text
  | .bool _ => .bool
  | .null => .null

/-- The kinds of values that patterns cannot take apart. -/
def Kind.isWhole : Kind → Bool
  | .unit | .list | .map | .func => true
  | _ => false

mutual

/-- **A value of a type.** -/
def HasType (a : Arena) (type : TypeId) : Val → Prop
  | .none => isOpaque a type = true ∨ a.kindOf type = .optional ∨ a.kindOf type = .null
  | .some v => (isOpaque a type = true ∨ a.kindOf type = .optional) ∧
      HasType a (partOf a .some type) v
  | .ok v => (isOpaque a type = true ∨ a.kindOf type = .result) ∧ HasType a (partOf a .ok type) v
  | .err v => (isOpaque a type = true ∨ a.kindOf type = .result) ∧ HasType a (partOf a .err type) v
  | .variant slot name =>
    (isOpaque a type = true ∨ a.lookup (a.unwrap type) = some (.enum slot)) ∧
      (a.enums[slot]?).any (·.hasVariant name) = true
  | .record slot vs =>
    (isOpaque a type = true ∨ a.lookup (a.unwrap type) = some (.data slot)) ∧
      ∃ info, a.datas[slot]? = some info ∧ HaveTypes a info.fields vs
  | .const l => l ≠ .null ∧ (isOpaque a type = true ∨ a.kindOf type = literalKind l)
  | .other kind _ => Kind.isWhole kind = true ∧ (isOpaque a type = true ∨ a.kindOf type = kind)

/-- The values of the fields of a record. -/
def HaveTypes (a : Arena) : List Field → List Val → Prop
  | [], [] => True
  | f :: fields, v :: vs => HasType a f.type v ∧ HaveTypes a fields vs
  | _, _ => False

end

theorem HaveTypes.length_eq {a : Arena} {fields : List Field} {vs : List Val}
    (h : HaveTypes a fields vs) : vs.length = fields.length := by
  induction fields generalizing vs with
  | nil =>
    cases vs with
    | nil => rfl
    | cons => exact h.elim
  | cons f fields ih =>
    cases vs with
    | nil => exact h.elim
    | cons v vs => exact congrArg (· + 1) (ih h.2)

/-- A value that reads as a record has a record of its type inside. -/
theorem HasType.of_reads {a : Arena} {type : TypeId} {v : Val} {slot : Nat} {vs : List Val}
    (h : HasType a type v) (hr : v.Reads (.record slot vs)) :
    ∃ info, a.datas[slot]? = some info ∧ HaveTypes a info.fields vs := by
  generalize hw : Val.record slot vs = w at hr
  induction hr generalizing type with
  | here =>
    subst hw
    exact h.2
  | inside _ ih => exact ih h.2 hw

/-! ## Matching -/

/-- **The type of which a name in a pattern is a variant**, if it is one: the matched type comes
first. A name that is no variant stands for whatever is matched. -/
def sense (s : State) (type : TypeId) (name : String) : Option TypeId :=
  if hasVariant s.types type name then some (s.types.unwrap type)
  else (variantType? name).value s

/-- A value that is, or holds, a variant of a type. -/
def IsVariant (a : Arena) (type : TypeId) (name : String) (v : Val) : Prop :=
  ∃ slot, a.lookup type = some (.enum slot) ∧ v.Reads (.variant slot name)

/-- What a record pattern takes apart. -/
def taken (s : State) (type : TypeId) (name : String) (count : Nat) : Taken :=
  match s.aliases.resolve? name with
  | none => if hasVariant s.types type name && count = 0 then .variant else .unclear
  | some id =>
    match s.types.dataInfo? id with
    | none => .unclear
    | some info => .data id info

/-- The type of the first field, or the placeholder behind the last one. -/
def fieldType (fields : List Field) : TypeId := (fields.head?.map Field.type).getD unknown

mutual

/-- **A pattern matches a value** of a type, where names stand for what they do in a state. -/
def Matches (s : State) (type : TypeId) : Pattern → Val → Prop
  | .wildcard _, _ => True
  | .name _ name, v => ∀ t, sense s type name = some t → IsVariant s.types t name v
  | .literal _ (.literal _ l), v => v.Reads (.ofLiteral l)
  | .literal _ _, _ => False
  | .none _, v => v = .none
  | .wrap _ kind inner, v => ∃ w, v = .wrap kind w ∧ Matches s (partOf s.types kind type) inner w
  | .ctor _ name ps, v =>
    match taken s type name ps.length with
    | .variant => IsVariant s.types (s.types.unwrap type) name v
    | .unclear => False
    | .data id info => ∃ slot vs, s.types.lookup id = some (.data slot) ∧
        v.Reads (.record slot vs) ∧ MatchesAll s info.fields ps vs

/-- Patterns match the fields of a record, from the first on. -/
def MatchesAll (s : State) (fields : List Field) : List Pattern → List Val → Prop
  | [], _ => True
  | _ :: _, [] => False
  | p :: ps, v :: vs => Matches s (fieldType fields) p v ∧ MatchesAll s fields.tail ps vs

end

/-! ## Patterns that are taken to match everything -/

/-- Whether a nested pattern is taken to match everything of a type. -/
def catches (s : State) (type : TypeId) : Pattern → Bool
  | .wildcard _ => true
  | .name _ name => sense s type name != some (s.types.unwrap type)
  | _ => false

/-- Whether all parts of a record pattern are taken to match everything. -/
def catchesAll (s : State) (fields : List Field) : List Pattern → Bool
  | [] => true
  | p :: ps => catches s (fieldType fields) p && catchesAll s fields.tail ps

/-- **A foreign name**: a variant, but of another type than the matched one. -/
def IsForeign (s : State) (type : TypeId) (p : Pattern) : Prop :=
  ∃ at_ name t, p = .name at_ name ∧ sense s type name = some t ∧ t ≠ s.types.unwrap type

/-- A foreign name misses a value: the value is not its variant. -/
def Misses (s : State) (type : TypeId) (p : Pattern) (v : Val) : Prop :=
  IsForeign s type p ∧ ¬ Matches s type p v

/-- A foreign name among the parts of a record pattern misses its field. -/
def MissesSome (s : State) (fields : List Field) : List Pattern → List Val → Prop
  | p :: ps, v :: vs => Misses s (fieldType fields) p v ∨ MissesSome s fields.tail ps vs
  | _, _ => False

/-- **A pattern overclaims a value**: it is taken to match the value, and does not. -/
def Overclaims (s : State) (type : TypeId) : Pattern → Val → Prop
  | .wrap _ kind inner, v => ∃ w, v = .wrap kind w ∧ Misses s (partOf s.types kind type) inner w
  | .ctor _ name ps, v => ∃ id info slot, taken s type name ps.length = .data id info ∧
      s.types.lookup id = some (.data slot) ∧ ps.length = info.fields.length ∧
      catchesAll s info.fields ps = true ∧
      ((∀ vs, ¬ v.Reads (.record slot vs)) ∨
        ∃ vs, v.Reads (.record slot vs) ∧ MissesSome s info.fields ps vs)
  | _, _ => False

section

variable {s : State}

/-- **What is taken to match everything does, unless it is a foreign name.** -/
theorem matches_or_foreign {type : TypeId} {p : Pattern} (h : catches s type p = true) :
    (∀ v, Matches s type p v) ∨ IsForeign s type p := by
  cases p with
  | wildcard at_ =>
    refine .inl fun v => ?_
    rw [Matches]
    trivial
  | name at_ name =>
    have hne : sense s type name ≠ some (s.types.unwrap type) := by simpa [catches] using h
    cases ht : sense s type name with
    | none =>
      refine .inl fun v => ?_
      rw [Matches, ht]
      exact fun _ he => nomatch he
    | some t => exact .inr ⟨at_, name, t, rfl, ht, fun he => hne (he ▸ ht)⟩
  | _ => exact nomatch h

theorem matches_or_misses {type : TypeId} {p : Pattern} (h : catches s type p = true) (v : Val) :
    Matches s type p v ∨ Misses s type p v := by
  obtain hall | hforeign := matches_or_foreign h
  · exact .inl (hall v)
  · exact (Classical.em (Matches s type p v)).imp_right fun hno => ⟨hforeign, hno⟩

theorem matchesAll_or_missesSome {fields : List Field} {ps : List Pattern} {vs : List Val}
    (h : catchesAll s fields ps = true) (hlen : ps.length = vs.length) :
    MatchesAll s fields ps vs ∨ MissesSome s fields ps vs := by
  induction ps generalizing fields vs with
  | nil =>
    left
    rw [MatchesAll]
    trivial
  | cons p ps ih =>
    cases vs with
    | nil => exact nomatch hlen
    | cons v vs =>
      obtain ⟨hp, hps⟩ := Bool.and_eq_true_iff.1 h
      rw [MatchesAll]
      obtain hm | hmiss := matches_or_misses hp v
      · exact (ih hps (Nat.succ.inj hlen)).imp (fun hms => ⟨hm, hms⟩) .inr
      · exact .inr (.inl hmiss)

theorem not_matchesAll_of_missesSome {fields : List Field} {ps : List Pattern} {vs : List Val}
    (h : MissesSome s fields ps vs) : ¬ MatchesAll s fields ps vs := by
  induction ps generalizing fields vs with
  | nil => exact h.elim
  | cons p ps ih =>
    cases vs with
    | nil => exact h.elim
    | cons v vs =>
      rw [MatchesAll]
      intro hm
      obtain hmiss | hrest := h
      · exact hmiss.2 hm.1
      · exact ih hrest hm.2

/-- **What a pattern overclaims, it does not match.** -/
theorem not_matches_of_overclaims {type : TypeId} {p : Pattern} {v : Val}
    (h : Overclaims s type p v) : ¬ Matches s type p v := by
  cases p with
  | wrap at_ kind inner =>
    obtain ⟨w, rfl, hmiss⟩ := h
    rw [Matches]
    rintro ⟨w', hw, hm⟩
    have hinj : w = w' := by cases kind <;> exact (by injection hw)
    exact hmiss.2 (hinj ▸ hm)
  | ctor at_ name ps =>
    obtain ⟨id, info, slot, htaken, hslot, -, -, hmiss⟩ := h
    rw [Matches, htaken]
    rintro ⟨slot', vs', hslot', hreads', hm⟩
    obtain rfl : slot = slot' := by simpa using hslot.symm.trans hslot'
    obtain hno | ⟨vs, hreads, hsome⟩ := hmiss
    · exact hno vs' hreads'
    · obtain ⟨-, rfl⟩ := hreads.record_unique hreads'
      exact not_matchesAll_of_missesSome hsome hm
  | _ => exact h.elim

end

end CoreCheck.Check

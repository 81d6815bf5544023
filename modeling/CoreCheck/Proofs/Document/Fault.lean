import Mathlib.Algebra.Ring.Int.Defs
import CoreCheck.Proofs.Document.Integers
import CoreCheck.Proofs.Document.Form

/-!
# Proofs/Document/Fault — faults of a document and the paths to them

`reach?` follows a path through keys that are there and not null and through indices that are in range,
and `readPath` reads such a path off its text (`readPath_pathText`).  `Violates` says what each violation
means for the value it is reported at.  A `Fault` is both: a path from a value, and what is wrong at its
end.
-/

namespace CoreCheck.Ir

open CoreCheck.Document (Value Number Step pathText)

/-! ## Paths into a document -/

/-- **The value that a path reaches.** Every key on it is there and not null, every index is one of
the list. -/
def reach? (v : Value) : List Step → Option Value
  | [] => some v
  | .key k :: path =>
    match v with
    | .object o => (plainField? o k).bind (reach? · path)
    | _ => none
  | .index i :: path =>
    match v with
    | .array vs => vs[i]?.bind (reach? · path)
    | _ => none

/-- What may stand in a key of a path. -/
def isKeyChar (c : Char) : Bool := c ≠ '.' && c ≠ '[' && c ≠ ']'

/-- Reads steps: a key behind a dot, an index in brackets. -/
def readSteps : List Char → Option (List Step)
  | [] => some []
  | '.' :: cs => (readSteps (cs.dropWhile isKeyChar)).map
      (.key (.ofList (cs.takeWhile isKeyChar)) :: ·)
  | '[' :: cs =>
    match _h : cs.dropWhile isDigit with
    | ']' :: rest => (readSteps rest).map (.index (natOfDigits (cs.takeWhile isDigit)) :: ·)
    | _ => none
  | _ => none
termination_by cs => cs.length
decreasing_by
  · have := (List.dropWhile_suffix (l := cs) isKeyChar).length_le
    simp only [List.length_cons]
    omega
  · have := (List.dropWhile_suffix (l := cs) isDigit).length_le
    simp_all only [List.length_cons]
    omega

/-- **The path that a text names**: keys divided by dots, indices in brackets. -/
def readPath (text : String) : Option (List Step) :=
  match text.toList with
  | [] => some []
  | '[' :: cs => readSteps ('[' :: cs)
  | cs => readSteps ('.' :: cs)

/-- The keys under which the readers look for parts of a document. -/
def partKeys : List String :=
  ["decls", "declarations", "span", "start", "end", "typeParams", "params", "ret", "effects",
    "capabilities", "body", "statements", "fields", "variants", "type", "key", "value", "ok", "err",
    "expr", "cond", "then", "else", "cases", "pattern", "names", "left", "right", "operand", "args",
    "items"]

/-- A path through such keys. -/
def ByParts (path : List Step) : Prop := ∀ k, Step.key k ∈ path → k ∈ partKeys

theorem isKeyChar_partKeys : ∀ k ∈ partKeys, k ≠ "" ∧ ∀ c ∈ k.toList, isKeyChar c = true := by
  simp [partKeys, isKeyChar]

theorem tailText_key (k : String) (path : List Step) :
    (pathText.tailText (.key k :: path)).toList =
      '.' :: (k.toList ++ (pathText.tailText path).toList) := by
  rw [pathText.tailText]
  simp

theorem tailText_index (i : Nat) (path : List Step) :
    (pathText.tailText (.index i :: path)).toList =
      '[' :: (digitsOf i ++ ']' :: (pathText.tailText path).toList) := by
  rw [pathText.tailText]
  simp [digitsOf, toString]

/-- A stretch of characters of one kind ends before the next character of another kind. -/
theorem takeWhile_dropWhile_append {p : Char → Bool} {cs rest : List Char}
    (hcs : ∀ c ∈ cs, p c = true) (hrest : ∀ c ∈ rest.head?, p c = false) :
    (cs ++ rest).takeWhile p = cs ∧ (cs ++ rest).dropWhile p = rest := by
  rw [List.takeWhile_append_of_pos hcs, List.dropWhile_append_of_pos hcs]
  cases rest with
  | nil => simp
  | cons c rest => simp [hrest c rfl]

/-- The text of further steps is empty or starts with a dot or a bracket. -/
theorem head_tailText (path : List Step) :
    ∀ c ∈ (pathText.tailText path).toList.head?, isKeyChar c = false := by
  rcases path with _ | ⟨_ | _, path⟩
  · exact fun _ hc => nomatch hc
  · rw [tailText_key]
    rintro _ ⟨⟩
    rfl
  · rw [tailText_index]
    rintro _ ⟨⟩
    rfl

theorem readSteps_tailText : ∀ {path : List Step}, ByParts path →
    readSteps (pathText.tailText path).toList = some path
  | [], _ => by
    rw [pathText.tailText, String.toList_empty, readSteps]
  | .key k :: path, h => by
    have hrest : ByParts path := fun k' hk' => h k' (.tail _ hk')
    obtain ⟨htake, hdrop⟩ := takeWhile_dropWhile_append
      (isKeyChar_partKeys k (h k (.head _))).2 (head_tailText path)
    rw [tailText_key, readSteps, htake, hdrop, readSteps_tailText hrest, String.ofList_toList]
    rfl
  | .index i :: path, h => by
    have hrest : ByParts path := fun k' hk' => h k' (.tail _ hk')
    have hbracket : ∀ c ∈ (']' :: (pathText.tailText path).toList).head?, isDigit c = false := by
      rintro _ ⟨⟩
      rfl
    obtain ⟨htake, hdrop⟩ :=
      takeWhile_dropWhile_append (fun _ => isDigit_of_mem_digitsOf (n := i)) hbracket
    rw [tailText_index, readSteps]
    split
    · next rest hsplit =>
      obtain ⟨-, rfl⟩ := List.cons.inj (hdrop.symm.trans hsplit)
      rw [htake, readSteps_tailText hrest, natOfDigits_digitsOf]
      rfl
    · next hno => exact absurd hdrop (hno _)

/-- **The text of a path names that path.** -/
theorem readPath_pathText {path : List Step} (h : ByParts path) :
    readPath (pathText path) = some path := by
  rcases path with _ | ⟨k | i, path⟩
  · rfl
  · have htext : '.' :: (pathText (.key k :: path)).toList =
        (pathText.tailText (.key k :: path)).toList := by
      rw [tailText_key, pathText, String.toList_append]
    obtain ⟨hne, hchars⟩ := isKeyChar_partKeys k (h k (.head _))
    obtain ⟨c, cs, hk⟩ := List.exists_cons_of_ne_nil (mt String.toList_eq_nil_iff.1 hne)
    have hread := readSteps_tailText h
    rw [← htext] at hread
    have hhead : (pathText (.key k :: path)).toList = c :: (cs ++ (pathText.tailText path).toList) := by
      rw [pathText, String.toList_append, hk, List.cons_append]
    have hc := hchars c (hk ▸ .head _)
    rw [readPath]
    split
    · next hnil => exact nomatch hnil.symm.trans hhead
    · next hbracket =>
      obtain ⟨rfl, -⟩ := List.cons.inj (hbracket.symm.trans hhead)
      exact absurd hc (by decide)
    · exact hread
  · have htext : pathText (.index i :: path) = pathText.tailText (.index i :: path) := rfl
    have hread := readSteps_tailText h
    rw [tailText_index] at hread
    rw [readPath, htext, tailText_index]
    exact hread

/-! ## Faults of a value -/

/-- The whole number that a value counts as. -/
def wholeOf? : Value → Option Int
  | .number n => n.toInt?
  | _ => none

/-- The double that a value counts as. -/
def doubleOf? : Value → Option Binary64
  | .number n => n.toDouble?
  | _ => none

/-- The label that a value gives for a level. -/
def levelLabel? : Value → Option String
  | .text s => some s
  | .number n => n.toInt?.map intText
  | _ => none

/-- A label among the effects of an object. -/
def HasEffectLabel (o : List (String × Value)) (l : String) : Prop :=
  plainField? o "effect" = some (.text l) ∨
    ∃ vs, plainField? o "effects" = some (.array vs) ∧ .text l ∈ vs

/-- **What a violation says of the value it is reported at.** -/
inductive Violates : Violation → Value → Prop where
  | notObject {v} : plainFields? v = none → Violates (.notObject v.kindName) v
  | missing {o key} : plainField? o key = none → Violates (.missing key) (.object o)
  | notText {o key w} : plainField? o key = some w → (∀ s, w ≠ .text s) →
      Violates (.notText key w.kindName) (.object o)
  | blankName {o key s} : plainField? o key = some (.text s) → Text.isBlankText s = true →
      Violates (.blankName key) (.object o)
  | notArray {o key w} : plainField? o key = some w → (∀ vs, w ≠ .array vs) →
      Violates (.notArray key w.kindName) (.object o)
  | itemNotText {v} : (∀ s, v ≠ .text s) → Violates (.itemNotText v.kindName) v
  | notInteger {o key w} : plainField? o key = some w → wholeOf? w = none →
      Violates (.notInteger key w.kindName) (.object o)
  | outOfRange {o key w i} : plainField? o key = some w → wholeOf? w = some i →
      ¬ (0 ≤ i ∧ i < 2 ^ 32) → Violates (.outOfRange key i) (.object o)
  | version {o w} : plainField? o "version" = some w → wholeOf? w ≠ some supportedVersion →
      Violates (.version w.message) (.object o)
  | unknownDecl {o kind} : plainField? o "kind" = some (.text kind) →
      kind ∉ ["func", "fn", "function", "data", "enum", "alias", "type", "import"] →
      Violates (.unknownDecl kind) (.object o)
  | unknownStmt {o kind} : plainField? o "kind" = some (.text kind) →
      kind ∉ ["let", "set", "return", "expr", "if", "match", "scope", "block", "start", "wait"] →
      Violates (.unknownStmt kind) (.object o)
  | unknownExpr {o kind} : plainField? o "kind" = some (.text kind) → isLiteralKind kind = false →
      kind ∉ ["name", "binary", "unary", "call", "construct", "member", "some", "ok", "err", "none",
        "list", "await"] → Violates (.unknownExpr kind) (.object o)
  | unknownPattern {o kind} : plainField? o "kind" = some (.text kind) →
      isLiteralKind kind = false →
      kind ∉ ["wildcard", "_", "name", "literal", "none", "some", "ok", "err", "ctor"] →
      Violates (.unknownPattern kind) (.object o)
  | unknownType {o kind} : plainField? o "kind" = some (.text kind) →
      kind ∉ ["name", "var", "optional", "list", "map", "result", "func", "pii"] →
      Violates (.unknownType kind) (.object o)
  | emptyTypeName : Violates .emptyTypeName (.text "")
  | literalNotInteger {o kind w} : kind = "int" ∨ kind = "long" →
      plainField? o "kind" = some (.text kind) → plainField? o "value" = some w →
      wholeOf? w = none → Violates (.literalNotInteger kind w.kindName) (.object o)
  | literalNotNumber {o w} : plainField? o "kind" = some (.text "double") →
      plainField? o "value" = some w → doubleOf? w = none →
      Violates (.literalNotNumber w.kindName) (.object o)
  | literalNotText {o w} : plainField? o "kind" = some (.text "string") →
      plainField? o "value" = some w → (∀ s, w ≠ .text s) →
      Violates (.literalNotText w.kindName) (.object o)
  | literalNotBool {o w} : plainField? o "kind" = some (.text "bool") →
      plainField? o "value" = some w → (∀ b, w ≠ .bool b) →
      Violates (.literalNotBool w.kindName) (.object o)
  | notLevel {o w} : plainField? o "level" = some w → levelLabel? w = none →
      Violates (.notLevel w.kindName) (.object o)
  | effect {o l cause} : HasEffectLabel o l → Effect.parse l = .error cause →
      Violates (.effect cause) (.object o)
  | capability {o l cause} : plainField? o "capability" = some (.text l) →
      Capability.parse l = .error cause → Violates (.capability cause) (.object o)
  | capabilityItem {l cause} : Capability.parse l = .error cause →
      Violates (.capability cause) (.text l)
  | level {o w l cause} : plainField? o "level" = some w → levelLabel? w = some l →
      Level.parse l = .error cause → Violates (.level cause) (.object o)

/-! ## Readings that point at the fault -/

/-- **A path to a fault**: it is reached through parts, and the violation is the case there. -/
structure Fault (v : Value) (path : List Step) (violation : Violation) : Prop where
  reached : ∃ node, reach? v path = some node ∧ Violates violation node
  parts : ByParts path

/-- **One reading at two places of one input**: it gives the same, or is refused at the same fault
behind either place. -/
inductive Points {α : Type} (source : String) (a b : List Step) (v : Value) :
    Except ContractError α → Except ContractError α → Prop where
  | pure (x : α) : Points source a b v (.ok x) (.ok x)
  | refused {path violation} : Fault v path violation →
      Points source a b v (.error ⟨source, a ++ path, violation⟩)
        (.error ⟨source, b ++ path, violation⟩)

/-- **A reading that points at faults of a value**, wherever that value stands. -/
def Located {α : Type} (v : Value) (read : Read α) : Prop :=
  ∀ source a b, Points source a b v (read ⟨source, a⟩) (read ⟨source, b⟩)

namespace Points

variable {α β : Type} {source : String} {a b : List Step} {v : Value}

theorem fail {violation : Violation} (h : Violates violation v) :
    Points source a b v (Place.fail ⟨source, a⟩ violation : Except ContractError α)
      (Place.fail ⟨source, b⟩ violation) := by
  have hfault : Fault v [] violation := ⟨⟨v, rfl, h⟩, fun _ hk => nomatch hk⟩
  have hpoints : Points source a b v (.error ⟨source, a ++ [], violation⟩ : Except ContractError α)
      (.error ⟨source, b ++ [], violation⟩) := .refused hfault
  rw [List.append_nil, List.append_nil] at hpoints
  exact hpoints

theorem bind {x y : Except ContractError α} {f g : α → Except ContractError β}
    (hx : Points source a b v x y) (hf : ∀ c, x = .ok c → Points source a b v (f c) (g c)) :
    Points source a b v (x >>= f) (y >>= g) := by
  cases hx with
  | pure c => exact hf c rfl
  | refused h => exact .refused h

/-- A fault of the value of a key is a fault of the object. -/
theorem key {x y : Except ContractError α} {o : List (String × Value)} {k : String} {w : Value}
    (hk : plainField? o k = some w) (hpart : k ∈ partKeys)
    (h : Points source (a ++ [.key k]) (b ++ [.key k]) w x y) :
    Points source a b (.object o) x y := by
  cases h with
  | pure c => exact .pure c
  | @refused path violation h =>
    obtain ⟨⟨node, hnode, hviolates⟩, hparts⟩ := h
    have hfault : Fault (.object o) (.key k :: path) violation := by
      refine ⟨⟨node, ?_, hviolates⟩, fun k' hk' => ?_⟩
      · rw [reach?, hk]
        exact hnode
      · obtain hk' | hk' := List.mem_cons.1 hk'
        · exact Step.key.inj hk' ▸ hpart
        · exact hparts k' hk'
    rw [List.append_assoc, List.append_assoc]
    exact .refused hfault

/-- A fault of an item is a fault of the list. -/
theorem index {x y : Except ContractError α} {vs : List Value} {i : Nat} {w : Value}
    (hi : vs[i]? = some w) (h : Points source (a ++ [.index i]) (b ++ [.index i]) w x y) :
    Points source a b (.array vs) x y := by
  cases h with
  | pure c => exact .pure c
  | @refused path violation h =>
    obtain ⟨⟨node, hnode, hviolates⟩, hparts⟩ := h
    have hfault : Fault (.array vs) (.index i :: path) violation := by
      refine ⟨⟨node, ?_, hviolates⟩, fun k' hk' => hparts k' (by simpa using hk')⟩
      rw [reach?, hi]
      exact hnode
    rw [List.append_assoc, List.append_assoc]
    exact .refused hfault

/-- Up to the path of a refusal the place does not matter. -/
theorem toOption_eq {x y : Except ContractError α} (h : Points source a b v x y) :
    x.toOption = y.toOption := by
  cases h <;> rfl

end Points

end CoreCheck.Ir

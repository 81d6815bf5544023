import CoreCheck.Diagnostic.Short
import CoreCheck.Proofs.Text.Pieces
import CoreCheck.Proofs.Types.Signature

/-!
# Proofs/Diagnostic/Lines — the lines of the short form

The short form is read line by line, one line for each diagnostic and each note.  Severity, code,
position and message never hold a line break, whatever the message is; the name of the file is
written as it is.  So the lines are the entries exactly when no file that is shown has a line break in
its name, and every such line break gives one line more (`oneLinePerEntry_iff`).
-/

namespace CoreCheck

/-! ## Entries -/

/-- **An entry of the short form**: a diagnostic by its severity, or a note, which has none. -/
structure Entry where
  severity : Option Severity
  code : Code
  span : Span
  message : String

namespace Entry

/-- What a line starts with: the severity or the word for a note, and the code. -/
def head (e : Entry) : String := (e.severity.elim "note" Severity.label) ++ " " ++ e.code.id

/-- The line of an entry. -/
def line (e : Entry) : String :=
  e.head ++ " " ++ shortPlace e.span ++ " " ++ oneLine e.message

end Entry

/-- The entries of a diagnostic: itself, and its notes if they are wanted. -/
def Diagnostic.entries (withNotes : Bool) (d : Diagnostic) : List Entry :=
  ⟨some d.severity, d.code, d.span, d.message⟩ ::
    if withNotes then d.notes.map fun n => ⟨none, d.code, n.span, n.message⟩ else []

/-- **The entries of a bag**, in the order of their emission. -/
def Bag.entries (b : Bag) (withNotes : Bool) : List Entry := b.flatMap (·.entries withNotes)

theorem Diagnostic.lines_eq (withNotes : Bool) (d : Diagnostic) :
    d.lines withNotes = (d.entries withNotes).map Entry.line := by
  have hnote : ∀ n : Note, d.noteLine n = Entry.line ⟨none, d.code, n.span, n.message⟩ :=
    fun _ => rfl
  rw [lines, entries, List.map_cons]
  refine congrArg (d.headLine :: ·) ?_
  split
  · rw [List.map_map]
    exact List.map_congr_left fun n _ => hnote n
  · rfl

namespace Bag

variable (b : Bag) (withNotes : Bool)

theorem short_eq : b.short withNotes = Text.join "\n" ((b.entries withNotes).map Entry.line) := by
  rw [short, entries, List.map_flatMap]
  exact congrArg (Text.join "\n")
    (List.flatMap_congr fun d _ => d.lines_eq withNotes)

/-- **As many entries as diagnostics**, and as notes if they are wanted. -/
theorem length_entries : (b.entries withNotes).length
    = b.length + if withNotes then (b.flatMap Diagnostic.notes).length else 0 := by
  induction b with
  | nil => cases withNotes <;> rfl
  | cons d b ih =>
    rw [entries] at ih ⊢
    rw [List.flatMap_cons, List.length_append, ih, Diagnostic.entries, List.length_cons,
      List.length_cons]
    cases withNotes with
    | false => simp only [Bool.false_eq_true, if_false, List.length_nil]; omega
    | true =>
      simp only [if_true, List.length_map, List.flatMap_cons, List.length_append]
      omega

theorem entries_ne_nil {b : Bag} (h : b ≠ []) (withNotes : Bool) : b.entries withNotes ≠ [] := by
  obtain ⟨d, ds, rfl⟩ := List.exists_cons_of_ne_nil h
  rw [entries, List.flatMap_cons, Diagnostic.entries]
  exact List.cons_ne_nil _ _

end Bag

/-! ## Where line breaks can be -/

/-- **A text on one line.** -/
def OnOneLine (s : String) : Prop := '\n' ∉ s.toList

instance (s : String) : Decidable (OnOneLine s) := inferInstanceAs (Decidable ('\n' ∉ s.toList))

theorem OnOneLine.append {s t : String} (hs : OnOneLine s) (ht : OnOneLine t) :
    OnOneLine (s ++ t) := by
  rw [OnOneLine, String.toList_append, List.mem_append]
  exact not_or.2 ⟨hs, ht⟩

theorem onOneLine_ofList {cs : List Char} (h : '\n' ∉ cs) : OnOneLine (String.ofList cs) := by
  rwa [OnOneLine, String.toList_ofList]

theorem lineBreak_notMem_digits (n : Nat) : '\n' ∉ digitsOf n :=
  Types.notMem_digitsOf (by decide) n

theorem Severity.onOneLine_label (s : Severity) : OnOneLine s.label := by
  rw [label]
  split <;> decide

theorem Code.onOneLine_id (c : Code) : OnOneLine c.id := by
  have hdigits : OnOneLine (String.ofList (padDigits 4 (digitsOf c.number))) := by
    refine onOneLine_ofList fun hmem => ?_
    obtain hmem | hmem := List.mem_append.1 hmem
    · exact absurd (List.eq_of_mem_replicate hmem) (by decide)
    · exact lineBreak_notMem_digits _ hmem
  rw [id]
  split
  case h_5 => decide
  all_goals exact .append (by decide) hdigits

theorem Position.onOneLine_text (p : Position) : OnOneLine p.text := by
  have hnat : ∀ n : Nat, OnOneLine (toString n) := fun n =>
    onOneLine_ofList (lineBreak_notMem_digits n)
  exact .append (.append (hnat p.line) (by decide)) (hnat p.col)

/-- **A message is put on one line**, whatever line breaks it has. -/
theorem onOneLine_oneLine (message : String) : OnOneLine (oneLine message) := by
  have hgo : ∀ cs : List Char, '\n' ∉ oneLine.go cs := by
    intro cs
    fun_induction oneLine.go cs with
    | case1 => exact List.not_mem_nil
    | case2 rest ih => simpa using ih
    | case3 rest _ ih => simpa using ih
    | case4 rest ih => simpa using ih
    | case5 c rest _ _ hne ih => simpa [Ne.symm (show c ≠ '\n' from hne)] using ih
  refine onOneLine_ofList fun hmem => hgo message.toList ?_
  rw [String.toList_ofList] at hmem
  exact (List.dropWhile_sublist _).mem
    (List.mem_reverse.1 ((List.dropWhile_sublist _).mem (List.mem_reverse.1 hmem)))

/-! ## The line of an entry -/

namespace Entry

theorem head_prefix_line (e : Entry) : (e.head ++ " ").toList <+: e.line.toList := by
  rw [line, String.append_assoc, String.append_assoc]
  generalize e.head ++ " " = start
  rw [String.toList_append]
  exact List.prefix_append _ _

theorem onOneLine_head (e : Entry) : OnOneLine e.head := by
  refine .append (.append ?_ (by decide)) e.code.onOneLine_id
  cases e.severity with
  | none => decide
  | some s => exact s.onOneLine_label

/-- A place has the line breaks that the name of its file has. -/
theorem count_shortPlace (s : Span) :
    (shortPlace s).toList.count '\n' = s.file.toList.count '\n' := by
  have hpos : ∀ file : String, (file ++ ":" ++ s.start.text).toList.count '\n'
      = file.toList.count '\n' := by
    intro file
    have hrest : OnOneLine (":" ++ s.start.text) := .append (by decide) s.start.onOneLine_text
    rw [String.append_assoc, String.toList_append, List.count_append, List.count_eq_zero.2 hrest,
      Nat.add_zero]
  rw [shortPlace]
  split
  · next hzero =>
    rw [(s.isZero_iff).1 hzero]
    rfl
  · rw [hpos]
    split
    · next hempty =>
      rw [hempty]
      rfl
    · rfl

/-- **A line has the line breaks that the name of its file has**, and no others. -/
theorem count_line (e : Entry) : e.line.toList.count '\n' = e.span.file.toList.count '\n' := by
  have hhead : OnOneLine (e.head ++ " ") := .append e.onOneLine_head (by decide)
  have hrest : OnOneLine (" " ++ oneLine e.message) :=
    .append (by decide) (onOneLine_oneLine e.message)
  rw [line, String.append_assoc, String.toList_append, String.toList_append, List.count_append,
    List.count_append, List.count_eq_zero.2 hhead, List.count_eq_zero.2 hrest, count_shortPlace,
    Nat.zero_add, Nat.add_zero]

theorem onOneLine_line_iff (e : Entry) : OnOneLine e.line ↔ OnOneLine e.span.file := by
  rw [OnOneLine, OnOneLine, ← List.count_eq_zero, count_line, List.count_eq_zero]

end Entry

/-! ## Lines and entries -/

namespace Bag

variable {b : Bag} (withNotes : Bool)

/-- The lines of the short form. -/
def shortLines (b : Bag) (withNotes : Bool) : List String := Text.split '\n' (b.short withNotes)

/-- **The short form is one line for each entry**: it has as many lines as there are diagnostics, and
notes if they are wanted, and each line starts as the entry at its place does. -/
structure OneLinePerEntry (b : Bag) (withNotes : Bool) : Prop where
  length_eq : (b.shortLines withNotes).length
    = b.length + if withNotes then (b.flatMap Diagnostic.notes).length else 0
  starts : ∀ (i : Nat) line e, (b.shortLines withNotes)[i]? = some line →
    (b.entries withNotes)[i]? = some e → (e.head ++ " ").toList <+: line.toList

/-- **The lines are those of the entries**, if no file that is shown has a line break in its name. -/
theorem shortLines_eq (hb : b ≠ [])
    (h : ∀ e ∈ b.entries withNotes, OnOneLine e.span.file) :
    b.shortLines withNotes = (b.entries withNotes).map Entry.line := by
  rw [shortLines, short_eq]
  refine Text.split_join rfl (mt List.map_eq_nil_iff.1 (entries_ne_nil hb withNotes)) ?_
  exact List.forall_mem_map.2 fun e he => e.onOneLine_line_iff.2 (h e he)

/-- **Every line break in the name of a file gives one line more.** -/
theorem length_shortLines (hb : b ≠ []) : (b.shortLines withNotes).length
    = (b.entries withNotes).length
      + ((b.entries withNotes).flatMap (·.span.file.toList)).count '\n' := by
  have hcount : ∀ es : List Entry, ((es.map Entry.line).flatMap String.toList).count '\n'
      = (es.flatMap (·.span.file.toList)).count '\n' := by
    intro es
    induction es with
    | nil => rfl
    | cons e es ih =>
      rw [List.map_cons, List.flatMap_cons, List.flatMap_cons, List.count_append,
        List.count_append, ih, e.count_line]
  rw [shortLines, short_eq, Text.length_split_join rfl
    (mt List.map_eq_nil_iff.1 (entries_ne_nil hb withNotes)), List.length_map, hcount]

/-- **The short form is one line for each entry exactly when no file that is shown has a line break in
its name.**  Messages and notes cannot change that. -/
theorem oneLinePerEntry_iff (hb : b ≠ []) :
    b.OneLinePerEntry withNotes ↔ ∀ e ∈ b.entries withNotes, OnOneLine e.span.file := by
  constructor
  · intro h e he hmem
    have hlen := h.length_eq
    rw [length_shortLines withNotes hb, length_entries] at hlen
    have hzero : ((b.entries withNotes).flatMap (·.span.file.toList)).count '\n' = 0 := by omega
    exact List.count_eq_zero.1 hzero (List.mem_flatMap.2 ⟨e, he, hmem⟩)
  · intro h
    have hlines := shortLines_eq withNotes hb h
    refine ⟨by rw [hlines, List.length_map, length_entries], fun i line e hline he => ?_⟩
    rw [hlines, List.getElem?_map, he] at hline
    obtain rfl := Option.some.inj hline
    exact e.head_prefix_line

/-- Line breaks of all kinds in messages, and a diagnostic without a place. -/
def brokenMessages : Bag := [
  { severity := .error, code := .duplicateSymbol, message := "defined\r\nagain\n",
    span := { file := "m.aster", start := ⟨3, 5⟩ },
    notes := [⟨{ file := "m.aster", start := ⟨2, 5⟩ }, "first\rseen here"⟩] },
  { severity := .warning, code := .effectUnused, message := "unused", span := {} }]

/-- Three entries are three lines, though their messages have four line breaks. -/
theorem oneLinePerEntry_iff_brokenMessages :
    brokenMessages ≠ [] ∧
      (brokenMessages.OneLinePerEntry true ↔
        ∀ e ∈ brokenMessages.entries true, OnOneLine e.span.file) ∧
      brokenMessages.shortLines true = ["error SEM1001 m.aster:3:5 defined again",
        "note SEM1001 m.aster:2:5 first seen here", "warning EFF2002 - unused"] :=
  ⟨by simp [brokenMessages], oneLinePerEntry_iff true (by simp [brokenMessages]),
    by decide +kernel⟩

/-- A warning in a file whose name holds the start of another line. -/
def forgesLine : Bag := [
  { severity := .warning, code := .effectUnused, message := "unused",
    span := { file := "a.json\nerror SEM1002 b.json", start := ⟨1, 1⟩, stop := ⟨1, 2⟩ } }]

/-- **The name of a file can forge a line**: one warning is shown as a warning and an error. -/
theorem not_oneLinePerEntry_forgesLine :
    forgesLine ≠ [] ∧ ¬ forgesLine.OneLinePerEntry false ∧
      forgesLine.shortLines false
        = ["warning EFF2002 a.json", "error SEM1002 b.json:1:1 unused"] :=
  ⟨by simp [forgesLine], fun h => absurd h.length_eq (by decide +kernel), by decide +kernel⟩

end Bag

end CoreCheck

import CoreCheck.Text.Label
import CoreCheck.Text.Quoted

/-!
# Effect — the side-effect lattice

The effects form the chain `pure < cpu < io < async`. A running effect is only ever joined with
another one, so it can rise and never falls back. Effects also have numeric codes; a code past the
chain is kept and compared by its number, but it names no effect.
-/

namespace CoreCheck

/-- **A side effect**, from none at all to starting work that runs on its own. -/
inductive Effect where
  | pure | cpu | io | async
deriving DecidableEq, Inhabited

namespace Effect

/-- The place of an effect in the chain. -/
def rank : Effect → Nat
  | .pure => 0
  | .cpu => 1
  | .io => 2
  | .async => 3

instance : LE Effect := ⟨fun a b => a.rank ≤ b.rank⟩
instance : LT Effect := ⟨fun a b => a.rank < b.rank⟩
instance (a b : Effect) : Decidable (a ≤ b) := inferInstanceAs (Decidable (a.rank ≤ b.rank))
instance (a b : Effect) : Decidable (a < b) := inferInstanceAs (Decidable (a.rank < b.rank))

/-- The least effect above both. -/
def join (a b : Effect) : Effect := if b < a then a else b

/-- Values that flow into an operation of such an effect leave the program. -/
def isSink : Effect → Bool
  | .io | .async => true
  | _ => false

/-- The name of an effect in messages. -/
def label : Effect → String
  | .pure => "Pure"
  | .cpu => "Cpu"
  | .io => "Io"
  | .async => "Async"

/-- A label that names no effect. -/
structure Unknown where
  label : String
deriving DecidableEq

/-- The wording of the failure. -/
def Unknown.message (e : Unknown) : String := "unknown effect: " ++ Text.quote e.label

/-- Reads a label, ignoring case and blanks around it. -/
def parse (label : String) : Except Unknown Effect :=
  match Text.labelKey label with
  | "pure" => .ok .pure
  | "cpu" => .ok .cpu
  | "io" => .ok .io
  | "async" => .ok .async
  | _ => .error ⟨label⟩

/-- The join of all labels; the first unknown one is the failure. -/
def ofLabels (labels : List String) : Except Unknown Effect :=
  labels.foldlM (fun acc label => acc.join <$> parse label) .pure

/-- The name of an effect code. -/
def codeLabel (code : Nat) : String :=
  match code with
  | 0 => "Pure"
  | 1 => "Cpu"
  | 2 => "Io"
  | 3 => "Async"
  | n => s!"Effect({n})"

/-- Whether a code names an effect. -/
def codeValid (code : Nat) : Bool := code ≤ 3

/-- Whether a code names an effect through which values leave the program. -/
def codeSink (code : Nat) : Bool := 2 ≤ code && codeValid code

theorem codeLabel_rank (e : Effect) : codeLabel e.rank = e.label := by cases e <;> rfl

theorem codeSink_rank (e : Effect) : codeSink e.rank = e.isSink := by cases e <;> rfl

theorem rank_join (a b : Effect) : (a.join b).rank = max a.rank b.rank := by
  cases a <;> cases b <;> decide

end Effect

end CoreCheck

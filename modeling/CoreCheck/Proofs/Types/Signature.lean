import Mathlib.Data.List.Basic
import CoreCheck.Proofs.Document.Integers
import CoreCheck.Types.Arena

/-!
# Proofs/Types/Signature — written signatures tell function types apart

A function type is found by the text of its signature.  Numbers are written in digits, so neither a
comma nor an arrow can be mistaken for a part of one: the text gives the signature back, and finding
by text is finding by shape.
-/

namespace CoreCheck.Types

theorem digitsOf_injective : Function.Injective digitsOf :=
  Function.LeftInverse.injective natOfDigits_digitsOf

theorem notMem_digitsOf {c : Char} (hc : isDigit c = false) (n : Nat) : c ∉ digitsOf n := by
  intro hmem
  simp [isDigit_of_mem_digitsOf hmem] at hc

/-- Only digits and commas stand before the arrow. -/
theorem dash_notMem_intercalate (ps : List TypeId) :
    '-' ∉ [','].intercalate (ps.map digitsOf) := by
  induction ps with
  | nil => simp
  | cons p ps ih =>
    have hp : '-' ∉ digitsOf p := notMem_digitsOf (by decide) p
    cases ps with
    | nil => simpa using hp
    | cons q qs => simpa [List.intercalate_cons_cons, hp] using ih

/-- **The numbers between commas can be read back.** -/
theorem params_eq_of_intercalate {ps qs : List TypeId}
    (h : [','].intercalate (ps.map digitsOf) = [','].intercalate (qs.map digitsOf)) : ps = qs := by
  have hcomma : ∀ rs : List TypeId, ∀ l ∈ rs.map digitsOf, ',' ∉ l := by
    intro rs l hl
    obtain ⟨n, -, rfl⟩ := List.mem_map.1 hl
    exact notMem_digitsOf (by decide) n
  have hsplit : ∀ {rs : List TypeId}, rs ≠ [] →
      ([','].intercalate (rs.map digitsOf)).splitOn ',' = rs.map digitsOf := fun hne =>
    List.splitOn_intercalate ',' (hcomma _) (by simpa using hne)
  -- a list without members is written as nothing, which no number is
  have hnil : ∀ {rs : List TypeId}, [','].intercalate (rs.map digitsOf) = [] → rs = [] := by
    intro rs hrs
    by_contra hne
    have hback := hsplit hne
    rw [hrs] at hback
    obtain ⟨n, -, hn⟩ := List.mem_map.1 (hback ▸ List.mem_singleton_self [] : [] ∈ rs.map digitsOf)
    exact digitsOf_ne_nil n hn
  by_cases hps : ps = []
  · subst hps
    exact (hnil h.symm).symm
  by_cases hqs : qs = []
  · subst hqs
    exact hnil h
  · exact List.map_injective_iff.2 digitsOf_injective
      ((hsplit hps).symm.trans ((congrArg (List.splitOn ',') h).trans (hsplit hqs)))

/-- **Two signatures are written alike only if they are the same.** -/
theorem Shape.signatureText_inj {ps qs : List TypeId} {r s : TypeId} :
    signatureText ps r = signatureText qs s ↔ ps = qs ∧ r = s := by
  refine ⟨fun h => ?_, fun ⟨hp, hr⟩ => hp ▸ hr ▸ rfl⟩
  have hafter : '-' ∉ '>' :: digitsOf r := by
    simpa using notMem_digitsOf (by decide) r
  obtain ⟨hparams, -, hres⟩ := (List.append_cons_inj_of_notMem (dash_notMem_intercalate ps)
    hafter).1 (String.ofList_injective h)
  exact ⟨params_eq_of_intercalate hparams, digitsOf_injective (List.cons.inj hres).2⟩

/-- Only a function type of the same signature has its text. -/
theorem Shape.signature?_eq_some {s : Shape} {ps : List TypeId} {r : TypeId} :
    s.signature? = some (signatureText ps r) ↔ s = .func ps r := by
  cases s with
  | func qs r' => simp [signature?, signatureText_inj]
  | _ => simp [signature?]

/-- **Finding a function type by its signature is finding it by its shape.** -/
theorem Arena.func_eq_intern (a : Arena) (ps : List TypeId) (r : TypeId) :
    a.func ps r = a.intern (.func ps r) := by
  have hsame : (fun s : Shape => s.signature? == some (Shape.signatureText ps r))
      = (· == .func ps r) := by
    funext s
    rw [Bool.eq_iff_iff, beq_iff_eq, beq_iff_eq]
    exact Shape.signature?_eq_some
  have hfind : ∀ xs : Array Shape, xs.findIdx? (· == .func ps r) = xs.idxOf? (.func ps r) := by
    rintro ⟨l⟩
    rw [List.findIdx?_toArray, List.idxOf?_toArray]
    rfl
  rw [func, hsame, hfind, intern]

end CoreCheck.Types

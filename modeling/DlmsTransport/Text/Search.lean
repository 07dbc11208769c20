import Mathlib.Data.List.Infix

/-! Searching a string, a list of bytes, for the first occurrence of another. -/

set_option autoImplicit false

namespace DlmsTransport.Text

/-- The byte of an ASCII character. -/
def ascii (character : Char) : UInt8 := UInt8.ofNat character.toNat

section Occurrence

variable {α : Type} {pattern text : List α} {index : Nat}

/-- The pattern occurs at `index` and nowhere before it. -/
def FirstAt (pattern text : List α) (index : Nat) : Prop :=
  pattern <+: text.drop index ∧ ∀ earlier < index, ¬ pattern <+: text.drop earlier

theorem firstAt_zero_iff : FirstAt pattern text 0 ↔ pattern <+: text := by
  simp [FirstAt]

theorem firstAt_succ_iff {first : α} :
    FirstAt pattern (first :: text) (index + 1) ↔
      ¬ pattern <+: first :: text ∧ FirstAt pattern text index := by
  constructor
  · intro starts
    obtain ⟨occurs, absent⟩ := starts
    refine ⟨absent 0 (Nat.zero_lt_succ index), occurs, ?_⟩
    intro earlier before
    exact absent (earlier + 1) (Nat.succ_lt_succ before)
  · intro starts
    obtain ⟨head, occurs, absent⟩ := starts
    refine ⟨occurs, ?_⟩
    intro earlier before
    cases earlier with
    | zero => exact head
    | succ earlier => exact absent earlier (Nat.lt_of_succ_lt_succ before)

theorem FirstAt.unique {other : Nat} (first : FirstAt pattern text index)
    (second : FirstAt pattern text other) : index = other := by
  rcases Nat.lt_trichotomy index other with before | same | after
  · exact absurd first.1 (second.2 index before)
  · exact same
  · exact absurd second.1 (first.2 other after)

end Occurrence

section Search

variable {α : Type} [DecidableEq α]

/-- `std::string::find`: where the first occurrence of the pattern starts. -/
def find (pattern : List α) : List α → Option Nat
  | [] => if pattern = [] then some 0 else none
  | first :: rest =>
      if pattern <+: first :: rest then some 0 else (find pattern rest).map (· + 1)

variable {pattern text : List α} {index : Nat}

theorem find_eq_none_iff : find pattern text = none ↔ ¬ pattern <:+: text := by
  induction text with
  | nil => simp [find]
  | cons first rest ih =>
      rw [find, List.infix_cons_iff]
      split
      · next occurs => simp [occurs]
      · next absent => simp [absent, ih]

theorem find_eq_some_iff (proper : pattern ≠ []) :
    find pattern text = some index ↔ FirstAt pattern text index := by
  induction text generalizing index with
  | nil => simp [find, FirstAt, proper]
  | cons first rest ih =>
      rw [find]
      cases index with
      | zero =>
          rw [firstAt_zero_iff]
          split
          · next occurs => simp [occurs]
          · next absent => simp [absent]
      | succ index =>
          rw [firstAt_succ_iff]
          split
          · next occurs => simp [occurs]
          · next absent => simp [absent, ih]

theorem exists_firstAt (proper : pattern ≠ []) (occurs : pattern <:+: text) :
    ∃ index, FirstAt pattern text index := by
  cases found : find pattern text with
  | none => exact absurd occurs (find_eq_none_iff.mp found)
  | some index => exact ⟨index, (find_eq_some_iff proper).mp found⟩

end Search

end DlmsTransport.Text

import ChatScribe.Disk.Path
import ChatScribe.Proofs.Text.Digits
import ChatScribe.Proofs.Text.Lines
import ChatScribe.Saving
import Mathlib.Tactic.Common

/-!
# The names that are tried

A name and its numbered forms are pairwise different, and each of them can stand in a directory if the
name can. So a document that is saved under a numbered name has not met the same name twice.
-/

namespace ChatScribe

/-- Can something have this name in a directory? The name is not empty, leads nowhere else, and is none
of the two that every directory has for itself and for the one around it. -/
structure Path.IsName (name : Text) : Prop where
  ne_nil : name ≠ []
  slash : '/' ∉ name
  dots : Path.isDots name = false

namespace Saving

/-- What a number looks like in a name. -/
def numberMark (number : Nat) : Text := " (".toList ++ Text.ofNat number ++ [')']

theorem numberMark_injective : Function.Injective numberMark := by
  intro j k h
  unfold numberMark at h
  exact Text.ofNat_injective (List.append_cancel_left (List.append_cancel_right h))

theorem mem_numberMark {number : Nat} {c : Char} (h : c ∈ numberMark number) :
    c ∈ [' ', '(', ')'] ∨ Text.isAsciiDigit c = true := by
  unfold numberMark at h
  rw [List.mem_append, List.mem_append] at h
  rcases h with (h | h) | h
  · left
    rcases List.mem_cons.mp h with rfl | h
    · decide
    · rw [List.mem_singleton.mp h]
      decide
  · exact Or.inr (Text.isAsciiDigit_of_mem_ofNat h)
  · left
    rw [List.mem_singleton.mp h]
    decide

/-- A name has one place where its numbers stand. -/
theorem exists_numberedName (name : Text) : ∃ stem ending, name = stem ++ ending ∧
    ∀ number, number ≠ 0 → numberedName name number = stem ++ numberMark number ++ ending := by
  cases hsplit : Text.splitLast '.' name with
  | none =>
    refine ⟨name, [], (List.append_nil name).symm, fun number hnumber => ?_⟩
    simp [numberedName, hnumber, hsplit, numberMark]
  | some parts =>
    obtain ⟨stem, ending⟩ := parts
    refine ⟨stem, '.' :: ending, Text.eq_append_of_splitLast hsplit, fun number hnumber => ?_⟩
    simp [numberedName, hnumber, hsplit, numberMark]

theorem numberedName_zero (name : Text) : numberedName name 0 = name := rfl

/-- The names that are tried are pairwise different. -/
theorem numberedName_injective (name : Text) : Function.Injective (numberedName name) := by
  obtain ⟨stem, ending, hname, hnumbered⟩ := exists_numberedName name
  -- a number makes a name longer
  have hlonger : ∀ number, number ≠ 0 → numberedName name 0 ≠ numberedName name number := by
    intro number hnumber h
    have hlength := congrArg List.length h
    rw [numberedName_zero, hnumbered number hnumber, hname] at hlength
    simp only [numberMark, List.length_append, List.length_singleton] at hlength
    omega
  intro j k h
  by_cases hj : j = 0
  · by_cases hk : k = 0
    · rw [hj, hk]
    · rw [hj] at h
      exact absurd h (hlonger k hk)
  · by_cases hk : k = 0
    · rw [hk] at h
      exact absurd h.symm (hlonger j hj)
    · rw [hnumbered j hj, hnumbered k hk] at h
      exact numberMark_injective (List.append_cancel_left (List.append_cancel_right h))

/-- A numbered name is a name. -/
theorem isName_numberedName {name : Text} (h : Path.IsName name) (number : Nat) :
    Path.IsName (numberedName name number) := by
  by_cases hnumber : number = 0
  · rw [hnumber]
    exact h
  · obtain ⟨stem, ending, hname, hnumbered⟩ := exists_numberedName name
    have hslash := h.slash
    rw [hname, List.mem_append, not_or] at hslash
    have hmark : '/' ∉ numberMark number := by
      intro hmem
      rcases mem_numberMark hmem with hc | hc
      · exact absurd hc (by decide)
      · exact absurd hc (by decide)
    have hparen : '(' ∈ numberedName name number := by
      rw [hnumbered number hnumber]
      simp [numberMark]
    refine ⟨List.ne_nil_of_mem hparen, ?_, ?_⟩
    · rw [hnumbered number hnumber, List.mem_append, List.mem_append, not_or, not_or]
      exact ⟨⟨hslash.1, hmark⟩, hslash.2⟩
    · unfold Path.isDots
      rw [Bool.or_eq_false_iff, beq_eq_false_iff_ne, beq_eq_false_iff_ne]
      constructor
      · intro heq
        rw [heq] at hparen
        exact absurd hparen (by decide)
      · intro heq
        rw [heq] at hparen
        exact absurd hparen (by decide)

end Saving

end ChatScribe

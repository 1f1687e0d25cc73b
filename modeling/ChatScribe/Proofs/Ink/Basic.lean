import ChatScribe.Proofs.Code.Restore
import ChatScribe.Proofs.Text.Lines

/-!
# The ink of a draft

The *ink* of a draft is what shows of it once the records are put in: its characters without the white
space. Trimming, indenting and breaking lines leave the ink alone, so a statement about it can follow
the rules of the conversion one by one.

Putting records in is not a homomorphism: half a placeholder at the end of one text could go on in the
next. A text with no such half at its end is *whole* (`IsWhole`), and behind a whole text the ink starts
afresh (`IsWhole.ink_append`). Also no half goes on over a character that no placeholder has, so a text
in front of such a character can be taken off (`ink_append_of_stops`).
-/

namespace ChatScribe

namespace Text

/-- The characters of a text that are no white space. -/
def strip (t : Text) : Text := t.filter fun c => !isSpace c

@[simp] theorem strip_nil : strip [] = [] := rfl

theorem strip_append (s t : Text) : strip (s ++ t) = strip s ++ strip t := List.filter_append s t

/-- White space leaves nothing. -/
theorem strip_of_all {t : Text} (h : ∀ c ∈ t, isSpace c = true) : strip t = [] := by
  unfold strip
  rw [List.filter_eq_nil_iff]
  intro c hc hnot
  rw [h c hc] at hnot
  cases hnot

end Text

namespace Markdown.Code

variable {records : List Text}

/-- What shows of a draft once its placeholders are replaced. -/
def ink (records : List Text) (t : Text) : Text := Text.strip (restore records t)

@[simp] theorem ink_nil : ink records [] = [] := by
  unfold ink
  rw [restore_nil]
  rfl

/-- Without records the ink is what shows of the text. -/
theorem ink_of_no_records (t : Text) : ink [] t = Text.strip t := by
  unfold ink
  rw [restore_of_no_records]

/-! ## Characters that no placeholder has -/

/-- In front of a character that no placeholder has, a text can be taken off. -/
theorem restore_append_of_stops (u : Text) {v : Text} (hv : ∀ c, v.head? = some c → Stops c) :
    restore records (u ++ v) = restore records u ++ restore records v :=
  restore_append u fun c hc => (hv c hc).1

theorem ink_append_of_stops (u : Text) {v : Text} (hv : ∀ c, v.head? = some c → Stops c) :
    ink records (u ++ v) = ink records u ++ ink records v := by
  unfold ink
  rw [restore_append_of_stops u hv, Text.strip_append]

/-- Without placeholders the ink is what shows of the text. -/
theorem ink_of_not_mem {t : Text} (h : openMark ∉ t) : ink records t = Text.strip t := by
  unfold ink
  rw [restore_of_not_mem h]

theorem ink_of_isSpace {w : Text} (hw : ∀ c ∈ w, Text.isSpace c = true) : ink records w = [] := by
  have hmark : openMark ∉ w := by
    intro hmem
    exact absurd (hw openMark hmem) (by decide)
  rw [ink_of_not_mem hmark, Text.strip_of_all hw]

/-! ## Whole texts -/

/-- A text with no half of a placeholder at its end. -/
def IsWhole (records : List Text) (u : Text) : Prop :=
  ∀ v, restore records (u ++ v) = restore records u ++ restore records v

namespace IsWhole

variable {u v : Text}

/-- Behind a whole text the ink starts afresh. -/
theorem ink_append (h : IsWhole records u) (v : Text) :
    ink records (u ++ v) = ink records u ++ ink records v := by
  unfold ink
  rw [h v, Text.strip_append]

theorem nil : IsWhole records [] := by
  intro v
  rw [restore_nil]
  rfl

theorem append (hu : IsWhole records u) (hv : IsWhole records v) : IsWhole records (u ++ v) := by
  intro w
  rw [List.append_assoc, hu, hv, hu, List.append_assoc]

/-- A text without opening marks is whole. -/
theorem of_not_mem (h : openMark ∉ u) : IsWhole records u := by
  induction u with
  | nil => exact nil
  | cons c u ih =>
    rw [List.mem_cons, not_or] at h
    intro v
    rw [List.cons_append, restore_cons_of_ne (Ne.symm h.1), restore_cons_of_ne (Ne.symm h.1),
      ih h.2 v]
    rfl

/-- A text is whole if its last character is one that no placeholder has. -/
theorem concat (u : Text) {c : Char} (hc : Stops c) : IsWhole records (u ++ [c]) := by
  intro v
  have hhead : ∀ w : Text, ∀ d, (c :: w).head? = some d → Stops d := by
    intro w d hd
    rw [← Option.some.inj hd]
    exact hc
  have hsplit : u ++ [c] ++ v = u ++ c :: v := by simp
  rw [hsplit, restore_append_of_stops u (hhead v), restore_append_of_stops u (hhead []),
    restore_cons_of_ne hc.2, restore_cons_of_ne hc.2, restore_nil]
  simp

/-- A placeholder is whole, whether it has a record or not. -/
theorem placeholder (i : Nat) : IsWhole records (placeholder i) := by
  intro v
  cases hi : records[i]? with
  | some record =>
    rw [restore_placeholder_append v hi, restore_placeholder_alone hi]
  | none =>
    -- without a record the placeholder stays, and its only opening mark is the one in front
    have hrest : openMark ∉ label ++ Text.ofNat i ++ [closeMark] := by
      rw [List.mem_append, List.mem_append, not_or, not_or]
      refine ⟨⟨by decide, ?_⟩, by decide⟩
      intro hmem
      exact absurd (Text.isAsciiDigit_of_mem_ofNat hmem) (by decide)
    have hnone : ∀ w n rest,
        readNumber? (label ++ Text.ofNat i ++ [closeMark] ++ w) = some (n, rest) →
          records[n]? = none := by
      intro w n rest hread
      rw [readNumber?_ofNat] at hread
      obtain ⟨rfl, -⟩ := Prod.mk.inj (Option.some.inj hread)
      exact hi
    have hsplit : ∀ w, Code.placeholder i ++ w
        = openMark :: (label ++ Text.ofNat i ++ [closeMark] ++ w) := by
      intro w
      simp [Code.placeholder]
    have halone := hsplit []
    rw [List.append_nil] at halone
    rw [hsplit v, halone, restore_openMark_of_none (hnone v), restore_openMark_of_none (hnone []),
      of_not_mem hrest v, List.append_nil]
    rfl

end IsWhole

/-- The ink of a placeholder is that of its record. -/
theorem ink_placeholder {i : Nat} {record : Text} (h : records[i]? = some record) :
    ink records (placeholder i) = Text.strip record := by
  unfold ink
  rw [restore_placeholder_alone h]

/-! ## Trimming leaves the ink -/

/-- White space in front of a text has no ink. -/
theorem ink_space_append {w : Text} (hw : ∀ c ∈ w, Text.isSpace c = true) (u : Text) :
    ink records (w ++ u) = ink records u := by
  have hmark : openMark ∉ w := by
    intro hmem
    exact absurd (hw openMark hmem) (by decide)
  rw [(IsWhole.of_not_mem hmark).ink_append, ink_of_isSpace hw, List.nil_append]

/-- White space behind a text has no ink. -/
theorem ink_append_space {w : Text} (hw : ∀ c ∈ w, Text.isSpace c = true) (u : Text) :
    ink records (u ++ w) = ink records u := by
  have hstops : ∀ c, w.head? = some c → Stops c :=
    fun c hc => stops_of_isSpace (hw c (List.mem_of_mem_head? hc))
  rw [ink_append_of_stops u hstops, ink_of_isSpace hw, List.append_nil]

/-- White space in front can be dropped, all of it or some kinds. -/
theorem ink_dropWhile {p : Char → Bool} (hp : ∀ c, p c = true → Text.isSpace c = true) (t : Text) :
    ink records (t.dropWhile p) = ink records t := by
  have hw : ∀ c ∈ t.takeWhile p, Text.isSpace c = true :=
    fun c hc => hp c (List.all_eq_true.mp List.all_takeWhile c hc)
  rw [← ink_space_append hw, List.takeWhile_append_dropWhile]

theorem ink_trimStart (t : Text) : ink records t.trimStart = ink records t :=
  ink_dropWhile (fun _ hc => hc) t

theorem ink_trimEnd (t : Text) : ink records t.trimEnd = ink records t := by
  obtain ⟨w, hw, hsplit⟩ := Text.exists_trimEnd t
  conv_rhs => rw [hsplit, ink_append_space hw]

theorem ink_trim (t : Text) : ink records t.trim = ink records t := by
  unfold Text.trim
  rw [ink_trimEnd, ink_trimStart]

/-- Trimming takes nothing away that shows. -/
theorem strip_trim (t : Text) : Text.strip (Text.trim t) = Text.strip t := by
  rw [← ink_of_no_records, ink_trim, ink_of_no_records]

end Markdown.Code

end ChatScribe

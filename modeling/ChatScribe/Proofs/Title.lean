import ChatScribe.Document.FileName
import ChatScribe.Proofs.Text.Lines
import Mathlib.Data.List.Chain
import Mathlib.Data.List.Pairwise

/-!
# Titles are words between underscores

Whatever heading a page has, its title is one or more words with single underscores between them
(`isTitle_clean`). A file name takes the title up again, by a cleaning of its own. Nothing is left to
clean but a brand that is in front again, and the underscores, which that cleaning does not keep
(`titlePart_of_isTitle`).
-/

namespace ChatScribe

/-! ## Words -/

namespace Text

/-- What holds of the characters of a text that are no white space holds of its words. The induction is
on the text still to be read, and `run` is the word that is being read. -/
theorem of_mem_words_go {p : Char → Prop} {t run w : Text}
    (ht : ∀ c ∈ t, isSpace c = false → p c) (hrun : ∀ c ∈ run, p c) (hw : w ∈ words.go t run) :
    w ≠ [] ∧ ∀ c ∈ w, p c := by
  have hword : ∀ {r : Text}, ¬ r.isEmpty = true → (∀ c ∈ r, p c) →
      r.reverse ≠ [] ∧ ∀ c ∈ r.reverse, p c := by
    intro r hne hr
    exact ⟨by simpa using hne, fun c hc => hr c (List.mem_reverse.mp hc)⟩
  have hnil : ∀ c ∈ ([] : Text), p c := fun c hc => absurd hc List.not_mem_nil
  induction t generalizing run with
  | nil =>
    rw [words.go] at hw
    by_cases hne : run.isEmpty = true
    · rw [if_pos hne] at hw
      cases hw
    · rw [if_neg hne, List.mem_singleton] at hw
      rw [hw]
      exact hword hne hrun
  | cons d t ih =>
    have hrest : ∀ c ∈ t, isSpace c = false → p c := fun c hc => ht c (List.mem_cons_of_mem d hc)
    rw [words.go] at hw
    by_cases hd : isSpace d = true
    · rw [if_pos hd] at hw
      by_cases hne : run.isEmpty = true
      · rw [if_pos hne] at hw
        exact ih hrest hnil hw
      · rw [if_neg hne, List.mem_cons] at hw
        rcases hw with rfl | hw
        · exact hword hne hrun
        · exact ih hrest hnil hw
    · rw [if_neg hd] at hw
      rw [Bool.not_eq_true] at hd
      refine ih hrest ?_ hw
      intro c hc
      rcases List.mem_cons.mp hc with rfl | hc
      · exact ht c List.mem_cons_self hd
      · exact hrun c hc

theorem of_mem_words {p : Char → Prop} {t w : Text} (ht : ∀ c ∈ t, isSpace c = false → p c)
    (hw : w ∈ words t) : w ≠ [] ∧ ∀ c ∈ w, p c :=
  of_mem_words_go ht (fun _ hc => absurd hc List.not_mem_nil) hw

/-- A text without white space is one word. -/
theorem words_go_of_no_space {t : Text} (h : ∀ c ∈ t, isSpace c = false) (run : Text) :
    words.go t run = if (run.reverse ++ t).isEmpty then [] else [run.reverse ++ t] := by
  induction t generalizing run with
  | nil =>
    rw [words.go, List.append_nil, List.isEmpty_reverse]
  | cons d t ih =>
    have hd : isSpace d = false := h d List.mem_cons_self
    have hmove : (d :: run).reverse ++ t = run.reverse ++ d :: t := by simp
    rw [words.go, hd, if_neg Bool.false_ne_true, ih (fun c hc => h c (List.mem_cons_of_mem d hc)), hmove]

theorem trimStart_of_no_space {t : Text} (h : ∀ c ∈ t, isSpace c = false) : trimStart t = t := by
  cases t with
  | nil => rfl
  | cons c t =>
    unfold trimStart
    rw [List.dropWhile_cons, h c List.mem_cons_self]
    rfl

theorem trim_of_no_space {t : Text} (h : ∀ c ∈ t, isSpace c = false) : trim t = t := by
  have hrev : trimStart t.reverse = t.reverse :=
    trimStart_of_no_space fun c hc => h c (List.mem_reverse.mp hc)
  unfold trimStart at hrev
  unfold trim trimEnd
  rw [trimStart_of_no_space h, hrev, List.reverse_reverse]

end Text

namespace Title

/-! ## Titles -/

/-- The characters of the words of a title: letters and digits of ASCII, and CJK ideographs. -/
def isWordChar (c : Char) : Bool := Text.isAsciiAlphanum c || ('\u4E00' ≤ c && c ≤ '\u9FFF')

/-- Words with single underscores between them. -/
structure IsTitle (t : Text) : Prop where
  ne_nil : t ≠ []
  chars : ∀ c ∈ t, isWordChar c = true ∨ c = '_'
  /-- It does not start with an underscore. -/
  head : t.head? ≠ some '_'
  /-- It does not end in one. -/
  last : t.getLast? ≠ some '_'
  /-- It has no two of them in a row. -/
  single : t.IsChain fun c d => c ≠ '_' ∨ d ≠ '_'

/-- The characters that a title keeps are white space or those of words. -/
theorem isTitleChar_eq (c : Char) : isTitleChar c = (isWordChar c || Text.isSpace c) := rfl

theorem isSpace_of_isWordChar {c : Char} (h : isWordChar c = true) : Text.isSpace c = false := by
  have hle : ∀ a b : Char, a ≤ b ↔ a.toNat ≤ b.toNat := fun a b => Iff.rfl
  unfold isWordChar Text.isAsciiAlphanum Text.isAsciiAlpha Text.isAsciiUpper Text.isAsciiLower
    Text.isAsciiDigit at h
  unfold Text.isSpace
  simp only [Bool.or_eq_true, Bool.and_eq_true, decide_eq_true_eq, hle] at h
  simp only [Bool.or_eq_false_iff, Bool.and_eq_false_iff, decide_eq_false_iff_not, beq_eq_false_iff_ne]
  simp only [Char.reduceToNat] at h
  omega

/-- The words of what a title keeps. -/
theorem of_mem_words {t w : Text} (ht : ∀ c ∈ t, isTitleChar c = true) (hw : w ∈ Text.words t) :
    w ≠ [] ∧ ∀ c ∈ w, isWordChar c = true := by
  refine Text.of_mem_words ?_ hw
  intro c hc hspace
  have hchar := ht c hc
  rw [isTitleChar_eq, hspace, Bool.or_false] at hchar
  exact hchar

theorem underscore_not_mem {w : Text} (h : ∀ c ∈ w, isWordChar c = true) : '_' ∉ w := by
  intro hmem
  have hword := h '_' hmem
  cases hword

theorem isTitle_of_word {w : Text} (hne : w ≠ []) (h : ∀ c ∈ w, isWordChar c = true) : IsTitle w := by
  have hnone := underscore_not_mem h
  refine ⟨hne, fun c hc => Or.inl (h c hc), ?_, ?_, ?_⟩
  · intro hhead
    exact hnone (List.mem_of_head? hhead)
  · intro hlast
    exact hnone (List.mem_of_getLast? hlast)
  · rw [List.isChain_iff_forall_rel_of_append_cons_cons]
    intro a b before after hw
    left
    rintro rfl
    exact hnone (by rw [hw]; simp)

/-- A word in front of a title. -/
theorem IsTitle.word_append {w t : Text} (hw : IsTitle w) (ht : IsTitle t) :
    IsTitle (w ++ '_' :: t) := by
  obtain ⟨c, v, rfl⟩ := List.exists_cons_of_ne_nil hw.ne_nil
  refine ⟨by simp, ?_, hw.head, ?_, ?_⟩
  · intro d hd
    rcases List.mem_append.mp hd with hd | hd
    · exact hw.chars d hd
    · rcases List.mem_cons.mp hd with rfl | hd
      · exact Or.inr rfl
      · exact ht.chars d hd
  · intro hlast
    obtain ⟨s, e, hs⟩ := (List.eq_nil_or_concat' t).resolve_left ht.ne_nil
    apply ht.last
    rw [List.getLast?_append, hs, ← List.cons_append, List.getLast?_concat] at hlast
    rw [hs, List.getLast?_concat]
    exact hlast
  · have hbehind : ('_' :: t).IsChain fun a b => a ≠ '_' ∨ b ≠ '_' := by
      rw [List.isChain_cons]
      refine ⟨?_, ht.single⟩
      intro d hd
      right
      rintro rfl
      exact ht.head hd
    rw [List.isChain_append]
    refine ⟨hw.single, hbehind, ?_⟩
    intro d hd _ _
    left
    rintro rfl
    exact hw.last hd

/-- Words are joined to a title. -/
theorem isTitle_join {ws : List Text} (hne : ws ≠ [])
    (h : ∀ w ∈ ws, w ≠ [] ∧ ∀ c ∈ w, isWordChar c = true) : IsTitle (Text.join ['_'] ws) := by
  induction ws with
  | nil => exact absurd rfl hne
  | cons w ws ih =>
    have hw : IsTitle w := by
      obtain ⟨hnil, hchars⟩ := h w List.mem_cons_self
      exact isTitle_of_word hnil hchars
    cases ws with
    | nil => exact hw
    | cons v ws =>
      have hrest := ih (List.cons_ne_nil v ws) fun u hu => h u (List.mem_cons_of_mem w hu)
      have hjoin : Text.join ['_'] (w :: v :: ws) = w ++ '_' :: Text.join ['_'] (v :: ws) := by
        rw [Text.join, List.append_assoc]
        rfl
      rw [hjoin]
      exact hw.word_append hrest

theorem dropBrand?_suffix {t r : Text} (h : dropBrand? t = some r) : r <:+ t := by
  unfold dropBrand? at h
  by_cases hbrand : Text.eqIgnoreCase (t.take brand.length) brand = true
  · rw [if_pos hbrand] at h
    rw [← Option.some.inj h]
    exact List.drop_suffix _ t
  · rw [if_neg hbrand] at h
    cases h

theorem stripBrand_suffix (t : Text) : stripBrand t <:+ t := by
  unfold stripBrand
  cases hdrop : dropBrand? t with
  | none => exact List.suffix_rfl
  | some r => exact (List.dropWhile_suffix _).trans (dropBrand?_suffix hdrop)

theorem isTitle_fallback : IsTitle fallback := by
  have hchat : "Chat".toList.all isWordChar = true := rfl
  have hrecord : "Record".toList.all isWordChar = true := rfl
  have hwords : ∀ w ∈ ["Chat".toList, "Record".toList], w ≠ [] ∧ ∀ c ∈ w, isWordChar c = true := by
    intro w hw
    rcases List.mem_cons.mp hw with rfl | hw
    · exact ⟨List.cons_ne_nil _ _, List.all_eq_true.mp hchat⟩
    · rw [List.mem_singleton.mp hw]
      exact ⟨List.cons_ne_nil _ _, List.all_eq_true.mp hrecord⟩
  exact isTitle_join (List.cons_ne_nil _ _) hwords

/-- Every page has a title that is words between underscores, whatever it is made from. -/
theorem isTitle_clean (raw : Text) : IsTitle (clean raw) := by
  unfold clean joinWords
  dsimp only
  by_cases hempty : (Text.join ['_'] (stripBrand (Text.trim
      ((stripBrand raw.trim).filter isTitleChar))).words).isEmpty = true
  · rw [if_pos hempty]
    exact isTitle_fallback
  · rw [if_neg hempty]
    apply isTitle_join
    · intro hnone
      rw [hnone] at hempty
      exact hempty rfl
    · intro w hw
      refine of_mem_words ?_ hw
      -- trimming and dropping the brand leave a part of what was kept
      intro c hc
      have hkept := (Text.trim_infix _).mem ((stripBrand_suffix _).isInfix.mem hc)
      exact (List.mem_filter.mp hkept).2

/-! ## The title in a file name -/

/-- What a file name takes from a title: no brand in front, in any letter case, and no underscores. -/
def bare (title : Text) : Text := ((dropBrand? title).getD title).filter (· != '_')

theorem IsTitle.isSpace_eq_false {t : Text} (h : IsTitle t) : ∀ c ∈ t, Text.isSpace c = false := by
  intro c hc
  rcases h.chars c hc with hword | rfl
  · exact isSpace_of_isWordChar hword
  · rfl

theorem mem_of_mem_dropBrand? {t : Text} {c : Char} (h : c ∈ (dropBrand? t).getD t) : c ∈ t := by
  cases hdrop : dropBrand? t with
  | none =>
    rw [hdrop] at h
    exact h
  | some r =>
    rw [hdrop] at h
    exact (dropBrand?_suffix hdrop).isInfix.mem h

/-- There is no white space behind the brand of a title. -/
theorem IsTitle.stripBrand_eq {t : Text} (h : IsTitle t) :
    FileName.stripBrand t = (dropBrand? t).getD t := by
  unfold FileName.stripBrand
  cases hdrop : dropBrand? t with
  | none => rfl
  | some r =>
    have hr : ∀ c ∈ r, Text.isSpace c = false :=
      fun c hc => h.isSpace_eq_false c ((dropBrand?_suffix hdrop).isInfix.mem hc)
    rw [Option.map_some, Option.getD_some, Option.getD_some, Text.trimStart_of_no_space hr]

/-- Of the characters of a title, only the underscore is none that a file name keeps. -/
theorem IsTitle.filter_isTitleChar {t : Text} (h : IsTitle t) :
    ((dropBrand? t).getD t).filter isTitleChar = bare t := by
  apply List.filter_congr
  intro c hc
  rcases h.chars c (mem_of_mem_dropBrand? hc) with hword | rfl
  · have hne : c ≠ '_' := by
      rintro rfl
      cases hword
    rw [isTitleChar_eq, hword, Bool.true_or, eq_comm]
    simpa using hne
  · rfl

theorem joinWords_of_no_space {t : Text} (h : ∀ c ∈ t, Text.isSpace c = false) : joinWords t = t := by
  unfold joinWords Text.words
  rw [Text.words_go_of_no_space h, List.reverse_nil, List.nil_append]
  cases t with
  | nil => rfl
  | cons c t => rfl

/-- Of a heading that is a title only the brand and the underscores are lost, and what is too long. -/
theorem titlePart_of_isTitle {t : Text} (h : IsTitle t) :
    FileName.titlePart (' ' :: t) = (bare t).take FileName.maxTitleLength := by
  have htrim : Text.trim (' ' :: t) = t := Text.trim_of_no_space h.isSpace_eq_false
  have hspace : ∀ c ∈ bare t, Text.isSpace c = false := by
    intro c hc
    have hmem := (List.mem_filter.mp hc).1
    exact h.isSpace_eq_false c (mem_of_mem_dropBrand? hmem)
  unfold FileName.titlePart
  rw [htrim, h.stripBrand_eq, h.filter_isTitleChar, joinWords_of_no_space hspace]

end Title

end ChatScribe

import ChatScribe.Proofs.Code.Places
import ChatScribe.Proofs.Code.Threads
import ChatScribe.Proofs.Text.Continued
import ChatScribe.Proofs.Walk.Alone

/-!
# Quotes

A quote puts its mark in front of each line of a text in which placeholders stand for code. The lines
that come in when these are restored have no mark. So each line of a quote starts with the mark exactly
if the code in it brings none along that does not (`forall_lines_ofNode_quote`), which code on lines of
its own always does.
-/

namespace ChatScribe.Markdown

open Html Code

/-! ## The mark in front of the lines -/

/-- What a quote puts in front of its lines. -/
def quoteMark : Text := "> ".toList

theorem quoteText_eq {text : Text} (h : Text.isBlank text = false) :
    quoteText text = '\n' :: (quoteMark ++ text.trim.flatMap (Text.behind quoteMark)) ++ ['\n'] := by
  have hne : ¬ (Text.trim text).isEmpty = true := mt List.isEmpty_iff.mp (Text.trim_ne_nil h)
  unfold quoteText
  dsimp only
  rw [if_neg hne, Text.unlines_map_lines]
  rfl

theorem continued_flatMap_behind (t : Text) :
    Text.Continued '>' (t.flatMap (Text.behind quoteMark)) := by
  induction t with
  | nil => exact Text.continued_nil '>'
  | cons c t ih =>
    have hc : Text.Continued '>' (Text.behind quoteMark c) := by
      unfold Text.behind
      split
      · decide
      · rename_i hc
        exact (Text.continued_cons_of_ne hc).mpr (Text.continued_nil '>')
    rw [List.flatMap_cons]
    exact hc.append ih (by decide)

/-- A mark in front of a text that holds placeholders stays in front. -/
theorem head?_restore {records : List Text} {t : Text} (h : t.head? = some '>') :
    (restore records t).head? = some '>' := by
  obtain ⟨r, rfl⟩ := List.head?_eq_some_iff.mp h
  rw [restore_cons_of_ne (by decide)]
  rfl

/-- Records that are continued do not break the lines of the text that they are put into. -/
theorem continued_restore {records : List Text} {t : Text}
    (hrecords : ∀ record ∈ records, Text.Continued '>' record) (h : Text.Continued '>' t) :
    Text.Continued '>' (restore records t) := by
  have hmark : '>' ≠ '\n' := by decide
  have hopen : openMark ≠ '\n' := by decide
  fun_induction restore records t with
  | case1 => exact h
  | case2 r n rest hread record hrecord ih =>
    -- the text behind the placeholder is continued as a part of the whole
    obtain ⟨digits, -, -, rfl⟩ := eq_of_readNumber? hread
    have hrest : Text.Continued '>' rest := (h.tail hmark).of_append_right hmark
    exact (hrecords record (List.mem_of_getElem? hrecord)).append (ih hrest) hmark
  | case3 r n rest hread hrecord ih =>
    exact (Text.continued_cons_of_ne hopen).mpr (ih (h.tail hmark))
  | case4 r hread ih => exact (Text.continued_cons_of_ne hopen).mpr (ih (h.tail hmark))
  | case5 c r hc ih =>
    have hrest := ih (h.tail hmark)
    by_cases hfeed : c = '\n'
    · subst hfeed
      obtain ⟨hhead, -⟩ := (Text.continued_newline_cons hmark).mp h
      exact (Text.continued_newline_cons hmark).mpr ⟨head?_restore hhead, hrest⟩
    · exact (Text.continued_cons_of_ne hfeed).mpr hrest

/-! ## The code in a quote -/

mutual

/-- Everywhere but below omitted elements, where nothing is marked, the placeholders stand in the
text. -/
theorem placeholder_infix_plainText_mark (n : Nat) : ∀ node : Node, Fresh [node] →
    ∀ i < (mark n node).2.length, placeholder (n + i) <:+: plainText (mark n node).1
  | .text content, _, i, hi => by
    rw [mark_of_not_element rfl] at hi
    exact absurd hi (Nat.not_lt_zero i)
  | .comment content, _, i, hi => by
    rw [mark_of_not_element rfl] at hi
    exact absurd hi (Nat.not_lt_zero i)
  | .doctype name, _, i, hi => by
    rw [mark_of_not_element rfl] at hi
    exact absurd hi (Nat.not_lt_zero i)
  | .contents children, _, i, hi => by
    rw [mark_of_not_element rfl] at hi
    exact absurd hi (Nat.not_lt_zero i)
  | .element e children, hfresh, i, hi => by
    have hcase := markedElement_mark n e children
    generalize mark n (.element e children) = marked at hcase hi ⊢
    cases hcase with
    | shut => exact absurd hi (Nat.not_lt_zero i)
    | block =>
      rw [List.length_singleton, Nat.lt_one_iff] at hi
      rw [hi, plainText]
      exact List.infix_rfl
    | code =>
      rw [List.length_singleton, Nat.lt_one_iff] at hi
      rw [hi, plainText]
      exact List.infix_rfl
    | within hsealed =>
      have homitted := (isSealed_eq_false_iff.mp hsealed).1
      have hinner := placeholder_infix_plainTexts_markAll n children hfresh.below i hi
      rw [plainText, hfresh.span?_eq_none, homitted]
      exact hinner

/-- The placeholders of marked nodes stand in their text. -/
theorem placeholder_infix_plainTexts_markAll (n : Nat) : ∀ nodes : List Node, Fresh nodes →
    ∀ i < (markAll n nodes).2.length, placeholder (n + i) <:+: plainTexts (markAll n nodes).1
  | [], _, i, hi => by
    rw [markAll] at hi
    exact absurd hi (Nat.not_lt_zero i)
  | node :: nodes, hfresh, i, hi => by
    rw [markAll_cons] at hi ⊢
    rw [List.length_append] at hi
    rw [plainTexts]
    by_cases hfirst : i < (mark n node).2.length
    · exact (placeholder_infix_plainText_mark n node hfresh.head i hfirst).trans
        (List.prefix_append _ _).isInfix
    · have hrest := placeholder_infix_plainTexts_markAll (n + (mark n node).2.length) nodes
        hfresh.tail (i - (mark n node).2.length) (by omega)
      rw [show n + (mark n node).2.length + (i - (mark n node).2.length) = n + i by omega] at hrest
      exact hrest.trans (List.suffix_append _ _).isInfix

end

/-! ## What shows of a quote -/

theorem isBlank_append (s t : Text) :
    Text.isBlank (s ++ t) = (Text.isBlank s && Text.isBlank t) := List.all_append

theorem isBlank_placeholder (n : Nat) : Text.isBlank (placeholder n) = false := rfl

/-- An element of which nothing stands in the plain text shows nothing, if this holds of what is below
it. -/
theorem isBlank_shownText_element {e : Element} {c c' : List Node} (hspan : e.span? = none)
    (hbelow : Text.isBlank (plainTexts c') = true → Text.isBlank (Node.shownTexts c) = true)
    (h : Text.isBlank (plainText (.element e c')) = true) :
    Text.isBlank (Node.shownText (.element e c)) = true := by
  rw [plainText, hspan] at h
  rw [Node.shownText]
  by_cases homitted : e.isOmitted = true
  · rw [if_pos homitted]
    rfl
  · rw [if_neg homitted]
    dsimp only at h
    rw [if_neg homitted] at h
    split
    · rfl
    · exact hbelow h

mutual

theorem isBlank_shownText : ∀ node : Node, Fresh [node] →
    Text.isBlank (plainText node) = true → Text.isBlank (Node.shownText node) = true
  | .text _, _, h => h
  | .comment _, _, _ => rfl
  | .doctype _, _, _ => rfl
  | .contents _, _, _ => rfl
  | .element _ children, hfresh, h =>
    isBlank_shownText_element hfresh.span?_eq_none (isBlank_shownTexts children hfresh.below) h

/-- The plain text has all that shows. -/
theorem isBlank_shownTexts : ∀ nodes : List Node, Fresh nodes →
    Text.isBlank (plainTexts nodes) = true → Text.isBlank (Node.shownTexts nodes) = true
  | [], _, _ => rfl
  | node :: nodes, hfresh, h => by
    rw [plainTexts, isBlank_append, Bool.and_eq_true] at h
    rw [Node.shownTexts, isBlank_append, Bool.and_eq_true]
    exact ⟨isBlank_shownText node hfresh.head h.1, isBlank_shownTexts nodes hfresh.tail h.2⟩

end

mutual

theorem isBlank_shownText_of_mark (n : Nat) : ∀ node : Node, Fresh [node] →
    Text.isBlank (plainText (mark n node).1) = true → Text.isBlank (Node.shownText node) = true
  | .text content, _, h => by
    rw [mark_of_not_element rfl] at h
    exact h
  | .comment content, _, _ => rfl
  | .doctype name, _, _ => rfl
  | .contents children, _, _ => rfl
  | .element e children, hfresh, h => by
    have hcase := markedElement_mark n e children
    generalize mark n (.element e children) = marked at hcase h
    cases hcase with
    | shut => exact isBlank_shownText _ hfresh h
    | block =>
      rw [plainText] at h
      cases (isBlank_placeholder n).symm.trans h
    | code =>
      rw [plainText] at h
      cases (isBlank_placeholder n).symm.trans h
    | within =>
      exact isBlank_shownText_element hfresh.span?_eq_none
        (isBlank_shownTexts_of_markAll n children hfresh.below) h

/-- The plain text has all that shows also when placeholders stand for the code. -/
theorem isBlank_shownTexts_of_markAll (n : Nat) : ∀ nodes : List Node, Fresh nodes →
    Text.isBlank (plainTexts (markAll n nodes).1) = true →
      Text.isBlank (Node.shownTexts nodes) = true
  | [], _, _ => rfl
  | node :: nodes, hfresh, h => by
    rw [markAll_cons, plainTexts, isBlank_append, Bool.and_eq_true] at h
    rw [Node.shownTexts, isBlank_append, Bool.and_eq_true]
    exact ⟨isBlank_shownText_of_mark n node hfresh.head h.1,
      isBlank_shownTexts_of_markAll _ nodes hfresh.tail h.2⟩

end

/-! ## The conversion of a quote -/

theorem not_isCode_of_quote {e : Element} (h : ruleOf e = .quote) :
    (e.tag == "pre") = false ∧ (e.tag == "code") = false ∧ e.isLensLink = false := by
  have hother : ∀ tag : String, ruleOf (plain tag) ≠ .quote → (e.tag == tag) = false := by
    intro tag htag
    rw [beq_eq_false_iff_ne]
    rintro rfl
    exact htag h
  refine ⟨hother "pre" (by decide), hother "code" (by decide), ?_⟩
  rw [Element.isLensLink, hother "a" (by decide), Bool.false_and]

section

variable {quote : Element} {children : List Node}

theorem isOmitted_of_shown (hshown : Text.isBlank (Node.shownText (.element quote children)) = false) :
    quote.isOmitted = false := by
  rw [Bool.eq_false_iff]
  intro homitted
  rw [Node.shownText, if_pos homitted] at hshown
  cases hshown

theorem mark_quote (hrule : ruleOf quote = .quote)
    (hshown : Text.isBlank (Node.shownText (.element quote children)) = false)
    (hformula : Formula.ofElement? quote children = none) (n : Nat) :
    mark n (.element quote children)
      = (.element quote (markAll n children).1, (markAll n children).2) := by
  obtain ⟨hpre, hcode, hlens⟩ := not_isCode_of_quote hrule
  have hsealed := isSealed_eq_false_iff.mpr ⟨isOmitted_of_shown hshown, hlens, hformula⟩
  exact mark_of_other hsealed hpre hcode n

/-- A quote that is no formula is what its plain text is as a quote, with the code put back into it. -/
theorem ofNode_quote (root : Element) (hrule : ruleOf quote = .quote) (hfresh : Fresh [.element quote children])
    (hshown : Text.isBlank (Node.shownText (.element quote children)) = false)
    (hformula : Formula.ofElement? quote children = none) :
    ofNode (.element root [.element quote children]) = Text.trimEnd ('>' :: ' ' ::
      restore (markAll 0 children).2
        ((Text.trim (plainTexts (markAll 0 children).1)).flatMap (Text.behind quoteMark))) := by
  have hspan := hfresh.span?_eq_none
  have homitted := isOmitted_of_shown hshown
  have hmark := mark_quote hrule hshown hformula 0
  have hblank : Text.isBlank (plainTexts (markAll 0 children).1) = false := by
    rw [Bool.eq_false_iff]
    intro hblank
    have hnone := isBlank_shownText_of_mark 0 (.element quote children) hfresh (by
      rw [hmark, plainText, hspan, homitted]
      exact hblank)
    rw [hnone] at hshown
    cases hshown
  have hformula' : Formula.ofElement? quote (markAll 0 children).1 = none :=
    ((marked_markAll children 0 List.prefix_rfl).ofElement?_eq quote).trans hformula
  rw [ofNode_element, markAll_singleton, hmark, walkAll_singleton,
    walk_of_rule hspan homitted hformula', hrule, Rule.write, quoteText_eq hblank]
  generalize (Text.trim (plainTexts (markAll 0 children).1)).flatMap (Text.behind quoteMark) = text
  have hfeed : ∀ c, ['\n'].head? = some c → continues c = false := by
    intro c hc
    rw [← Option.some.inj hc]
    decide
  have hrestored : restore (markAll 0 children).2 ('\n' :: (quoteMark ++ text) ++ ['\n']) =
      '\n' :: ('>' :: ' ' :: restore (markAll 0 children).2 text) ++ ['\n'] := by
    have hlast : restore (markAll 0 children).2 ['\n'] = ['\n'] := restore_of_not_mem (by decide)
    rw [restore_append _ hfeed, hlast]
    show restore _ ('\n' :: '>' :: ' ' :: text) ++ _ = _
    rw [restore_cons_of_ne (by decide), restore_cons_of_ne (by decide), restore_cons_of_ne (by decide)]
  rw [hrestored]
  show Text.trimEnd (('>' :: ' ' :: restore (markAll 0 children).2 text) ++ ['\n']) = _
  exact Text.trimEnd_append_of_isBlank rfl _

/-- A quote that is a formula starts with a dollar sign. -/
theorem head?_ofNode_of_formula (root : Element) {f : Formula}
    (hfresh : Fresh [.element quote children])
    (hshown : Text.isBlank (Node.shownText (.element quote children)) = false)
    (hformula : Formula.ofElement? quote children = some f) :
    (ofNode (.element root [.element quote children])).head? = some '$' := by
  have hdollar : ∃ w r, f.render [] = w ++ '$' :: r ∧ Text.isBlank w = true := by
    unfold Formula.render
    split
    · exact ⟨['\n'], _, rfl, rfl⟩
    · exact ⟨[], _, rfl, rfl⟩
  obtain ⟨w, r, hrender, hw⟩ := hdollar
  obtain ⟨u, hu⟩ := Text.exists_trim_eq_cons hw (show Text.isSpace '$' = false by decide) r
  rw [ofNode_of_formula (isOmitted_of_shown hshown) hfresh.span?_eq_none hformula, hrender, hu]
  rfl

end

/-! ## Which code breaks a quote -/

/-- The first line of a block has no mark. -/
theorem not_continued_block (c : List Node) : ¬ Text.Continued '>' (block c) := by
  intro h
  obtain ⟨hhead, -⟩ := (Text.continued_newline_cons (by decide)).mp h
  cases hhead

/-- The backticks around code on a line make no difference. -/
theorem continued_inline_iff (c : List Node) :
    Text.Continued '>' (Code.inline c) ↔ Text.Continued '>' (Node.shownTexts c) := by
  have hmark : '>' ≠ '\n' := by decide
  have htick : Text.Continued '>' ['\x60'] := by decide
  have hcons : Text.Continued '>' (Code.inline c) ↔ Text.Continued '>' (Node.shownTexts c ++ ['\x60']) :=
    Text.continued_cons_of_ne (by decide)
  rw [hcons]
  constructor
  · intro h
    by_cases hlast : (Node.shownTexts c).getLast? = some '\n'
    · -- the last line would start with the backtick
      obtain ⟨s, hs⟩ := List.getLast?_eq_some_iff.mp hlast
      rw [hs, List.append_assoc] at h
      obtain ⟨hhead, -⟩ := (Text.continued_newline_cons hmark).mp (h.of_append_right hmark)
      cases hhead
    · exact h.of_append_left hlast hmark
  · intro h
    exact h.append htick hmark

/-- What is put between two parts of a trimmed text is continued if the whole is. -/
theorem continued_record {c : List Node} {record front rest : Text}
    (hrecord : record = block c ∨ record = Code.inline c)
    (h : Text.Continued '>' (Text.trimEnd (front ++ record ++ rest))) :
    Text.Continued '>' record := by
  have hmark : '>' ≠ '\n' := by decide
  rcases hrecord with rfl | rfl
  · -- the fence shows, so the line feed in front of it is not trimmed
    exfalso
    have hfence : Text.EndsShown (front ++ ['\n', '\x60']) :=
      ⟨front ++ ['\n'], '\x60', by simp, rfl⟩
    obtain ⟨rest', hblock⟩ : ∃ rest', block c = ['\n', '\x60'] ++ rest' := ⟨_, rfl⟩
    obtain ⟨u, hu⟩ := hfence.exists_trimEnd_append (rest' ++ rest)
    rw [hblock, show front ++ (['\n', '\x60'] ++ rest') ++ rest
      = front ++ ['\n', '\x60'] ++ (rest' ++ rest) by simp, hu, List.append_assoc] at h
    obtain ⟨hhead, -⟩ := (Text.continued_newline_cons hmark).mp (h.of_append_right hmark)
    cases hhead
  · have hshown : Text.EndsShown (Code.inline c) := ⟨'\x60' :: Node.shownTexts c, '\x60', rfl, rfl⟩
    obtain ⟨u, hu⟩ := (hshown.append front).exists_trimEnd_append rest
    rw [hu, List.append_assoc] at h
    exact (h.of_append_right hmark).of_append_left hshown.getLast?_ne hmark

/-- The placeholder of a record stands in the text behind the marks of a quote. -/
theorem placeholder_infix_quoted {ns : List Node} (hfresh : Fresh ns) {i : Nat} {record : Text}
    (h : (markAll 0 ns).2[i]? = some record) : placeholder i <:+:
      (Text.trim (plainTexts (markAll 0 ns).1)).flatMap (Text.behind quoteMark) := by
  obtain ⟨hi, -⟩ := List.getElem?_eq_some_iff.mp h
  have hplain := placeholder_infix_plainTexts_markAll 0 ns hfresh i hi
  rw [Nat.zero_add] at hplain
  have hends : Text.EndsShown (placeholder i) :=
    ⟨openMark :: label ++ Text.ofNat i, closeMark, rfl, by decide⟩
  obtain ⟨front, rest, htrim⟩ := Text.infix_trim (show Text.isSpace openMark = false by decide) hends hplain
  have hkeep : (placeholder i).flatMap (Text.behind quoteMark) = placeholder i := by
    rw [List.flatMap_congr fun c hc => behind_of_mem_placeholder quoteMark hc, List.flatMap_singleton']
  refine ⟨front.flatMap (Text.behind quoteMark), rest.flatMap (Text.behind quoteMark), ?_⟩
  have hparts : front ++ placeholder i ++ rest = Text.trim (plainTexts (markAll 0 ns).1) := htrim
  rw [← hparts, List.flatMap_append, List.flatMap_append, hkeep]

theorem records_eq {ns : List Node} (hfresh : Fresh ns) :
    (markAll 0 ns).2 = ((placesIn [] ns).filter Place.isLifted).map Place.markdown :=
  (marks_markAll (List.forall_mem_nil _) 0 ns hfresh).records

/-- A record is a block, or code on a line. -/
theorem record_cases {ns : List Node} (hfresh : Fresh ns) {record : Text}
    (h : record ∈ (markAll 0 ns).2) : ∃ c, record = block c ∨ record = Code.inline c := by
  rw [records_eq hfresh] at h
  obtain ⟨p, -, rfl⟩ := List.mem_map.mp h
  refine ⟨p.children, ?_⟩
  unfold Place.markdown
  split
  · exact Or.inl rfl
  · exact Or.inr rfl

theorem forall_record_iff {ns : List Node} (hfresh : Fresh ns) :
    (∀ record ∈ (markAll 0 ns).2, Text.Continued '>' record) ↔
      ∀ p ∈ placesIn [] ns, p.isLifted = true →
        (p.element.tag == "pre") = false ∧ Text.Continued '>' (Node.shownTexts p.children) := by
  have hplace : ∀ p : Place, Text.Continued '>' p.markdown ↔
      (p.element.tag == "pre") = false ∧ Text.Continued '>' (Node.shownTexts p.children) := by
    intro p
    unfold Place.markdown
    cases hpre : p.element.tag == "pre" with
    | true =>
      rw [if_pos rfl]
      exact ⟨fun h => absurd h (not_continued_block p.children), fun h => nomatch h.1⟩
    | false =>
      rw [if_neg Bool.false_ne_true, continued_inline_iff]
      exact ⟨fun h => ⟨rfl, h⟩, fun h => h.2⟩
  rw [records_eq hfresh, List.forall_mem_map]
  constructor
  · intro h p hp hlifted
    exact (hplace p).mp (h p (List.mem_filter.mpr ⟨hp, hlifted⟩))
  · intro h p hp
    obtain ⟨hmem, hlifted⟩ := List.mem_filter.mp hp
    exact (hplace p).mpr (h p hmem hlifted)

/-- Each line of a quote that shows something starts with the mark of a quote, exactly if it is no
formula, all code in it stands on a line, and what shows of the code brings no line without the mark
along. -/
theorem forall_lines_ofNode_quote (root : Element) {quote : Element} {children : List Node}
    (hrule : ruleOf quote = .quote) (hfresh : Fresh [.element quote children])
    (hshown : Text.isBlank (Node.shownText (.element quote children)) = false) :
    (∀ l ∈ Text.lines (ofNode (.element root [.element quote children])), l.head? = some '>') ↔
      Formula.ofElement? quote children = none ∧
        ∀ p ∈ placesIn [] [.element quote children], p.isLifted = true →
          (p.element.tag == "pre") = false ∧ Text.Continued '>' (Node.shownTexts p.children) := by
  have hmark : '>' ≠ '\n' := by decide
  cases hformula : Formula.ofElement? quote children with
  | some f =>
    have hhead := head?_ofNode_of_formula root hfresh hshown hformula
    rw [Text.forall_lines_iff hmark, hhead]
    simp
  | none =>
    have hrecords : (markAll 0 [.element quote children]).2 = (markAll 0 children).2 := by
      rw [markAll_singleton, mark_quote hrule hshown hformula]
    rw [← forall_record_iff hfresh, hrecords, ofNode_quote root hrule hfresh hshown hformula]
    have hgreater : Text.EndsShown ['>'] := ⟨[], '>', rfl, rfl⟩
    rw [Text.forall_lines_iff hmark]
    constructor
    · rintro ⟨-, hcontinued⟩
      refine ⟨rfl, fun record hrecord => ?_⟩
      obtain ⟨i, hi⟩ := List.mem_iff_getElem?.mp hrecord
      obtain ⟨front, rest, hplace⟩ := placeholder_infix_quoted hfresh.below hi
      obtain ⟨c, hkind⟩ := record_cases hfresh.below hrecord
      rw [← hplace, restore_placeholder front rest hi, ← List.cons_append, ← List.cons_append,
        ← List.cons_append, ← List.cons_append] at hcontinued
      exact continued_record hkind hcontinued
    · rintro ⟨-, hrecords⟩
      obtain ⟨u, hu⟩ := hgreater.exists_trimEnd_append (' ' :: restore (markAll 0 children).2
        ((Text.trim (plainTexts (markAll 0 children).1)).flatMap (Text.behind quoteMark)))
      have htext := continued_restore hrecords
        (continued_flatMap_behind (Text.trim (plainTexts (markAll 0 children).1)))
      refine ⟨?_, Text.Continued.trimEnd ?_ hmark⟩
      · show (Text.trimEnd (['>'] ++ _)).head? = _
        rw [hu]
        rfl
      · exact (Text.continued_cons_of_ne (by decide)).mpr
          ((Text.continued_cons_of_ne (by decide)).mpr htext)

/-- A paragraph and an item with code on a line, in a quote. -/
theorem forall_lines_ofNode_quote_of_item :
    let quote := plain "blockquote"
    let children : List Node :=
      [.element (plain "p") [.text "a".toList], .text "\n".toList, .element (plain "ul")
        [.element (plain "li") [.text "b ".toList, .element (plain "code") [.text "c".toList]]]]
    ruleOf quote = .quote ∧ Fresh [.element quote children] ∧
      Text.isBlank (Node.shownText (.element quote children)) = false ∧
      ofNode (.element (plain "body") [.element quote children]) = "> a\n> b \x60c\x60".toList ∧
      ∀ l ∈ Text.lines (ofNode (.element (plain "body") [.element quote children])),
        l.head? = some '>' := by
  intro quote children
  have hrule : ruleOf quote = .quote := by decide
  have hfresh : Fresh [.element quote children] := by decide +kernel
  have hshown : Text.isBlank (Node.shownText (.element quote children)) = false := by decide
  refine ⟨hrule, hfresh, hshown, by decide +kernel, ?_⟩
  rw [forall_lines_ofNode_quote (plain "body") hrule hfresh hshown]
  decide +kernel

/-- Code in a quote leaves it: all of a block, and what comes behind a line break in code on a line. -/
theorem not_forall_lines_ofNode_quote :
    let quoted := fun children : List Node =>
      Node.element (plain "body") [.element (plain "blockquote") children]
    ruleOf (plain "blockquote") = .quote ∧
      ofNode (quoted [.element (plain "pre") [.text "x".toList]])
        = "> \n\x60\x60\x60\nx\n\x60\x60\x60".toList ∧
      ofNode (quoted [.text "a".toList, .element (plain "code") [.text "x\ny".toList]])
        = "> a\x60x\ny\x60".toList ∧
      (¬ ∀ l ∈ Text.lines (ofNode (quoted [.element (plain "pre") [.text "x".toList]])),
        l.head? = some '>') ∧
      ¬ ∀ l ∈ Text.lines (ofNode (quoted
        [.text "a".toList, .element (plain "code") [.text "x\ny".toList]])), l.head? = some '>' := by
  decide +kernel

end ChatScribe.Markdown

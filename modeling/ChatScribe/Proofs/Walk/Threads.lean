import ChatScribe.Proofs.Code.Numbered
import ChatScribe.Proofs.Code.Threads

/-!
# The walk writes each placeholder once

The code that is lifted out of a tree and the walk over the tree go by rules of their own, and still they
agree: in what the walk writes, the placeholders of all records stand in their order, each once
(`Code.Numbered.walkThreads`). So putting the records back neither loses, repeats, moves nor cuts any code
(`draft_weaves`).
-/

namespace ChatScribe.Markdown

open Html Code

/-! ## Constructs keep a thread -/

section

variable {ns ms : List Nat} {t : Text}

/-- Emphasis of a text without placeholders may become nothing; any other is kept between its marks. -/
theorem threads_wrapInline {opening closing : Text} (hopening : openMark ∉ opening)
    (hclosing : openMark ∉ closing) (h : Threads ns t) :
    Threads ns (wrapInline opening closing t) := by
  unfold wrapInline
  dsimp only
  by_cases hempty : (Text.trim t).isEmpty = true
  · rw [if_pos hempty, h.eq_nil_of_trim hempty]
    exact .nil
  · rw [if_neg hempty]
    have hspace : ∀ b : Bool, openMark ∉ (if b = true then [' '] else [] : Text) := by decide
    rw [List.append_assoc (_ ++ opening ++ _)]
    exact h.trim.between (List.not_mem_append (hspace _) hopening)
      (List.not_mem_append hclosing (hspace _))

theorem threads_headingText (level : Nat) (h : Threads ns t) :
    Threads ns (headingText level t) := by
  have hlevel : openMark ∉ List.replicate level '#' := by
    intro hmem
    exact absurd (List.eq_of_mem_replicate hmem) (by decide)
  have hsplit : headingText level t
      = (['\n'] ++ List.replicate level '#' ++ [' ']) ++ Text.trim t ++ ['\n'] := by
    simp [headingText]
  rw [hsplit]
  exact h.trim.between (List.not_mem_append (List.not_mem_append (by decide) hlevel) (by decide))
    (by decide)

/-- A quote. Its marks stand behind line feeds, which no placeholder has. -/
theorem threads_quoteText (h : Threads ns t) : Threads ns (quoteText t) := by
  have hkeep : ∀ n, ∀ c ∈ placeholder n, Text.behind "> ".toList c = [c] :=
    fun _ _ hc => behind_of_mem_placeholder _ hc
  have hclean : ∀ c, c ≠ openMark → openMark ∉ Text.behind "> ".toList c :=
    fun _ hc => openMark_not_mem_behind (by decide) hc
  unfold quoteText
  dsimp only
  by_cases hempty : (Text.trim t).isEmpty = true
  · rw [if_pos hempty, h.eq_nil_of_trim hempty]
    exact .nil
  · rw [if_neg hempty, Text.unlines_map_lines]
    exact ((h.trim.flatMap hkeep hclean).prepend (by decide : openMark ∉ "\n> ".toList)).postpend
      (by decide)

/-- An item of a list. Blank lines in front and white space behind are no part of a thread. -/
theorem threads_itemLine {indent mark : Text} (hindent : openMark ∉ indent) (hmark : openMark ∉ mark)
    (h : Threads ns t) : Threads ns (itemLine indent mark t) := by
  have hcontent := (h.dropWhile (· == '\n') (by decide)).trimEnd
  exact hcontent.between (List.not_mem_append hindent hmark) (by decide)

/-- A text that is added to an item. What it replaces is blank. -/
theorem threads_addText {text : Text} (h : Threads ns t) (htext : openMark ∉ text) :
    Threads ns (addText t text) := by
  unfold addText
  by_cases hblank : Text.isBlank t = true
  · rw [if_pos hblank, h.eq_nil_of_isBlank hblank]
    exact (Threads.plain htext).trimStart
  · rw [if_neg hblank]
    exact h.postpend htext

theorem threads_breakLine (h : Threads ns t) : Threads ns (breakLine t) := by
  unfold breakLine
  split
  · exact h.postpend (by decide)
  · exact h

/-! ## Attributes -/

variable {e : Element} {c : List Node}

/-- No attribute of the element has an opening mark. -/
theorem openMark_not_mem_attr? (he : ∀ a ∈ e.attrs, openMark ∉ a.value) {name : String} {v : Text}
    (h : e.attr? name = some v) : openMark ∉ v := by
  obtain ⟨a, hfind, rfl⟩ := Option.map_eq_some_iff.mp h
  exact he a (List.mem_of_find?_eq_some hfind)

theorem openMark_not_mem_attr?_getD (he : ∀ a ∈ e.attrs, openMark ∉ a.value) (name : String) :
    openMark ∉ (e.attr? name).getD [] := by
  cases hattr : e.attr? name with
  | none => exact List.not_mem_nil
  | some v => exact openMark_not_mem_attr? he hattr

theorem openMark_not_mem_trim {u : Text} (hu : openMark ∉ u) : openMark ∉ Text.trim u :=
  fun hmem => hu ((Text.trim_infix u).subset hmem)

/-- A link. One around an image-search mark is not written, and must have no placeholders. -/
theorem threads_linkText (he : ∀ a ∈ e.attrs, openMark ∉ a.value)
    (hlens : e.isLensLink = true → ns = []) (h : Threads ns t) : Threads ns (linkText e t) := by
  have htarget := openMark_not_mem_trim (openMark_not_mem_attr?_getD he "href")
  unfold linkText
  dsimp only
  split
  · rw [hlens ‹_›]
    exact .nil
  split
  · exact h
  · have hsplit : ∀ target : Text, '[' :: Text.trim t ++ "](".toList ++ target ++ [')']
        = ['['] ++ Text.trim t ++ ("](".toList ++ target ++ [')']) := by
      intro target
      simp
    rw [hsplit]
    exact h.trim.between (by decide)
      (List.not_mem_append (List.not_mem_append (by decide) htarget) (by decide))

theorem openMark_not_mem_imageText (he : ∀ a ∈ e.attrs, openMark ∉ a.value) :
    openMark ∉ imageText e := by
  have hsource := openMark_not_mem_trim (openMark_not_mem_attr?_getD he "src")
  have halt := openMark_not_mem_attr?_getD he "alt"
  unfold imageText
  dsimp only
  split
  · exact List.not_mem_append (List.not_mem_append (List.not_mem_append (List.not_mem_append
      (by decide) halt) (by decide)) hsource) (by decide)
  · exact List.not_mem_nil

/-! ## Formulas -/

/-- The source of a formula comes from attributes, or from the text below the element. -/
theorem openMark_not_mem_source (he : ∀ a ∈ e.attrs, openMark ∉ a.value)
    (hc : openMark ∉ Node.allTexts c) {f : Formula} (h : Formula.ofElement? e c = some f) :
    openMark ∉ f.source := by
  have hcandidate : ∀ v, some v ∈ Formula.candidates e c → openMark ∉ v := by
    intro v hv
    unfold Formula.candidates at hv
    simp only [List.mem_cons, List.not_mem_nil, or_false] at hv
    rcases hv with hv | hv | hv | hv | hv
    · exact openMark_not_mem_attr? he hv.symm
    · obtain ⟨m, hm, rfl⟩ := Option.map_eq_some_iff.mp hv.symm
      have hmem : m ∈ Node.elementsIn isSource c := List.mem_of_mem_head? hm
      exact fun hmark => hc (allText_subset_elementsIn c hmem hmark)
    · exact openMark_not_mem_attr? he hv.symm
    · exact openMark_not_mem_attr? he hv.symm
    · obtain ⟨label, hlabel, hprefix⟩ := Option.bind_eq_some_iff.mp hv.symm
      have hclean := openMark_not_mem_attr? he hlabel
      rw [Text.eq_append_of_dropPrefix? hprefix] at hclean
      exact (not_mem_of_append hclean).2
  unfold Formula.ofElement? at h
  split at h
  · obtain ⟨source, hsource, rfl⟩ := Option.map_eq_some_iff.mp h
    obtain ⟨v, hv, rfl⟩ := List.mem_map.mp (List.mem_of_find?_eq_some hsource)
    obtain ⟨_, hmem, rfl⟩ := List.mem_filterMap.mp hv
    exact openMark_not_mem_trim (hcandidate v hmem)
  · cases h

theorem openMark_not_mem_render {f : Formula} (hf : openMark ∉ f.source) {indent : Text}
    (hindent : openMark ∉ indent) : openMark ∉ f.render indent := by
  have hfeed : openMark ∉ ['\n'] := by decide
  have hdollars : openMark ∉ "$$\n".toList := by decide
  unfold Formula.render
  split
  · have hopening := List.not_mem_append (List.not_mem_append hfeed hindent) hdollars
    have hsource := List.not_mem_append (List.not_mem_append hopening hindent) hf
    have hsplit : '\n' :: indent ++ "$$\n".toList ++ indent ++ f.source ++ '\n' :: indent ++
        "$$\n".toList = ['\n'] ++ indent ++ "$$\n".toList ++ indent ++ f.source ++
        (['\n'] ++ indent ++ "$$\n".toList) := by simp
    rw [hsplit]
    exact List.not_mem_append hsource hopening
  · exact List.not_mem_append (List.not_mem_append (by decide : openMark ∉ ['$']) hf) (by decide)

end

/-- The tags of the rules that do not write all children of every element. -/
theorem lowerTag_of_ruleOf (e : Element) : match ruleOf e with
    | .lineBreak => lowerTag e = "br"
    | .divider => lowerTag e = "hr"
    | .list _ => lowerTag e = "ul" ∨ lowerTag e = "ol"
    | .picture => lowerTag e = "img"
    | .table => lowerTag e = "table"
    | _ => True := by
  unfold ruleOf lowerTag
  generalize String.ofList (Text.lower e.tag.toList) = tag
  dsimp only
  cases headingLevel? tag with
  | some level => trivial
  | none =>
    dsimp only
    -- each of the rules comes from a tag that is written out in the definition
    split <;> rename_i hrule <;> first
      | trivial
      | (split at hrule <;> simp_all)

/-! ## The walk -/

/-- What the walk and its parts write for some nodes has these placeholders. -/
structure WalkThreads (ks : List Nat) (ns : List Node) : Prop where
  plain : Threads ks (plainTexts ns)
  walk : ∀ {indent : Text}, openMark ∉ indent → Threads ks (walkAll indent ns)
  items : (∀ e c, .element e c ∈ ns → e.tag = "li") → ∀ (ordered : Bool) {indent : Text}
    (number : Nat), openMark ∉ indent → Threads ks (items ordered indent number ns)
  content : ∀ {indent before : Text} {js : List Nat}, openMark ∉ indent → Threads js before →
    Threads (js ++ ks) (itemContent indent before ns)

namespace WalkThreads

variable {e : Element} {c ns : List Node} {js ks : List Nat}

theorem nil : WalkThreads [] [] where
  plain := .nil
  walk _ := .nil
  items _ _ _ _ _ := .nil
  content _ hbefore := by
    rw [List.append_nil]
    exact hbefore

/-- Where nothing is, nothing is written. -/
theorem eq_nil (h : WalkThreads js c) (hc : c = []) : js = [] := by
  subst hc
  exact h.plain.eq_nil_of_isBlank rfl

/-- A rule keeps the placeholders of what is below its element. -/
theorem write (h : WalkThreads js c) (hregular : IsRegular e c)
    (hlens : e.isLensLink = true → js = []) {indent : Text} (hindent : openMark ∉ indent) :
    Threads js ((ruleOf e).write indent e c) := by
  have htag := lowerTag_of_ruleOf e
  have hfeed : openMark ∉ ['\n'] := by decide
  cases hrule : ruleOf e with
  | heading level => exact threads_headingText level h.plain
  | paragraph => exact (h.walk hindent).between hfeed hfeed
  | lineBreak =>
    rw [hrule] at htag
    rw [h.eq_nil (hregular.void (Or.inl htag))]
    exact .plain hfeed
  | divider =>
    rw [hrule] at htag
    rw [h.eq_nil (hregular.void (Or.inr (Or.inl htag)))]
    have hclean : openMark ∉ "\n---\n".toList := by decide
    exact .plain hclean
  | emphasis m =>
    have hmarks : openMark ∉ m.opening ∧ openMark ∉ m.closing := by
      cases m <;> decide
    exact threads_wrapInline hmarks.1 hmarks.2 h.plain
  | list ordered =>
    rw [hrule] at htag
    exact (h.items (hregular.items htag) ordered 1 hindent).prepend hfeed
  | link => exact threads_linkText hregular.attrs hlens h.plain
  | picture =>
    rw [hrule] at htag
    rw [h.eq_nil (hregular.void (Or.inr (Or.inr htag)))]
    exact .plain (openMark_not_mem_imageText hregular.attrs)
  | table =>
    rw [hrule] at htag
    exact absurd htag hregular.table
  | quote => exact threads_quoteText h.plain
  | flow => exact h.walk hindent

section

variable (h : WalkThreads js c) (hregular : IsRegular e c) (hspan : e.span? = none)
  (hsealed : isSealed e c = true → js = [])

include h hspan hsealed

theorem plainText_element : Threads js (plainText (.element e c)) := by
  rw [plainText, hspan]
  dsimp only
  by_cases homitted : e.isOmitted = true
  · rw [if_pos homitted, hsealed (by simp [isSealed, homitted])]
    exact .nil
  · rw [if_neg homitted]
    exact h.plain

include hregular

/-- An element that is not marked has the placeholders of what is below it. -/
theorem walk_element (hclean : openMark ∉ Node.allTexts c) {indent : Text}
    (hindent : openMark ∉ indent) : Threads js (Markdown.walk indent (.element e c)) := by
  by_cases homitted : e.isOmitted = true
  · rw [walk_of_isOmitted hspan homitted, hsealed (by simp [isSealed, homitted])]
    exact .nil
  · rw [Bool.not_eq_true] at homitted
    cases hformula : Formula.ofElement? e c with
    | some f =>
      rw [walk_of_formula hspan homitted hformula, hsealed (by simp [isSealed, hformula])]
      exact .plain (openMark_not_mem_render (openMark_not_mem_source hregular.attrs hclean hformula)
        hindent)
    | none =>
      rw [walk_of_rule hspan homitted hformula]
      exact h.write hregular (fun hlens => hsealed (by simp [isSealed, hlens])) hindent

end

/-- Nodes that are no elements have no placeholders. -/
theorem cons_other (h : WalkThreads ks ns) {n : Node} (hn : n.isElement = false)
    (hclean : openMark ∉ n.allText) : WalkThreads ks (n :: ns) := by
  have hitems : (∀ e c, .element e c ∈ n :: ns → e.tag = "li") →
      ∀ e c, .element e c ∈ ns → e.tag = "li" := fun hli e c hmem =>
    hli e c (List.mem_cons_of_mem n hmem)
  cases n with
  | element e c => cases hn
  | text content =>
    refine ⟨?_, fun hindent => ?_, fun hli ordered indent number hindent => ?_,
      fun hindent hbefore => ?_⟩
    · exact h.plain.prepend hclean
    · exact (h.walk hindent).prepend hclean
    · exact h.items (hitems hli) ordered number hindent
    · exact h.content hindent (threads_addText hbefore hclean)
  | _ =>
    refine ⟨?_, fun hindent => ?_, fun hli ordered indent number hindent => ?_,
      fun hindent hbefore => ?_⟩
    · exact h.plain
    · exact h.walk hindent
    · exact h.items (hitems hli) ordered number hindent
    · exact h.content hindent hbefore

/-- A marked element is its placeholder. -/
theorem cons_code (h : WalkThreads ks ns) {k : Nat} (htag : e.tag = "pre" ∨ e.tag = "code")
    (hspan : e.span? = some k) : WalkThreads (k :: ks) (.element e c :: ns) := by
  have hwalk : ∀ indent, Markdown.walk indent (.element e c) = placeholder k :=
    fun indent => walk_of_span hspan indent
  have hnotList : (isList e && !e.isHidden) = false := by
    rcases htag with htag | htag <;> simp [isList, htag]
  refine ⟨?_, fun hindent => ?_, fun hli => ?_, fun {indent before js} hindent hbefore => ?_⟩
  · rw [plainTexts, plainText, hspan]
    exact (Threads.placeholder k).append h.plain
  · rw [walkAll, hwalk]
    exact (Threads.placeholder k).append (h.walk hindent)
  · -- code is no item, so it does not stand in a list
    have hitem := hli e c List.mem_cons_self
    rcases htag with htag | htag
    · exact absurd (htag.symm.trans hitem) (by decide)
    · exact absurd (htag.symm.trans hitem) (by decide)
  · rw [itemContent, hnotList, if_neg Bool.false_ne_true, hwalk, List.append_cons js k ks]
    exact h.content hindent (hbefore.append (Threads.placeholder k))

theorem cons_within (h : WalkThreads ks ns) (hc : WalkThreads js c) (hregular : IsRegular e c)
    (hspan : e.span? = none) (hsealed : isSealed e c = true → js = [])
    (hclean : openMark ∉ Node.allTexts c) : WalkThreads (js ++ ks) (.element e c :: ns) := by
  have hplain := hc.plainText_element hspan hsealed
  have hwalk : ∀ {indent : Text}, openMark ∉ indent →
      Threads js (Markdown.walk indent (.element e c)) :=
    fun hindent => hc.walk_element hregular hspan hsealed hclean hindent
  refine ⟨?_, fun hindent => ?_, fun hli ordered indent number hindent => ?_,
    fun {indent before is} hindent hbefore => ?_⟩
  · exact hplain.append h.plain
  · exact (hwalk hindent).append (h.walk hindent)
  · have hrest : ∀ number, Threads ks (Markdown.items ordered indent number ns) := fun number =>
      h.items (fun e' c' hmem => hli e' c' (List.mem_cons_of_mem _ hmem)) ordered number hindent
    have htag : (e.tag == "li") = true := beq_iff_eq.mpr (hli e c List.mem_cons_self)
    rw [Markdown.items, htag, Bool.true_and]
    by_cases hhidden : e.isHidden = true
    · -- a hidden item is passed over, and nothing below it is marked
      rw [hhidden, hsealed (by simp [isSealed, Element.isOmitted, hhidden])]
      exact hrest number
    · rw [Bool.not_eq_true] at hhidden
      rw [hhidden, Bool.not_false, if_pos rfl]
      have hcontent := hc.content (openMark_not_mem_deeper hindent) Threads.nil
      exact (threads_itemLine hindent (openMark_not_mem_itemMark ordered number) hcontent).append
        (hrest (number + 1))
  · rw [itemContent, ← List.append_assoc]
    by_cases hlist : (isList e && !e.isHidden) = true
    · rw [if_pos hlist]
      obtain ⟨hlist, -⟩ := Bool.and_eq_true_iff.mp hlist
      obtain ⟨ordered, hrule⟩ := ruleOf_of_isList hlist
      have hlower := lowerTag_of_ruleOf e
      rw [hrule] at hlower
      have hitems := hregular.items hlower
      exact h.content hindent ((threads_breakLine hbefore).append (hc.items hitems _ 1 hindent))
    · rw [if_neg hlist]
      exact h.content hindent (hbefore.append (hwalk hindent))

end WalkThreads

/-- The walk over a numbered tree writes the placeholders of its numbers. -/
theorem Code.Numbered.walkThreads {ks : List Nat} {ns : List Node} (h : Numbered ks ns)
    (hclean : openMark ∉ Node.allTexts ns) : WalkThreads ks ns := by
  induction h with
  | nil => exact .nil
  | other hn h ih =>
    obtain ⟨hfirst, hrest⟩ := not_mem_of_append hclean
    exact (ih hrest).cons_other hn hfirst
  | code htag hspan h ih =>
    obtain ⟨-, hrest⟩ := not_mem_of_append hclean
    exact (ih hrest).cons_code htag hspan
  | within hspan hregular hsealed hc h ihc ih =>
    obtain ⟨hfirst, hrest⟩ := not_mem_of_append hclean
    exact (ih hrest).cons_within (ihc hfirst) hregular hspan hsealed hfirst

/-! ## The conversion -/

/-- In the draft of a tree the placeholders of all its records stand in their order, each once, and there
is no other opening mark. The Markdown is the draft with each placeholder replaced by its record, trimmed
at its two ends: no code is lost, repeated, moved or altered. -/
theorem draft_weaves {root : Node} (hregular : AllRegular root.children)
    (hclean : openMark ∉ Node.allTexts root.children) :
    ∃ front gaps, gaps.length = (lift root).records.length ∧ openMark ∉ front ∧
      (∀ gap ∈ gaps, openMark ∉ gap) ∧
      (lift root).draft
        = front ++ weave ((List.range (lift root).records.length).map placeholder) gaps ∧
      ofNode root = Text.trim (front ++ weave (lift root).records gaps) := by
  have hmarked : openMark ∉ Node.allTexts (lift root).nodes := by
    show openMark ∉ Node.allTexts (markAll 0 root.children).1
    rw [allTexts_markAll]
    exact hclean
  have hthreads : Threads (List.range (lift root).records.length) (lift root).draft := by
    rw [List.range_eq_range']
    exact ((numbered_markAll root.children 0 hregular).walkThreads hmarked).walk List.not_mem_nil
  obtain ⟨front, gaps, hlength, hfront, hgaps, hdraft⟩ := hthreads.exists_weave
  rw [List.length_range] at hlength
  refine ⟨front, gaps, hlength, hfront, hgaps, hdraft, ?_⟩
  show Text.trim (restore (lift root).records (lift root).draft) = _
  rw [hdraft, List.range_eq_range', restore_weave List.drop_zero hlength hfront hgaps]

/-- Code in a paragraph and a block in a nested list, with a hidden item in front of it. -/
theorem draft_weaves_nested :
    let hidden : Element := { plain "li" with attrs := [⟨.none, "aria-hidden", "true".toList⟩] }
    let children : List Node :=
      [.element (plain "p") [.text "a ".toList, .element (plain "code") [.text "x".toList]],
        .element (plain "ul") [.element hidden [.element (plain "code") [.text "y".toList]],
          .element (plain "li") [.text "b".toList,
            .element (plain "ol") [.element (plain "li") [.element (plain "pre") [.text "z".toList]]]]]]
    let root : Node := .element (plain "div") children
    (lift root).records.length = 2 ∧ ∃ front gaps, gaps.length = 2 ∧
      (lift root).draft = front ++ weave [placeholder 0, placeholder 1] gaps ∧
      ofNode root = Text.trim (front ++ weave (lift root).records gaps) := by
  intro hidden children root
  have hattrs : ∀ a ∈ ([] : List Attribute), openMark ∉ a.value := by decide
  have hcode : ∀ tag ∈ ["code", "pre"], ∀ u : Text,
      AllRegular [.element (plain tag) [.text u]] := by
    intro tag htag u
    have hspecial : lowerTag (plain tag) ∉ specialTags := by
      revert tag
      decide
    exact .cons_element rfl (isRegular_of_not_special hspecial hattrs _) (.cons_text u .nil) .nil
  have hitem : lowerTag (plain "li") ∉ specialTags := by decide
  have hnested : AllRegular [.element (plain "ol") [.element (plain "li")
      [.element (plain "pre") [.text "z".toList]]]] := by
    refine .cons_element rfl ⟨hattrs, by decide, ?_, by decide⟩ ?_ .nil
    · intro _ item below hmem
      obtain ⟨rfl, -⟩ := Node.element.inj (List.mem_singleton.mp hmem)
      rfl
    · exact .cons_element rfl (isRegular_of_not_special hitem hattrs _)
        (hcode "pre" (by decide) _) .nil
  have hregular : AllRegular children := by
    refine .cons_element rfl (isRegular_of_not_special (by decide) hattrs _)
      (.cons_text _ (hcode "code" (by decide) _)) (.cons_element rfl ⟨hattrs, by decide, ?_, by decide⟩
        (.cons_element rfl (isRegular_of_not_special (by decide) (by decide) _)
          (hcode "code" (by decide) _)
          (.cons_element rfl (isRegular_of_not_special hitem hattrs _) (.cons_text _ hnested) .nil))
        .nil)
    intro _ item below hmem
    rcases List.mem_cons.mp hmem with heq | hmem
    · obtain ⟨rfl, -⟩ := Node.element.inj heq
      rfl
    · obtain ⟨rfl, -⟩ := Node.element.inj (List.mem_singleton.mp hmem)
      rfl
  have hclean : openMark ∉ Node.allTexts children := by decide
  have hlength : (lift root).records.length = 2 := by decide +kernel
  obtain ⟨front, gaps, hgaps, -, -, hdraft, hmarkdown⟩ := @draft_weaves root hregular hclean
  rw [hlength] at hgaps hdraft
  exact ⟨hlength, front, gaps, hgaps, hdraft, hmarkdown⟩

end ChatScribe.Markdown

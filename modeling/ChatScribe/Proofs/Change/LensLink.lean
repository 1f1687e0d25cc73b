import ChatScribe.Proofs.Change.Convert
import ChatScribe.Proofs.Ink.Kept
import ChatScribe.Proofs.Walk.Alone

/-!
# Links around an image-search mark

The walk writes such a link as nothing, and no code is lifted out of it. So where the walk comes, it can be
taken out of the tree (`LensRemoved`), unless it is a formula or a search finds something in it. But where
text is read as it is, the link is not asked for: below headings, emphasis, quotes, other links and tables,
and in code, it is as good as what is below it (`LensOpened`).
-/

namespace ChatScribe.Markdown

open Html

/-! ## What such a link is not -/

section

variable {e : Element}

theorem tag_of_isLensLink (h : e.isLensLink = true) : e.tag = "a" :=
  beq_iff_eq.mp (Bool.and_eq_true_iff.mp h).1

theorem ruleOf_of_isLensLink (h : e.isLensLink = true) : ruleOf e = .link := by
  unfold ruleOf
  rw [tag_of_isLensLink h]
  rfl

/-- The tests for one tag or another fail. -/
theorem tag_beq_of_isLensLink (h : e.isLensLink = true) {tag : String} (hne : "a" ≠ tag) :
    (e.tag == tag) = false := by
  rw [tag_of_isLensLink h]
  exact beq_eq_false_iff_ne.mpr hne

theorem isRow_of_isLensLink (h : e.isLensLink = true) : isRow e = false := by
  rw [isRow, tag_beq_of_isLensLink h (by decide), Bool.false_and]

theorem isCell_of_isLensLink (h : e.isLensLink = true) : isCell e = false := by
  rw [isCell, tag_beq_of_isLensLink h (by decide), tag_beq_of_isLensLink h (by decide), Bool.or_self,
    Bool.false_and]

theorem isCode_of_isLensLink (h : e.isLensLink = true) : isCode e = false :=
  tag_beq_of_isLensLink h (by decide)

/-- An element that writes plain text is no such link. -/
theorem isLensLink_eq_false_of_writesPlain (h : writesPlain e = true) : e.isLensLink = false := by
  rw [← Bool.not_eq_true]
  intro hlens
  rw [writesPlain, ruleOf_of_isLensLink hlens, hlens] at h
  cases h

/-! ## What is written and read of it -/

variable {children : List Node}

/-- The walk writes nothing, unless the link is a formula. -/
theorem walk_of_isLensLink (h : e.isLensLink = true) (hspan : e.span? = none)
    (hformula : e.isOmitted = true ∨ Formula.ofElement? e children = none) (indent : Text) :
    walk indent (.element e children) = [] := by
  by_cases homitted : e.isOmitted = true
  · exact walk_of_isOmitted hspan homitted indent
  · rw [walk_of_rule hspan (Bool.eq_false_iff.mpr homitted) (hformula.resolve_left homitted),
      ruleOf_of_isLensLink h, Rule.write, linkText, if_pos h]

/-- Plain text is read through the link. -/
theorem plainText_of_fresh (hspan : e.span? = none) :
    plainText (.element e children) = if e.isOmitted then [] else plainTexts children := by
  rw [plainText, hspan]

theorem shownText_of_isLensLink (h : e.isLensLink = true) :
    Node.shownText (.element e children) = if e.isOmitted then [] else Node.shownTexts children := by
  rw [Node.shownText, tag_beq_of_isLensLink h (by decide)]
  rfl

end

/-! ## Taking the link away -/

/-- A link around an image-search mark is taken out of a list of nodes: it is no formula where the walk
comes, shows no text where text is read, and nothing is found in it. -/
inductive LensRemoved (v : Sights) : List Node → List Node → Prop
  | intro {e : Element} {c : List Node} (lens : e.isLensLink = true) (fresh : e.span? = none)
      (walk : v.walked = true → e.isOmitted = true ∨ Formula.ofElement? e c = none)
      (plain : v.plain = true → e.isOmitted = true ∨ plainTexts c = [])
      (shown : v.shown = true → e.isOmitted = true ∨ Node.shownTexts c = [])
      (finds : v.searches.SameFinds [.element e c] []) : LensRemoved v [.element e c] []

theorem LensRemoved.sameSights {v : Sights} {ns ns' : List Node} (h : LensRemoved v ns ns') :
    SameSights v ns ns' := by
  obtain @⟨e, c, lens, fresh, hwalk, hplain, hshown, hfinds⟩ := h
  have hitem : (e.tag == "li" && !e.isHidden) = false := by
    rw [tag_beq_of_isLensLink lens (by decide), Bool.false_and]
  have hlist : (isList e && !e.isHidden) = false := by
    rw [isList, tag_beq_of_isLensLink lens (by decide), tag_beq_of_isLensLink lens (by decide)]
    rfl
  refine ⟨?_, ?_, ?_, ?_, ?_, ?_, ?_, hfinds⟩
  · intro _ n
    rw [Code.markAll_of_isSealed (Code.isSealed_of_isLensLink lens c), Code.markAll]
    exact ⟨rfl, rfl⟩
  · intro hv indent
    rw [walkAll_singleton, walk_of_isLensLink lens fresh (hwalk hv), walkAll]
  · intro _ ordered indent number rest
    rw [List.singleton_append, items, hitem]
    rfl
  · intro hv indent content rest
    rw [List.singleton_append, itemContent, hlist, walk_of_isLensLink lens fresh (hwalk hv),
      List.append_nil]
    rfl
  · intro hv
    rw [plainTexts_singleton, plainText_of_fresh fresh]
    split
    · rfl
    · next homitted => exact (hplain hv).resolve_left homitted
  · intro hv
    rw [shownTexts_singleton, shownText_of_isLensLink lens]
    split
    · rfl
    · next homitted => exact (hshown hv).resolve_left homitted
  · intro _
    rw [cells_cons_element, isCell_of_isLensLink lens]
    rfl

/-! ## Opening the link -/

/-- A link around an image-search mark is replaced by what is below it, in a place where the walk does not
come. -/
inductive LensOpened (v : Sights) : List Node → List Node → Prop
  | intro {e : Element} {c : List Node} (lens : e.isLensLink = true) (fresh : e.span? = none)
      (seen : e.isOmitted = false) (unwalked : v.walked = false)
      (unlifted : v.lifted = true → ∀ n, Code.markAll n c = (c, []))
      (cells : v.cells = true → c.filterMap cellText? = [])
      (source : v.searches.source = true → isSource e = false) : LensOpened v [.element e c] c

theorem LensOpened.sameSights {v : Sights} {ns ns' : List Node} (h : LensOpened v ns ns') :
    SameSights v ns ns' := by
  obtain @⟨e, _, lens, fresh, seen, unwalked, unlifted, cells, source⟩ := h
  have hfinds : ∀ {p : Element → Bool}, p e = false →
      Node.elementsIn p [.element e ns'] = Node.elementsIn p ns' := by
    intro p hp
    rw [elementsIn_singleton, Node.elementsFrom, hp]
    rfl
  have hoff : ∀ {p : Prop}, v.walked = true → p := by
    intro p hv
    rw [unwalked] at hv
    cases hv
  refine ⟨?_, hoff, hoff, hoff, ?_, ?_, ?_, ?_, ?_, ?_⟩
  · intro hv n
    rw [Code.markAll_of_isSealed (Code.isSealed_of_isLensLink lens ns'), unlifted hv]
    exact ⟨rfl, rfl⟩
  · intro _
    rw [plainTexts_singleton, plainText_of_fresh fresh, seen]
    rfl
  · intro _
    rw [shownTexts_singleton, shownText_of_isLensLink lens, seen]
    rfl
  · intro hv
    rw [cells_cons_element, isCell_of_isLensLink lens, cells hv]
    rfl
  · intro hv
    rw [hfinds (source hv)]
  · intro _
    rw [hfinds (isRow_of_isLensLink lens)]
  · intro _
    rw [hfinds (isCode_of_isLensLink lens)]

/-- What comes to the children of code that is lifted. -/
def Sights.ofCode : Sights := ⟨false, false, false, true, false, ⟨false, false, true⟩⟩

/-- Code is lifted as if the link were not around its text. -/
theorem code_eq_of_lensOpened {c c' : List Node} (h : Within LensOpened .ofCode c c') :
    Code.block c = Code.block c' ∧ Code.inline c = Code.inline c' := by
  have hsame := h.mono LensOpened.sameSights
  refine ⟨hsame.block_eq rfl rfl, ?_⟩
  rw [Code.inline, Code.inline, hsame.shownTexts_eq rfl]

/-! ## A link with text in an element -/

/-- Is text below an element read as it is, without a look at the links in it? -/
def readsText (e : Element) : Bool := (Sights.top.below e).plain || (Sights.top.below e).shown

variable {above e : Element} {t : Text}

theorem of_readsText (h : readsText e = true) : e.isOmitted = false ∧
    (writesPlain e = true ∨ Sights.top.lifts e = true) := by
  simpa [readsText, Sights.below, Sights.top, Searches.off, ← and_or_left] using h

/-- A rule that writes plain text keeps what shows of it. -/
theorem ink_sublist_write (records : List Text) (h : writesPlain e = true) (indent : Text)
    (children : List Node) : (Code.ink records (plainTexts children)).Sublist
      (Code.ink records ((ruleOf e).write indent e children)) := by
  have hlens := isLensLink_eq_false_of_writesPlain h
  unfold writesPlain at h
  cases hrule : ruleOf e with
  | heading level => exact ink_headingText level _
  | emphasis m => exact ink_emphasis m _
  | link => exact ink_linkText hlens _
  | quote => exact ink_quoteText _
  | _ =>
    rw [hrule] at h
    cases h

theorem plainTexts_link (hseen : e.isOmitted = false) (hfresh : e.span? = none) :
    plainTexts [.element e [.text t]] = t := by
  rw [plainTexts_singleton, plainText_of_fresh hfresh, hseen]
  exact plainTexts_singleton _

theorem shownTexts_link (hlens : e.isLensLink = true) (hseen : e.isOmitted = false) :
    Node.shownTexts [.element e [.text t]] = t := by
  rw [shownTexts_singleton, shownText_of_isLensLink hlens, hseen]
  exact shownTexts_singleton _

/-- Nothing is found in a link that holds a text, but the link itself. -/
theorem elementsIn_link {p : Element → Bool} (h : p e = false) :
    Node.elementsIn p [.element e [.text t]] = [] := by
  rw [elementsIn_singleton, Node.elementsFrom, h]
  rfl

theorem sameFinds_link (hlens : e.isLensLink = true) (hsource : isSource e = false) (k : Searches) :
    k.SameFinds [.element e [.text t]] [] := by
  refine ⟨?_, ?_, ?_⟩
  · intro _
    rw [elementsIn_link hsource]
    rfl
  · intro _
    rw [elementsIn_link (isRow_of_isLensLink hlens)]
    rfl
  · intro _
    rw [elementsIn_link (isCode_of_isLensLink hlens)]
    rfl

/-- The text of a link in an element that reads text shows in the Markdown. -/
theorem strip_sublist_ofNode_of_readsText (hlens : e.isLensLink = true) (hseen : e.isOmitted = false)
    (hfresh : e.span? = none) (habove : above.span? = none)
    (hformula : Formula.ofElement? above [.element e [.text t]] = none)
    (hreads : readsText above = true) (root : Element) :
    (Text.strip t).Sublist
      (Text.strip (ofNode (.element root [.element above [.element e [.text t]]]))) := by
  obtain ⟨homitted, hreads⟩ := of_readsText hreads
  have hopen : above.isLensLink = false := by
    rcases hreads with hwrites | hlifts
    · exact isLensLink_eq_false_of_writesPlain hwrites
    · simp only [Sights.lifts, Bool.and_eq_true, Bool.not_eq_true'] at hlifts
      exact hlifts.1.2
  have hsealed := Code.isSealed_eq_false_iff.mpr ⟨homitted, hopen, hformula⟩
  by_cases hpre : (above.tag == "pre") = true
  · have hkept : blockKept [.element e [.text t]] = t := by
      have hnone : Node.elementsIn (·.tag == "code") [.element e [.text t]] = [] :=
        elementsIn_link (isCode_of_isLensLink hlens)
      rw [blockKept, hnone]
      exact shownTexts_link hlens hseen
    have hblock := strip_blockKept_sublist [.element e [.text t]]
    rw [hkept] at hblock
    rw [ofNode_of_mark (Code.mark_of_pre hsealed hpre 0), Code.strip_trim]
    exact hblock
  · rw [Bool.not_eq_true] at hpre
    by_cases hcode : (above.tag == "code") = true
    · have hinline := strip_shownTexts_sublist [.element e [.text t]]
      rw [shownTexts_link hlens hseen] at hinline
      rw [ofNode_of_mark (Code.mark_of_code hsealed hpre hcode 0), Code.strip_trim]
      exact hinline
    · rw [Bool.not_eq_true] at hcode
      have hwrites : writesPlain above = true := by
        refine hreads.resolve_right ?_
        simp [Sights.lifts, isCode, hpre, hcode]
      have hmark := Code.mark_of_other hsealed hpre hcode 0
      rw [Code.markAll_of_isSealed (Code.isSealed_of_isLensLink hlens _)] at hmark
      have hink := ink_sublist_write [] hwrites [] [.element e [.text t]]
      rw [Code.ink_of_no_records, Code.ink_of_no_records, plainTexts_link hseen hfresh] at hink
      rw [ofNode_of_rule homitted habove hformula hmark, Code.strip_trim]
      exact hink

/-- A link that holds a text can be taken out of an element that does not read text. -/
theorem within_of_not_readsText (hlens : e.isLensLink = true) (hfresh : e.span? = none)
    (hown : Formula.isOwn e = false) (hsource : isSource e = false)
    (hreads : readsText above = false) :
    Within LensRemoved .top [.element above [.element e [.text t]]] [.element above []] := by
  obtain ⟨hplain, hshown⟩ := Bool.or_eq_false_iff.mp hreads
  have hformula : Formula.ofElement? e [.text t] = none := by
    unfold Formula.ofElement? Formula.sourceElement?
    rw [hown]
    rfl
  have hremoved : LensRemoved (Sights.top.below above) [.element e [.text t]] [] := by
    refine ⟨hlens, hfresh, fun _ => .inr hformula, ?_, ?_, sameFinds_link hlens hsource _⟩
    · intro hread
      rw [hplain] at hread
      cases hread
    · intro hread
      rw [hshown] at hread
      cases hread
  exact .inside [] (fun h => Bool.noConfusion h) (.here [] hremoved)

/-- A link that holds a text can be taken out of an element, whatever the text, exactly if that element
does not read text, or is a formula. -/
theorem ofNode_link_iff (hlens : e.isLensLink = true) (hseen : e.isOmitted = false)
    (hfresh : e.span? = none) (hown : Formula.isOwn e = false) (hsource : isSource e = false)
    (habove : above.span? = none) (root : Element) :
    (∀ s, ofNode (.element root [.element above [.element e [.text s]]])
        = ofNode (.element root [.element above []])) ↔
      (readsText above = true → (Formula.ofElement? above []).isSome = true) := by
  have hformula : ∀ s, Formula.ofElement? above [.element e [.text s]]
      = Formula.ofElement? above [] := by
    intro s
    apply ofElement?_eq_of_sources
    rw [elementsIn_link hsource]
    rfl
  constructor
  · intro hsame hreads
    rw [← Bool.not_eq_false, Option.isSome_eq_false_iff, Option.isNone_iff_eq_none]
    intro hnone
    -- a text longer than what is written without the link
    let t := List.replicate ((Text.strip (ofNode (.element root [.element above []]))).length + 1) 'x'
    have hkept := strip_sublist_ofNode_of_readsText (t := t) hlens hseen hfresh habove
      ((hformula t).trans hnone) hreads root
    have hstrip : Text.strip t = t := List.filter_replicate_of_pos (by decide)
    have hlength := hkept.length_le
    rw [hsame t, hstrip, List.length_replicate] at hlength
    omega
  · intro hreads s
    by_cases hread : readsText above = true
    · obtain ⟨f, hf⟩ := Option.isSome_iff_exists.mp (hreads hread)
      have hshown := (of_readsText hread).1
      rw [ofNode_of_formula hshown habove ((hformula s).trans hf),
        ofNode_of_formula hshown habove hf]
    · rw [Bool.not_eq_true] at hread
      have hwithin := within_of_not_readsText (t := s) hlens hfresh hown hsource hread
      exact (hwithin.mono LensRemoved.sameSights).ofNode_eq root

/-! ## The Markdown -/

/-- Where the walk comes, a link around an image-search mark can be taken out of a tree, if it is no formula
and no search finds anything in it. Where the walk does not come, and in code, it is as good as what is
below it. So a link that holds a text vanishes from an element exactly if that element does not read text,
or is a formula; and a link that is a formula is written as one. -/
theorem ofNode_of_lens_link (root : Element) :
    (∀ {c c' : List Node}, Within LensRemoved .top c c' →
      ofNode (.element root c) = ofNode (.element root c')) ∧
    (∀ {c c' : List Node}, Within LensOpened .top c c' →
      ofNode (.element root c) = ofNode (.element root c')) ∧
    (∀ {c c' : List Node}, Within LensOpened .ofCode c c' →
      Code.block c = Code.block c' ∧ Code.inline c = Code.inline c') ∧
    (∀ above e : Element, e.isLensLink = true → e.isOmitted = false → e.span? = none →
      Formula.isOwn e = false → isSource e = false → above.span? = none →
      ((∀ s, ofNode (.element root [.element above [.element e [.text s]]])
          = ofNode (.element root [.element above []])) ↔
        (readsText above = true → (Formula.ofElement? above []).isSome = true))) ∧
    (∀ (e : Element) (c : List Node) (f : Formula), e.isLensLink = true → e.isOmitted = false →
      e.span? = none → Formula.ofElement? e c = some f →
      ofNode (.element root [.element e c]) = Text.trim (f.render [])) := by
  refine ⟨?_, ?_, ?_, ?_, ?_⟩
  · intro c c' h
    exact (h.mono LensRemoved.sameSights).ofNode_eq root
  · intro c c' h
    exact (h.mono LensOpened.sameSights).ofNode_eq root
  · intro c c' h
    exact code_eq_of_lensOpened h
  · intro above e hlens hseen hfresh hown hsource habove
    exact ofNode_link_iff hlens hseen hfresh hown hsource habove root
  · intro e c f _ hseen hfresh hf
    exact ofNode_of_formula hseen hfresh hf root

/-- A link around an image-search mark. -/
def lensLink : Element := ⟨.html, "a", [⟨.none, "class", "lens-icon-container".toList⟩], 0, none⟩

/-- One that names the source of a formula. -/
def lensFormula : Element :=
  { lensLink with attrs := ⟨.none, "data-math", "x".toList⟩ :: lensLink.attrs }

/-- A link in a paragraph vanishes, one in a heading or in code leaves its text, and one that is a formula
is written. -/
theorem ofNode_of_lens_link_places :
    (Within LensRemoved .top
        [.element (plain "p") [.text "a".toList, .element lensLink [.text "lens".toList]]]
        [.element (plain "p") [.text "a".toList]] ∧
      ofNode (.element (plain "body")
          [.element (plain "p") [.text "a".toList, .element lensLink [.text "lens".toList]]])
        = ofNode (.element (plain "body") [.element (plain "p") [.text "a".toList]])) ∧
    (Within LensOpened .top
        [.element (plain "h3") [.text "a".toList, .element lensLink [.text "lens".toList]]]
        [.element (plain "h3") [.text "a".toList, .text "lens".toList]] ∧
      ofNode (.element (plain "body")
          [.element (plain "h3") [.text "a".toList, .element lensLink [.text "lens".toList]]])
        = ofNode (.element (plain "body")
          [.element (plain "h3") [.text "a".toList, .text "lens".toList]])) ∧
    (Within LensOpened .ofCode [.element lensLink [.text "lens".toList]] [.text "lens".toList] ∧
      Code.inline [.element lensLink [.text "lens".toList]] = Code.inline [.text "lens".toList]) ∧
    (lensLink.isLensLink = true ∧ lensLink.isOmitted = false ∧ Formula.isOwn lensLink = false ∧
      isSource lensLink = false ∧
      (∀ s, ofNode (.element (plain "body")
          [.element (plain "p") [.element lensLink [.text s]]])
        = ofNode (.element (plain "body") [.element (plain "p") []])) ∧
      ¬ ∀ s, ofNode (.element (plain "body")
          [.element (plain "strong") [.element lensLink [.text s]]])
        = ofNode (.element (plain "body") [.element (plain "strong") []])) ∧
    lensFormula.isLensLink = true ∧ lensFormula.isOmitted = false ∧
    Formula.ofElement? lensFormula [] = some ⟨"x".toList, false⟩ ∧
    ofNode (.element (plain "body") [.element lensFormula []]) = "$x$".toList := by
  obtain ⟨hremove, hopen, hcode, htext, hformula⟩ := ofNode_of_lens_link (plain "body")
  have hparagraph : Within LensRemoved .top
      [.element (plain "p") [.text "a".toList, .element lensLink [.text "lens".toList]]]
      [.element (plain "p") [.text "a".toList]] := by
    have hremoved : LensRemoved (Sights.top.below (plain "p"))
        [.element lensLink [.text "lens".toList]] [] :=
      ⟨by decide, rfl, fun _ => .inr (by decide), fun h => absurd h (by decide),
        fun h => absurd h (by decide), ⟨fun _ => rfl, fun _ => rfl, fun _ => rfl⟩⟩
    exact .inside [] (fun h => Bool.noConfusion h) (.later _ (.here [] hremoved))
  have hheading : Within LensOpened .top
      [.element (plain "h3") [.text "a".toList, .element lensLink [.text "lens".toList]]]
      [.element (plain "h3") [.text "a".toList, .text "lens".toList]] := by
    have hmark : ∀ n, Code.markAll n [.text "lens".toList] = ([.text "lens".toList], []) := by
      intro n
      rw [Code.markAll_singleton, Code.mark_of_not_element rfl]
    have hopened : LensOpened (Sights.top.below (plain "h3"))
        [.element lensLink [.text "lens".toList]] [.text "lens".toList] :=
      ⟨by decide, rfl, by decide, by decide, fun _ => hmark, fun h => absurd h (by decide),
        fun _ => by decide⟩
    exact .inside [] (fun h => Bool.noConfusion h) (.later _ (.here [] hopened))
  have hinline : Within LensOpened .ofCode [.element lensLink [.text "lens".toList]]
      [.text "lens".toList] := by
    have hopened : LensOpened .ofCode [.element lensLink [.text "lens".toList]]
        [.text "lens".toList] :=
      ⟨by decide, rfl, by decide, rfl, fun h => Bool.noConfusion h, fun h => Bool.noConfusion h,
        fun h => Bool.noConfusion h⟩
    exact .here [] hopened
  refine ⟨⟨hparagraph, hremove hparagraph⟩, ⟨hheading, hopen hheading⟩,
    ⟨hinline, (hcode hinline).2⟩, ⟨by decide, by decide, by decide, by decide, ?_, ?_⟩, by decide,
    by decide, by decide, ?_⟩
  · rw [htext _ _ (by decide) (by decide) rfl (by decide) (by decide) rfl]
    decide
  · rw [htext _ _ (by decide) (by decide) rfl (by decide) (by decide) rfl]
    decide
  · rw [hformula _ _ ⟨"x".toList, false⟩ (by decide) (by decide) rfl (by decide)]
    decide

/-- A link around an image-search mark is taken out of a list of nodes. -/
def LensTakenOut (ns ns' : List Node) : Prop :=
  ∃ e c, e.isLensLink = true ∧ ns = [.element e c] ∧ ns' = []

/-- Such links do not vanish wherever they stand: the text of one in a heading shows. -/
theorem not_ofNode_eq_of_lensTakenOut : ¬ ∀ {c c' : List Node},
    Within (fun _ => LensTakenOut) .top c c' →
      ∀ root, ofNode (.element root c) = ofNode (.element root c') := by
  intro h
  have hheading : Within (fun _ => LensTakenOut) .top
      [.element (plain "h3") [.text "a".toList, .element lensLink [.text "lens".toList],
        .text "b".toList]]
      [.element (plain "h3") [.text "a".toList, .text "b".toList]] := by
    have hout : LensTakenOut [.element lensLink [.text "lens".toList]] [] :=
      ⟨lensLink, [.text "lens".toList], by decide, rfl, rfl⟩
    have hbelow : Within (fun _ => LensTakenOut) (Sights.top.below (plain "h3"))
        ([.element lensLink [.text "lens".toList]] ++ [.text "b".toList])
        ([] ++ [.text "b".toList]) := .here _ hout
    exact .inside [] (fun h => Bool.noConfusion h) (.later _ hbelow)
  have hshows : ofNode (.element (plain "body") [.element (plain "h3") [.text "a".toList,
      .element lensLink [.text "lens".toList], .text "b".toList]]) = "### alensb".toList := by
    decide +kernel
  have hvanishes : ofNode (.element (plain "body") [.element (plain "h3") [.text "a".toList,
      .text "b".toList]]) = "### ab".toList := by
    decide +kernel
  have hsame := h hheading (plain "body")
  rw [hshows, hvanishes] at hsame
  exact absurd hsame (by decide)

end ChatScribe.Markdown

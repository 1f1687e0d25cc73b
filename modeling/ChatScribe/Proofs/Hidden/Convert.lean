import ChatScribe.Proofs.Change.Found
import ChatScribe.Proofs.Hidden.Replaced

/-!
# What is hidden has no part in the Markdown

If other nodes are put below an omitted element, and the searches that are on there find the same as
before, the Markdown stays the same (`ofNode_replaced`). The searches cannot be left out of this: each of
the three finds what is below an omitted element and brings it into the Markdown.
-/

namespace ChatScribe.Markdown

open Html

/-! ## What the searches let out -/

/-- An element that is a source, with the source `s`. -/
def sourceNode (s : Text) : Node :=
  .element ⟨.html, "span", [⟨.none, "class", "math-tex".toList⟩], 0, none⟩ [.text s]

/-- What stands below an omitted element in some element of its own never matters exactly if that
element starts no search. -/
theorem hidden_below_iff {above e : Element} (he : e.isOmitted = true) (hspan : above.span? = none)
    (root : Element) :
    (∀ c c', ofNode (.element root [.element above [.element e c]])
        = ofNode (.element root [.element above [.element e c']])) ↔
      startsNoSearch above = true := by
  constructor
  · intro hsame
    rw [← Bool.not_eq_false]
    intro hstarts
    obtain ⟨homitted, hnames⟩ := Bool.or_eq_false_iff.mp hstarts
    have hshown : ∀ s : Text, Text.trim s ≠ [] →
        ofNode (.element root [.element above [.element e [sourceNode s]]])
          = Text.trim (Formula.render [] ⟨Text.trim s, Formula.standsAlone above⟩) := by
      intro s hs
      exact ofNode_of_formula homitted hspan (ofElement?_of_source_below hnames (by decide) hs) root
    have hxy := hsame [sourceNode "x".toList] [sourceNode "y".toList]
    rw [hshown _ (by decide), hshown _ (by decide)] at hxy
    cases halone : Formula.standsAlone above with
    | true =>
      rw [halone] at hxy
      exact absurd hxy (by decide)
    | false =>
      rw [halone] at hxy
      exact absurd hxy (by decide)
  · intro hstarts c c'
    have hoff : Searches.off.below above = .off := if_pos hstarts
    apply Replaced.ofNode_eq
    refine .inside _ (fun hk => Bool.noConfusion hk) ?_
    rw [hoff]
    exact .here _ he ⟨fun hk => Bool.noConfusion hk, fun hk => Bool.noConfusion hk,
      fun hk => Bool.noConfusion hk⟩

/-- A row below an omitted element is a row of the table above it. -/
theorem ofNode_hidden_row {e : Element} (he : e.isOmitted = true) (hsource : isSource e = false)
    (s : Text) (root : Element) :
    ofNode (.element root [.element (plain "table") [.element e
      [.element (plain "tr") [.element (plain "td") [.text s]]]]])
      = Text.trim (Table.render [[Text.trim s]]) := by
  have hrow : isRow e = false := by
    apply visible_eq_false he
    intro htag
    rw [beq_iff_eq.mp htag]
    rfl
  exact ofNode_of_row_below (Code.isSealed_of_isOmitted he) hrow hsource s root

/-! ## Hidden nodes -/

/-- What is below an omitted element has no part in the Markdown, as far as the searches that are on
there find the same in it. On its own an element keeps everything below an omitted child out exactly if
it starts no search; a table lets hidden rows out, and a preformatted element hidden code. -/
theorem ofNode_replaced (root : Element) :
    (∀ {c c' : List Node}, Replaced .off c c' →
      ofNode (.element root c) = ofNode (.element root c')) ∧
    (∀ above e : Element, e.isOmitted = true → above.span? = none →
      ((∀ c c', ofNode (.element root [.element above [.element e c]])
          = ofNode (.element root [.element above [.element e c']])) ↔
        startsNoSearch above = true)) ∧
    (∀ (e : Element) (s : Text), e.isOmitted = true → isSource e = false →
      ofNode (.element root [.element (plain "table") [.element e
        [.element (plain "tr") [.element (plain "td") [.text s]]]]])
        = Text.trim (Table.render [[Text.trim s]])) ∧
    (∀ (e : Element) (s : Text), e.isOmitted = true → isSource e = false → isCode e = false →
      ofNode (.element root [.element (plain "pre") [.element e [.element (plain "code") [.text s]]]])
        = Text.trim (Code.block [.text s])) := by
  refine ⟨?_, ?_, ?_, ?_⟩
  · intro c c' h
    exact h.ofNode_eq root
  · intro above e he hspan
    exact hidden_below_iff he hspan root
  · intro e s he hsource
    exact ofNode_hidden_row he hsource s root
  · intro e s _ hsource hcode
    exact ofNode_of_code_below hsource hcode s root

/-- An element kept from the eye. -/
def veil : Element := ⟨.html, "span", [⟨.none, "aria-hidden", "true".toList⟩], 0, none⟩

/-- A hidden element in an item of a list: a list put below it does not show. -/
theorem ofNode_replaced_in_item :
    Replaced .off
      [.element (plain "ul") [.element (plain "li") [.text "a".toList, .element veil []]]]
      [.element (plain "ul") [.element (plain "li") [.text "a".toList, .element veil
        [.element (plain "ul") [.element (plain "li") [.text "b".toList]]]]]] ∧
    ofNode (.element (plain "body")
        [.element (plain "ul") [.element (plain "li") [.text "a".toList, .element veil []]]])
      = ofNode (.element (plain "body")
        [.element (plain "ul") [.element (plain "li") [.text "a".toList, .element veil
          [.element (plain "ul") [.element (plain "li") [.text "b".toList]]]]]]) ∧
    startsNoSearch (plain "p") = false ∧
    (¬ ∀ c c', ofNode (.element (plain "body") [.element (plain "p") [.element veil c]])
      = ofNode (.element (plain "body") [.element (plain "p") [.element veil c']])) ∧
    veil.isOmitted = true ∧ isSource veil = false ∧ isCode veil = false ∧
    ofNode (.element (plain "body") [.element (plain "table") [.element veil
        [.element (plain "tr") [.element (plain "td") [.text "b".toList]]]]])
      = "| b |\n| --- |".toList ∧
    ofNode (.element (plain "body") [.element (plain "pre") [.element veil
        [.element (plain "code") [.text "b".toList]]]])
      = "\x60\x60\x60\nb\n\x60\x60\x60".toList := by
  have hitem : Replaced .off
      [.element (plain "ul") [.element (plain "li") [.text "a".toList, .element veil []]]]
      [.element (plain "ul") [.element (plain "li") [.text "a".toList, .element veil
        [.element (plain "ul") [.element (plain "li") [.text "b".toList]]]]]] := by
    refine .inside _ (fun hk => Bool.noConfusion hk) (.inside _ (fun _ h => absurd h (by decide))
      (.later _ (.here _ (by decide) ⟨?_, ?_, ?_⟩)))
    · intro _
      rfl
    · intro _
      rfl
    · intro _
      rfl
  refine ⟨hitem, (ofNode_replaced (plain "body")).1 hitem, by decide, ?_, by decide, by decide, by decide, ?_, ?_⟩
  · rw [(ofNode_replaced (plain "body")).2.1 (plain "p") veil (by decide) rfl]
    decide
  · rw [(ofNode_replaced (plain "body")).2.2.1 veil _ (by decide) (by decide)]
    decide +kernel
  · rw [(ofNode_replaced (plain "body")).2.2.2 veil _ (by decide) (by decide) (by decide)]
    decide +kernel

/-- Hidden code takes the place of the text that shows in a preformatted element. -/
theorem ofNode_hidden_code_shows :
    veil.isOmitted = true ∧
    ofNode (.element (plain "body") [.element (plain "pre") [.text "shown".toList,
        .element veil [.element (plain "code") [.text "secret".toList]]]])
      = "\x60\x60\x60\nsecret\n\x60\x60\x60".toList ∧
    ofNode (.element (plain "body") [.element (plain "pre") [.text "shown".toList,
        .element veil []]])
      = "\x60\x60\x60\nshown\n\x60\x60\x60".toList := by
  decide +kernel

end ChatScribe.Markdown

import ChatScribe.Proofs.Code.Marked
import ChatScribe.Proofs.Ink.Walk

/-!
# The text that is kept

`keptTexts` is the text of a tree that the conversion promises to write, rule by rule: all of it, but for
what is below omitted elements, image-search links and formulas, in a list outside of its items, in a
table outside of the cells of its rows, in a preformatted element beside its only code element, and below
line breaks, rules and pictures. `strip_keptTexts_sublist_ofNode` says that none of it is lost: white
space apart, it is in the Markdown, in order.
-/

namespace ChatScribe.Markdown

open Html Code

/-! ## Kept text -/

/-- Is the text below an element not written by any rule? It is omitted, a link around an image-search
mark, a formula, or has been lifted out before. -/
def isShut (e : Element) (children : List Node) : Bool :=
  e.span?.isSome || isSealed e children

mutual

/-- The text a reader sees of the code elements in a node. -/
def codeShown : Node → Text
  | .element e children =>
    if e.isOmitted then []
    else if e.tag == "code" then Node.shownTexts children
    else codesShown children
  | _ => []

/-- The text a reader sees of the code elements in a list of nodes. -/
def codesShown : List Node → Text
  | [] => []
  | n :: ns => codeShown n ++ codesShown ns

end

/-- The text kept of a preformatted element: that of its one code element, or else its own. -/
def blockKept (children : List Node) : Text :=
  match Node.elementsIn (·.tag == "code") children with
  | [_] => codesShown children
  | _ => Node.shownTexts children

mutual

/-- The text kept of a node in a construct that keeps no structure inside. -/
def keptPlain : Node → Text
  | .text content => content
  | .element e children =>
    if isShut e children then []
    else if e.tag == "pre" then blockKept children
    else if e.tag == "code" then Node.shownTexts children
    else keptPlains children
  | _ => []

/-- The text kept of a list of nodes in such a construct. -/
def keptPlains : List Node → Text
  | [] => []
  | n :: ns => keptPlain n ++ keptPlains ns

end

/-- The text kept of a row: that of its cells. -/
def keptCells : List Node → Text
  | [] => []
  | .element e children :: rest =>
    (if (e.tag == "td" || e.tag == "th") && !isShut e children then keptPlains children else []) ++
      keptCells rest
  | _ :: rest => keptCells rest

mutual

/-- The text kept of a node in a table: that of its outermost rows, unless they are part of code. -/
def keptRow : Node → Text
  | .element e children =>
    if isShut e children || e.tag == "pre" || e.tag == "code" then []
    else if e.tag == "tr" then keptCells children
    else keptRows children
  | _ => []

/-- The text kept of a list of nodes in a table. -/
def keptRows : List Node → Text
  | [] => []
  | n :: ns => keptRow n ++ keptRows ns

end

mutual

/-- The text kept of a node. -/
def keptText : Node → Text
  | .text content => content
  | .element e children =>
    if isShut e children then []
    else if e.tag == "pre" then blockKept children
    else if e.tag == "code" then Node.shownTexts children
    else
      match ruleOf e with
      | .paragraph | .flow => keptTexts children
      | .heading _ | .emphasis _ | .link | .quote => keptPlains children
      | .list _ => keptItems children
      | .table => keptRows children
      | .lineBreak | .divider | .picture => []
  | _ => []

/-- The text kept of a list of nodes. -/
def keptTexts : List Node → Text
  | [] => []
  | n :: ns => keptText n ++ keptTexts ns

/-- The text kept of a list: that of its items. -/
def keptItems : List Node → Text
  | [] => []
  | .element e children :: rest =>
    (if e.tag == "li" && !isShut e children then keptTexts children else []) ++ keptItems rest
  | _ :: rest => keptItems rest

end

variable {records : List Text}

/-! ## Code -/

theorem strip_sublist_strip {s t : Text} (h : s.Sublist t) : (Text.strip s).Sublist (Text.strip t) :=
  h.filter _

/-- Dropping the line feed at the end of a text leaves what shows of it. -/
theorem strip_dropSuffix? (t : Text) :
    Text.strip ((Text.dropSuffix? ['\n'] t).getD t) = Text.strip t := by
  unfold Text.dropSuffix?
  cases h : Text.dropPrefix? ['\n'].reverse t.reverse with
  | none => rfl
  | some r =>
    have hsplit := congrArg List.reverse (Text.eq_append_of_dropPrefix? h)
    rw [List.reverse_reverse, List.reverse_append, List.reverse_reverse] at hsplit
    have hfeed : Text.strip ['\n'] = [] := rfl
    show Text.strip r.reverse = Text.strip t
    rw [hsplit, Text.strip_append, hfeed, List.append_nil]

mutual

theorem codeShown_sublist : ∀ n : Node, (codeShown n).Sublist
    ((Node.elementsFrom (·.tag == "code") n).flatMap Node.innerText)
  | .text _ => List.nil_sublist _
  | .comment _ => List.nil_sublist _
  | .doctype _ => List.nil_sublist _
  | .contents _ => List.nil_sublist _
  | .element e children => by
    rw [codeShown, Node.elementsFrom]
    by_cases homitted : e.isOmitted = true
    · rw [if_pos homitted]
      exact List.nil_sublist _
    · rw [if_neg homitted]
      by_cases hcode : (e.tag == "code") = true
      · rw [if_pos hcode, if_pos hcode, List.flatMap_cons]
        exact List.sublist_append_left _ _
      · rw [if_neg hcode, if_neg hcode]
        exact codesShown_sublist children

/-- What a reader sees of the code elements is in the texts of all code elements. -/
theorem codesShown_sublist : ∀ ns : List Node, (codesShown ns).Sublist
    ((Node.elementsIn (·.tag == "code") ns).flatMap Node.innerText)
  | [] => List.nil_sublist _
  | n :: ns => by
    rw [codesShown, Node.elementsIn, List.flatMap_append]
    exact (codeShown_sublist n).append (codesShown_sublist ns)

end

/-- The text of a block has the text kept of it. -/
theorem blockKept_sublist (children : List Node) :
    (blockKept children).Sublist (soleOr ((Node.elementsIn (·.tag == "code") children).map
      Node.innerText) (Node.shownTexts children)) := by
  have hcodes := codesShown_sublist children
  unfold blockKept
  generalize Node.elementsIn (·.tag == "code") children = codes at hcodes ⊢
  match codes with
  | [] => exact List.Sublist.refl _
  | [code] =>
    rw [List.flatMap_cons, List.flatMap_nil, List.append_nil] at hcodes
    exact hcodes
  | _ :: _ :: _ => exact List.Sublist.refl _

/-- The record of a preformatted element has the text kept of it. -/
theorem strip_blockKept_sublist (children : List Node) :
    (Text.strip (blockKept children)).Sublist (Text.strip (block children)) := by
  have htext : (Text.strip (blockKept children)).Sublist (Text.strip (blockText children)) := by
    rw [blockText_eq_soleOr, strip_dropSuffix?]
    exact strip_sublist_strip (blockKept_sublist children)
  apply htext.trans
  apply strip_sublist_strip
  unfold block
  exact (List.sublist_append_right _ _).trans (List.sublist_append_left _ _)

/-- The record of code on a line has its text. -/
theorem strip_shownTexts_sublist (children : List Node) :
    (Text.strip (Node.shownTexts children)).Sublist (Text.strip (Code.inline children)) := by
  apply strip_sublist_strip
  unfold Code.inline
  exact (List.sublist_cons_self _ _).trans (List.sublist_append_left _ _)

/-! ## Constructs without structure inside -/

/-- An element whose text is kept is neither marked nor sealed. -/
theorem of_isShut_eq_false {e : Element} {c : List Node} (h : isShut e c = false) :
    e.span? = none ∧ isSealed e c = false ∧ e.isOmitted = false ∧ e.isLensLink = false ∧
      Formula.ofElement? e c = none := by
  unfold isShut at h
  rw [Bool.or_eq_false_iff, Option.isSome_eq_false_iff, Option.isNone_iff_eq_none] at h
  exact ⟨h.1, h.2, isSealed_eq_false_iff.mp h.2⟩

theorem isShut_of_isSealed {e : Element} {c : List Node} (h : isSealed e c = true) :
    isShut e c = true := by
  unfold isShut
  rw [h, Bool.or_true]

theorem isHidden_eq_false {e : Element} (h : e.isOmitted = false) : e.isHidden = false := by
  unfold Element.isOmitted at h
  exact (Bool.or_eq_false_iff.mp h).1

/-- Kept text in front and kept text behind, if what is written in front is whole. -/
theorem strip_append_sublist {kept rest u v : Text} (hu : IsWhole records u)
    (hkept : (Text.strip kept).Sublist (ink records u))
    (hrest : (Text.strip rest).Sublist (ink records v)) :
    (Text.strip (kept ++ rest)).Sublist (ink records (u ++ v)) := by
  rw [Text.strip_append, hu.ink_append]
  exact hkept.append hrest

namespace Code.Marked

variable {ns ns' : List Node}

/-- Plain text keeps the text of its nodes. -/
theorem strip_keptPlains_sublist (h : Marked records ns ns') (hclean : openMark ∉ Node.allTexts ns) :
    (Text.strip (keptPlains ns)).Sublist (ink records (plainTexts ns')) := by
  induction h with
  | nil => exact List.nil_sublist _
  | other hn h ih =>
    rename_i n ms ms'
    obtain ⟨hhead, htail⟩ := not_mem_of_append hclean
    rw [keptPlains, plainTexts]
    refine strip_append_sublist (isWhole_plainText n hhead) ?_ (ih htail)
    cases n with
    | text content =>
      have hink : ink records content = Text.strip content := ink_of_not_mem hhead
      rw [keptPlain, plainText, hink]
    | element e c => cases hn
    | _ => exact List.nil_sublist _
  | shut hsealed h ih =>
    rename_i e c ms ms'
    obtain ⟨hhead, htail⟩ := not_mem_of_append hclean
    rw [keptPlains, plainTexts]
    refine strip_append_sublist (isWhole_plainText _ hhead) ?_ (ih htail)
    rw [keptPlain, if_pos (isShut_of_isSealed hsealed)]
    exact List.nil_sublist _
  | block hpre hrecord h ih =>
    obtain ⟨-, htail⟩ := not_mem_of_append hclean
    rw [keptPlains, plainTexts, keptPlain, plainText]
    refine strip_append_sublist (IsWhole.placeholder _) ?_ (ih htail)
    rw [ink_placeholder hrecord, if_pos hpre]
    split
    · exact List.nil_sublist _
    · exact strip_blockKept_sublist _
  | code hpre hcode hrecord h ih =>
    obtain ⟨-, htail⟩ := not_mem_of_append hclean
    rw [keptPlains, plainTexts, keptPlain, plainText]
    refine strip_append_sublist (IsWhole.placeholder _) ?_ (ih htail)
    rw [ink_placeholder hrecord, hpre, if_neg Bool.false_ne_true, if_pos hcode]
    split
    · exact List.nil_sublist _
    · exact strip_shownTexts_sublist _
  | within hsealed hpre hcode hc h ihc ih =>
    rename_i e c c' ms ms'
    obtain ⟨hhead, htail⟩ := not_mem_of_append hclean
    -- marks change no text, so what is written here is whole too
    have hhead' : openMark ∉ Node.allText (.element e c') := by
      rw [Node.allText, hc.allTexts_eq]
      exact hhead
    rw [keptPlains, plainTexts]
    refine strip_append_sublist (isWhole_plainText _ hhead') ?_ (ih htail)
    rw [keptPlain, hpre, hcode, if_neg Bool.false_ne_true, if_neg Bool.false_ne_true]
    by_cases hshut : isShut e c = true
    · rw [if_pos hshut]
      exact List.nil_sublist _
    · rw [if_neg hshut]
      rw [Bool.not_eq_true] at hshut
      obtain ⟨hspan, -, homitted, -, -⟩ := of_isShut_eq_false hshut
      rw [plainText, hspan]
      dsimp only
      rw [homitted]
      exact ihc hhead

/-! ## Tables -/

/-- A row keeps the text of its cells. -/
theorem strip_keptCells_sublist (h : Marked records ns ns') (hclean : openMark ∉ Node.allTexts ns) :
    (Text.strip (keptCells ns)).Sublist ((ns'.filterMap cellText?).flatMap (ink records)) := by
  have hskip : ∀ (m : Node) {kept : Text} {ms : List Node},
      kept.Sublist ((ms.filterMap cellText?).flatMap (ink records)) →
        kept.Sublist (((m :: ms).filterMap cellText?).flatMap (ink records)) := by
    intro m kept ms hkept
    rw [List.filterMap_cons]
    cases cellText? m with
    | none => exact hkept
    | some cell => exact hkept.trans (List.sublist_append_right _ _)
  induction h with
  | nil => exact List.nil_sublist _
  | other hn h ih =>
    rename_i n ms ms'
    obtain ⟨-, htail⟩ := not_mem_of_append hclean
    cases n with
    | element e c => cases hn
    | _ => exact hskip _ (ih htail)
  | shut hsealed h ih =>
    obtain ⟨-, htail⟩ := not_mem_of_append hclean
    rw [keptCells, isShut_of_isSealed hsealed, Bool.not_true, Bool.and_false,
      if_neg Bool.false_ne_true]
    exact hskip _ (ih htail)
  | block hpre hrecord h ih =>
    obtain ⟨-, htail⟩ := not_mem_of_append hclean
    rw [keptCells, beq_iff_eq.mp hpre]
    exact hskip _ (ih htail)
  | code hpre hcode hrecord h ih =>
    obtain ⟨-, htail⟩ := not_mem_of_append hclean
    rw [keptCells, beq_iff_eq.mp hcode]
    exact hskip _ (ih htail)
  | within hsealed hpre hcode hc h ihc ih =>
    rename_i e c c' ms ms'
    obtain ⟨hhead, htail⟩ := not_mem_of_append hclean
    rw [keptCells]
    by_cases hcell : ((e.tag == "td" || e.tag == "th") && !isShut e c) = true
    · obtain ⟨htag, hshut⟩ := Bool.and_eq_true_iff.mp hcell
      rw [Bool.not_eq_true'] at hshut
      obtain ⟨-, -, homitted, -, -⟩ := of_isShut_eq_false hshut
      have htext : cellText? (.element e c') = some (Text.trim (plainTexts c')) := by
        rw [cellText?, htag, isHidden_eq_false homitted]
        rfl
      rw [if_pos hcell, List.filterMap_cons, htext, Text.strip_append]
      dsimp only
      rw [List.flatMap_cons, ink_trim]
      exact (hc.strip_keptPlains_sublist hhead).append (ih htail)
    · rw [if_neg hcell, List.nil_append]
      exact hskip _ (ih htail)

/-- A table keeps the text of the cells of its rows. -/
theorem strip_keptRows_sublist (h : Marked records ns ns') (hclean : openMark ∉ Node.allTexts ns) :
    (Text.strip (keptRows ns)).Sublist ((Node.elementsIn isRow ns').flatMap fun row =>
      (rowCells row).flatMap (ink records)) := by
  have hskip : ∀ (m : Node) {kept : Text} {ms : List Node},
      kept.Sublist ((Node.elementsIn isRow ms).flatMap fun row =>
          (rowCells row).flatMap (ink records)) →
        kept.Sublist ((Node.elementsIn isRow (m :: ms)).flatMap fun row =>
          (rowCells row).flatMap (ink records)) := by
    intro m kept ms hkept
    rw [Node.elementsIn, List.flatMap_append]
    exact hkept.trans (List.sublist_append_right _ _)
  induction h with
  | nil => exact List.nil_sublist _
  | other hn h ih =>
    rename_i n ms ms'
    obtain ⟨-, htail⟩ := not_mem_of_append hclean
    cases n with
    | element e c => cases hn
    | _ => exact hskip _ (ih htail)
  | shut hsealed h ih =>
    obtain ⟨-, htail⟩ := not_mem_of_append hclean
    rw [keptRows, keptRow, isShut_of_isSealed hsealed]
    exact hskip _ (ih htail)
  | block hpre hrecord h ih =>
    obtain ⟨-, htail⟩ := not_mem_of_append hclean
    rw [keptRows, keptRow, hpre, Bool.or_true, Bool.true_or, if_pos rfl]
    exact hskip _ (ih htail)
  | code hpre hcode hrecord h ih =>
    obtain ⟨-, htail⟩ := not_mem_of_append hclean
    rw [keptRows, keptRow, hcode, Bool.or_true, if_pos rfl]
    exact hskip _ (ih htail)
  | within hsealed hpre hcode hc h ihc ih =>
    rename_i e c c' ms ms'
    obtain ⟨hhead, htail⟩ := not_mem_of_append hclean
    rw [keptRows, keptRow, hpre, hcode, Bool.or_false, Bool.or_false]
    by_cases hshut : isShut e c = true
    · rw [if_pos hshut]
      exact hskip _ (ih htail)
    · rw [if_neg hshut, Node.elementsIn, Node.elementsFrom, Text.strip_append, List.flatMap_append]
      refine List.Sublist.append ?_ (ih htail)
      rw [Bool.not_eq_true] at hshut
      obtain ⟨-, -, homitted, -, -⟩ := of_isShut_eq_false hshut
      -- rows below a row are found as well, but they come behind it
      by_cases htag : (e.tag == "tr") = true
      · have hrow : isRow e = true := by
          unfold isRow
          rw [htag, isHidden_eq_false homitted]
          rfl
        rw [if_pos htag, if_pos hrow, List.flatMap_cons, rowCells_eq_filterMap]
        exact (hc.strip_keptCells_sublist hhead).trans (List.sublist_append_left _ _)
      · have hrow : isRow e ≠ true := by
          unfold isRow
          rw [Bool.eq_false_iff.mpr htag]
          exact Bool.false_ne_true
        rw [if_neg htag, if_neg hrow]
        exact ihc hhead

end Code.Marked

/-! ## The walk -/

/-- The walk keeps the text of nodes: where they stand by themselves, as items of a list, and behind what
an item of a list holds already. -/
structure WalkKeeps (records : List Text) (ns ns' : List Node) : Prop where
  nodes : ∀ {indent : Text}, openMark ∉ indent →
    (Text.strip (keptTexts ns)).Sublist (ink records (walkAll indent ns'))
  items : ∀ (ordered : Bool) {indent : Text} (number : Nat), openMark ∉ indent →
    (Text.strip (keptItems ns)).Sublist (ink records (items ordered indent number ns'))
  content : ∀ {indent content : Text}, openMark ∉ indent → IsWhole records content →
    (ink records content ++ Text.strip (keptTexts ns)).Sublist
      (ink records (itemContent indent content ns'))

/-- A marked element is written as the record of its number. -/
theorem ink_walk_of_record {e : Element} {c : List Node} {i : Nat} {record : Text}
    (h : records[i]? = some record) (indent : Text) :
    ink records (walk indent (.element { e with span? := some i } c)) = Text.strip record := by
  have hspan : ({ e with span? := some i } : Element).span? = some i := rfl
  rw [walk_of_span hspan, ink_placeholder h]

/-- An element is written by its rule, which keeps the text that is kept of it. -/
theorem strip_keptText_sublist {e : Element} {c c' : List Node} (hc : Marked records c c')
    (hclean : openMark ∉ Node.allTexts c) (hkeeps : WalkKeeps records c c')
    (hpre : (e.tag == "pre") = false) (hcode : (e.tag == "code") = false) {indent : Text}
    (hindent : openMark ∉ indent) :
    (Text.strip (keptText (.element e c))).Sublist
      (ink records (walk indent (.element e c'))) := by
  rw [keptText, hpre, hcode, if_neg Bool.false_ne_true, if_neg Bool.false_ne_true]
  by_cases hshut : isShut e c = true
  · rw [if_pos hshut]
    exact List.nil_sublist _
  · rw [if_neg hshut]
    rw [Bool.not_eq_true] at hshut
    obtain ⟨hspan, -, homitted, hlens, hformula⟩ := of_isShut_eq_false hshut
    rw [← hc.ofElement?_eq e] at hformula
    rw [walk_of_rule hspan homitted hformula]
    -- rules without structure inside write plain text, the others what is below
    have hplain := hc.strip_keptPlains_sublist hclean
    have hfeed : Stops '\n' := stops_of_isSpace (by decide)
    have hopen : openMark ∉ ['\n'] := by decide
    cases ruleOf e with
    | heading level => exact hplain.trans (ink_headingText level _)
    | paragraph => exact (hkeeps.nodes hindent).trans (ink_sublist_between hopen _ hfeed [])
    | lineBreak => exact List.nil_sublist _
    | divider => exact List.nil_sublist _
    | emphasis m => exact hplain.trans (ink_emphasis m _)
    | list ordered =>
      have hspace : Text.isSpace '\n' = true := by decide
      have hitems := hkeeps.items ordered 1 hindent
      rw [← ink_cons_of_isSpace hspace] at hitems
      exact hitems
    | link => exact hplain.trans (ink_linkText hlens _)
    | picture => exact List.nil_sublist _
    | table =>
      have hrows : ((tableRows c').flatMap fun cells => cells.flatMap (ink records)).Sublist
          (ink records (Table.render (tableRows c'))) := ink_render _
      rw [tableRows_eq_map, List.flatMap_map] at hrows
      exact (hc.strip_keptRows_sublist hclean).trans hrows
    | quote => exact hplain.trans (ink_quoteText _)
    | flow => exact hkeeps.nodes hindent

/-- A list nested in an item is not written by the rule for elements, but keeps the same text. -/
theorem strip_keptText_sublist_items {e : Element} {c c' : List Node}
    (hkeeps : WalkKeeps records c c') (hpre : (e.tag == "pre") = false)
    (hcode : (e.tag == "code") = false) (hlist : isList e = true) (ordered : Bool) {indent : Text}
    (hindent : openMark ∉ indent) :
    (Text.strip (keptText (.element e c))).Sublist
      (ink records (items ordered indent 1 c')) := by
  rw [keptText, hpre, hcode, if_neg Bool.false_ne_true, if_neg Bool.false_ne_true]
  obtain ⟨o, hrule⟩ := ruleOf_of_isList hlist
  split
  · exact List.nil_sublist _
  · rw [hrule]
    exact hkeeps.items ordered 1 hindent

namespace WalkKeeps

variable {ns ns' : List Node}

theorem nil : WalkKeeps records [] [] where
  nodes _ := List.nil_sublist _
  items _ {_} _ _ := List.nil_sublist _
  content _ _ := by
    rw [keptTexts, Text.strip_nil, List.append_nil, itemContent]

/-- One more node that is no element. -/
theorem cons_other {n : Node} (hn : n.isElement = false) (hclean : openMark ∉ n.allText)
    (h : WalkKeeps records ns ns') : WalkKeeps records (n :: ns) (n :: ns') := by
  have hwhole : ∀ indent, IsWhole records (walk indent n) := fun indent =>
    isWhole_walk n indent hclean
  cases n with
  | element e c => cases hn
  | text content =>
    have hclean' : openMark ∉ content := hclean
    have hink : ink records content = Text.strip content := ink_of_not_mem hclean'
    refine ⟨?_, fun ordered _ number hindent => h.items ordered number hindent, ?_⟩
    · intro indent hindent
      refine strip_append_sublist (hwhole indent) ?_ (h.nodes hindent)
      rw [keptText, walk, hink]
    · intro indent before hindent hbefore
      have hmore := h.content hindent (isWhole_addText hbefore hclean')
      rw [ink_addText hbefore, hink, List.append_assoc, ← Text.strip_append] at hmore
      exact hmore
  | _ =>
    exact ⟨fun hindent => h.nodes hindent, fun ordered _ number hindent => h.items ordered number hindent,
      fun hindent hcontent => h.content hindent hcontent⟩

/-- One more element. As an item of a list and as a list in an item it is not written by the rule for
elements, so both are asked for on their own. -/
theorem cons_element {e e' : Element} {c c' : List Node} (htag : e'.tag = e.tag)
    (hhidden : e'.isHidden = e.isHidden) (hclean : openMark ∉ Node.allTexts c')
    (hwalk : ∀ {indent : Text}, openMark ∉ indent →
      (Text.strip (keptText (.element e c))).Sublist (ink records (walk indent (.element e' c'))))
    (hitem : (e.tag == "li") = true → isShut e c = false → ∀ {indent : Text}, openMark ∉ indent →
      (Text.strip (keptTexts c)).Sublist (ink records (itemContent indent [] c')))
    (hlist : isList e = true → ∀ (ordered : Bool) {indent : Text}, openMark ∉ indent →
      (Text.strip (keptText (.element e c))).Sublist (ink records (Markdown.items ordered indent 1 c')))
    (h : WalkKeeps records ns ns') :
    WalkKeeps records (.element e c :: ns) (.element e' c' :: ns') where
  nodes {indent} hindent :=
    strip_append_sublist (isWhole_walk _ indent hclean) (hwalk hindent) (h.nodes hindent)
  items ordered {indent} number hindent := by
    rw [keptItems, Markdown.items, htag, hhidden]
    by_cases hkept : (e.tag == "li" && !isShut e c) = true
    · -- an item whose text is kept is not hidden, so it gets a line
      obtain ⟨hli, hshut⟩ := Bool.and_eq_true_iff.mp hkept
      rw [Bool.not_eq_true'] at hshut
      obtain ⟨-, -, homitted, -, -⟩ := of_isShut_eq_false hshut
      rw [if_pos hkept, hli, isHidden_eq_false homitted, Bool.not_false, Bool.and_true, if_pos rfl]
      refine strip_append_sublist (isWhole_itemLine _ _ _) ?_ (h.items ordered _ hindent)
      have hcontent := hitem hli hshut (openMark_not_mem_deeper hindent)
      exact hcontent.trans (ink_itemLine hindent (openMark_not_mem_itemMark ordered number) _)
    · rw [if_neg hkept, List.nil_append]
      split
      · rw [(isWhole_itemLine _ _ _).ink_append]
        exact (h.items ordered _ hindent).trans (List.sublist_append_right _ _)
      · exact h.items ordered _ hindent
  content {indent before} hindent hbefore := by
    -- whatever is written for the element, the rest is added behind it
    have hgo : ∀ {written : Text}, IsWhole records written →
        (ink records before ++ Text.strip (keptText (.element e c))).Sublist (ink records written) →
        (ink records before ++ Text.strip (keptTexts (.element e c :: ns))).Sublist
          (ink records (itemContent indent written ns')) := by
      intro written hwhole hwritten
      rw [keptTexts, Text.strip_append, ← List.append_assoc]
      exact (hwritten.append_right _).trans (h.content hindent hwhole)
    rw [itemContent]
    by_cases hnested : (isList e' && !e'.isHidden) = true
    · have hlist' : isList e = true := by
        have hkind := (Bool.and_eq_true_iff.mp hnested).1
        unfold isList at hkind ⊢
        rw [← htag]
        exact hkind
      have hbroken := isWhole_breakLine hbefore
      rw [if_pos hnested]
      apply hgo (hbroken.append (isWhole_items _ _ _ _))
      rw [hbroken.ink_append, ink_breakLine]
      exact (List.Sublist.refl _).append (hlist hlist' _ hindent)
    · rw [if_neg hnested]
      apply hgo (hbefore.append (isWhole_walk (.element e' c') indent hclean))
      rw [hbefore.ink_append]
      exact (List.Sublist.refl _).append (hwalk hindent)

/-- One more element of which nothing is kept. -/
theorem cons_shut {e : Element} {c : List Node} (hshut : isShut e c = true)
    (hclean : openMark ∉ Node.allTexts c) (h : WalkKeeps records ns ns') :
    WalkKeeps records (.element e c :: ns) (.element e c :: ns') := by
  have hkept : keptText (.element e c) = [] := by rw [keptText, if_pos hshut]
  refine .cons_element rfl rfl hclean ?_ ?_ ?_ h
  · intro indent _
    rw [hkept]
    exact List.nil_sublist _
  · intro _ hopen
    rw [hshut] at hopen
    cases hopen
  · intro _ ordered indent _
    rw [hkept]
    exact List.nil_sublist _

/-- One more code element. It is neither an item nor a list, and its record has the text kept of it. -/
theorem cons_record {e : Element} {c : List Node} {i : Nat} {record : Text}
    (htag : (e.tag == "pre") = true ∨ (e.tag == "code") = true) (hrecord : records[i]? = some record)
    (hkept : (Text.strip (keptText (.element e c))).Sublist (Text.strip record))
    (hclean : openMark ∉ Node.allTexts c) (h : WalkKeeps records ns ns') :
    WalkKeeps records (.element e c :: ns) (.element { e with span? := some i } c :: ns') := by
  have hneither : (e.tag == "li") = false ∧ isList e = false := by
    unfold isList
    rcases htag with htag | htag <;> rw [beq_iff_eq.mp htag] <;> decide
  refine .cons_element rfl rfl hclean ?_ ?_ ?_ h
  · intro indent _
    rw [ink_walk_of_record hrecord]
    exact hkept
  · intro hli
    rw [hneither.1] at hli
    cases hli
  · intro hlist
    rw [hneither.2] at hlist
    cases hlist

end WalkKeeps

/-- The walk over a tree with its code marked keeps the text of the tree. -/
theorem Code.Marked.walkKeeps {ns ns' : List Node} (h : Marked records ns ns')
    (hclean : openMark ∉ Node.allTexts ns) : WalkKeeps records ns ns' := by
  induction h with
  | nil => exact .nil
  | other hn h ih =>
    obtain ⟨hhead, htail⟩ := not_mem_of_append hclean
    exact .cons_other hn hhead (ih htail)
  | shut hsealed h ih =>
    obtain ⟨hhead, htail⟩ := not_mem_of_append hclean
    exact .cons_shut (isShut_of_isSealed hsealed) hhead (ih htail)
  | block hpre hrecord h ih =>
    obtain ⟨hhead, htail⟩ := not_mem_of_append hclean
    refine .cons_record (Or.inl hpre) hrecord ?_ hhead (ih htail)
    rw [keptText, if_pos hpre]
    split
    · exact List.nil_sublist _
    · exact strip_blockKept_sublist _
  | code hpre hcode hrecord h ih =>
    obtain ⟨hhead, htail⟩ := not_mem_of_append hclean
    refine .cons_record (Or.inr hcode) hrecord ?_ hhead (ih htail)
    rw [keptText, hpre, if_neg Bool.false_ne_true, if_pos hcode]
    split
    · exact List.nil_sublist _
    · exact strip_shownTexts_sublist _
  | within hsealed hpre hcode hc h ihc ih =>
    rename_i e c c' ms ms'
    obtain ⟨hhead, htail⟩ := not_mem_of_append hclean
    have hkeeps := ihc hhead
    have hhead' : openMark ∉ Node.allTexts c' := by
      rw [hc.allTexts_eq]
      exact hhead
    refine .cons_element rfl rfl hhead' ?_ ?_ ?_ (ih htail)
    · exact strip_keptText_sublist hc hhead hkeeps hpre hcode
    · intro _ _ indent hindent
      have hcontent := hkeeps.content hindent IsWhole.nil
      rw [ink_nil, List.nil_append] at hcontent
      exact hcontent
    · exact strip_keptText_sublist_items hkeeps hpre hcode

/-! ## The conversion -/

/-- A message with a link, a nested list, code and a table. -/
def sampleMessage : Node :=
  .element (plain "body")
    [.element (plain "p") [.text "See ".toList, .element (plain "a") [.text "here".toList]],
     .element (plain "ul") [.element (plain "li") [.text "one".toList,
       .element (plain "ol") [.element (plain "li") [.text "two".toList]]]],
     .element (plain "pre") [.element (plain "code") [.text "x\n\ny".toList]],
     .element (plain "table") [.element (plain "tr") [.element (plain "td") [.text "cell".toList]]]]

mutual

/-- The text of a node that is below no omitted element, no image-search link, and no element that looks
like a formula by itself. -/
def visibleText : Node → Text
  | .text content => content
  | .element e children =>
    if e.isOmitted || e.isLensLink || Formula.isOwn e then [] else visibleTexts children
  | _ => []

/-- Such text of a list of nodes. -/
def visibleTexts : List Node → Text
  | [] => []
  | n :: ns => visibleText n ++ visibleTexts ns

end

/-- Is that text in the Markdown, white space apart and in order? -/
def ShowsText (ns : List Node) : Prop :=
  (Text.strip (visibleTexts ns)).Sublist (Text.strip (ofNode (.element (plain "body") ns)))

instance (ns : List Node) : Decidable (ShowsText ns) :=
  inferInstanceAs (Decidable (List.Sublist _ _))

/-- An element that holds the source of a formula. -/
def formulaSource : Element := ⟨.html, "span", [⟨.none, "class", "math-tex".toList⟩], 0, none⟩

end ChatScribe.Markdown

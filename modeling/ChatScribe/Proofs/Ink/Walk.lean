import ChatScribe.Proofs.Ink.Constructs

/-!
# The walk writes whole texts

No text that the walk writes ends in half a placeholder, if the texts of the tree have no opening marks:
what it takes from attributes is always followed by a mark of Markdown, and its placeholders are whole.
-/

namespace ChatScribe.Markdown

open Html Code

variable {records : List Text}

mutual

theorem isWhole_plainText : ∀ n : Node, openMark ∉ n.allText → IsWhole records (plainText n)
  | .text content, h => IsWhole.of_not_mem h
  | .comment content, _ => IsWhole.nil
  | .doctype name, _ => IsWhole.nil
  | .contents children, _ => IsWhole.nil
  | .element e children, h => by
    rw [plainText]
    cases e.span? with
    | some n => exact IsWhole.placeholder n
    | none =>
      dsimp only
      by_cases he : e.isOmitted = true
      · rw [if_pos he]
        exact IsWhole.nil
      · rw [if_neg he]
        exact isWhole_plainTexts children h

/-- Plain text is whole. -/
theorem isWhole_plainTexts :
    ∀ ns : List Node, openMark ∉ Node.allTexts ns → IsWhole records (plainTexts ns)
  | [], _ => IsWhole.nil
  | n :: ns, h => by
    obtain ⟨hn, hns⟩ := not_mem_of_append h
    rw [plainTexts]
    exact (isWhole_plainText n hn).append (isWhole_plainTexts ns hns)

end

/-- The items of a list are whole: each is a line. -/
theorem isWhole_items (ordered : Bool) (indent : Text) (ns : List Node) :
    ∀ number, IsWhole records (items ordered indent number ns) := by
  induction ns with
  | nil =>
    intro number
    exact IsWhole.nil
  | cons n ns ih =>
    intro number
    cases n with
    | element e children =>
      rw [items]
      split
      · exact (isWhole_itemLine _ _ _).append (ih (number + 1))
      · exact ih number
    | _ => exact ih number

mutual

theorem isWhole_walk :
    ∀ (n : Node) (indent : Text), openMark ∉ n.allText → IsWhole records (walk indent n)
  | .text content, _, h => IsWhole.of_not_mem h
  | .comment content, _, _ => IsWhole.nil
  | .doctype name, _, _ => IsWhole.nil
  | .contents children, _, _ => IsWhole.nil
  | .element e children, indent, h => by
    cases hspan : e.span? with
    | some n =>
      rw [walk_of_span hspan]
      exact IsWhole.placeholder n
    | none =>
      by_cases he : e.isOmitted = true
      · rw [walk_of_isOmitted hspan he]
        exact IsWhole.nil
      · rw [Bool.not_eq_true] at he
        cases hf : Formula.ofElement? e children with
        | some f =>
          rw [walk_of_formula hspan he hf]
          exact isWhole_formula f indent
        | none =>
          have hfeed : Stops '\n' := stops_of_isSpace (by decide)
          have hopen : IsWhole records ['\n'] := IsWhole.of_not_mem (by decide)
          rw [walk_of_rule hspan he hf]
          -- each rule ends in a character that no placeholder has, or in what its children write
          cases ruleOf e with
          | heading level => exact isWhole_headingText level _
          | paragraph => exact IsWhole.concat _ hfeed
          | lineBreak => exact hopen
          | divider =>
            have hclean : openMark ∉ "\n---\n".toList := by decide
            exact IsWhole.of_not_mem hclean
          | emphasis m =>
            cases m with
            | strong => exact isWhole_wrapInline _ ['*'] ⟨by decide, by decide⟩ _
            | em => exact isWhole_wrapInline _ [] ⟨by decide, by decide⟩ _
            | sub => exact isWhole_wrapInline _ "</sub".toList ⟨by decide, by decide⟩ _
            | sup => exact isWhole_wrapInline _ "</sup".toList ⟨by decide, by decide⟩ _
          | list ordered => exact hopen.append (isWhole_items ordered indent children 1)
          | link => exact isWhole_linkText e (isWhole_plainTexts children h)
          | picture => exact isWhole_imageText e
          | table => exact isWhole_render _
          | quote => exact isWhole_quoteText _
          | flow => exact isWhole_walkAll children indent h

/-- What the walk writes is whole. -/
theorem isWhole_walkAll :
    ∀ (ns : List Node) (indent : Text), openMark ∉ Node.allTexts ns →
      IsWhole records (walkAll indent ns)
  | [], _, _ => IsWhole.nil
  | n :: ns, indent, h => by
    obtain ⟨hn, hns⟩ := not_mem_of_append h
    rw [walkAll]
    exact (isWhole_walk n indent hn).append (isWhole_walkAll ns indent hns)

end

end ChatScribe.Markdown

import ChatScribe.Proofs.Code.Mark
import ChatScribe.Proofs.Code.Restore
import ChatScribe.Proofs.Walk.Rules

/-!
# One element by itself

The Markdown of an element that is all there is to convert, one equation for each way in which it is
written: as a formula, as code that is lifted, or by its rule.
-/

namespace ChatScribe.Markdown

open Html

variable {e : Element} {children : List Node}

theorem ofNode_of_formula {f : Formula} (homitted : e.isOmitted = false) (hspan : e.span? = none)
    (hf : Formula.ofElement? e children = some f) (root : Element) :
    ofNode (.element root [.element e children]) = Text.trim (f.render []) := by
  rw [ofNode_element, Code.markAll_of_isSealed (Code.isSealed_of_formula hf), walkAll_singleton,
    walk_of_formula hspan homitted hf, Code.restore_of_no_records]

/-- An element that has been lifted out is its code. -/
theorem ofNode_of_mark {record : Text} (hmark : Code.mark 0 (.element e children)
      = (.element { e with span? := some 0 } children, [record])) (root : Element) :
    ofNode (.element root [.element e children]) = Text.trim record := by
  have hspan : ({ e with span? := some 0 } : Element).span? = some 0 := rfl
  have hfirst : [record][0]? = some record := rfl
  rw [ofNode_element, Code.markAll_singleton, hmark, walkAll_singleton, walk_of_span hspan,
    Code.restore_placeholder_alone hfirst]

/-- An element below which nothing is lifted is written by its rule. -/
theorem ofNode_of_rule (homitted : e.isOmitted = false) (hspan : e.span? = none)
    (hformula : Formula.ofElement? e children = none)
    (hmark : Code.mark 0 (.element e children) = (.element e children, [])) (root : Element) :
    ofNode (.element root [.element e children])
      = Text.trim ((ruleOf e).write [] e children) := by
  rw [ofNode_element, Code.markAll_singleton, hmark, walkAll_singleton,
    walk_of_rule hspan homitted hformula, Code.restore_of_no_records]

end ChatScribe.Markdown

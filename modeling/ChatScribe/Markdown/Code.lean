import ChatScribe.Markdown.Formula
import ChatScribe.Markdown.Visibility

/-!
# Lifting code out of a tree

The conversion trims, wraps and cuts text, and code must survive that byte for byte. So before the
conversion each code element is marked with a number, the Markdown of its code is put on record
under that number, and the conversion writes a placeholder. Afterwards `restore` puts the records
back in one pass, so that code which looks like a placeholder is not looked at again.
-/

namespace ChatScribe.Markdown

open Html

namespace Code

/-- The private characters that enclose a placeholder. -/
def openMark : Char := '\uE000'

def closeMark : Char := '\uE001'

/-- The text between the opening mark and the number. -/
def label : Text := "CODE_BLOCK_".toList

/-- What stands for the code with a number while the text around it is built. -/
def placeholder (n : Nat) : Text := openMark :: label ++ Text.ofNat n ++ [closeMark]

/-- Code on a line: the text between backticks. -/
def inline (children : List Node) : Text := '\x60' :: Node.shownTexts children ++ ['\x60']

/-- The text of a preformatted element: that of its one code element, or else its own, without the
line feed at its end. -/
def blockText (children : List Node) : Text :=
  let text := match Node.elementsIn (·.tag == "code") children with
    | [code] => code.innerText
    | _ => Node.shownTexts children
  (Text.dropSuffix? ['\n'] text).getD text

/-- Code on lines of its own: the text between fences. -/
def block (children : List Node) : Text :=
  "\n\x60\x60\x60\n".toList ++ blockText children ++ "\n\x60\x60\x60\n".toList

/-- Elements whose content the conversion does not write, or writes in a way of its own. -/
def isSealed (e : Element) (children : List Node) : Bool :=
  e.isOmitted || e.isLensLink || (Formula.ofElement? e children).isSome

mutual

/-- Marks the code of a node with the numbers from `n` on. Answers with the marked node and the
Markdown of each code, in order. Code inside of code is not looked for. -/
def mark (n : Nat) : Node → Node × List Text
  | .element e children =>
    if isSealed e children then (.element e children, [])
    else if e.tag == "pre" then (.element { e with span? := some n } children, [block children])
    else if e.tag == "code" then (.element { e with span? := some n } children, [inline children])
    else
      let (children, records) := markAll n children
      (.element e children, records)
  | node => (node, [])

/-- Marks the code of a list of nodes. -/
def markAll (n : Nat) : List Node → List Node × List Text
  | [] => ([], [])
  | node :: nodes =>
    let (node, records) := mark n node
    let (nodes, more) := markAll (n + records.length) nodes
    (node :: nodes, records ++ more)

end

/-- The number of a placeholder and the text behind it, if the text is what follows the opening mark
of one. -/
def readNumber? (t : Text) : Option (Nat × Text) :=
  match Text.dropPrefix? label t with
  | none => none
  | some r =>
    match r.takeWhile Text.isAsciiDigit, r.dropWhile Text.isAsciiDigit with
    | d :: ds, c :: rest => if c = closeMark then some (Text.decimal (d :: ds), rest) else none
    | _, _ => none

theorem length_lt_of_readNumber? {t rest : Text} {n : Nat} (h : readNumber? t = some (n, rest)) :
    rest.length < t.length := by
  unfold readNumber? at h
  split at h
  · simp at h
  · rename_i r hr
    have ht := congrArg List.length (Text.eq_append_of_dropPrefix? hr)
    have hs := congrArg List.length (List.takeWhile_append_dropWhile (p := Text.isAsciiDigit) (l := r))
    split at h
    · rename_i hd
      split at h
      · simp at h
        obtain ⟨_, rfl⟩ := h
        rw [hd] at hs
        simp at hs ht
        omega
      · simp at h
    · simp at h

/-- Puts the records in place of the placeholders, scanning the text once. A placeholder without a
record stays. -/
def restore (records : List Text) : Text → Text
  | [] => []
  | c :: r =>
    if c = openMark then
      match _h : readNumber? r with
      | some (n, rest) =>
        match records[n]? with
        | some record => record ++ restore records rest
        | none => c :: restore records r
      | none => c :: restore records r
    else c :: restore records r
termination_by t => t.length
decreasing_by
  · have := length_lt_of_readNumber? _h; simp; omega
  all_goals simp

end Code

end ChatScribe.Markdown

import ChatScribe.Html.Builder

/-!
# The rules of tree building

What a token does in each insertion mode. A rule answers with the token when it wants the token to be
looked at again, in the mode that it has set, and with nothing when it is done with it.
-/

namespace ChatScribe.Html

open Vocabulary Build

namespace Rules

/-- The end of a rule: the token to look at again, if there is one. -/
abbrev Outcome := Build (Option Token)

def done : Outcome := return none

/-- Looks at the token again in another mode. -/
def again (m : Mode) (t : Token) : Outcome := do
  setMode m
  return some t

def isBlank (c : Char) : Bool := Text.isMarkupSpace c

/-- An input that is not shown. -/
def isHiddenInput (tag : Tag) : Bool :=
  tag.attrs.any fun a => a.name == "type" && Text.eqIgnoreCase a.value "hidden".toList

/-- A second root tag adds its attributes to the root element. -/
def mergeRoot (tag : Tag) : Build Unit := do
  unless ← inTemplate do
    let root := (← get).stack.getLast?.getD 0
    modify fun b => { b with arena := b.arena.addAttrs root tag.attrs }

/-! ## Before and in the head -/

def inInitial (t : Token) : Outcome := do
  match t with
  | .char c => if isBlank c then done else old t
  | .comment content => commentIn 0 content; done
  | _ => old t
where
  /-- A page without document type follows the habits of old pages. -/
  old (t : Token) : Outcome := do
    modify fun b => { b with quirks := .full }
    again .beforeHtml t

def beforeHtml (t : Token) : Outcome := do
  match t with
  | .comment content => commentIn 0 content; done
  | .char c => if isBlank c then done else implied t
  | .startTag tag =>
    if tag.name == "html" then
      createRoot tag.attrs
      setMode .beforeHead
      done
    else implied t
  | .endTag name => if ["head", "body", "html", "br"].contains name then implied t else done
  | _ => implied t
where
  implied (t : Token) : Outcome := do
    createRoot []
    again .beforeHead t

def beforeHead (t : Token) : Outcome := do
  match t with
  | .char c => if isBlank c then done else implied t
  | .comment content => insertComment content; done
  | .startTag tag =>
    if tag.name == "html" then mergeRoot tag; done
    else if tag.name == "head" then
      let id ← insertOpen .html tag
      modify fun b => { b with head? := some id, mode := .inHead }
      done
    else implied t
  | .endTag name => if ["head", "body", "html", "br"].contains name then implied t else done
  | _ => implied t
where
  implied (t : Token) : Outcome := do
    let id ← insertOpen .html (bare "head")
    modify fun b => { b with head? := some id }
    again .inHead t

/-- A template end tag closes the innermost template. -/
def endTemplate : Build Unit := do
  if ← inTemplate then
    impliedEnds impliedEndThorough
    popThroughTag "template"
    clearToMarker
    modify fun b => { b with templateModes := b.templateModes.tail }
    resetMode

/-- A start tag that belongs into the head, wherever it stands. -/
def headStart (tag : Tag) : Build Unit := do
  if ["base", "basefont", "bgsound", "link", "meta"].contains tag.name then insertVoid tag
  else if tag.name == "title" then insertLiteral tag (.rcdata "title")
  else if ["noframes", "style", "noscript"].contains tag.name then
    insertLiteral tag (.rawText tag.name)
  else if tag.name == "script" then insertLiteral tag (.script .plain)
  else if tag.name == "template" then
    pushMarker
    modify fun b =>
      { b with
        framesetOk := false
        mode := .inTemplate
        templateModes := .inTemplate :: b.templateModes }
    insertHtml tag

def inHead (t : Token) : Outcome := do
  match t with
  | .char c => if isBlank c then insertChar c; done else leave t
  | .comment content => insertComment content; done
  | .startTag tag =>
    if tag.name == "html" then mergeRoot tag; done
    else if headOnly.contains tag.name || tag.name == "noscript" then headStart tag; done
    else if tag.name == "head" then done
    else leave t
  | .endTag name =>
    if name == "head" then
      pop
      setMode .afterHead
      done
    else if ["body", "html", "br"].contains name then leave t
    else if name == "template" then endTemplate; done
    else done
  | _ => leave t
where
  leave (t : Token) : Outcome := do
    pop
    again .afterHead t

def afterHead (t : Token) : Outcome := do
  match t with
  | .char c => if isBlank c then insertChar c; done else implied t
  | .comment content => insertComment content; done
  | .startTag tag =>
    if tag.name == "html" then mergeRoot tag; done
    else if tag.name == "body" then
      insertHtml tag
      noFrameset
      setMode .inBody
      done
    else if tag.name == "frameset" then
      insertHtml tag
      setMode .inFrameset
      done
    else if headOnly.contains tag.name then
      match (← get).head? with
      | some head =>
        pushOpen head
        headStart tag
        removeOpen head
        done
      | none => done
    else if tag.name == "head" then done
    else implied t
  | .endTag name =>
    if ["body", "html", "br"].contains name then implied t
    else if name == "template" then endTemplate; done
    else done
  | _ => implied t
where
  implied (t : Token) : Outcome := do
    insertHtml (bare "body")
    again .inBody t

/-! ## In the body -/

/-- The end of a page inside of a template closes the template first. -/
def stopInTemplate : Outcome := do
  if ← inTemplate then
    popThroughTag "template"
    clearToMarker
    modify fun b => { b with templateModes := b.templateModes.tail }
    resetMode
    return some .stop
  else done

/-- A list item closes the item before it, up to the next barrier. -/
def closeItem (names : List String) : List Nat → Build Unit
  | [] => return ()
  | id :: rest => do
    let (space, tag) ← nameOf id
    if space == .html && names.contains tag then
      impliedEndsBut tag
      popThroughTag tag
    else if space == .html && itemBarrier.contains tag then return ()
    else closeItem names rest

/-- A foreign element inside of markup. -/
def enterForeign (space : Namespace) (tag : Tag) : Build Unit := do
  reopenFormatting
  if tag.selfClosing then let _ ← insertClosed space (foreignTag space tag)
  else let _ ← insertOpen space (foreignTag space tag)

/-- A link inside of a link closes the outer one first. -/
def closeOuterLink : Build Unit := do
  match (← formattingSinceMarker).find? fun (_, t) => t.name == "a" with
  | none => return ()
  | some (id, _) =>
    closeFormatting "a"
    removeFormatting id
    removeOpen id

def bodyStart (tag : Tag) : Build Unit := do
  let name := tag.name
  if name == "html" then mergeRoot tag
  else if headOnly.contains name then headStart tag
  else if name == "body" then
    match ← body? with
    | some body =>
      unless ← inTemplate do
        noFrameset
        modify fun b => { b with arena := b.arena.addAttrs body tag.attrs }
    | none => return ()
  else if name == "frameset" then
    if (← get).framesetOk then
      match ← body? with
      | some body =>
        modify fun b =>
          { b with
            arena := b.arena.detach body
            stack := b.stack.drop (b.stack.length - 1) }
        insertHtml tag
        setMode .inFrameset
      | none => return ()
  else if blocks.contains name then
    closeParagraphInScope
    insertHtml tag
  else if headings.contains name then
    closeParagraphInScope
    if ← currentIsOneOf headings then pop
    insertHtml tag
  else if name == "pre" || name == "listing" then
    closeParagraphInScope
    insertHtml tag
    modify fun b => { b with skipLineFeed := true, framesetOk := false }
  else if name == "form" then
    let nested ← inTemplate
    if (← get).form?.isNone || nested then
      closeParagraphInScope
      let id ← insertOpen .html tag
      unless nested do modify fun b => { b with form? := some id }
  else if name == "li" || name == "dd" || name == "dt" then
    noFrameset
    closeItem (if name == "li" then ["li"] else ["dd", "dt"]) (← get).stack
    closeParagraphInScope
    insertHtml tag
  else if name == "plaintext" then
    closeParagraphInScope
    insertHtml tag
    modify fun b => { b with content := .plaintext }
  else if name == "button" then
    if ← inScope endsScope "button" then
      impliedEnds impliedEnd
      popThroughTag "button"
    reopenFormatting
    insertHtml tag
    noFrameset
  else if name == "a" then
    closeOuterLink
    reopenFormatting
    insertFormatting tag
  else if formatting.contains name then
    reopenFormatting
    insertFormatting tag
  else if name == "nobr" then
    reopenFormatting
    if ← inScope endsScope "nobr" then
      closeFormatting "nobr"
      reopenFormatting
    insertFormatting tag
  else if name == "applet" || name == "marquee" || name == "object" then
    reopenFormatting
    insertHtml tag
    pushMarker
    noFrameset
  else if name == "table" then
    if (← get).quirks != .full then closeParagraphInScope
    insertHtml tag
    noFrameset
    setMode .inTable
  else if voidInline.contains name then
    reopenFormatting
    insertVoid tag
    unless name == "input" && isHiddenInput tag do noFrameset
  else if name == "param" || name == "source" || name == "track" then insertVoid tag
  else if name == "hr" then
    closeParagraphInScope
    insertVoid tag
    noFrameset
  else if name == "image" then
    reopenFormatting
    insertVoid { tag with name := "img" }
    noFrameset
  else if name == "textarea" then
    modify fun b => { b with skipLineFeed := true, framesetOk := false }
    insertLiteral tag (.rcdata name)
  else if name == "xmp" then
    closeParagraphInScope
    reopenFormatting
    noFrameset
    insertLiteral tag (.rawText name)
  else if name == "iframe" then
    noFrameset
    insertLiteral tag (.rawText name)
  else if name == "noembed" || name == "noscript" then insertLiteral tag (.rawText name)
  else if name == "select" then
    reopenFormatting
    insertHtml tag
    noFrameset
    let inTable := [Mode.inTable, .inCaption, .inTableBody, .inRow, .inCell].contains (← get).mode
    setMode (if inTable then .inSelectInTable else .inSelect)
  else if name == "optgroup" || name == "option" then
    if ← currentIs "option" then pop
    reopenFormatting
    insertHtml tag
  else if name == "rb" || name == "rtc" then
    if ← inScope endsScope "ruby" then impliedEnds impliedEnd
    insertHtml tag
  else if name == "rp" || name == "rt" then
    if ← inScope endsScope "ruby" then impliedEndsBut "rtc"
    insertHtml tag
  else if name == "math" then enterForeign .mathml tag
  else if name == "svg" then enterForeign .svg tag
  else if tableParts.contains name || name == "frame" || name == "head" then return ()
  else
    reopenFormatting
    insertHtml tag

def bodyEnd (name : String) : Outcome := do
  if name == "template" then endTemplate; done
  else if name == "body" then
    if ← inScope endsScope "body" then setMode .afterBody
    done
  else if name == "html" then
    if ← inScope endsScope "body" then again .afterBody (.endTag name) else done
  else if closers.contains name then
    if ← inScope endsScope name then
      impliedEnds impliedEnd
      popThroughTag name
    done
  else if name == "form" then
    if ← inTemplate then
      if ← inScope endsScope "form" then
        impliedEnds impliedEnd
        popThroughTag "form"
    else
      let form? := (← get).form?
      modify fun b => { b with form? := none }
      match form? with
      | some form =>
        if ← idInScope endsScope form then
          impliedEnds impliedEnd
          removeOpen form
      | none => pure ()
    done
  else if name == "p" then
    unless ← inScope endsButtonScope "p" do insertHtml (bare "p")
    closeParagraph
    done
  else if name == "li" || name == "dd" || name == "dt" then
    if ← inScope (if name == "li" then endsItemScope else endsScope) name then
      impliedEndsBut name
      popThroughTag name
    done
  else if headings.contains name then
    if ← anyInScope endsScope headings then
      impliedEnds impliedEnd
      popThroughTags headings
    done
  else if name == "a" || name == "nobr" || formatting.contains name then
    closeFormatting name
    done
  else if name == "applet" || name == "marquee" || name == "object" then
    if ← inScope endsScope name then
      impliedEnds impliedEnd
      popThroughTag name
      clearToMarker
    done
  else if name == "br" then
    bodyStart (bare "br")
    done
  else
    closeByName name
    done

def inBody (t : Token) : Outcome := do
  match t with
  | .null => done
  | .char c =>
    reopenFormatting
    unless isBlank c do noFrameset
    insertChar c
    done
  | .comment content => insertComment content; done
  | .startTag tag => bodyStart tag; done
  | .endTag name => bodyEnd name
  | .stop => if (← get).templateModes.isEmpty then done else stopInTemplate
  | .doctype _ => done

/-- Literal text, up to the end tag of its element. -/
def inText (t : Token) : Outcome := do
  match t with
  | .char c => insertChar c; done
  | .stop =>
    pop
    again (← get).returnMode t
  | .endTag _ =>
    pop
    setMode (← get).returnMode
    done
  | _ => done

/-! ## In tables -/

/-- What cannot stand in a table is handled as in the body, but goes in front of the table. -/
def foster (t : Token) : Outcome := do
  modify fun b => { b with fostering := true }
  let next ← inBody t
  modify fun b => { b with fostering := false }
  return next

def inTable (t : Token) : Outcome := do
  match t with
  | .char _ | .null =>
    if ← currentIsOneOf fosterParents then
      modify fun b => { b with returnMode := b.mode }
      again .inTableText t
    else foster t
  | .comment content => insertComment content; done
  | .startTag tag =>
    let name := tag.name
    let clear := clearStackTo ["table", "template", "html"]
    if name == "caption" then
      clear
      pushMarker
      insertHtml tag
      setMode .inCaption
      done
    else if name == "colgroup" then
      clear
      insertHtml tag
      setMode .inColumnGroup
      done
    else if name == "col" then
      clear
      insertHtml (bare "colgroup")
      again .inColumnGroup t
    else if name == "tbody" || name == "tfoot" || name == "thead" then
      clear
      insertHtml tag
      setMode .inTableBody
      done
    else if name == "td" || name == "th" || name == "tr" then
      clear
      insertHtml (bare "tbody")
      again .inTableBody t
    else if name == "table" then
      if ← inScope endsTableScope "table" then
        popThroughTag "table"
        resetMode
        return some t
      else done
    else if name == "style" || name == "script" || name == "template" then headStart tag; done
    else if name == "input" && isHiddenInput tag then insertVoid tag; done
    else if name == "form" then
      if !(← inTemplate) && (← get).form?.isNone then
        let id ← insertClosed .html tag
        modify fun b => { b with form? := some id }
      done
    else foster t
  | .endTag name =>
    if name == "table" then
      if ← inScope endsTableScope "table" then
        popThroughTag "table"
        resetMode
      done
    else if tableParts.contains name || name == "body" || name == "html" then done
    else if name == "template" then endTemplate; done
    else foster t
  | .stop => inBody t
  | .doctype _ => done

/-- Characters in a table are collected, and stay in it only if they are all blank. -/
def inTableText (t : Token) : Outcome := do
  match t with
  | .null => done
  | .char c =>
    modify fun b => { b with tableText := c :: b.tableText }
    done
  | _ =>
    let cs := (← get).tableText.reverse
    modify fun b => { b with tableText := [] }
    if cs.all isBlank then cs.forM insertChar
    else cs.forM fun c => do let _ ← foster (.char c)
    again (← get).returnMode t

def inCaption (t : Token) : Outcome := do
  let close (t? : Option Token) : Outcome := do
    if ← inScope endsTableScope "caption" then
      impliedEnds impliedEnd
      popThroughTag "caption"
      clearToMarker
      setMode .inTable
      return t?
    else done
  match t with
  | .startTag tag => if tableParts.contains tag.name then close (some t) else inBody t
  | .endTag name =>
    if name == "table" then close (some t)
    else if name == "caption" then close none
    else if tableParts.contains name || name == "body" || name == "html" then done
    else inBody t
  | _ => inBody t

def inColumnGroup (t : Token) : Outcome := do
  match t with
  | .char c => if isBlank c then insertChar c; done else leave t
  | .comment content => insertComment content; done
  | .startTag tag =>
    if tag.name == "html" then mergeRoot tag; done
    else if tag.name == "col" then insertVoid tag; done
    else if tag.name == "template" then headStart tag; done
    else leave t
  | .endTag name =>
    if name == "colgroup" then
      if ← currentIs "colgroup" then
        pop
        setMode .inTable
      done
    else if name == "col" then done
    else if name == "template" then endTemplate; done
    else leave t
  | .stop => inBody t
  | _ => leave t
where
  leave (t : Token) : Outcome := do
    if ← currentIs "colgroup" then
      pop
      again .inTable t
    else done

def inTableBody (t : Token) : Outcome := do
  let clear := clearStackTo ["tbody", "tfoot", "thead", "template", "html"]
  let leave : Outcome := do
    if ← anyInScope endsTableScope ["table", "tbody", "tfoot"] then
      clear
      pop
      again .inTable t
    else done
  match t with
  | .startTag tag =>
    let name := tag.name
    if name == "tr" then
      clear
      insertHtml tag
      setMode .inRow
      done
    else if name == "th" || name == "td" then
      clear
      insertHtml (bare "tr")
      again .inRow t
    else if tableParts.contains name then leave
    else inTable t
  | .endTag name =>
    if name == "tbody" || name == "tfoot" || name == "thead" then
      if ← inScope endsTableScope name then
        clear
        pop
        setMode .inTable
      done
    else if name == "table" then leave
    else if tableParts.contains name || name == "body" || name == "html" then done
    else inTable t
  | _ => inTable t

def inRow (t : Token) : Outcome := do
  let clear := clearStackTo ["tr", "template", "html"]
  let leave (t? : Option Token) : Outcome := do
    if ← inScope endsTableScope "tr" then
      clear
      pop
      setMode .inTableBody
      return t?
    else done
  match t with
  | .startTag tag =>
    let name := tag.name
    if name == "th" || name == "td" then
      clear
      insertHtml tag
      setMode .inCell
      pushMarker
      done
    else if tableParts.contains name then leave (some t)
    else inTable t
  | .endTag name =>
    if name == "tr" then leave none
    else if name == "table" then leave (some t)
    else if name == "tbody" || name == "tfoot" || name == "thead" then
      if ← inScope endsTableScope name then leave (some t) else done
    else if tableParts.contains name || name == "body" || name == "html" then done
    else inTable t
  | _ => inTable t

def inCell (t : Token) : Outcome := do
  let closeCell : Outcome := do
    impliedEnds impliedEnd
    popThroughTags ["td", "th"]
    clearToMarker
    again .inRow t
  match t with
  | .startTag tag =>
    if tableParts.contains tag.name then
      if ← anyInScope endsTableScope ["td", "th"] then closeCell else done
    else inBody t
  | .endTag name =>
    if name == "td" || name == "th" then
      if ← inScope endsTableScope name then
        impliedEnds impliedEnd
        popThroughTag name
        clearToMarker
        setMode .inRow
      done
    else if ["body", "caption", "col", "colgroup", "html"].contains name then done
    else if ["table", "tbody", "tfoot", "thead", "tr"].contains name then
      if ← inScope endsTableScope name then closeCell else done
    else inBody t
  | _ => inBody t

/-! ## In selections -/

def inSelect (t : Token) : Outcome := do
  let close (t? : Option Token) : Outcome := do
    if ← inScope endsSelectScope "select" then
      popThroughTag "select"
      resetMode
      return t?
    else done
  match t with
  | .null => done
  | .char c => insertChar c; done
  | .comment content => insertComment content; done
  | .startTag tag =>
    let name := tag.name
    if name == "html" then mergeRoot tag; done
    else if name == "option" then
      if ← currentIs "option" then pop
      insertHtml tag
      done
    else if name == "optgroup" || name == "hr" then
      if ← currentIs "option" then pop
      if ← currentIs "optgroup" then pop
      if name == "hr" then insertVoid tag else insertHtml tag
      done
    else if name == "select" then close none
    else if ["input", "keygen", "textarea"].contains name then close (some t)
    else if name == "script" || name == "template" then headStart tag; done
    else done
  | .endTag name =>
    if name == "optgroup" then
      if ← currentIs "option" then
        match (← get).stack with
        | _ :: outer :: _ => if ← isHtml outer "optgroup" then pop
        | _ => pure ()
      if ← currentIs "optgroup" then pop
      done
    else if name == "option" then
      if ← currentIs "option" then pop
      done
    else if name == "select" then close none
    else if name == "template" then endTemplate; done
    else done
  | .stop => inBody t
  | .doctype _ => done

def inSelectInTable (t : Token) : Outcome := do
  let parts := ["caption", "table", "tbody", "tfoot", "thead", "tr", "td", "th"]
  match t with
  | .startTag tag =>
    if parts.contains tag.name then
      popThroughTag "select"
      resetMode
      return some t
    else inSelect t
  | .endTag name =>
    if parts.contains name then
      if ← inScope endsTableScope name then
        popThroughTag "select"
        resetMode
        return some t
      else done
    else inSelect t
  | _ => inSelect t

/-! ## In templates, after the body, in framesets -/

def inTemplateMode (t : Token) : Outcome := do
  let switch (m : Mode) : Outcome := do
    modify fun b => { b with templateModes := m :: b.templateModes.tail }
    again m t
  match t with
  | .char _ | .comment _ => inBody t
  | .startTag tag =>
    let name := tag.name
    if headOnly.contains name then headStart tag; done
    else if ["caption", "colgroup", "tbody", "tfoot", "thead"].contains name then switch .inTable
    else if name == "col" then switch .inColumnGroup
    else if name == "tr" then switch .inTableBody
    else if name == "td" || name == "th" then switch .inRow
    else switch .inBody
  | .endTag name => if name == "template" then endTemplate; done else done
  | .stop => stopInTemplate
  | _ => done

def afterBody (t : Token) : Outcome := do
  match t with
  | .char c => if isBlank c then inBody t else again .inBody t
  | .comment content => commentIn ((← get).stack.getLast?.getD 0) content; done
  | .startTag tag => if tag.name == "html" then mergeRoot tag; done else again .inBody t
  | .endTag name =>
    if name == "html" then
      unless (← get).isFragment do setMode .afterAfterBody
      done
    else again .inBody t
  | .stop => done
  | _ => again .inBody t

def inFrameset (t : Token) : Outcome := do
  match t with
  | .char c => if isBlank c then insertChar c; done else done
  | .comment content => insertComment content; done
  | .startTag tag =>
    if tag.name == "html" then mergeRoot tag
    else if tag.name == "frameset" then insertHtml tag
    else if tag.name == "frame" then insertVoid tag
    else if tag.name == "noframes" then headStart tag
    done
  | .endTag name =>
    if name == "frameset" && (← get).stack.length != 1 then
      pop
      unless (← get).isFragment || (← currentIs "frameset") do setMode .afterFrameset
    done
  | _ => done

def afterFrameset (t : Token) : Outcome := do
  match t with
  | .char c => if isBlank c then insertChar c; done else done
  | .comment content => insertComment content; done
  | .startTag tag =>
    if tag.name == "html" then mergeRoot tag
    else if tag.name == "noframes" then headStart tag
    done
  | .endTag name =>
    if name == "html" then setMode .afterAfterFrameset
    done
  | _ => done

def afterAfterBody (t : Token) : Outcome := do
  match t with
  | .char c => if isBlank c then inBody t else again .inBody t
  | .comment content => commentIn 0 content; done
  | .startTag tag => if tag.name == "html" then mergeRoot tag; done else again .inBody t
  | .stop => done
  | _ => again .inBody t

def afterAfterFrameset (t : Token) : Outcome := do
  match t with
  | .char c => if isBlank c then inBody t else done
  | .comment content => commentIn 0 content; done
  | .startTag tag =>
    if tag.name == "html" then mergeRoot tag
    else if tag.name == "noframes" then headStart tag
    done
  | _ => done

/-- The rule of the current mode. -/
def ofMode (t : Token) : Outcome := do
  match (← get).mode with
  | .initial => inInitial t
  | .beforeHtml => beforeHtml t
  | .beforeHead => beforeHead t
  | .inHead => inHead t
  | .afterHead => afterHead t
  | .inBody => inBody t
  | .text => inText t
  | .inTable => inTable t
  | .inTableText => inTableText t
  | .inCaption => inCaption t
  | .inColumnGroup => inColumnGroup t
  | .inTableBody => inTableBody t
  | .inRow => inRow t
  | .inCell => inCell t
  | .inSelect => inSelect t
  | .inSelectInTable => inSelectInTable t
  | .inTemplate => inTemplateMode t
  | .afterBody => afterBody t
  | .inFrameset => inFrameset t
  | .afterFrameset => afterFrameset t
  | .afterAfterBody => afterAfterBody t
  | .afterAfterFrameset => afterAfterFrameset t

/-! ## Foreign content -/

/-- Do the rules of foreign content apply to the token? -/
def isForeign (t : Token) : Build Bool := do
  if (← get).stack.isEmpty then return false
  let name ← adjustedName
  if name.1 == .html then return false
  match t with
  | .stop | .doctype _ => return false
  | .char _ | .null => return !(isMathText name || isMarkupInDrawing name)
  | .startTag tag =>
    if isMathText name && tag.name != "mglyph" && tag.name != "malignmark" then return false
    else if isMarkupInDrawing name then return false
    else if name == (.mathml, "annotation-xml") && tag.name == "svg" then return false
    else return true
  | _ => return true

/-- A start tag that foreign content cannot hold closes the foreign elements. -/
def breakOut (t : Token) : Outcome := do
  popWhile (fun n => !(n.1 == .html || isMathText n || isMarkupInDrawing n)) (← get).stack
  ofMode t

/-- An end tag closes the innermost foreign element whose name it has in any letter case; the first
ordinary element on the way hands it to the rule of the mode. -/
def foreignEnd (tag : String) : Bool → List Nat → Outcome
  | _, [] => done
  | _, [_] => done
  | first, id :: rest => do
    let (space, name) ← nameOf id
    if !first && space == .html then ofMode (.endTag tag)
    else if Text.eqIgnoreCase name.toList tag.toList then
      modify fun b => { b with stack := rest }
      done
    else foreignEnd tag false rest

def inForeign (t : Token) : Outcome := do
  match t with
  | .null => insertChar Reference.replacement; done
  | .char c =>
    unless isBlank c do noFrameset
    insertChar c
    done
  | .comment content => insertComment content; done
  | .startTag tag =>
    let styled := tag.name == "font" && tag.attrs.any fun a => ["color", "face", "size"].contains a.name
    if breakouts.contains tag.name || styled then breakOut t
    else
      let (space, _) ← adjustedName
      let tag := foreignTag space
        (if space == .svg then { tag with name := respell svgTags tag.name } else tag)
      if tag.selfClosing then let _ ← insertClosed space tag
      else let _ ← insertOpen space tag
      done
  | .endTag name =>
    if name == "br" || name == "p" then breakOut t
    else foreignEnd name true (← get).stack
  | _ => done

/-! ## Tokens -/

/-- Handles a token, as often as the rules ask for it. Each new look at a token leaves a mode or
closes an element, so the open elements bound their number. -/
def handle : Nat → Token → Build Unit
  | 0, _ => return ()
  | fuel + 1, t => do
    let next ← if ← isForeign t then inForeign t else ofMode t
    match next with
    | some t => handle fuel t
    | none => return ()

/-- Takes a token of the page. A document type counts only at the front, and the line feed right
behind some start tags does not count at all. -/
def take (t : Token) : Build Unit := do
  let skip := (← get).skipLineFeed
  modify fun b => { b with skipLineFeed := false }
  match t with
  | .doctype d =>
    if (← get).mode == .initial then
      let id ← create (.doctype (d.name?.getD []))
      putNode id (.lastIn 0)
      modify fun b => { b with quirks := quirksOf d, mode := .beforeHtml }
  | .char '\n' => if skip then return () else handle (2 * (← get).stack.length + 32) t
  | _ => handle (2 * (← get).stack.length + 32) t

/-- Reads a page to its end. Every step takes at least one character, so their number bounds the
steps. -/
def readAll : Nat → Text → Build Unit
  | 0, _ => return ()
  | _, [] => take .stop
  | fuel + 1, text => do
    let (space, _) ← if (← get).stack.isEmpty then pure (Namespace.html, "") else adjustedName
    let (tokens, content, rest) := Token.next (← get).content (space != .html) text
    modify fun b => { b with content }
    tokens.forM take
    readAll fuel rest

end Rules

/-- A builder that has seen nothing. -/
def Builder.initial (isFragment : Bool) : Builder where
  arena := Arena.initial
  stack := []
  formatting := []
  mode := if isFragment then .inBody else .initial
  returnMode := .inBody
  templateModes := []
  head? := none
  form? := none
  framesetOk := true
  fostering := false
  skipLineFeed := false
  tableText := []
  quirks := .none
  isFragment := isFragment
  content := .markup

namespace Document

/-- The tree of a page. -/
def parsePage (t : Text) : Document :=
  let t := cleanInput t
  let (_, b) := (Rules.readAll (t.length + 1) t).run (Builder.initial false)
  b.arena.toDocument true

/-- The tree of a fragment, read as the content of a body. Its root is an element of its own, behind
the context element in the order of creation. -/
def parseFragment (t : Text) : Document :=
  let t := cleanInput t
  let build : Build Unit := do
    let _ ← createElement .html (bare "body")
    createRoot []
    Rules.readAll (t.length + 1) t
  let (_, b) := build.run (Builder.initial true)
  b.arena.toDocument false

end Document

end ChatScribe.Html

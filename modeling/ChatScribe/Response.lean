import ChatScribe.Json.Reader

/-!
# The answer to a request for a conversation

Whoever asks for a page as Markdown gets a JSON object with the member `markdownContent`, or an
empty object when there is nothing to give.
-/

namespace ChatScribe

/-- The Markdown of a page, if it has any. -/
structure Response where
  markdown? : Option Text
deriving Repr, DecidableEq

namespace Response

/-- The name of the one member. -/
def memberName : Text := "markdownContent".toList

/-- An absent conversation is an absent member. -/
def toJson (r : Response) : Json :=
  match r.markdown? with
  | some t => .obj [(some memberName, .ofText t)]
  | none => .obj []

def render (r : Response) : Text := r.toJson.render

/-- The content that the member may hold: a text, or null for none. -/
def contentOf? : Json → Option (Option Text)
  | .null => some none
  | .str (some t) => some (some t)
  | _ => none

/-- Reads an answer. Members with other names are passed over, but their names must be texts, and the
member may stand only once. An array of at most one element stands for an object too. -/
def ofJson? : Json → Option Response
  | .obj members =>
    if members.any (·.1.isNone) then none
    else
      match members.filter (·.1 == some memberName) with
      | [] => some ⟨none⟩
      | [(_, v)] => (contentOf? v).map Response.mk
      | _ => none
  | .arr [] => some ⟨none⟩
  | .arr [v] => (contentOf? v).map Response.mk
  | _ => none

def read? (t : Text) : Option Response := (Json.read? t).bind ofJson?

end Response

end ChatScribe

import ChatScribe.Proofs.Session.Protocol

/-!
# What is shown of a session

A session is drawn again only when its `dirty` flag says so, and drawing asks and resets the flag. This
module follows a session through acts in any order: events of every kind, those that no effect asked for
among them, and looks between them. `view_eq_of_look_eq_false` says that nothing is lost by drawing only
then, and that a session with a pending action has no status left from before.
-/

namespace ChatScribe.Session

/-- All that is shown of a session. -/
structure View where
  status? : Option Status
  busy : Bool
deriving DecidableEq, Repr

def view (s : Session) : View := ⟨s.status?, s.pending?.isSome⟩

/-- The line that a view is drawn as. -/
def View.line? (v : View) : Option Text := if v.busy then none else v.status?.map line

theorem shown?_eq_line? (s : Session) : s.shown? = s.view.line? := rfl

/-! ## Acts -/

/-- What can be done with a session: it hears of an event, or it is looked at. -/
inductive Act
  | hear (e : Event)
  | look

def Act.on (s : Session) : Act → Session
  | .hear e => (s.update e).1
  | .look => s.look.2

/-- The session after some acts, first one first. -/
def after (s : Session) (acts : List Act) : Session := acts.foldl Act.on s

section

variable {s : Session}

theorem after_append (s : Session) (acts more : List Act) :
    s.after (acts ++ more) = (s.after acts).after more := List.foldl_append

/-! ## Pending actions and statuses -/

/-- A session with a pending action has no status. -/
def IsQuiet (s : Session) : Prop := s.pending?.isSome = true → s.status? = none

/-- Only an idle session refuses a request. -/
theorem pending?_of_move_refuse {e : Event} (h : s.move e = .refuse) : s.pending? = none := by
  cases e with
  | requested action url =>
    cases hpending : s.pending? with
    | none => rfl
    | some pending =>
      rw [move_requested_of_pending hpending] at h
      cases h
  | converted markdown? =>
    cases hpending : s.pending? with
    | none => rfl
    | some action =>
      rw [move_converted_of_pending hpending] at h
      split at h <;> cases h
  | transferred action result =>
    simp only [move] at h
    split at h <;> cases h
  | nothing => cases h

theorem isQuiet_update (h : IsQuiet s) (e : Event) : IsQuiet (s.update e).1 := by
  rw [update_eq_apply]
  cases hmove : s.move e with
  | ignore => exact h
  | refuse =>
    intro hpending
    have hidle : s.pending?.isSome = true := hpending
    rw [pending?_of_move_refuse hmove] at hidle
    cases hidle
  | accept action url => exact fun _ => rfl
  | handOver action markdown => exact h
  | conclude status => exact fun hpending => (nomatch hpending)

/-- Looking changes neither the pending action nor the status. -/
theorem isQuiet_on (h : IsQuiet s) (act : Act) : IsQuiet (act.on s) := by
  cases act with
  | hear e => exact isQuiet_update h e
  | look => exact h

theorem isQuiet_after (h : IsQuiet s) (acts : List Act) : IsQuiet (s.after acts) := by
  induction acts generalizing s with
  | nil => exact h
  | cons act acts ih => exact ih (isQuiet_on h act)

/-- The line of a quiet session is its status: nothing is kept back while an action is pending. -/
theorem IsQuiet.shown?_eq (h : IsQuiet s) : s.shown? = s.status?.map line := by
  unfold shown?
  by_cases hpending : s.pending?.isSome = true
  · rw [if_pos hpending, h hpending]
    rfl
  · rw [if_neg hpending]

/-! ## Looks -/

theorem view_look (s : Session) : s.look.2.view = s.view := rfl

/-- An event changes nothing, or the session is dirty afterwards. -/
theorem update_eq_self_or_dirty (s : Session) (e : Event) :
    (s.update e).1 = s ∨ (s.update e).1.dirty = true := by
  rw [update_eq_apply]
  cases s.move e with
  | ignore => exact Or.inl rfl
  | refuse => exact Or.inr rfl
  | accept action url => exact Or.inr rfl
  | handOver action markdown => exact Or.inl rfl
  | conclude status => exact Or.inr rfl

/-- The same for all that happens up to the next look. -/
theorem after_eq_self_or_dirty {acts : List Act} (hno : .look ∉ acts) :
    s.after acts = s ∨ (s.after acts).dirty = true := by
  induction acts generalizing s with
  | nil => exact Or.inl rfl
  | cons act acts ih =>
    rw [List.mem_cons, not_or] at hno
    obtain ⟨hact, hacts⟩ := hno
    cases act with
    | look => exact absurd rfl hact
    | hear e =>
      have hrest := @ih (s.update e).1 hacts
      show (s.update e).1.after acts = s ∨ ((s.update e).1.after acts).dirty = true
      rcases update_eq_self_or_dirty s e with hsame | hdirty
      · rwa [hsame] at hrest ⊢
      · -- only a look takes the flag away again
        rcases hrest with heq | hlater
        · right
          rw [heq]
          exact hdirty
        · exact Or.inr hlater

/-- If a look finds nothing new, nothing has changed since the acts before the looks between. -/
theorem view_after_of_not_dirty {acts : List Act} (hno : .look ∉ acts)
    (h : (s.after acts).dirty = false) : (s.after acts).view = s.view := by
  rcases after_eq_self_or_dirty hno with hsame | hdirty
  · rw [hsame]
  · rw [h] at hdirty
    cases hdirty

end

/-- Whatever a session hears of and whenever it is looked at: while an action is pending it has no
status, so that the line that is shown is always the line of its status; and a look that finds nothing
new finds the view that the look before it found, or the view of a fresh session if there was none. -/
theorem view_eq_of_look_eq_false (acts : List Act) :
    ((initial.after acts).pending?.isSome = true → (initial.after acts).status? = none) ∧
    (initial.after acts).view.line? = (initial.after acts).status?.map line ∧
    ((initial.after acts).look.1 = false →
      (∀ before between, acts = before ++ .look :: between → .look ∉ between →
        (initial.after acts).view = (initial.after before).view) ∧
      (.look ∉ acts → (initial.after acts).view = initial.view)) := by
  have hquiet : IsQuiet (initial.after acts) := isQuiet_after (fun _ => rfl) acts
  have hline := (shown?_eq_line? (initial.after acts)).symm.trans hquiet.shown?_eq
  refine ⟨hquiet, hline, fun hclean => ⟨?_, ?_⟩⟩
  · rintro before between rfl hno
    rw [after_append] at hclean ⊢
    exact (view_after_of_not_dirty hno hclean).trans (view_look (initial.after before))
  · intro hno
    exact view_after_of_not_dirty hno hclean

/-- The end of a copy that nobody asked for does not reach a pending download. -/
example :
    let s := initial.after [.hear (.requested .download "https://gemini.google.com/share/a".toList),
      .look, .hear (.transferred .copy (.ok []))]
    s.look.1 = false ∧ s.view = ⟨none, true⟩ := by
  decide +kernel

end ChatScribe.Session

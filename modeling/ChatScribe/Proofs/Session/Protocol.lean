import ChatScribe.Session
import Mathlib.Data.List.Basic
import Mathlib.Tactic.Common

/-!
# The session and its surroundings

A session does not choose what it hears: actions may be asked for at any time and in any number, and an
effect is answered whenever its outcome is there. `Course` is a session with the effects that wait for
an answer and the history of its requests, and `Course.Reachable` has every order of events that
well-behaved surroundings can bring about.

`Session.move` names what a session makes of an event, one case for each thing that it can do. With it
the requests that are accepted and the statuses that they end with can be counted, and
`Course.isSafe_of_reachable` says that the two counts, the pending action and the effects in flight
agree at any time.
-/

namespace ChatScribe.Session

/-! ## What a session makes of an event -/

/-- What a session does when it hears of an event. -/
inductive Move
  | ignore
  /-- An action is asked for on a page that it does not run on. -/
  | refuse
  | accept (action : Action) (url : Text)
  /-- The Markdown is there and is handed over for the pending action. -/
  | handOver (action : Action) (markdown : Text)
  /-- The pending action is over. -/
  | conclude (status : Status)
deriving DecidableEq, Repr

/-- The Markdown that an event brings, if it shows anything. -/
def Event.markdown? : Event → Option Text
  | .converted markdown? => markdown?.filter fun t => !Text.isBlank t
  | _ => none

/-- What the session makes of an event. -/
def move (s : Session) : Event → Move
  | .requested action url =>
    if s.pending?.isSome then .ignore
    else if Url.isSharePage url then .accept action url else .refuse
  | .converted markdown? =>
    match s.pending? with
    | none => .ignore
    | some action =>
      match (Event.converted markdown?).markdown? with
      | some markdown => .handOver action markdown
      | none => .conclude noMarkdown
  | .transferred action result =>
    if s.pending? = some action then .conclude (outcome action result) else .ignore
  | .nothing => .ignore

/-- The session and the effects that a move leads to. -/
def Move.apply (s : Session) : Move → Session × List Effect
  | .ignore => (s, [])
  | .refuse => (s.setStatus notSharePage, [])
  | .accept action _ => (s.begin action, [.convert])
  | .handOver action markdown => (s, [transfer action markdown])
  | .conclude status => (s.finish status, [])

/-- The request that a move accepts. -/
def Move.request? : Move → Option (Action × Text)
  | .accept action url => some (action, url)
  | _ => none

/-- The status that a move ends the pending action with. -/
def Move.status? : Move → Option Status
  | .conclude status => some status
  | _ => none

/-- An update is one of the moves. -/
theorem update_eq_apply (s : Session) (e : Event) : s.update e = (s.move e).apply s := by
  cases e with
  | requested action url =>
    simp only [update, move]
    split
    · rfl
    · split <;> rfl
  | converted markdown? =>
    simp only [update, move, Event.markdown?]
    cases s.pending? with
    | none => rfl
    | some action => cases markdown?.filter fun t => !Text.isBlank t <;> rfl
  | transferred action result =>
    simp only [update, move]
    split <;> rfl
  | nothing => rfl

section

variable {s : Session} {action : Action}

/-- While an action is pending no request is heard. -/
theorem move_requested_of_pending (h : s.pending? = some action) (asked : Action) (url : Text) :
    s.move (.requested asked url) = .ignore := by
  simp [move, h]

theorem move_requested_of_idle (h : s.pending? = none) (asked : Action) (url : Text) :
    s.move (.requested asked url)
      = if Url.isSharePage url then .accept asked url else .refuse := by
  simp [move, h]

theorem move_converted_of_pending (h : s.pending? = some action) (markdown? : Option Text) :
    s.move (.converted markdown?) = match (Event.converted markdown?).markdown? with
      | some markdown => .handOver action markdown
      | none => .conclude noMarkdown := by
  simp [move, h]

theorem move_transferred_of_pending (h : s.pending? = some action) (result : Except Text Text) :
    s.move (.transferred action result) = .conclude (outcome action result) := by
  simp [move, h]

end

/-! ## Effects in flight -/

/-- A session in its surroundings, and what has happened so far. -/
structure Course where
  session : Session
  /-- The effects that were asked for and have not been answered. -/
  outstanding : List Effect
  /-- The requests that were accepted, with the address that they came from, last one first. -/
  accepted : List (Action × Text)
  /-- The statuses that accepted requests ended with, last one first. -/
  concluded : List Status
  /-- The Markdown received last, of that which shows anything. -/
  received? : Option Text

namespace Course

def initial : Course := ⟨Session.initial, [], [], [], none⟩

/-- Tells the session of an event. -/
def tell (c : Course) (e : Event) : Course where
  session := (c.session.update e).1
  outstanding := c.outstanding ++ (c.session.update e).2
  accepted := (c.session.move e).request?.toList ++ c.accepted
  concluded := (c.session.move e).status?.toList ++ c.concluded
  received? := e.markdown?.or c.received?

/-- The events that answer an effect. -/
inductive Answers : Effect → Event → Prop
  | convert (markdown? : Option Text) : Answers .convert (.converted markdown?)
  | save (markdown : Text) (result : Except Text Text) :
      Answers (.save markdown) (.transferred .download result)
  | copy (markdown : Text) (result : Except Text Text) :
      Answers (.copy markdown) (.transferred .copy result)

/-- What the surroundings can do: ask for an action, let time pass, answer an effect that waits for
it, and look at what is shown. -/
inductive Step : Course → Course → Prop
  | request (c : Course) (action : Action) (url : Text) : Step c (c.tell (.requested action url))
  | nothing (c : Course) : Step c (c.tell .nothing)
  | answer (c : Course) {before after : List Effect} {effect : Effect} {e : Event}
      (hwaits : c.outstanding = before ++ effect :: after) (hanswers : Answers effect e) :
      Step c ({ c with outstanding := before ++ after }.tell e)
  | look (c : Course) : Step c { c with session := c.session.look.2 }

/-- The courses that a fresh session can come to. -/
inductive Reachable : Course → Prop
  | initial : Reachable initial
  | step {c c' : Course} (h : Reachable c) (hstep : Step c c') : Reachable c'

/-! ## Safety -/

/-- Session, effects in flight and history agree. -/
structure IsSafe (c : Course) : Prop where
  length_outstanding_le : c.outstanding.length ≤ 1
  outstanding_iff : c.outstanding ≠ [] ↔ c.session.pending?.isSome = true
  /-- A document is saved for a download only, and it is the one that was received. -/
  save : ∀ markdown, .save markdown ∈ c.outstanding → c.session.pending? = some .download ∧
    c.received? = some markdown ∧ Text.isBlank markdown = false
  copy : ∀ markdown, .copy markdown ∈ c.outstanding → c.session.pending? = some .copy ∧
    c.received? = some markdown ∧ Text.isBlank markdown = false
  /-- The pending action is the one that was accepted last, and was asked for on a share page. -/
  pending : ∀ action, c.session.pending? = some action →
    ∃ url earlier, c.accepted = (action, url) :: earlier ∧ Url.isSharePage url = true
  /-- Each accepted request has ended once, but for the pending one. -/
  length_accepted : c.accepted.length
    = c.concluded.length + if c.session.pending?.isSome then 1 else 0

/-- How a course can stand: with nothing to do, or with one action pending and one effect in flight. -/
inductive Stage (c : Course) : Prop
  | idle (hpending : c.session.pending? = none) (houtstanding : c.outstanding = [])
      (hcount : c.accepted.length = c.concluded.length)
  | busy {action : Action} {url : Text} {earlier : List (Action × Text)} {effect : Effect}
      (hpending : c.session.pending? = some action) (houtstanding : c.outstanding = [effect])
      (heffect : effect = .convert ∨ ∃ markdown, effect = transfer action markdown ∧
        c.received? = some markdown ∧ Text.isBlank markdown = false)
      (haccepted : c.accepted = (action, url) :: earlier) (hurl : Url.isSharePage url = true)
      (hcount : earlier.length = c.concluded.length)

theorem isSafe_of_stage {c : Course} (h : Stage c) : IsSafe c := by
  cases h with
  | idle hpending houtstanding hcount =>
    constructor <;> simp [hpending, houtstanding, hcount]
  | @busy action url earlier effect hpending houtstanding heffect haccepted hurl hcount =>
    -- the effect in flight is the one that belongs to the pending action
    have hkind : ∀ given markdown, effect = transfer given markdown → given = action ∧
        c.received? = some markdown ∧ Text.isBlank markdown = false := by
      intro given markdown heq
      rcases heffect with rfl | ⟨text, rfl, hreceived, hblank⟩
      · cases given <;> cases heq
      · cases given <;> cases action <;> cases heq <;> exact ⟨rfl, hreceived, hblank⟩
    refine ⟨?_, ?_, ?_, ?_, ?_, ?_⟩
    · simp [houtstanding]
    · simp [houtstanding, hpending]
    · intro markdown hmem
      rw [houtstanding, List.mem_singleton] at hmem
      obtain ⟨hgiven, hrest⟩ := hkind .download markdown hmem.symm
      exact ⟨by rw [hpending, hgiven], hrest⟩
    · intro markdown hmem
      rw [houtstanding, List.mem_singleton] at hmem
      obtain ⟨hgiven, hrest⟩ := hkind .copy markdown hmem.symm
      exact ⟨by rw [hpending, hgiven], hrest⟩
    · intro asked hasked
      obtain rfl : action = asked := Option.some.inj (hpending.symm.trans hasked)
      exact ⟨url, earlier, haccepted, hurl⟩
    · simp [hpending, haccepted, hcount]

/-! ## Steps -/

section

variable {c : Course} {e : Event}

theorem tell_of_ignore (h : c.session.move e = .ignore) :
    c.tell e = { c with received? := e.markdown?.or c.received? } := by
  simp [tell, update_eq_apply, h, Move.apply, Move.request?, Move.status?]

/-- An event that is passed over and brings no Markdown changes nothing. -/
theorem tell_eq_self (h : c.session.move e = .ignore) (hnone : e.markdown? = none) :
    c.tell e = c := by
  rw [tell_of_ignore h, hnone, Option.none_or]

/-- A request is accepted if nothing is pending and it comes from a share page. -/
theorem stage_request (h : Stage c) (action : Action) (url : Text) :
    Stage (c.tell (.requested action url)) := by
  cases h with
  | idle hpending houtstanding hcount =>
    have hmove := move_requested_of_idle hpending action url
    by_cases hshare : Url.isSharePage url = true
    · rw [if_pos hshare] at hmove
      refine @Stage.busy _ action url c.accepted .convert ?_ ?_ (Or.inl rfl) ?_ hshare ?_
      · simp [tell, update_eq_apply, hmove, Move.apply, begin]
      · simp [tell, update_eq_apply, hmove, Move.apply, houtstanding]
      · simp only [tell, hmove, Move.request?, Option.toList_some, List.singleton_append]
      · simp [tell, hmove, Move.status?, hcount]
    · rw [if_neg hshare] at hmove
      refine .idle ?_ ?_ ?_
      · simp [tell, update_eq_apply, hmove, Move.apply, setStatus, hpending]
      · simp [tell, update_eq_apply, hmove, Move.apply, houtstanding]
      · simp [tell, hmove, Move.request?, Move.status?, hcount]
  | busy hpending houtstanding heffect haccepted hurl hcount =>
    rw [tell_eq_self (move_requested_of_pending hpending action url) rfl]
    exact .busy hpending houtstanding heffect haccepted hurl hcount

/-- The end of the pending action, when its effect is no longer in flight. -/
theorem stage_conclude {status : Status} {action : Action} {url : Text}
    {earlier : List (Action × Text)} (hmove : c.session.move e = .conclude status)
    (houtstanding : c.outstanding = []) (haccepted : c.accepted = (action, url) :: earlier)
    (hcount : earlier.length = c.concluded.length) : Stage (c.tell e) := by
  refine .idle ?_ ?_ ?_
  · simp [tell, update_eq_apply, hmove, Move.apply, finish, setStatus]
  · simp [tell, update_eq_apply, hmove, Move.apply, houtstanding]
  · simp [tell, hmove, Move.request?, Move.status?, haccepted, hcount]

/-- The Markdown of an event shows something. -/
theorem isBlank_of_markdown? {markdown : Text} (h : e.markdown? = some markdown) :
    Text.isBlank markdown = false := by
  cases e with
  | converted markdown? =>
    obtain ⟨-, hblank⟩ := Option.filter_eq_some_iff.mp h
    simpa using hblank
  | _ => cases h

/-- The answer to the effect in flight leads to the next effect of the pending action, or ends it. -/
theorem stage_answer (h : Stage c) {before after : List Effect} {effect : Effect}
    (hwaits : c.outstanding = before ++ effect :: after) (hanswers : Answers effect e) :
    Stage ({ c with outstanding := before ++ after }.tell e) := by
  cases h with
  | idle hpending houtstanding hcount =>
    rw [houtstanding] at hwaits
    cases before <;> cases hwaits
  | @busy action url earlier waiting hpending houtstanding heffect haccepted hurl hcount =>
    -- only one effect is in flight, so it is the one that is answered
    obtain ⟨rfl, rfl, rfl⟩ : before = [] ∧ effect = waiting ∧ after = [] := by
      rw [houtstanding] at hwaits
      cases before with
      | nil => cases hwaits; exact ⟨rfl, rfl, rfl⟩
      | cons first before => cases before <;> cases hwaits
    rcases heffect with rfl | ⟨markdown, rfl, -, -⟩
    · cases hanswers with
      | convert markdown? =>
        have hmove := move_converted_of_pending hpending markdown?
        cases hmarkdown : (Event.converted markdown?).markdown? with
        | none =>
          rw [hmarkdown] at hmove
          exact stage_conclude hmove rfl haccepted hcount
        | some markdown =>
          rw [hmarkdown] at hmove
          refine @Stage.busy _ action url earlier (transfer action markdown) ?_ ?_
            (Or.inr ⟨markdown, rfl, ?_, isBlank_of_markdown? hmarkdown⟩) ?_ hurl ?_
          · simp [tell, update_eq_apply, hmove, Move.apply, hpending]
          · simp [tell, update_eq_apply, hmove, Move.apply]
          · simp [tell, hmarkdown]
          · simp only [tell, hmove, Move.request?, Option.toList_none, List.nil_append]
            exact haccepted
          · simp [tell, hmove, Move.status?, hcount]
    · have hmove : ∃ status, c.session.move e = .conclude status := by
        cases action <;> cases hanswers <;> exact ⟨_, move_transferred_of_pending hpending _⟩
      obtain ⟨status, hmove⟩ := hmove
      exact stage_conclude hmove rfl haccepted hcount

/-- Every step of the surroundings leads from stage to stage. -/
theorem stage_step {c' : Course} (h : Stage c) (hstep : Step c c') : Stage c' := by
  cases hstep with
  | request action url => exact stage_request h action url
  | nothing => rw [tell_eq_self rfl rfl]; exact h
  | answer hwaits hanswers => exact stage_answer h hwaits hanswers
  | look =>
    cases h with
    | idle hpending houtstanding hcount => exact .idle hpending houtstanding hcount
    | busy hpending houtstanding heffect haccepted hurl hcount =>
      exact .busy hpending houtstanding heffect haccepted hurl hcount

theorem stage_of_reachable (h : Reachable c) : Stage c := by
  induction h with
  | initial => exact .idle rfl rfl rfl
  | step h hstep ih => exact stage_step ih hstep

end

/-- Whatever the surroundings do, in whatever order: at most one effect is in flight, and one is
exactly while an action is pending; it belongs to that action and to the Markdown received; the action
was asked for on a share page; and no accepted request is lost or ended twice. -/
theorem isSafe_of_reachable {c : Course} (h : Reachable c) : IsSafe c :=
  isSafe_of_stage (stage_of_reachable h)

/-- A download is asked for, a copy comes in between, the page is converted: a document waits to be
saved, for the one request that was accepted. -/
theorem isSafe_of_reachable_saving :
    let url := "https://gemini.google.com/share/a".toList
    let c := { ((initial.tell (.requested .download url)).tell (.requested .copy url)) with
      outstanding := [] }.tell (.converted (some "x".toList))
    Reachable c ∧ .save "x".toList ∈ c.outstanding ∧ c.session.pending? = some .download ∧
      c.accepted.length = c.concluded.length + 1 := by
  intro url c
  have hreachable : Reachable c := by
    refine .step (.step (.step .initial (.request _ .download url)) (.request _ .copy url)) ?_
    exact @Step.answer _ [] [] .convert _ (by decide +kernel) (.convert _)
  have hsafe := isSafe_of_reachable hreachable
  have hmem : .save "x".toList ∈ c.outstanding := by decide +kernel
  obtain ⟨hpending, -, -⟩ := hsafe.save _ hmem
  have hcount := hsafe.length_accepted
  rw [hpending] at hcount
  exact ⟨hreachable, hmem, hpending, hcount⟩

end Course

end ChatScribe.Session

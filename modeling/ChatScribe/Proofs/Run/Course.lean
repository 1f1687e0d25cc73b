import ChatScribe.Proofs.Document.Sections
import ChatScribe.Proofs.Page.CodeBlocks
import ChatScribe.Proofs.Session.Protocol
import ChatScribe.Run
import Mathlib.Tactic.Common

/-!
# The course of an action

`drive` tells a session of one event after the other, and each event may lead to effects whose outcomes
are events again. `course` says without sessions and events what comes of it: what an action does to its
surroundings, and the status that it leaves. `rounds_eq_course` says that the rounds of a session are
that course and one line for whoever started the run, and that after three of them no event is left.

All of this holds on every host, whatever its operations do.
-/

namespace ChatScribe.Run

open Session

variable {m : Type → Type} [Monad m]

/-! ## Rounds -/

/-- Rounds of a session, at most so many: in each of them it hears of an event, is shown if it has
changed, and has its effects carried out. Beside the session stand the events that are left. -/
def rounds (host : Host m) (j : Journal) (desk : Desk) :
    (limit : Nat) → Session → List Event → m (Session × List Event)
  | 0, s, inbox => return (s, inbox)
  | _ + 1, s, [] => return (s, [])
  | limit + 1, s, e :: later => do
    let s' ← refresh host (s.update e).1
    let answers ← (s.update e).2.mapM (perform host j desk)
    rounds host j desk limit s' (later ++ answers)

/-- A document is handed over in the way that the action asks for. -/
def handOver (host : Host m) (j : Journal) (desk : Desk) (action : Action) (markdown : Text) :
    m (Except Text Text) :=
  match action with
  | .download => save host j desk markdown
  | .copy => copy host j desk markdown

/-- What an action does with the page of a desk, and the status that it ends with. -/
def course (host : Host m) (j : Journal) (desk : Desk) (action : Action) : m Status := do
  if Url.isSharePage desk.page.url then
    j.writeAll host (desk.page.exportRecords desk.slots)
    match desk.page.exportMarkdown desk.slots with
    | .ok markdown => return outcome action (← handOver host j desk action markdown)
    | .error _ => return noMarkdown
  else return notSharePage

section

variable {host : Host m} {j : Journal} {desk : Desk} {limit : Nat} {s : Session} {e : Event}
  {later : List Event} {action : Action}

theorem rounds_nil : rounds host j desk limit s [] = pure (s, []) := by
  cases limit <;> rfl

/-- What has not changed is not shown again. -/
theorem refresh_of_clean (h : s.dirty = false) : refresh host s = pure s := by
  obtain ⟨pending?, status?, dirty⟩ := s
  obtain rfl : dirty = false := h
  simp [refresh, look]

theorem rounds_cons : rounds host j desk (limit + 1) s (e :: later) = (do
    let s' ← refresh host (s.update e).1
    let answers ← (s.update e).2.mapM (perform host j desk)
    rounds host j desk limit s' (later ++ answers)) := rfl

variable [LawfulMonad m]

/-- Driving a session is going through its rounds. -/
theorem drive_eq_rounds (inbox : List Event) :
    drive host j desk limit s inbox = Prod.fst <$> rounds host j desk limit s inbox := by
  induction limit generalizing s inbox with
  | zero => simp [drive, rounds]
  | succ limit ih =>
    cases inbox with
    | nil => simp [drive, rounds]
    | cons e later =>
      simp only [drive, rounds_cons, map_bind]
      congr 1
      funext s'
      congr 1
      funext answers
      exact ih _

/-! ## One round -/

/-- A pending action shows nothing. -/
theorem refresh_begin (action : Action) :
    refresh host (s.begin action) = pure ⟨some action, none, false⟩ := by
  simp [refresh, look, shown?, begin]

/-- A new status is shown as one line. -/
theorem refresh_setStatus (h : s.pending? = none) (status : Status) :
    refresh host (s.setStatus status) = (do
      host.tell (line status)
      return ⟨none, some status, false⟩) := by
  simp [refresh, look, shown?, setStatus, h]

/-- A request that is refused is over after one round. -/
theorem rounds_of_refuse (hpending : s.pending? = none) (hmove : s.move e = .refuse) :
    rounds host j desk (limit + 1) s [e] = (do
      host.tell (line notSharePage)
      return (⟨none, some notSharePage, false⟩, [])) := by
  rw [rounds_cons, update_eq_apply, hmove]
  simp [Move.apply, refresh_setStatus hpending, rounds_nil]

/-- A session whose action ends is over after that round. -/
theorem rounds_of_conclude {status : Status} (hmove : s.move e = .conclude status) :
    rounds host j desk (limit + 1) s [e] = (do
      host.tell (line status)
      return (⟨none, some status, false⟩, [])) := by
  have hpending : ({ s with pending? := none } : Session).pending? = none := rfl
  rw [rounds_cons, update_eq_apply, hmove]
  simp [Move.apply, finish, refresh_setStatus hpending, rounds_nil]

/-- The Markdown of a pending action is handed over. Nothing is shown meanwhile. -/
theorem rounds_of_handOver {markdown : Text} (hdirty : s.dirty = false)
    (hmove : s.move e = .handOver action markdown) :
    rounds host j desk (limit + 1) s [e] = (do
      let result ← handOver host j desk action markdown
      rounds host j desk limit s [.transferred action result]) := by
  rw [rounds_cons, update_eq_apply, hmove]
  cases action <;>
    simp [Move.apply, refresh_of_clean hdirty, transfer, perform, handOver]

/-- An accepted request has the page converted. -/
theorem rounds_of_accept {url : Text} (hmove : s.move e = .accept action url) :
    rounds host j desk (limit + 1) s [e] = (do
      j.writeAll host (desk.page.exportRecords desk.slots)
      rounds host j desk limit ⟨some action, none, false⟩
        [.converted (desk.page.exportMarkdown desk.slots).toOption]) := by
  rw [rounds_cons, update_eq_apply, hmove]
  simp [Move.apply, refresh_begin, perform, exportPage]

end

/-! ## The whole course -/

/-- A journal without a sink writes nothing. -/
theorem writeAll_of_silent [LawfulMonad m] (host : Host m) (level : LogLevel) (rs : List Record) :
    Journal.writeAll ⟨level, false, false⟩ host rs = pure () := by
  induction rs with
  | nil => rfl
  | cons r rs ih =>
    show (Journal.write ⟨level, false, false⟩ host r >>= fun _ =>
      Journal.writeAll ⟨level, false, false⟩ host rs) = pure ()
    rw [ih]
    simp [Journal.write]

/-- A page with a document has Markdown that shows something. -/
theorem markdown?_of_exportMarkdown {p : Page} {slots : Slots} {markdown : Text}
    (h : p.exportMarkdown slots = .ok markdown) :
    (Event.converted (p.exportMarkdown slots).toOption).markdown? = some markdown := by
  have hblank : Text.isBlank markdown = false := by
    rw [Page.eq_build_of_exportMarkdown h]
    exact Document.isBlank_build _ _
  rw [h]
  simp [Event.markdown?, Except.toOption, hblank]

theorem markdown?_of_exportMarkdown_error {p : Page} {slots : Slots} {e : Page.ExportError}
    (h : p.exportMarkdown slots = .error e) :
    (Event.converted (p.exportMarkdown slots).toOption).markdown? = none := by
  rw [h]
  rfl

/-- The rounds of a fresh session that hears of a request: the course of the action, and one line with
its status. With three rounds no event is left, and more of them change nothing. -/
theorem rounds_eq_course [LawfulMonad m] (host : Host m) (j : Journal) (desk : Desk)
    (action : Action) (extra : Nat) :
    rounds host j desk (maxEvents + extra) Session.initial [.requested action desk.page.url] = (do
      let status ← course host j desk action
      host.tell (line status)
      return (⟨none, some status, false⟩, [])) := by
  have hlimit : maxEvents + extra = extra + 1 + 1 + 1 := by
    simp only [maxEvents]
    omega
  have hidle : Session.initial.pending? = none := rfl
  have hrequest := move_requested_of_idle hidle action desk.page.url
  rw [hlimit]
  unfold course
  by_cases hshare : Url.isSharePage desk.page.url = true
  · rw [if_pos hshare] at hrequest ⊢
    have hbusy : (⟨some action, none, false⟩ : Session).pending? = some action := rfl
    have hconverted := move_converted_of_pending hbusy
      (desk.page.exportMarkdown desk.slots).toOption
    rw [rounds_of_accept hrequest, bind_assoc]
    congr 1
    funext _
    cases hexport : desk.page.exportMarkdown desk.slots with
    | error e =>
      rw [markdown?_of_exportMarkdown_error hexport, hexport] at hconverted
      rw [rounds_of_conclude hconverted, pure_bind]
    | ok markdown =>
      rw [markdown?_of_exportMarkdown hexport, hexport] at hconverted
      rw [rounds_of_handOver rfl hconverted, bind_assoc]
      congr 1
      funext result
      rw [rounds_of_conclude (move_transferred_of_pending hbusy result), pure_bind]
  · rw [if_neg hshare] at hrequest ⊢
    rw [rounds_of_refuse hidle hrequest, pure_bind]

/-- The exit of a session that has nothing pending is told from its status. -/
theorem exitOf_status (pending? : Option Action) (status : Status) (dirty : Bool) :
    exitOf ⟨pending?, some status, dirty⟩ = if status.kind = .error then .failure else .success := by
  obtain ⟨kind, text⟩ := status
  cases kind <;> rfl

/-- The status of a transfer tells whether it went well. -/
theorem kind_outcome_eq_success_iff (action : Action) (result : Except Text Text) :
    (outcome action result).kind = .success ↔ result.isOk = true := by
  cases action <;> cases result <;> simp [outcome, Except.isOk, Except.toBool]

/-- An action is its course, one line with its status, and an exit that tells of an error. -/
theorem act_eq_course [LawfulMonad m] (host : Host m) (j : Journal) (desk : Desk)
    (action : Action) :
    act host j desk action = (do
      let status ← course host j desk action
      host.tell (line status)
      return if status.kind = .error then .failure else .success) := by
  have hrounds := rounds_eq_course host j desk action 0
  rw [Nat.add_zero] at hrounds
  unfold act
  rw [drive_eq_rounds, hrounds]
  simp [exitOf_status]

/-- Without log records, an action on a page with a document is its transfer. -/
theorem act_of_silent [LawfulMonad m] (host : Host m) (level : LogLevel) {desk : Desk} {action : Action}
    {markdown : Text} (hshare : Url.isSharePage desk.page.url = true)
    (hexport : desk.page.exportMarkdown desk.slots = .ok markdown) :
    act host ⟨level, false, false⟩ desk action = (do
      let result ← handOver host ⟨level, false, false⟩ desk action markdown
      host.tell (line (outcome action result))
      return if (outcome action result).kind = .error then .failure else .success) := by
  rw [act_eq_course, course, if_pos hshare, hexport, writeAll_of_silent]
  simp only [pure_bind, bind_assoc]

end ChatScribe.Run

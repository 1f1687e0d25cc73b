import ChatScribe.Proofs.Run.Course
import ChatScribe.Proofs.Saving.Traced
import ChatScribe.Sandbox
import Mathlib.Tactic.Common

/-!
# What an action asks of its host

The course of an action as a list of deeds. On a page that is not shared there are none, on a page without
document there are only log records, and else the Markdown of the page is handed over once: put under the
first free name in its directory, or given to the clipboard program as its input (`IsCourse`). `act_traced`
says so of the whole run, on every host, together with its session and its exit.
-/

namespace ChatScribe.Run

open Session

/-! ## Transfers -/

/-- The deeds by which a text is copied with a command, and what they come to. The program is started once,
with the text as its input, and the copy succeeds exactly if the program does. -/
inductive Copies (command : List Text) (content : Text) : List Deed → Except CopyError Unit → Prop
  | launched {program : Text} {arguments : List Text} {launch : Launch} {result : Except CopyError Unit}
      (h : command = program :: arguments) (hok : result = .ok () ↔ launch = .ended (.code 0)) :
      Copies command content [.launched program arguments content launch] result
  | noCommand (h : command = []) : Copies command content [] (.error .noCommand)

/-- The deeds by which the Markdown of a page is handed over, and what they come to. It is saved once, under
a name that tells the time, or copied once. -/
inductive HandsOver (desk : Desk) (markdown : Text) :
    Action → List Deed → Except Text Text → Prop
  | download {moment : Moment} {deeds : List Deed} {result : Except SaveError Text}
      (h : Saving.Saves desk.outputDir (FileName.ofDocument markdown moment) markdown deeds result) :
      HandsOver desk markdown .download (.asked moment :: deeds)
        (result.mapError SaveError.fullMessage)
  | copy {deeds : List Deed} {result : Except CopyError Unit}
      (h : Copies desk.clipboard markdown deeds result) :
      HandsOver desk markdown .copy deeds ((result.map fun _ => []).mapError CopyError.message)

namespace HandsOver

variable {desk : Desk} {markdown : Text} {action : Action} {result : Except Text Text}
  {deeds records : List Deed}

/-- A transfer says nothing, neither to a log nor to whoever started the run. -/
theorem unsaid (h : HandsOver desk markdown action deeds result) : ∀ d ∈ deeds, d.isSaid = false := by
  cases h with
  | copy h =>
    cases h with
    | launched _ _ => exact List.forall_mem_singleton.mpr rfl
    | noCommand _ => exact nofun
  | download h =>
    refine List.forall_mem_cons.mpr ⟨rfl, fun d hd => ?_⟩
    obtain hprepare | ⟨name, answer, rfl⟩ := h.isPreparing_or_put d hd
    · exact Saving.isSaid_of_isPreparing hprepare
    · rfl

/-- Log records behind a transfer do not count. -/
theorem logged (h : HandsOver desk markdown action deeds result)
    (hrecords : ∀ d ∈ records, d.isRecord = true) :
    HandsOver desk markdown action (Deed.unlogged (deeds ++ records)) result := by
  rw [Deed.unlogged_append, Deed.unlogged_of_records hrecords, List.append_nil,
    Deed.unlogged_of_unsaid h.unsaid]
  exact h

end HandsOver

section

variable {σ : Type} (host : Host (StateM σ)) (j : Journal) (desk : Desk) (markdown : Text)

/-- The program decides whether a text is copied. -/
theorem clipboard_outcome_eq_ok_iff (program : Text) (launch : Launch) :
    Clipboard.outcome program launch = .ok () ↔ launch = .ended (.code 0) := by
  constructor
  · intro h
    unfold Clipboard.outcome at h
    split at h
    · rfl
    all_goals cases h
  · rintro rfl
    rfl

theorem traces_clipboard (command : List Text) (content : Text) :
    Traces (Clipboard.copy host.traced command content) (Clipboard.copy host command content)
      fun result deeds => Copies command content deeds result := by
  cases command with
  | nil => exact .pure (.noCommand rfl)
  | cons program arguments =>
    refine .noting_bind (.launched program arguments content) fun launch => ?_
    exact .pure (.launched rfl (clipboard_outcome_eq_ok_iff program launch))

theorem traces_copy :
    Traces (copy host.traced j desk markdown) (copy host j desk markdown) fun result deeds =>
      HandsOver desk markdown .copy (Deed.unlogged deeds) result := by
  refine .bind (traces_clipboard host desk.clipboard markdown) fun result deeds h => ?_
  have hover := HandsOver.copy h
  cases result with
  | ok _ => exact .pure (hover.logged nofun)
  | error e =>
    refine .bind (Journal.traces_write host j _) fun _ records hrecords => ?_
    exact .pure (by rw [List.append_nil]; exact hover.logged hrecords)

theorem traces_save :
    Traces (save host.traced j desk markdown) (save host j desk markdown) fun result deeds =>
      HandsOver desk markdown .download (Deed.unlogged deeds) result := by
  refine .noting_bind .asked fun moment => ?_
  refine .bind (Saving.traces_save host _ _ markdown) fun result deeds h => ?_
  have hover : HandsOver desk markdown .download (.asked moment :: deeds) _ := .download h
  cases result with
  | ok saved =>
    -- both records of the success stand behind the deeds of the save, and are left out together
    refine .bind (Journal.traces_write host j _) fun _ records hrecords => ?_
    refine .bind (Journal.traces_write host j _) fun _ records' hrecords' => ?_
    refine .pure ?_
    rw [List.append_nil]
    exact hover.logged (List.forall_mem_append.mpr ⟨hrecords, hrecords'⟩)
  | error e =>
    refine .bind (Journal.traces_write host j _) fun _ records hrecords => ?_
    exact .pure (by rw [List.append_nil]; exact hover.logged hrecords)

theorem traces_handOver (action : Action) :
    Traces (handOver host.traced j desk action markdown) (handOver host j desk action markdown)
      fun result deeds => HandsOver desk markdown action (Deed.unlogged deeds) result := by
  cases action with
  | download => exact traces_save host j desk markdown
  | copy => exact traces_copy host j desk markdown

end

/-! ## The course -/

/-- The deeds of an action up to its status. Nothing is said before the status. On a page that is not
shared nothing is done. Without a document only log records are written. A document is handed over once, as
it is, and the status tells how that went. -/
structure IsCourse (desk : Desk) (action : Action) (status : Status) (deeds : List Deed) : Prop where
  silent : ∀ line, .told line ∉ deeds
  notShared : Url.isSharePage desk.page.url = false → deeds = [] ∧ status.kind = .info
  noDocument : ∀ e, Url.isSharePage desk.page.url = true →
    desk.page.exportMarkdown desk.slots = .error e →
      Deed.unlogged deeds = [] ∧ status = ⟨.error, "Failed to get Markdown content.".toList⟩
  handedOver : ∀ markdown, Url.isSharePage desk.page.url = true →
    desk.page.exportMarkdown desk.slots = .ok markdown →
      ∃ result, HandsOver desk markdown action (Deed.unlogged deeds) result ∧
        status = outcome action result ∧ (status.kind = .success ↔ result.isOk = true)

namespace IsCourse

variable {desk : Desk} {markdown : Text} {action : Action} {result : Except Text Text}
  {records deeds : List Deed}

theorem of_error {e : Page.ExportError} (hshare : Url.isSharePage desk.page.url = true)
    (hexport : desk.page.exportMarkdown desk.slots = .error e)
    (hrecords : ∀ d ∈ records, d.isRecord = true) : IsCourse desk action noMarkdown records where
  silent line hline := absurd (hrecords _ hline) Bool.false_ne_true
  notShared h := absurd (hshare.symm.trans h) nofun
  noDocument _ _ _ := ⟨Deed.unlogged_of_records hrecords, rfl⟩
  handedOver _ _ h := by cases hexport.symm.trans h

theorem of_handsOver (hshare : Url.isSharePage desk.page.url = true)
    (hexport : desk.page.exportMarkdown desk.slots = .ok markdown)
    (hrecords : ∀ d ∈ records, d.isRecord = true)
    (hover : HandsOver desk markdown action (Deed.unlogged deeds) result) :
    IsCourse desk action (outcome action result) (records ++ deeds) := by
  have hunlogged : Deed.unlogged (records ++ deeds) = Deed.unlogged deeds := by
    rw [Deed.unlogged_append, Deed.unlogged_of_records hrecords, List.nil_append]
  exact {
    silent := fun line hline => by
      rw [← Deed.told_mem_unlogged, hunlogged] at hline
      exact absurd (hover.unsaid _ hline) nofun
    notShared := fun h => absurd (hshare.symm.trans h) nofun
    noDocument := fun _ _ h => by cases hexport.symm.trans h
    handedOver := fun _ _ h => by
      obtain rfl := Except.ok.inj (hexport.symm.trans h)
      exact ⟨result, by rwa [hunlogged], rfl, kind_outcome_eq_success_iff action result⟩ }

end IsCourse

/-- The course of an action, step by step. -/
theorem traces_course {σ : Type} (host : Host (StateM σ)) (j : Journal) (desk : Desk) (action : Action) :
    Traces (course host.traced j desk action) (course host j desk action) (IsCourse desk action) := by
  refine .ite (fun hshare => ?_) fun hshare => ?_
  · refine .bind (Journal.traces_writeAll host j _) fun _ records hrecords => ?_
    cases hexport : desk.page.exportMarkdown desk.slots with
    | error e =>
      refine .pure ?_
      rw [List.append_nil]
      exact .of_error hshare hexport hrecords
    | ok markdown =>
      refine .bind (traces_handOver host j desk markdown action) fun result deeds hover => ?_
      refine .pure ?_
      rw [List.append_nil]
      exact .of_handsOver hshare hexport hrecords hover
  · exact .pure {
      silent := fun _ => List.not_mem_nil
      notShared := fun _ => ⟨rfl, rfl⟩
      noDocument := fun _ h => absurd h hshare
      handedOver := fun _ h => absurd h hshare }

end ChatScribe.Run

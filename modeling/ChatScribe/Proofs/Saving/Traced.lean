import ChatScribe.Proofs.Host.Traced
import ChatScribe.Saving
import Mathlib.Tactic.Common

/-!
# What saving a document asks of its host

A save looks for its directory, makes it if it is missing, and then puts the document under one name after
the other. `Saves` is that as a list of deeds: nothing but the document is ever put, each name but the last
one was taken, and the save succeeds exactly if the last one was not and the host put the document there.
-/

namespace ChatScribe.Saving

variable {σ : Type} (host : Host (StateM σ)) (dir name content : Text)

/-! ## The directory -/

/-- Deeds by which a directory is found, or made. -/
def isPreparing : Deed → Bool
  | .looked .. => true
  | .madeDir .. => true
  | _ => false

theorem isSaid_of_isPreparing {d : Deed} (h : isPreparing d = true) : d.isSaid = false := by
  cases d with
  | looked _ _ => rfl
  | madeDir _ _ => rfl
  | _ => cases h

/-- The deeds that go before a save in a directory, and whether the directory is there after them. -/
inductive Prepares (dir : Text) : List Deed → Bool → Prop
  | found : Prepares dir [.looked dir (some .directory)] true
  | occupied : Prepares dir [.looked dir (some .file)] false
  /-- It is missing only if one of the directories on the way could not be made. -/
  | missing {deeds : List Deed} {there : Bool} (h : ∀ d ∈ deeds, isPreparing d = true)
      (hfailed : there = false → ∃ path f, .madeDir path (.error f) ∈ deeds) :
      Prepares dir (.looked dir none :: deeds) there

/-- Of a directory that was made, no fault is told. -/
theorem traces_settle (path : Text) (outcome : Except Fault Unit) :
    Traces (settle host.traced path outcome) (settle host path outcome) fun result deeds =>
      (∀ d ∈ deeds, isPreparing d = true) ∧ (outcome = .ok () → result = .ok ()) := by
  cases outcome with
  | ok _ => exact .pure ⟨nofun, fun _ => rfl⟩
  | error f =>
    refine .noting_bind (.looked path) fun kind? => ?_
    exact .pure ⟨List.forall_mem_singleton.mpr rfl, nofun⟩

/-- What comes of directories that are made: a fault was one of theirs. -/
structure Makes (result : Except Fault Unit) (deeds : List Deed) : Prop where
  preparing : ∀ d ∈ deeds, isPreparing d = true
  failed : result ≠ .ok () → ∃ path f, .madeDir path (.error f) ∈ deeds

/-- Nothing more is asked of what follows a directory that could not be made. -/
theorem Makes.of_madeDir {path : Text} {answer result : Except Fault Unit} {deeds : List Deed}
    (h : ∀ d ∈ deeds, isPreparing d = true) (hok : answer = .ok () → result = .ok ()) :
    Makes result (.madeDir path answer :: deeds) := by
  refine ⟨List.forall_mem_cons.mpr ⟨rfl, h⟩, fun hfailed => ?_⟩
  cases answer with
  | ok _ => exact absurd (hok rfl) hfailed
  | error f => exact ⟨path, f, List.mem_cons_self⟩

theorem traces_makeChain (paths : List Text) :
    Traces (makeChain host.traced paths) (makeChain host paths) Makes := by
  induction paths with
  | nil => exact .pure ⟨nofun, fun h => absurd rfl h⟩
  | cons path around ih =>
    refine .noting_bind (.madeDir path) fun answer => ?_
    by_cases hmissing : answer = .error .missing
    · subst hmissing
      refine .bind ih fun result deeds hdeeds => ?_
      cases result with
      | error f => exact .pure (.of_madeDir (by simpa using hdeeds.preparing) nofun)
      | ok _ =>
        refine .noting_bind (.madeDir path) fun again => ?_
        refine (traces_settle host path again).imp fun result' deeds' h => ?_
        refine .of_madeDir ?_ nofun
        exact List.forall_mem_append.mpr ⟨hdeeds.preparing, List.forall_mem_cons.mpr ⟨rfl, h.1⟩⟩
    · split
      · exact absurd rfl hmissing
      · exact (traces_settle host path answer).imp fun _ _ h => .of_madeDir h.1 h.2

theorem traces_ensureDir :
    Traces (ensureDir host.traced dir) (ensureDir host dir) fun result deeds =>
      Prepares dir deeds result.isOk ∧ ∀ e, result = .error e → ∃ reason, e = .badDirectory reason := by
  refine .noting_bind (.looked dir) fun found => ?_
  match found with
  | some .directory => exact .pure ⟨.found, nofun⟩
  | some .file => exact .pure ⟨.occupied, fun e he => ⟨_, (Except.error.inj he).symm⟩⟩
  | none =>
    have hdirs : Traces (makeDirs host.traced dir) (makeDirs host dir) Makes := by
      unfold makeDirs
      exact .ite (fun _ => .pure ⟨nofun, fun h => absurd rfl h⟩) fun _ => traces_makeChain host _
    refine .bind hdirs fun made deeds hmade => ?_
    cases made with
    | ok _ => exact .pure ⟨.missing (by simpa using hmade.preparing) nofun, nofun⟩
    | error f =>
      refine .pure ⟨.missing (by simpa using hmade.preparing) fun _ => ?_,
        fun e he => ⟨_, (Except.error.inj he).symm⟩⟩
      simpa using hmade.failed nofun

/-! ## The names -/

/-- Names that were tried and are taken, from a number on and so many of them. -/
def refusals (number count : Nat) : List Deed :=
  (List.range' number count).map fun n => .put dir (numberedName name n) content (.error .taken)

/-- The deeds of tries with at most so many names, from a number on, and what they come to. -/
inductive Tried (count number : Nat) : List Deed → Except SaveError Text → Prop
  | put {k : Nat} (hk : k < count) :
      Tried count number
        (refusals dir name content number k ++
          [.put dir (numberedName name (number + k)) content (.ok ())])
        (.ok (numberedName name (number + k)))
  | fault {k : Nat} {f : Fault} (hk : k < count) (hf : f ≠ .taken) :
      Tried count number
        (refusals dir name content number k ++
          [.put dir (numberedName name (number + k)) content (.error f)])
        (.error (.fault f))
  | noFreeName : Tried count number (refusals dir name content number count) (.error (.noFreeName name))

variable {dir name content} in
/-- One more name that is taken, in front. -/
theorem Tried.cons {count number : Nat} {deeds : List Deed} {result : Except SaveError Text}
    (h : Tried dir name content count (number + 1) deeds result) :
    Tried dir name content (count + 1) number
      (.put dir (numberedName name number) content (.error .taken) :: deeds) result := by
  have hnext : ∀ k, number + 1 + k = number + (k + 1) := fun k => by omega
  cases h with
  | put hk =>
    rw [hnext]
    exact .put (Nat.succ_lt_succ hk)
  | fault hk hf =>
    rw [hnext]
    exact .fault (Nat.succ_lt_succ hk) hf
  | noFreeName => exact .noFreeName

/-- A name that is not taken ends the tries. -/
theorem traces_tryName (count number : Nat) :
    Traces (tryName host.traced dir name content number) (tryName host dir name content number)
      fun outcome? deeds =>
        outcome? = none ∧ deeds = [.put dir (numberedName name number) content (.error .taken)] ∨
          ∃ result, outcome? = some result ∧ Tried dir name content (count + 1) number deeds result := by
  refine .noting_bind (.put dir (numberedName name number) content) fun answer => ?_
  cases answer with
  | ok _ => exact .pure (.inr ⟨_, rfl, .put (Nat.succ_pos count)⟩)
  | error f =>
    by_cases htaken : f = .taken
    · subst htaken
      exact .pure (.inl ⟨rfl, rfl⟩)
    · have hfault : Tried dir name content (count + 1) number
          [.put dir (numberedName name number) content (.error f)] (.error (.fault f)) :=
        .fault (Nat.succ_pos count) htaken
      split
      · rename_i heq
        cases heq
      · rename_i heq
        exact absurd (Except.error.inj heq) htaken
      · rename_i f' hf' heq
        obtain rfl := Except.error.inj heq
        exact .pure (.inr ⟨_, rfl, hfault⟩)

theorem traces_tryNames (count number : Nat) :
    Traces (tryNames host.traced dir name content count number)
      (tryNames host dir name content count number) fun result deeds =>
        Tried dir name content count number deeds result := by
  induction count generalizing number with
  | zero => exact .pure .noFreeName
  | succ count ih =>
    refine .bind (traces_tryName host dir name content count number) fun outcome? deeds h => ?_
    obtain ⟨rfl, rfl⟩ | ⟨result, rfl, htried⟩ := h
    · exact (ih (number + 1)).imp fun _ _ h => h.cons
    · exact .pure (by rwa [List.append_nil])

/-! ## The whole save -/

/-- The deeds of a save, and what it comes to. -/
inductive Saves : List Deed → Except SaveError Text → Prop
  | tried {made tries : List Deed} {result : Except SaveError Text} (hdir : Prepares dir made true)
      (h : Tried dir name content maxNames 0 tries result) : Saves (made ++ tries) result
  | noDirectory {made : List Deed} {reason : Text} (hdir : Prepares dir made false) :
      Saves made (.error (.badDirectory reason))

variable {dir name content} in
/-- A save looks for directories, makes them and puts files. It does nothing else. -/
theorem Saves.isPreparing_or_put {deeds : List Deed} {result : Except SaveError Text}
    (h : Saves dir name content deeds result) :
    ∀ d ∈ deeds, isPreparing d = true ∨ ∃ name' answer, d = .put dir name' content answer := by
  have hmade : ∀ {made there}, Prepares dir made there → ∀ d ∈ made, isPreparing d = true := by
    intro made there hdir
    cases hdir with
    | found => exact List.forall_mem_singleton.mpr rfl
    | occupied => exact List.forall_mem_singleton.mpr rfl
    | missing h _ => exact List.forall_mem_cons.mpr ⟨rfl, h⟩
  have hrefused : ∀ number count, ∀ d ∈ refusals dir name content number count,
      ∃ name' answer, d = .put dir name' content answer := by
    intro number count d hd
    obtain ⟨n, -, rfl⟩ := List.mem_map.mp hd
    exact ⟨_, _, rfl⟩
  cases h with
  | noDirectory hdir => exact fun d hd => .inl (hmade hdir d hd)
  | tried hdir h =>
    refine List.forall_mem_append.mpr ⟨fun d hd => .inl (hmade hdir d hd), ?_⟩
    cases h with
    | put hk =>
      refine List.forall_mem_append.mpr ⟨fun d hd => .inr (hrefused _ _ d hd), ?_⟩
      exact List.forall_mem_singleton.mpr (.inr ⟨_, _, rfl⟩)
    | fault hk hf =>
      refine List.forall_mem_append.mpr ⟨fun d hd => .inr (hrefused _ _ d hd), ?_⟩
      exact List.forall_mem_singleton.mpr (.inr ⟨_, _, rfl⟩)
    | noFreeName => exact fun d hd => .inr (hrefused _ _ d hd)

theorem traces_save :
    Traces (save host.traced dir name content) (save host dir name content) fun result deeds =>
      Saves dir name content deeds result := by
  refine .bind (traces_ensureDir host dir) fun result made h => ?_
  obtain ⟨hdir, hreason⟩ := h
  cases result with
  | ok _ => exact (traces_tryNames host dir name content maxNames 0).imp fun _ _ h => .tried hdir h
  | error e =>
    obtain ⟨reason, rfl⟩ := hreason e rfl
    exact .pure (by rw [List.append_nil]; exact .noDirectory hdir)

end ChatScribe.Saving

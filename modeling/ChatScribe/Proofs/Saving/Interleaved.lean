import ChatScribe.Proofs.Saving.Directory
import ChatScribe.Proofs.Saving.Names
import Mathlib.Data.List.Induction
import Mathlib.Tactic.Common

/-!
# Saving documents side by side

Any number of documents is saved in one directory, and the calls take their steps in any order: each of
them makes sure that the directory is there, and then tries one name after the other. `Progress.next` is
one such step, and steps with nothing in between are those of `save` (`Progress.steps_waiting`).

`Advance` lists what one step can do to the entries of the directory. From it follows by induction over
the schedule what has become of each call (`Savers.past_run`) and what stands in the directory
(`Savers.adds_run`), and both together are `Savers.keeps_run`.
-/

namespace ChatScribe.Saving

/-! ## One call -/

/-- What a call is asked to save. -/
structure Call where
  name : Text
  content : Text

/-- How far a call has come. -/
inductive Progress
  | waiting
  /-- The directory is there, and the name with this number is the next to be tried. -/
  | trying (number : Nat)
  | ended (outcome : Except SaveError Text)
deriving DecidableEq

namespace Progress

section

variable {m : Type → Type} [Monad m]

/-- The next step of a call. A call that has ended takes no more steps. -/
def next (host : Host m) (dir : Text) (call : Call) : Progress → m Progress
  | .waiting => do
    match ← ensureDir host dir with
    | .ok () => return .trying 0
    | .error e => return .ended (.error e)
  | .trying number =>
    if number = maxNames then return .ended (.error (.noFreeName call.name))
    else do
      match ← tryName host dir call.name call.content number with
      | some outcome => return .ended outcome
      | none => return .trying (number + 1)
  | .ended outcome => return .ended outcome

/-- Some steps of a call, with nothing in between. -/
def steps (host : Host m) (dir : Text) (call : Call) : Nat → Progress → m Progress
  | 0, p => return p
  | count + 1, p => do steps host dir call count (← p.next host dir call)

variable [LawfulMonad m] {host : Host m} {dir : Text} {call : Call}

theorem steps_ended (count : Nat) (outcome : Except SaveError Text) :
    steps host dir call count (.ended outcome) = pure (.ended outcome) := by
  induction count with
  | zero => rfl
  | succ count ih => simp only [steps, next, pure_bind, ih]

/-- From a number on, the steps of a call try the names that are left. -/
theorem steps_trying {count number : Nat} (h : number + count = maxNames) :
    steps host dir call (count + 1) (.trying number)
      = .ended <$> tryNames host dir call.name call.content count number := by
  induction count generalizing number with
  | zero =>
    obtain rfl : number = maxNames := h
    simp only [steps, next, tryNames, if_true, pure_bind, map_pure]
  | succ count ih =>
    have hnumber : number ≠ maxNames := by omega
    rw [steps, next, if_neg hnumber, tryNames, map_bind, bind_assoc]
    congr 1
    funext outcome?
    cases outcome? with
    | none => simp only [pure_bind]; exact ih (by omega)
    | some outcome => simp only [pure_bind, steps_ended, map_pure]

/-- A call that takes its steps with nothing in between is `save`. -/
theorem steps_waiting :
    steps host dir call (maxNames + 2) .waiting
      = .ended <$> save host dir call.name call.content := by
  rw [steps, next, save, map_bind, bind_assoc]
  congr 1
  funext ensured
  cases ensured with
  | ok _ => simp only [pure_bind]; exact steps_trying (Nat.zero_add maxNames)
  | error e => simp only [pure_bind, steps_ended, map_pure]

end

end Progress

/-- What one step of a call does to the entries of the directory, and when. -/
inductive Advance {σ : Type} (entries : σ → Text → Option Entry) (call : Call) (s s' : σ) :
    Progress → Progress → Prop
  | entered (hsame : entries s' = entries s) : Advance entries call s s' .waiting (.trying 0)
  | refused (reason : Text) (hsame : entries s' = entries s) :
      Advance entries call s s' .waiting (.ended (.error (.badDirectory reason)))
  | exhausted (hsame : entries s' = entries s) :
      Advance entries call s s' (.trying maxNames) (.ended (.error (.noFreeName call.name)))
  | passed {number : Nat} (hnumber : number ≠ maxNames)
      (htaken : (entries s (numberedName call.name number)).isSome = true)
      (hsame : entries s' = entries s) :
      Advance entries call s s' (.trying number) (.trying (number + 1))
  | failed {number : Nat} (f : Fault) (hsame : entries s' = entries s) :
      Advance entries call s s' (.trying number) (.ended (.error (.fault f)))
  | saved {number : Nat} (hnumber : number ≠ maxNames)
      (hfree : entries s (numberedName call.name number) = none)
      (hput : entries s' = Function.update (entries s) (numberedName call.name number)
        (some (.file (Utf8.encode call.content)))) :
      Advance entries call s s' (.trying number)
        (.ended (.ok (numberedName call.name number)))
  | rested (outcome : Except SaveError Text) (hsame : entries s' = entries s) :
      Advance entries call s s' (.ended outcome) (.ended outcome)

/-- What a step does to the entries: nothing, or it saves the document of its call. -/
theorem Advance.same_or_saved {σ : Type} {entries : σ → Text → Option Entry} {call : Call}
    {s s' : σ} {p p' : Progress} (h : Advance entries call s s' p p') :
    (entries s' = entries s ∧ ∀ name, p' = .ended (.ok name) ↔ p = .ended (.ok name)) ∨
    ∃ name, p' = .ended (.ok name) ∧ (∀ outcome, p ≠ .ended outcome) ∧ entries s name = none ∧
      entries s' = Function.update (entries s) name (some (.file (Utf8.encode call.content))) := by
  cases h with
  | saved _ hfree hput => exact Or.inr ⟨_, rfl, fun _ hp => (nomatch hp), hfree, hput⟩
  | rested outcome hsame => exact Or.inl ⟨hsame, fun _ => Iff.rfl⟩
  | _ => exact Or.inl ⟨by assumption, fun name => by simp⟩

section

variable {σ : Type} {host : Host (StateM σ)} {dir : Text} {entries : σ → Text → Option Entry}
  {call : Call}

/-- A directory that cannot be had is the fault of the directory. -/
theorem ensureDir_outcome (s : σ) : ((ensureDir host dir).run s).1 = .ok () ∨
    ∃ reason, ((ensureDir host dir).run s).1 = .error (.badDirectory reason) := by
  unfold ensureDir
  rw [StateT.run_bind]
  rcases (host.look dir).run s with ⟨_ | kind, s₁⟩
  · show ((makeDirs host dir >>= _).run s₁).1 = _ ∨ ∃ reason, ((makeDirs host dir >>= _).run s₁).1 = _
    rw [StateT.run_bind]
    rcases (makeDirs host dir).run s₁ with ⟨_ | _, s₂⟩
    · exact Or.inr ⟨_, rfl⟩
    · exact Or.inl rfl
  · cases kind with
    | directory => exact Or.inl rfl
    | file => exact Or.inr ⟨_, rfl⟩

/-- Every step of a call is one of these. -/
theorem IsDirectory.advance (h : IsDirectory host dir entries) (hname : Path.IsName call.name)
    (s : σ) (p : Progress) : Advance entries call s ((p.next host dir call).run s).2 p
      ((p.next host dir call).run s).1 := by
  cases p with
  | waiting =>
    have hsame := h.leaves_ensureDir s
    have houtcome := @ensureDir_outcome _ host dir s
    rw [Progress.next, StateT.run_bind]
    rcases hrun : (ensureDir host dir).run s with ⟨ensured, s₁⟩
    rw [hrun] at hsame houtcome
    rcases houtcome with hok | ⟨reason, herror⟩
    · obtain rfl : ensured = .ok () := hok
      exact .entered hsame
    · obtain rfl : ensured = .error (.badDirectory reason) := herror
      exact .refused reason hsame
  | trying number =>
    by_cases hnumber : number = maxNames
    · rw [Progress.next, if_pos hnumber, hnumber]
      exact .exhausted rfl
    · have hcandidate := isName_numberedName hname number
      rw [Progress.next, if_neg hnumber, tryName, StateT.run_bind, StateT.run_bind]
      rcases hput : (host.putNew dir (numberedName call.name number) call.content).run s
        with ⟨put, s₁⟩
      cases put with
      | ok _ =>
        obtain ⟨hfree, hupdate⟩ := h.putNew_ok hcandidate hput
        exact .saved hnumber hfree hupdate
      | error f =>
        obtain ⟨hsame, htaken⟩ := h.putNew_error hcandidate hput
        by_cases hf : f = .taken
        · subst hf
          exact .passed hnumber (htaken rfl) hsame
        · have hfailed : Advance entries call s s₁ (.trying number) (.ended (.error (.fault f))) :=
            .failed f hsame
          cases f <;> first | exact hfailed | exact absurd rfl hf
  | ended outcome => exact .rested outcome rfl

end

/-! ## Calls side by side -/

/-- The state of a host, and how far each of some calls has come. -/
structure Savers (σ ι : Type) where
  state : σ
  progress : ι → Progress

namespace Savers

section

variable {σ ι : Type} [DecidableEq ι] (host : Host (StateM σ)) (dir : Text) (calls : ι → Call)

/-- No call has taken a step. -/
def start (s : σ) : Savers σ ι := ⟨s, fun _ => .waiting⟩

/-- One of the calls takes a step. -/
def step (c : Savers σ ι) (i : ι) : Savers σ ι where
  state := (((c.progress i).next host dir (calls i)).run c.state).2
  progress := Function.update c.progress i
    (((c.progress i).next host dir (calls i)).run c.state).1

/-- The calls take their steps in the order of a schedule. -/
def run (c : Savers σ ι) (schedule : List ι) : Savers σ ι := schedule.foldl (step host dir calls) c

theorem run_concat (c : Savers σ ι) (schedule : List ι) (i : ι) :
    run host dir calls c (schedule ++ [i]) = (run host dir calls c schedule).step host dir calls i :=
  List.foldl_concat _ _ _ _

/-- Steps of one call with nothing in between. -/
theorem run_replicate (c : Savers σ ι) (i : ι) (count : Nat) :
    run host dir calls c (List.replicate count i) =
      ⟨(((c.progress i).steps host dir (calls i) count).run c.state).2,
        Function.update c.progress i
          (((c.progress i).steps host dir (calls i) count).run c.state).1⟩ := by
  induction count generalizing c with
  | zero =>
    show c = ⟨c.state, Function.update c.progress i (c.progress i)⟩
    rw [Function.update_eq_self]
  | succ count ih =>
    have hfirst : run host dir calls c (List.replicate (count + 1) i)
        = run host dir calls (c.step host dir calls i) (List.replicate count i) := rfl
    have hprogress : (c.step host dir calls i).progress i
        = (((c.progress i).next host dir (calls i)).run c.state).1 := Function.update_self ..
    rw [hfirst, ih, hprogress, Progress.steps, StateT.run_bind]
    congr 1
    exact Function.update_idem ..

end

/-! ## What has become of the calls -/

section

variable {σ ι : Type} (entries : σ → Text → Option Entry) (calls : ι → Call)
  (after : List ι → Savers σ ι) (schedule : List ι) (i : ι)

/-- A call has tried its name with a number when something had that name. -/
def Met (number : Nat) : Prop :=
  ∃ before, before ++ [i] <+: schedule ∧ (after before).progress i = .trying number ∧
    (entries (after before).state (numberedName (calls i).name number)).isSome = true

/-- A step of a call leaves all entries. -/
def LeavesAt (before : List ι) : Prop :=
  entries (after (before ++ [i])).state = entries (after before).state

/-- A call has put its content, whole and with one step, under the first of its names that nothing had
when it was tried. Its other steps have left all entries. -/
def Put (name : Text) : Prop :=
  ∃ number before, number < maxNames ∧ name = numberedName (calls i).name number ∧
    before ++ [i] <+: schedule ∧ (after before).progress i = .trying number ∧
    entries (after before).state name = none ∧
    entries (after (before ++ [i])).state = Function.update (entries (after before).state) name
      (some (.file (Utf8.encode (calls i).content))) ∧
    (∀ k < number, Met entries calls after schedule i k) ∧
    ∀ other, other ++ [i] <+: schedule → other ≠ before → LeavesAt entries after i other

/-- What is behind a call that has come so far. -/
def Past : Progress → Prop
  | .waiting => ∀ before, before ++ [i] <+: schedule → LeavesAt entries after i before
  | .trying number => number ≤ maxNames ∧
    (∀ k < number, Met entries calls after schedule i k) ∧
    ∀ before, before ++ [i] <+: schedule → LeavesAt entries after i before
  | .ended (.ok name) => Put entries calls after schedule i name
  | .ended (.error e) =>
    (∀ name, e = .noFreeName name → ∀ k < maxNames, Met entries calls after schedule i k) ∧
    ∀ before, before ++ [i] <+: schedule → LeavesAt entries after i before

end

section

variable {σ ι : Type} {entries : σ → Text → Option Entry} {calls : ι → Call}
  {after : List ι → Savers σ ι} {schedule : List ι} {i j : ι} {p p' : Progress}

/-- The last step of a schedule is a new one; all others were steps before. -/
theorem prefix_concat {before : List ι} (h : before ++ [i] <+: schedule ++ [j]) :
    before = schedule ∧ i = j ∨ before ++ [i] <+: schedule := by
  rcases List.prefix_concat_iff.mp h with heq | h
  · obtain ⟨hbefore, hi⟩ := List.append_inj' heq rfl
    exact Or.inl ⟨hbefore, List.singleton_inj.mp hi⟩
  · exact Or.inr h

theorem Met.concat {number : Nat} (h : Met entries calls after schedule i number) (j : ι) :
    Met entries calls after (schedule ++ [j]) i number := by
  obtain ⟨before, hstep, htrying, htaken⟩ := h
  exact ⟨before, hstep.trans (List.prefix_append schedule [j]), htrying, htaken⟩

theorem leavesAt_concat (h : ∀ before, before ++ [i] <+: schedule → LeavesAt entries after i before)
    (hlast : i = j → LeavesAt entries after i schedule) :
    ∀ before, before ++ [i] <+: schedule ++ [j] → LeavesAt entries after i before := by
  intro before hstep
  rcases prefix_concat hstep with ⟨rfl, hij⟩ | hstep
  · exact hlast hij
  · exact h before hstep

/-- One more step leaves what is behind a call, if it is one of another call or leaves the entries. -/
theorem Past.concat (h : Past entries calls after schedule i p) (j : ι)
    (hlast : i = j → LeavesAt entries after i schedule) :
    Past entries calls after (schedule ++ [j]) i p := by
  cases p with
  | waiting => exact leavesAt_concat h hlast
  | trying number =>
    obtain ⟨hnumber, hmet, hleaves⟩ := h
    exact ⟨hnumber, fun k hk => (hmet k hk).concat j, leavesAt_concat hleaves hlast⟩
  | ended outcome =>
    cases outcome with
    | ok name =>
      obtain ⟨number, before, hnumber, hname, hstep, htrying, hfree, hput, hmet, hleaves⟩ := h
      refine ⟨number, before, hnumber, hname, hstep.trans (List.prefix_append schedule [j]), htrying,
        hfree, hput, fun k hk => (hmet k hk).concat j, fun other hother hne => ?_⟩
      rcases prefix_concat hother with ⟨rfl, hij⟩ | hother
      · exact hlast hij
      · exact hleaves other hother hne
    | error e =>
      obtain ⟨hmet, hleaves⟩ := h
      exact ⟨fun name he k hk => (hmet name he k hk).concat j, leavesAt_concat hleaves hlast⟩

/-- A step of a call leads to what is behind it then. -/
theorem Past.concat_self (h : Past entries calls after schedule i p)
    (hprogress : (after schedule).progress i = p)
    (hadvance : Advance entries (calls i) (after schedule).state (after (schedule ++ [i])).state p p') :
    Past entries calls after (schedule ++ [i]) i p' := by
  cases hadvance with
  | entered hsame =>
    exact ⟨Nat.zero_le _, fun k hk => absurd hk (Nat.not_lt_zero k),
      leavesAt_concat h fun _ => hsame⟩
  | refused reason hsame => exact ⟨fun _ he => (nomatch he), leavesAt_concat h fun _ => hsame⟩
  | exhausted hsame =>
    obtain ⟨-, hmet, hleaves⟩ := h
    exact ⟨fun _ _ k hk => (hmet k hk).concat i, leavesAt_concat hleaves fun _ => hsame⟩
  | @passed number hnumber htaken hsame =>
    obtain ⟨hle, hmet, hleaves⟩ := h
    refine ⟨by omega, fun k hk => ?_, leavesAt_concat hleaves fun _ => hsame⟩
    rcases Nat.lt_succ_iff_lt_or_eq.mp hk with hk | rfl
    · exact (hmet k hk).concat i
    · exact ⟨schedule, List.prefix_rfl, hprogress, htaken⟩
  | failed f hsame =>
    obtain ⟨-, -, hleaves⟩ := h
    exact ⟨fun _ he => (nomatch he), leavesAt_concat hleaves fun _ => hsame⟩
  | @saved number hnumber hfree hput =>
    obtain ⟨hle, hmet, hleaves⟩ := h
    refine ⟨number, schedule, by omega, rfl, List.prefix_rfl, hprogress, hfree, hput,
      fun k hk => (hmet k hk).concat i, fun other hother hne => ?_⟩
    rcases prefix_concat hother with ⟨heq, -⟩ | hother
    · exact absurd heq hne
    · exact hleaves other hother
  | rested outcome hsame => exact h.concat i fun _ => hsame

end

/-! ## What stands in the directory -/

/-- The entries that were there at the start are there, and beside them those of the calls that have
saved their documents, one for each. -/
structure Adds {σ ι : Type} (entries : σ → Text → Option Entry) (calls : ι → Call)
    (original : Text → Option Entry) (c : Savers σ ι) : Prop where
  present : ∀ i name, c.progress i = .ended (.ok name) →
    entries c.state name = some (.file (Utf8.encode (calls i).content))
  unique : ∀ i j name, c.progress i = .ended (.ok name) → c.progress j = .ended (.ok name) → i = j
  origin : ∀ name, entries c.state name = original name ∨
    original name = none ∧ ∃ i, c.progress i = .ended (.ok name)

namespace Adds

variable {σ ι : Type} {entries : σ → Text → Option Entry} {calls : ι → Call}
  {original : Text → Option Entry} {c c' : Savers σ ι}

/-- A step that leaves the entries, and saves no document. -/
theorem of_same (hc : Adds entries calls original c) (hsame : entries c'.state = entries c.state)
    (hprogress : ∀ i name, c'.progress i = .ended (.ok name) ↔ c.progress i = .ended (.ok name)) :
    Adds entries calls original c' where
  present := by
    intro i name hi
    rw [hsame]
    exact hc.present i name ((hprogress i name).mp hi)
  unique := by
    intro i j name hi hj
    exact hc.unique i j name ((hprogress i name).mp hi) ((hprogress j name).mp hj)
  origin := by
    intro name
    rw [hsame]
    rcases hc.origin name with heq | ⟨hnone, i, hi⟩
    · exact Or.inl heq
    · exact Or.inr ⟨hnone, i, (hprogress i name).mpr hi⟩

/-- A step that saves the document of a call, under a name that nothing had. -/
theorem of_saved {i : ι} {saved : Text} (hc : Adds entries calls original c)
    (hsaved : c'.progress i = .ended (.ok saved)) (hopen : ∀ outcome, c.progress i ≠ .ended outcome)
    (hothers : ∀ j, j ≠ i → c'.progress j = c.progress j) (hfree : entries c.state saved = none)
    (hput : entries c'.state = Function.update (entries c.state) saved
      (some (.file (Utf8.encode (calls i).content)))) :
    Adds entries calls original c' := by
  -- the calls that had saved a document have other names
  have hbefore : ∀ j name, j ≠ i → c'.progress j = .ended (.ok name) →
      c.progress j = .ended (.ok name) ∧ name ≠ saved := by
    intro j name hj hended
    rw [hothers j hj] at hended
    refine ⟨hended, ?_⟩
    rintro rfl
    have hpresent := hc.present j name hended
    rw [hfree] at hpresent
    cases hpresent
  have hname : ∀ name, c'.progress i = .ended (.ok name) → name = saved := by
    intro name hended
    rw [hsaved] at hended
    cases hended
    rfl
  refine ⟨?_, ?_, ?_⟩
  · intro j name hended
    rw [hput]
    by_cases hj : j = i
    · subst hj
      rw [hname name hended, Function.update_self]
    · obtain ⟨hended, hne⟩ := hbefore j name hj hended
      rw [Function.update_of_ne hne]
      exact hc.present j name hended
  · intro j k name hj hk
    by_cases hji : j = i
    · by_cases hki : k = i
      · rw [hji, hki]
      · rw [hji] at hj
        exact absurd (hname name hj) (hbefore k name hki hk).2
    · by_cases hki : k = i
      · rw [hki] at hk
        exact absurd (hname name hk) (hbefore j name hji hj).2
      · exact hc.unique j k name (hbefore j name hji hj).1 (hbefore k name hki hk).1
  · intro name
    by_cases hne : name = saved
    · subst hne
      rcases hc.origin name with heq | ⟨hnone, -⟩
      · exact Or.inr ⟨heq ▸ hfree, i, hsaved⟩
      · exact Or.inr ⟨hnone, i, hsaved⟩
    · rw [hput, Function.update_of_ne hne]
      rcases hc.origin name with heq | ⟨hnone, j, hj⟩
      · exact Or.inl heq
      · have hji : j ≠ i := by
          rintro rfl
          exact hopen _ hj
        exact Or.inr ⟨hnone, j, (hothers j hji).trans hj⟩

end Adds

/-! ## Runs -/

section

variable {σ ι : Type} [DecidableEq ι] {host : Host (StateM σ)} {dir : Text}
  {entries : σ → Text → Option Entry} {calls : ι → Call} {original : Text → Option Entry}

/-- The call that takes a step advances. -/
theorem advance_step (h : IsDirectory host dir entries) (hnames : ∀ i, Path.IsName (calls i).name)
    (c : Savers σ ι) (i : ι) :
    Advance entries (calls i) c.state (c.step host dir calls i).state (c.progress i)
      ((c.step host dir calls i).progress i) := by
  have hself : (c.step host dir calls i).progress i
      = (((c.progress i).next host dir (calls i)).run c.state).1 := Function.update_self ..
  rw [hself]
  exact h.advance (hnames i) c.state (c.progress i)

/-- All other calls stay where they are. -/
theorem progress_step_of_ne (c : Savers σ ι) {i j : ι} (hj : j ≠ i) :
    (c.step host dir calls i).progress j = c.progress j := Function.update_of_ne hj ..

theorem Adds.step (h : IsDirectory host dir entries) (hnames : ∀ i, Path.IsName (calls i).name)
    {c : Savers σ ι} (hc : Adds entries calls original c) (i : ι) :
    Adds entries calls original (c.step host dir calls i) := by
  rcases (advance_step h hnames c i).same_or_saved with
    ⟨hsame, hended⟩ | ⟨saved, hsaved, hopen, hfree, hput⟩
  · refine hc.of_same hsame fun j name => ?_
    by_cases hj : j = i
    · rw [hj]
      exact hended name
    · rw [progress_step_of_ne c hj]
  · exact hc.of_saved hsaved hopen (fun j hj => progress_step_of_ne c hj) hfree hput

theorem adds_run (h : IsDirectory host dir entries) (hnames : ∀ i, Path.IsName (calls i).name)
    (s : σ) (schedule : List ι) :
    Adds entries calls (entries s) (run host dir calls (start s) schedule) := by
  induction schedule using List.reverseRecOn with
  | nil =>
    exact ⟨fun _ _ hended => (nomatch hended), fun _ _ _ hended => (nomatch hended),
      fun _ => Or.inl rfl⟩
  | append_singleton schedule i ih =>
    rw [run_concat]
    exact ih.step h hnames i

theorem past_run (h : IsDirectory host dir entries) (hnames : ∀ i, Path.IsName (calls i).name)
    (s : σ) (schedule : List ι) (i : ι) :
    Past entries calls (run host dir calls (start s)) schedule i
      ((run host dir calls (start s) schedule).progress i) := by
  induction schedule using List.reverseRecOn with
  | nil => exact fun before hstep => by simp at hstep
  | append_singleton schedule j ih =>
    by_cases hij : i = j
    · subst hij
      have hadvance := advance_step h hnames (run host dir calls (start s) schedule) i
      rw [← run_concat] at hadvance
      exact ih.concat_self rfl hadvance
    · rw [run_concat, progress_step_of_ne _ hij]
      exact ih.concat j fun heq => absurd heq hij

/-- A call that takes all its steps with nothing in between is `save`. -/
theorem run_replicate_waiting {c : Savers σ ι} {i : ι} (h : c.progress i = .waiting) :
    run host dir calls c (List.replicate (maxNames + 2) i) =
      ⟨((save host dir (calls i).name (calls i).content).run c.state).2,
        Function.update c.progress i
          (.ended ((save host dir (calls i).name (calls i).content).run c.state).1)⟩ := by
  rw [run_replicate, h, Progress.steps_waiting]
  rfl

end

/-- What has become of some documents that were saved side by side, by a schedule. -/
structure Keeps {σ ι : Type} (entries : σ → Text → Option Entry) (calls : ι → Call)
    (original : Text → Option Entry) (after : List ι → Savers σ ι) (schedule : List ι) : Prop where
  /-- A call that ends well has put its content under the first of its names that was free. -/
  saved : ∀ i name, (after schedule).progress i = .ended (.ok name) →
    Put entries calls after schedule i name
  /-- A call that fails has done nothing to the entries. -/
  failed : ∀ i e, (after schedule).progress i = .ended (.error e) →
    ∀ before, before ++ [i] <+: schedule → LeavesAt entries after i before
  /-- A call gives up its name only when it has met something under each form of it. -/
  exhausted : ∀ i name, (after schedule).progress i = .ended (.error (.noFreeName name)) →
    ∀ number < maxNames, Met entries calls after schedule i number
  /-- No entry is changed or removed. -/
  kept : ∀ name e, original name = some e → entries (after schedule).state name = some e
  /-- No entry is added but those of the calls that have ended well. -/
  others : ∀ name, (∀ i, (after schedule).progress i ≠ .ended (.ok name)) →
    entries (after schedule).state name = original name
  present : ∀ i name, (after schedule).progress i = .ended (.ok name) →
    entries (after schedule).state name = some (.file (Utf8.encode (calls i).content))
  unique : ∀ i j name, (after schedule).progress i = .ended (.ok name) →
    (after schedule).progress j = .ended (.ok name) → i = j

/-- Documents are saved side by side in one directory, in any number and with their steps in any order.
Nothing that stands there is lost or changed, each call that ends well has its content there whole, under
a name of its own that was free, and a call that fails leaves no trace. Steps with nothing in between are
those of `save`. -/
theorem keeps_run {σ ι : Type} [DecidableEq ι] {host : Host (StateM σ)} {dir : Text}
    {entries : σ → Text → Option Entry} (h : IsDirectory host dir entries) {calls : ι → Call}
    (hnames : ∀ i, Path.IsName (calls i).name) (s : σ) (schedule : List ι) :
    Keeps entries calls (entries s) (run host dir calls (start s)) schedule ∧
    ∀ (c : Savers σ ι) (i : ι), c.progress i = .waiting →
      run host dir calls c (List.replicate (maxNames + 2) i) =
        ⟨((save host dir (calls i).name (calls i).content).run c.state).2,
          Function.update c.progress i
            (.ended ((save host dir (calls i).name (calls i).content).run c.state).1)⟩ := by
  have hpast := past_run h hnames s schedule
  have hadds := adds_run h hnames s schedule
  refine ⟨⟨?_, ?_, ?_, ?_, ?_, hadds.present, hadds.unique⟩, fun c i => run_replicate_waiting⟩
  · intro i name hended
    have hi := hpast i
    rw [hended] at hi
    exact hi
  · intro i e hended
    have hi := hpast i
    rw [hended] at hi
    exact hi.2
  · intro i name hended
    have hi := hpast i
    rw [hended] at hi
    exact hi.1 name rfl
  · intro name e horiginal
    rcases hadds.origin name with heq | ⟨hnone, -⟩
    · rw [heq, horiginal]
    · rw [hnone] at horiginal
      cases horiginal
  · intro name hnobody
    rcases hadds.origin name with heq | ⟨-, i, hended⟩
    · exact heq
    · exact absurd hended (hnobody i)

/-- Two documents of one name, saved at the same time. -/
theorem keeps_run_two :
    let host := Sandbox.host Record.line fun _ _ _ disk => (.ended (.code 0), disk)
    let dir := "out".toList
    let calls : Bool → Call := fun first => ⟨"a.md".toList, if first then "x".toList else "y".toList⟩
    let b := Sandbox.ofDisk ⟨[([dir], .directory)], []⟩ ⟨2024, 1, 1, 0, 0, 0⟩
    let c := run host dir calls (start b) [true, false, true, false, false]
    c.progress true = .ended (.ok "a.md".toList) ∧
      c.progress false = .ended (.ok "a (1).md".toList) ∧
      Sandbox.entriesOf dir c.state "a.md".toList = some (.file (Utf8.encode "x".toList)) ∧
      Sandbox.entriesOf dir c.state "a (1).md".toList = some (.file (Utf8.encode "y".toList)) := by
  intro host dir calls b c
  have hplain : Path.IsPlain dir := by decide
  have hname : Path.IsName "a.md".toList := ⟨by decide, by decide, by decide⟩
  have hnames : ∀ first, Path.IsName (calls first).name := fun _ => hname
  obtain ⟨hkeeps, -⟩ := keeps_run (Sandbox.isDirectory_entriesOf Record.line
    (fun _ _ _ disk => (.ended (.code 0), disk)) hplain) hnames b [true, false, true, false, false]
  have hfirst : c.progress true = .ended (.ok "a.md".toList) := by decide +kernel
  have hsecond : c.progress false = .ended (.ok "a (1).md".toList) := by decide +kernel
  exact ⟨hfirst, hsecond, hkeeps.present true _ hfirst, hkeeps.present false _ hsecond⟩

end Savers

end ChatScribe.Saving

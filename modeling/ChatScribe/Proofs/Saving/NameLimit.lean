import ChatScribe.Proofs.Disk.Site
import ChatScribe.Proofs.Saving.Directory
import ChatScribe.Proofs.Text.Utf8
import Mathlib.Data.Nat.Digits.Defs

/-!
# Names that are too long

How saving a document on the host in memory ends once its directory is there: the names are tried in
their order, and the first of them that is free or too long decides (`ending_save`). So saving fails at
a name exactly if one of them is too long and all before it are taken, and a name that leaves room for
its numbers never makes it fail.
-/

namespace ChatScribe.Saving

theorem run_bind_of_run {σ α β : Type} {x : StateM σ α} {f : α → StateM σ β} {s s' : σ} {a : α}
    (h : x.run s = (a, s')) : (x >>= f).run s = (f a).run s' := by
  show (f (x.run s).1).run (x.run s).2 = _
  rw [h]

section

variable {lineOf : Record → Text} {programs : Programs} {b b' : Sandbox} {path dir : Text}

/-! ## The directory -/

/-- A directory that could be made, or that is there although it could not, is where its path leads. -/
theorem leadsTo_of_settle {b₁ : Sandbox} {outcome : Except Fault Unit}
    (hmake : ((Sandbox.host lineOf programs).makeDir path).run b = (outcome, b₁))
    (h : (settle (Sandbox.host lineOf programs) path outcome).run b₁ = (.ok (), b')) :
    ∃ p, b'.disk.LeadsTo path p := by
  cases outcome with
  | ok made =>
    obtain ⟨-, rfl⟩ := Prod.mk.inj h
    cases hdisk : b.disk.makeDir path with
    | error f =>
      have hrun := hmake.symm.trans (Sandbox.run_onDisk_error (fun d => d.makeDir path) hdisk)
      cases hrun
    | ok d =>
      have hrun := hmake.symm.trans (Sandbox.run_onDisk_ok (fun d => d.makeDir path) hdisk)
      obtain ⟨-, rfl⟩ := Prod.mk.inj hrun
      exact Disk.exists_leadsTo_of_makeDir hdisk
  | error f =>
    have hlook : ((if b₁.disk.look path = some .directory then .ok () else .error f :
        Except Fault Unit), b₁) = (.ok (), b') := h
    obtain ⟨houtcome, rfl⟩ := Prod.mk.inj hlook
    by_cases hthere : b₁.disk.look path = some .directory
    · exact Disk.exists_leadsTo_of_look hthere
    · rw [if_neg hthere] at houtcome
      cases houtcome

/-- The first of a chain of directories is there once the chain has been made. -/
theorem leadsTo_of_makeChain {around : List Text}
    (h : (makeChain (Sandbox.host lineOf programs) (path :: around)).run b = (.ok (), b')) :
    ∃ p, b'.disk.LeadsTo path p := by
  rw [makeChain] at h
  cases hmake : ((Sandbox.host lineOf programs).makeDir path).run b with
  | mk outcome b₁ =>
    rw [run_bind_of_run hmake] at h
    split at h
    · cases hchain : (makeChain (Sandbox.host lineOf programs) around).run b₁ with
      | mk made b₂ =>
        rw [run_bind_of_run hchain] at h
        cases made with
        | error f =>
          obtain ⟨hfault, -⟩ := Prod.mk.inj h
          cases hfault
        | ok u =>
          dsimp only at h
          cases hagain : ((Sandbox.host lineOf programs).makeDir path).run b₂ with
          | mk outcome b₃ =>
            rw [run_bind_of_run hagain] at h
            exact leadsTo_of_settle hagain h
    · exact leadsTo_of_settle hmake h

/-- A directory that saving has made sure of is where its path leads. The empty path is that of the
working directory, which nobody looks at. -/
theorem leadsTo_of_ensureDir (hworking : b.disk.entry? b.disk.workingDir = some .directory)
    (h : (ensureDir (Sandbox.host lineOf programs) dir).run b = (.ok (), b')) :
    ∃ p, b'.disk.LeadsTo dir p := by
  have hlook : ((Sandbox.host lineOf programs).look dir).run b = (b.disk.look dir, b) := rfl
  rw [ensureDir, run_bind_of_run hlook] at h
  split at h
  · rename_i hthere
    obtain ⟨-, rfl⟩ := Prod.mk.inj h
    exact Disk.exists_leadsTo_of_look hthere
  · obtain ⟨hfile, -⟩ := Prod.mk.inj h
    cases hfile
  · cases hmade : (makeDirs (Sandbox.host lineOf programs) dir).run b with
    | mk made b₁ =>
      rw [run_bind_of_run hmade] at h
      cases made with
      | error f =>
        obtain ⟨hfault, -⟩ := Prod.mk.inj h
        cases hfault
      | ok u =>
        obtain ⟨-, rfl⟩ := Prod.mk.inj h
        unfold makeDirs at hmade
        by_cases hempty : dir.isEmpty = true
        · rw [if_pos hempty] at hmade
          obtain ⟨-, rfl⟩ := Prod.mk.inj hmade
          rw [List.isEmpty_iff.mp hempty]
          exact ⟨b.disk.workingDir, List.not_mem_nil, rfl, hworking⟩
        · rw [if_neg hempty] at hmade
          exact leadsTo_of_makeChain hmade

/-! ## The names -/

theorem nul_not_mem_numberedName {name : Text} (h : '\x00' ∉ name) (number : Nat) :
    '\x00' ∉ numberedName name number := by
  by_cases hnumber : number = 0
  · rw [hnumber]
    exact h
  · obtain ⟨stem, ending, hname, hnumbered⟩ := exists_numberedName name
    rw [hname, List.mem_append, not_or] at h
    rw [hnumbered number hnumber, List.mem_append, List.mem_append, not_or, not_or]
    refine ⟨⟨h.1, ?_⟩, h.2⟩
    intro hmem
    rcases mem_numberMark hmem with hc | hc
    · exact absurd hc (by decide)
    · exact absurd hc (by decide)

theorem byteCount_numberMark (number : Nat) :
    Path.byteCount (numberMark number) = 3 + (Text.ofNat number).length := by
  have hascii : ∀ c ∈ numberMark number, c.toNat < 0x80 := by
    intro c hc
    rcases mem_numberMark hc with hc | hdigit
    · have hall : [' ', '(', ')'].all (fun c => decide (c.toNat < 0x80)) = true := by decide
      exact of_decide_eq_true (List.all_eq_true.mp hall c hc)
    · exact Text.toNat_lt_of_isAsciiDigit hdigit
  unfold Path.byteCount
  rw [Utf8.length_encode_of_ascii hascii]
  unfold numberMark
  rw [List.length_append, List.length_append, List.length_singleton]
  show 2 + _ + 1 = _
  omega

/-- Numbers make a name longer, by six bytes at most. -/
theorem byteCount_numberedName (name : Text) {number : Nat} (hnumber : number < maxNames) :
    Path.byteCount name ≤ Path.byteCount (numberedName name number) ∧
      Path.byteCount (numberedName name number) ≤ Path.byteCount name + 6 := by
  by_cases hzero : number = 0
  · rw [hzero, numberedName_zero]
    omega
  · obtain ⟨stem, ending, hname, hnumbered⟩ := exists_numberedName name
    have hdigits : (Text.ofNat number).length ≤ 3 := by
      rw [Text.ofNat_eq_toDigits]
      exact Nat.toDigits_length 10 number 3 (by omega) hnumber
    rw [hnumbered number hzero, Path.byteCount_append, Path.byteCount_append, byteCount_numberMark,
      hname, Path.byteCount_append]
    omega

/-- A sandbox with one more file on its disk. -/
def withFile (b : Sandbox) (place : Place) (content : Text) : Sandbox :=
  { b with disk := b.disk.add place (.file (Utf8.encode content)) }

/-- Is a name with some number one that a file can have, and has something this name? -/
structure IsTaken (b : Sandbox) (p : Place) (name : Text) (number : Nat) : Prop where
  fits : Path.byteCount (numberedName name number) ≤ Path.maxName
  entry : (b.disk.entry? (numberedName name number :: p)).isSome = true

/-- How trying the names with some numbers ends in a directory. The last arguments are the outcome and
the state behind it. -/
inductive Ending (b : Sandbox) (p : Place) (name content : Text) (first last : Nat) :
    Except SaveError Text → Sandbox → Prop
  | saved {number : Nat} (hnumber : first ≤ number ∧ number < last)
      (hfits : Path.byteCount (numberedName name number) ≤ Path.maxName)
      (hfree : b.disk.entry? (numberedName name number :: p) = none)
      (htaken : ∀ k, first ≤ k → k < number → IsTaken b p name k) :
      Ending b p name content first last (.ok (numberedName name number))
        (withFile b (numberedName name number :: p) content)
  | tooLong {number : Nat} (hnumber : first ≤ number ∧ number < last)
      (hlong : Path.maxName < Path.byteCount (numberedName name number))
      (htaken : ∀ k, first ≤ k → k < number → IsTaken b p name k) :
      Ending b p name content first last (.error (.fault .nameTooLong)) b
  | exhausted (htaken : ∀ k, first ≤ k → k < last → IsTaken b p name k) :
      Ending b p name content first last (.error (.noFreeName name)) b

section

variable {name content : Text} {p : Place} {first last : Nat} {outcome : Except SaveError Text}

/-- A taken name in front of the others. -/
theorem Ending.cons (htaken : IsTaken b p name first)
    (h : Ending b p name content (first + 1) last outcome b') :
    Ending b p name content first last outcome b' := by
  have hall : ∀ {n : Nat}, (∀ k, first + 1 ≤ k → k < n → IsTaken b p name k) →
      ∀ k, first ≤ k → k < n → IsTaken b p name k := by
    intro n hrest k hlow hhigh
    by_cases hk : k = first
    · rw [hk]
      exact htaken
    · exact hrest k (by omega) hhigh
  cases h with
  | saved hnumber hfits hfree hrest => exact .saved ⟨by omega, hnumber.2⟩ hfits hfree (hall hrest)
  | tooLong hnumber hlong hrest => exact .tooLong ⟨by omega, hnumber.2⟩ hlong (hall hrest)
  | exhausted hrest => exact .exhausted (hall hrest)

theorem run_putNew_error {f : Fault}
    (h : b.disk.putNew (Path.join dir name) (Utf8.encode content) = .error f) :
    ((Sandbox.host lineOf programs).putNew dir name content).run b = (.error f, b) :=
  Sandbox.run_onDisk_error (fun d => d.putNew (Path.join dir name) (Utf8.encode content)) h

theorem run_putNew_ok {d : Disk}
    (h : b.disk.putNew (Path.join dir name) (Utf8.encode content) = .ok d) :
    ((Sandbox.host lineOf programs).putNew dir name content).run b = (.ok (), { b with disk := d }) :=
  Sandbox.run_onDisk_ok (fun d => d.putNew (Path.join dir name) (Utf8.encode content)) h

/-- Only a name that is too long is a fault, and it is one where all names before it are taken. -/
theorem Ending.fault_iff (h : Ending b p name content 0 last outcome b') (f : Fault) :
    outcome = .error (.fault f) ↔ f = .nameTooLong ∧
      ∃ number < last, Path.maxName < Path.byteCount (numberedName name number) ∧
        ∀ k < number, (b.disk.entry? (numberedName name k :: p)).isSome = true := by
  constructor
  · intro hfault
    cases h with
    | saved => cases hfault
    | tooLong hnumber hlong htaken =>
      cases hfault
      exact ⟨rfl, _, hnumber.2, hlong, fun k hk => (htaken k (Nat.zero_le k) hk).entry⟩
    | exhausted => cases hfault
  · rintro ⟨rfl, number, hlast, hlong, hsome⟩
    cases h with
    | @saved n hnumber hfits hfree htaken =>
      exfalso
      rcases Nat.lt_trichotomy n number with hlt | rfl | hgt
      · have hentry := hsome n hlt
        rw [hfree] at hentry
        cases hentry
      · omega
      · have hfits' := (htaken number (Nat.zero_le number) hgt).fits
        omega
    | tooLong => rfl
    | exhausted htaken =>
      have hfits := (htaken number (Nat.zero_le number) hlast).fits
      omega

/-- A short enough name that nothing has gets the file. -/
theorem Ending.of_free (h : Ending b p name content 0 last outcome b') (hlast : 0 < last)
    (hfits : Path.byteCount name ≤ Path.maxName) (hfree : b.disk.entry? (name :: p) = none) :
    outcome = .ok name ∧ b' = withFile b (name :: p) content := by
  have hnone : ¬ IsTaken b p name 0 := by
    intro htaken
    have hentry := htaken.entry
    rw [numberedName_zero, hfree] at hentry
    cases hentry
  cases h with
  | @saved n hnumber _ _ htaken =>
    cases n with
    | zero => exact ⟨rfl, rfl⟩
    | succ n => exact absurd (htaken 0 (Nat.le_refl 0) (Nat.succ_pos n)) hnone
  | @tooLong n hnumber hlong htaken =>
    cases n with
    | zero =>
      rw [numberedName_zero] at hlong
      omega
    | succ n => exact absurd (htaken 0 (Nat.le_refl 0) (Nat.succ_pos n)) hnone
  | exhausted htaken => exact absurd (htaken 0 (Nat.le_refl 0) hlast) hnone

/-- A name that is too long decides at once. -/
theorem Ending.of_long (h : Ending b p name content 0 last outcome b') (hlast : 0 < last)
    (hlong : Path.maxName < Path.byteCount name) :
    outcome = .error (.fault .nameTooLong) ∧ b' = b := by
  have hfault := (h.fault_iff .nameTooLong).mpr
    ⟨rfl, 0, hlast, hlong, fun k hk => absurd hk (Nat.not_lt_zero k)⟩
  cases h with
  | saved => cases hfault
  | tooLong => exact ⟨rfl, rfl⟩
  | exhausted => cases hfault

variable (lineOf programs content) (hdir : b.disk.LeadsTo dir p) (hname : Path.IsName name)
  (hnul : '\x00' ∉ name)
  (hroom : Path.byteCount dir + 1 + Path.maxName ≤ Path.maxPath)

include hdir hname hnul hroom

/-- One name is too long, or taken, or gets the file. -/
theorem run_tryName (number : Nat) :
    (tryName (Sandbox.host lineOf programs) dir name content number).run b =
      if Path.maxName < Path.byteCount (numberedName name number) then
        (some (.error (.fault .nameTooLong)), b)
      else if (b.disk.entry? (numberedName name number :: p)).isSome then (none, b)
      else (some (.ok (numberedName name number)),
        withFile b (numberedName name number :: p) content) := by
  have hnumbered := isName_numberedName hname number
  have hnul' := nul_not_mem_numberedName hnul number
  rw [tryName]
  by_cases hlong : Path.maxName < Path.byteCount (numberedName name number)
  · have hput := Disk.putNew_join_of_tooLong hdir hnumbered hnul' hlong (Utf8.encode content)
    rw [if_pos hlong, run_bind_of_run (run_putNew_error hput)]
    rfl
  · have hput := Disk.putNew_join hdir hnumbered hnul' (Nat.le_of_not_lt hlong) hroom
      (Utf8.encode content)
    rw [if_neg hlong]
    by_cases htaken : (b.disk.entry? (numberedName name number :: p)).isSome = true
    · rw [if_pos htaken] at hput
      rw [if_pos htaken, run_bind_of_run (run_putNew_error hput)]
      rfl
    · rw [if_neg htaken] at hput
      rw [if_neg htaken, run_bind_of_run (run_putNew_ok hput)]
      rfl

/-- The induction is on how many names are left; those before were taken, so nothing has changed. -/
theorem ending_tryNames (count number : Nat) :
    Ending b p name content number (number + count)
      ((tryNames (Sandbox.host lineOf programs) dir name content count number).run b).1
      ((tryNames (Sandbox.host lineOf programs) dir name content count number).run b).2 := by
  induction count generalizing number with
  | zero =>
    refine .exhausted fun k hlow hhigh => ?_
    omega
  | succ count ih =>
    have hnone : ∀ k, number ≤ k → k < number → IsTaken b p name k := fun k hlow hhigh => by omega
    have htry := run_tryName lineOf programs content hdir hname hnul hroom number
    rw [tryNames]
    by_cases hlong : Path.maxName < Path.byteCount (numberedName name number)
    · rw [if_pos hlong] at htry
      rw [run_bind_of_run htry]
      exact .tooLong ⟨Nat.le_refl number, by omega⟩ hlong hnone
    · rw [if_neg hlong] at htry
      by_cases htaken : (b.disk.entry? (numberedName name number :: p)).isSome = true
      · rw [if_pos htaken] at htry
        rw [run_bind_of_run htry]
        have hrest := ih (number + 1)
        rw [show number + 1 + count = number + (count + 1) by omega] at hrest
        exact .cons ⟨Nat.le_of_not_lt hlong, htaken⟩ hrest
      · rw [if_neg htaken] at htry
        rw [run_bind_of_run htry]
        exact .saved ⟨Nat.le_refl number, by omega⟩ (Nat.le_of_not_lt hlong) (by simpa using htaken)
          hnone

omit hdir

/-- How saving ends in a directory that is there. -/
theorem ending_save {b₀ : Sandbox} (hworking : b₀.disk.entry? b₀.disk.workingDir = some .directory)
    (h : (ensureDir (Sandbox.host lineOf programs) dir).run b₀ = (.ok (), b)) :
    ∃ p, b.disk.LeadsTo dir p ∧ Ending b p name content 0 maxNames
      ((save (Sandbox.host lineOf programs) dir name content).run b₀).1
      ((save (Sandbox.host lineOf programs) dir name content).run b₀).2 := by
  obtain ⟨p, hdir⟩ := leadsTo_of_ensureDir hworking h
  refine ⟨p, hdir, ?_⟩
  rw [save, run_bind_of_run h]
  have hending := ending_tryNames lineOf programs content hdir hname hnul hroom maxNames 0
  rw [Nat.zero_add] at hending
  exact hending

end

end

end ChatScribe.Saving

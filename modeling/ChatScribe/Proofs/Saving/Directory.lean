import ChatScribe.Proofs.Disk.Directory
import ChatScribe.Sandbox
import Mathlib.Logic.Function.Basic

/-!
# The directory that documents are saved in

What saving relies on: a file is put whole or not at all and never over something else, and the
directories on the way to a directory are none of its entries. `IsDirectory` says so of a host whose
states hold the entries of a directory by their names, and the host in memory is one of this kind.
-/

namespace ChatScribe

namespace Saving

/-- The states of a host have a directory at a path, whose entries are told by their names. -/
structure IsDirectory {σ : Type} (host : Host (StateM σ)) (dir : Text)
    (entries : σ → Text → Option Entry) : Prop where
  look : ∀ path s, entries ((host.look path).run s).2 = entries s
  /-- The directories on the way are not entries. -/
  makeDir : ∀ path ∈ Path.chain dir, ∀ s, entries ((host.makeDir path).run s).2 = entries s
  /-- A new file is put whole, under a name that nothing had. -/
  putNew_ok : ∀ {name : Text}, Path.IsName name → ∀ {content : Text} {s s' : σ},
    (host.putNew dir name content).run s = (.ok (), s') →
      entries s name = none ∧
        entries s' = Function.update (entries s) name (some (.file (Utf8.encode content)))
  /-- Otherwise nothing is put, and a name is taken if something has it. -/
  putNew_error : ∀ {name : Text}, Path.IsName name → ∀ {content : Text} {s s' : σ} {f : Fault},
    (host.putNew dir name content).run s = (.error f, s') →
      entries s' = entries s ∧ (f = .taken → (entries s name).isSome = true)

section

variable {σ : Type} {host : Host (StateM σ)} {dir : Text} {entries : σ → Text → Option Entry}

/-- A computation that leaves all entries of a directory as they are. -/
def Leaves {α : Type} (entries : σ → Text → Option Entry) (x : StateM σ α) : Prop :=
  ∀ s, entries (x.run s).2 = entries s

theorem Leaves.pure {α : Type} (a : α) : Leaves entries (Pure.pure a : StateM σ α) := fun _ => rfl

theorem Leaves.bind {α β : Type} {x : StateM σ α} {f : α → StateM σ β} (hx : Leaves entries x)
    (hf : ∀ a, Leaves entries (f a)) : Leaves entries (x >>= f) :=
  fun s => (hf (x.run s).1 (x.run s).2).trans (hx s)

theorem IsDirectory.leaves_settle (h : IsDirectory host dir entries) (path : Text)
    (outcome : Except Fault Unit) : Leaves entries (settle host path outcome) := by
  cases outcome with
  | ok _ => exact Leaves.pure _
  | error f => exact Leaves.bind (h.look path) fun kind? => Leaves.pure _

/-- Making directories on the way to a directory leaves its entries. -/
theorem IsDirectory.leaves_makeChain (h : IsDirectory host dir entries) {paths : List Text}
    (hpaths : ∀ path ∈ paths, path ∈ Path.chain dir) : Leaves entries (makeChain host paths) := by
  induction paths with
  | nil => exact Leaves.pure _
  | cons path around ih =>
    have hmake := h.makeDir path (hpaths path List.mem_cons_self)
    have haround := ih fun p hp => hpaths p (List.mem_cons_of_mem path hp)
    refine Leaves.bind hmake fun outcome => ?_
    split
    · refine Leaves.bind haround fun made => ?_
      cases made with
      | ok _ => exact Leaves.bind hmake (h.leaves_settle path)
      | error f => exact Leaves.pure _
    · exact h.leaves_settle path outcome

theorem IsDirectory.leaves_ensureDir (h : IsDirectory host dir entries) :
    Leaves entries (ensureDir host dir) := by
  refine Leaves.bind (h.look dir) fun kind? => ?_
  rcases kind? with _ | kind
  · refine Leaves.bind ?_ fun made => ?_
    · unfold makeDirs
      split
      · exact Leaves.pure _
      · exact h.leaves_makeChain fun path hpath => hpath
    · cases made <;> exact Leaves.pure _
  · cases kind <;> exact Leaves.pure _

end

end Saving

namespace Sandbox

open Saving

/-- What stands under a name in the directory that a plain path leads to. -/
def entriesOf (dir : Text) (b : Sandbox) (name : Text) : Option Entry :=
  b.disk.entry? (name :: b.disk.placeOf dir)

section

variable (op : Disk → Except Fault Disk) {b : Sandbox}

theorem run_onDisk_ok {disk : Disk} (h : op b.disk = .ok disk) :
    (onDisk op).run b = (.ok (), { b with disk := disk }) := by
  show onDisk op b = _
  unfold onDisk
  rw [h]

theorem run_onDisk_error {f : Fault} (h : op b.disk = .error f) :
    (onDisk op).run b = (.error f, b) := by
  show onDisk op b = _
  unfold onDisk
  rw [h]

end

/-- The host in memory keeps its directories as a saver of documents relies on it. -/
theorem isDirectory_entriesOf (lineOf : Record → Text) (programs : Programs) {dir : Text}
    (hplain : Path.IsPlain dir) : IsDirectory (host lineOf programs) dir (entriesOf dir) where
  look _ _ := rfl
  makeDir := by
    intro path hpath b
    obtain ⟨hplain', habsolute, hlength⟩ := Path.of_mem_chain hplain hpath
    show entriesOf dir ((onDisk fun d => d.makeDir path).run b).2 = entriesOf dir b
    cases hmake : b.disk.makeDir path with
    | error f => rw [run_onDisk_error _ hmake]
    | ok disk =>
      rw [run_onDisk_ok _ hmake, Disk.eq_of_makeDir hplain' hmake]
      funext name
      -- the new directory is nearer to the root than what stands in the directory
      have hne : name :: b.disk.placeOf dir ≠ b.disk.placeOf path := by
        intro heq
        have hlengths := congrArg List.length heq
        simp only [Disk.placeOf, Disk.start, habsolute, List.length_cons, List.length_append,
          List.length_reverse] at hlengths
        omega
      show Disk.entry? (b.disk.add (b.disk.placeOf path) .directory) (name :: b.disk.placeOf dir) = _
      rw [Disk.entry?_add _ _ _ (List.cons_ne_nil _ _), if_neg hne]
      rfl
  putNew_ok := by
    intro name hname content b b' hput
    cases hdisk : b.disk.putNew (Path.join dir name) (Utf8.encode content) with
    | error f =>
      have hrun := hput.symm.trans (run_onDisk_error (fun d => d.putNew _ _) hdisk)
      cases hrun
    | ok disk =>
      have hrun := hput.symm.trans (run_onDisk_ok (fun d => d.putNew _ _) hdisk)
      obtain ⟨-, rfl⟩ := Prod.mk.inj hrun
      obtain ⟨hfree, hadd⟩ := Disk.of_putNew hplain hname hdisk
      refine ⟨hfree, ?_⟩
      funext other
      rw [hadd]
      show Disk.entry? (b.disk.add (name :: b.disk.placeOf dir) (.file (Utf8.encode content)))
        (other :: b.disk.placeOf dir) = _
      rw [Disk.entry?_add _ _ _ (List.cons_ne_nil _ _), Function.update_apply]
      by_cases hother : other = name
      · rw [if_pos hother, if_pos (by rw [hother])]
      · rw [if_neg hother, if_neg fun heq => hother (List.cons.inj heq).1]
        rfl
  putNew_error := by
    intro name hname content b b' f hput
    cases hdisk : b.disk.putNew (Path.join dir name) (Utf8.encode content) with
    | error f' =>
      have hrun := hput.symm.trans (run_onDisk_error (fun d => d.putNew _ _) hdisk)
      obtain ⟨hf, rfl⟩ := Prod.mk.inj hrun
      obtain rfl := Except.error.inj hf
      refine ⟨rfl, ?_⟩
      rintro rfl
      exact Disk.isSome_of_putNew_taken hplain hname hdisk
    | ok disk =>
      have hrun := hput.symm.trans (run_onDisk_ok (fun d => d.putNew _ _) hdisk)
      cases hrun

end Sandbox

end ChatScribe

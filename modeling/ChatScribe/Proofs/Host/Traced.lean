import ChatScribe.Host
import Mathlib.Tactic.Common

/-!
# What a host is asked for

`Host.traced` is a host that does what another one does and puts down each of its operations together
with the answer. `Traces` says that a program on the traced host is the program on the untraced one, and
which deeds it adds. It holds of a program as soon as it holds of its steps (`Traces.bind`), so what a run
does to its surroundings is read off its parts.
-/

namespace ChatScribe

/-- An operation of a host, with its answer. -/
inductive Deed
  | read (path : Text) (answer : Except Fault (List UInt8))
  | looked (path : Text) (found : Option EntryKind)
  | madeDir (path : Text) (answer : Except Fault Unit)
  | put (dir name content : Text) (answer : Except Fault Unit)
  | launched (program : Text) (arguments : List Text) (input : Text) (launch : Launch)
  | asked (moment : Moment)
  | openedLog (path : Text) (answer : Except Fault Unit)
  | recorded (sink : Sink) (record : Record)
  | printed (text : Text)
  | told (line : Text)
deriving DecidableEq, Repr

namespace Deed

/-- Is it a log record? -/
def isRecord : Deed → Bool
  | recorded .. => true
  | _ => false

/-- Is it something that is said, to a log or to whoever started the run? -/
def isSaid : Deed → Bool
  | recorded .. => true
  | printed .. => true
  | told .. => true
  | _ => false

/-- The deeds that are no log records. -/
def unlogged (deeds : List Deed) : List Deed := deeds.filter fun d => !d.isRecord

theorem unlogged_append (deeds deeds' : List Deed) :
    unlogged (deeds ++ deeds') = unlogged deeds ++ unlogged deeds' := List.filter_append ..

theorem unlogged_of_records {deeds : List Deed} (h : ∀ d ∈ deeds, d.isRecord = true) :
    unlogged deeds = [] :=
  List.filter_eq_nil_iff.mpr fun d hd => by simp [h d hd]

/-- Every log record is said. -/
theorem isRecord_of_unsaid {d : Deed} (h : d.isSaid = false) : d.isRecord = false := by
  cases d with
  | recorded _ _ => cases h
  | _ => rfl

theorem unlogged_of_unsaid {deeds : List Deed} (h : ∀ d ∈ deeds, d.isSaid = false) :
    unlogged deeds = deeds :=
  List.filter_eq_self.mpr fun d hd => by rw [isRecord_of_unsaid (h d hd)]; rfl

/-- A line that was told is no log record. -/
theorem told_mem_unlogged {line : Text} {deeds : List Deed} :
    .told line ∈ unlogged deeds ↔ .told line ∈ deeds := by
  simp [unlogged, isRecord]

end Deed

variable {σ α β : Type}

/-- Programs that keep a list of their deeds, the latest one last. -/
abbrev Traced (σ : Type) := StateT (List Deed) (StateM σ)

/-- An operation that puts down its deed. -/
def noting (deed : α → Deed) (op : StateM σ α) : Traced σ α := fun past w =>
  (((op.run w).1, past ++ [deed (op.run w).1]), (op.run w).2)

/-- A host that does what another one does, and puts down all of it. -/
def Host.traced (host : Host (StateM σ)) : Host (Traced σ) where
  readFile path := noting (.read path) (host.readFile path)
  look path := noting (.looked path) (host.look path)
  makeDir path := noting (.madeDir path) (host.makeDir path)
  putNew dir name content := noting (.put dir name content) (host.putNew dir name content)
  launch program arguments input :=
    noting (.launched program arguments input) (host.launch program arguments input)
  now := noting .asked host.now
  openLog path := noting (.openedLog path) (host.openLog path)
  record sink r := noting (fun _ => .recorded sink r) (host.record sink r)
  print text := noting (fun _ => .printed text) (host.print text)
  tell line := noting (fun _ => .told line) (host.tell line)

/-- Whatever was done before and wherever it starts, `x` ends as `y` does, and has added deeds that fit
what it ends with. -/
def Traces (x : Traced σ α) (y : StateM σ α) (P : α → List Deed → Prop) : Prop :=
  ∀ past w, ∃ deeds, (x.run past).run w = (((y.run w).1, past ++ deeds), (y.run w).2) ∧
    P (y.run w).1 deeds

namespace Traces

variable {x : Traced σ α} {y : StateM σ α} {f : α → Traced σ β} {g : α → StateM σ β}
  {P P' : α → List Deed → Prop} {Q : β → List Deed → Prop}

theorem pure {a : α} (h : P a []) : Traces (Pure.pure a : Traced σ α) (Pure.pure a) P :=
  fun _ _ => ⟨[], by rw [List.append_nil]; rfl, h⟩

theorem noting (deed : α → Deed) (h : ∀ a, P a [deed a]) : Traces (noting deed y) y P := fun _ w =>
  ⟨[deed (y.run w).1], rfl, h _⟩

theorem bind (hx : Traces x y P)
    (hf : ∀ a deeds, P a deeds → Traces (f a) (g a) fun b deeds' => Q b (deeds ++ deeds')) :
    Traces (x >>= f) (y >>= g) Q := by
  intro past w
  obtain ⟨deeds, hrun, hP⟩ := hx past w
  obtain ⟨deeds', hrun', hQ⟩ := hf _ deeds hP (past ++ deeds) (y.run w).2
  refine ⟨deeds ++ deeds', ?_, hQ⟩
  show ((f ((x.run past).run w).1.1).run ((x.run past).run w).1.2).run ((x.run past).run w).2 = _
  rw [hrun, hrun', List.append_assoc]
  rfl

/-- A program that starts with an operation. -/
theorem noting_bind (deed : α → Deed)
    (hf : ∀ a, Traces (f a) (g a) fun b deeds => Q b (deed a :: deeds)) :
    Traces (ChatScribe.noting deed y >>= f) (y >>= g) Q := by
  refine bind (P := fun a deeds => deeds = [deed a]) (noting deed fun _ => rfl) fun a deeds hdeeds => ?_
  rw [hdeeds]
  exact hf a

theorem imp (hx : Traces x y P) (h : ∀ a deeds, P a deeds → P' a deeds) : Traces x y P' :=
  fun past w => by
    obtain ⟨deeds, hrun, hP⟩ := hx past w
    exact ⟨deeds, hrun, h _ _ hP⟩

theorem ite {c : Prop} [Decidable c] {x' : Traced σ α} {y' : StateM σ α} (ht : c → Traces x y P)
    (he : ¬ c → Traces x' y' P) : Traces (if c then x else x') (if c then y else y') P := by
  by_cases hc : c
  · rw [if_pos hc, if_pos hc]
    exact ht hc
  · rw [if_neg hc, if_neg hc]
    exact he hc

end Traces

/-! ## The journal -/

namespace Journal

variable (host : Host (StateM σ)) (j : Journal)

/-- A journal writes records and does nothing else. -/
theorem traces_write (r : Record) :
    Traces (j.write host.traced r) (j.write host r) fun _ deeds => ∀ d ∈ deeds, d.isRecord = true := by
  have hrecord : ∀ sink, Traces (host.traced.record sink r) (host.record sink r) fun _ deeds =>
      ∀ d ∈ deeds, d.isRecord = true := fun sink =>
    .noting (fun _ => .recorded sink r) fun _ => List.forall_mem_singleton.mpr rfl
  have hfile : Traces (if j.file then host.traced.record .file r else pure ())
      (if j.file then host.record .file r else pure ()) fun _ deeds =>
        ∀ d ∈ deeds, d.isRecord = true :=
    .ite (fun _ => hrecord .file) fun _ => .pure nofun
  unfold write
  refine .ite (fun _ => ?_) fun _ => .pure nofun
  refine .ite (fun _ => .bind (hrecord .terminal) fun _ deeds hdeeds => ?_) fun _ => hfile
  exact hfile.imp fun _ deeds' hdeeds' => List.forall_mem_append.mpr ⟨hdeeds, hdeeds'⟩

theorem traces_writeAll (rs : List Record) :
    Traces (j.writeAll host.traced rs) (j.writeAll host rs) fun _ deeds =>
      ∀ d ∈ deeds, d.isRecord = true := by
  unfold writeAll
  induction rs with
  | nil => exact .pure nofun
  | cons r rs ih =>
    refine .bind (traces_write host j r) fun _ deeds hdeeds => ?_
    exact ih.imp fun _ deeds' hdeeds' => List.forall_mem_append.mpr ⟨hdeeds, hdeeds'⟩

end Journal

end ChatScribe
